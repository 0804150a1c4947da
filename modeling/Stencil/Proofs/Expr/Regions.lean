import Stencil.Proofs.Expr.Cutting
import Stencil.Proofs.Text.LineTables
/-!
# Regions of expressions and of their problems

A region goes from one rest of a source to another, and the line table makes it the region between
the places to which walking over the source leads. This holds for whatever a reader takes from its
source. It holds for the problems too, since a reader that fails does so at a rest of what it was
given: every reader keeps to its text, those of one level because those with one level less do.
-/

namespace Stencil

open Text

/-- That a region is that of a part of a text whose first character stands at `origin`: it goes from
the place to which walking over what is in front of the part leads, to the place to which walking
over the part leads from there. -/
def Span.Exact (origin : Position) (text part behind : List Char) (span : Span) : Prop :=
  ∃ front, front ++ part ++ behind = text ∧
    span = ⟨origin.advanced front, origin.advanced (front ++ part)⟩

/-- What a problem of an expression tells of the rest of the text at which it was noticed. -/
def Problem.Shows (text rest : List Char) : Problem → Prop
  | .emptyExpression => rest = text ∧ trim text = []
  | .leftover shown => rest ≠ [] ∧ trimStart rest = rest ∧ shown = String.ofList (trimEnd rest)
  | .expressionTooDeep levels => levels = Expr.maxLevels
  | .unexpectedEnd => rest = []
  | .unexpectedInput snippet => rest ≠ [] ∧ trimStart rest = rest ∧
      snippet = String.ofList (trimEnd (rest.take Expr.Parser.snippetLength))
  | _ => False

namespace Expr

/-- The rest of a text at which reading failed. -/
def Failure.rest : Failure → List Char
  | tooDeep rest | unexpected rest => rest

/-- The filters that an expression goes through. -/
def filterCalls : Expr → List (FilterCall Expr)
  | filter _ _ calls => calls
  | _ => []

end Expr

namespace Expr.Parser

open Lexeme

variable {source : Source} {origin : Position} {whole text start rest : List Char}

theorem Source.offset_ofText (origin : Position) (front rest : List Char) :
    (Source.ofText origin (front ++ rest)).offset rest = byteLength front := by
  rw [Source.offset, Source.ofText, byteLength_append, Nat.add_sub_cancel]

/-- The region of a part of a text is the one between the places in front of it and behind it. -/
theorem Source.span_ofText (origin : Position) (front part rest : List Char) :
    (Source.ofText origin (front ++ part ++ rest)).span (part ++ rest) rest =
      ⟨origin.advanced front, origin.advanced (front ++ part)⟩ := by
  have before := Source.offset_ofText origin front (part ++ rest)
  rw [← List.append_assoc] at before
  rw [Source.span, before, Source.offset_ofText]
  exact LineTable.spanBetween_ofText origin front part rest

/-- That a filter was taken from a text: its region begins with its name. -/
def FilterTaken (source : Source) (whole : List Char) (call : FilterCall Expr) : Prop :=
  ∃ afterName rest, call.name.toList ++ afterName <:+ whole ∧ rest <:+ afterName ∧
    call.span = source.span (call.name.toList ++ afterName) rest

/-- That all filters inside of an expression were taken from a text. -/
def FiltersTaken (source : Source) (whole : List Char) (expr : Expr) : Prop :=
  ∀ node ∈ expr.walk, ∀ call ∈ node.filterCalls, FilterTaken source whole call

theorem FiltersTaken.node {expr : Expr}
    (own : ∀ call ∈ expr.filterCalls, FilterTaken source whole call)
    (inside : ∀ child ∈ expr.children, FiltersTaken source whole child) :
    FiltersTaken source whole expr := by
  intro node member
  rw [walk_eq_cons, List.mem_cons, List.mem_flatMap] at member
  rcases member with rfl | ⟨child, among, deeper⟩
  · exact own
  · exact inside child among node deeper

/-- That a reading keeps to a text: what it leaves, or where it fails, is a rest of the text, and
what it gives is good. -/
def Keeps {α : Type} (good : α → Prop) (text : List Char) :
    Except Failure (α × List Char) → Prop
  | .ok (value, rest) => rest <:+ text ∧ good value
  | .error failure => failure.rest <:+ text

/-- That a reader keeps to every rest of a text that it is given. -/
def KeepsTo {α : Type} (whole : List Char) (good : α → Prop) (reader : Reader α) : Prop :=
  ∀ {text}, text <:+ whole → Keeps good text (reader text)

section Readings

variable {α β : Type} {good : α → Prop} {better : β → Prop}

theorem Keeps.widen {outcome : Except Failure (α × List Char)} (keeps : Keeps good start outcome)
    (within : start <:+ text) : Keeps good text outcome := by
  rcases outcome with failure | ⟨value, rest⟩
  · exact List.IsSuffix.trans keeps within
  · exact ⟨keeps.1.trans within, keeps.2⟩

theorem Keeps.bind {first : Except Failure (α × List Char)}
    {next : α × List Char → Except Failure (β × List Char)} (keeps : Keeps good text first)
    (later : ∀ value rest, rest <:+ text → good value → Keeps better text (next (value, rest))) :
    Keeps better text (first >>= next) := by
  rcases first with failure | ⟨value, rest⟩
  · exact keeps
  · exact later value rest keeps.1 keeps.2

theorem KeepsTo.on {reader : Reader α} (reads : KeepsTo whole good reader) (past : start <:+ text)
    (within : text <:+ whole) : Keeps good text (reader start) :=
  (reads (past.trans within)).widen past

/-- A reader goes on from a rest of a text, and what follows from what it leaves. -/
theorem KeepsTo.bind {reader : Reader α} {next : α × List Char → Except Failure (β × List Char)}
    (reads : KeepsTo whole good reader) (past : start <:+ text) (within : text <:+ whole)
    (later : ∀ value rest, rest <:+ text → good value → Keeps better text (next (value, rest))) :
    Keeps better text (reader start >>= next) :=
  (reads.on past within).bind later

theorem keeps_expect {symbol : String} (ink : EndsInInk symbol.toList) (within : start <:+ text)
    {next : List Char → Except Failure (β × List Char)}
    (later : ∀ rest, rest <:+ text → Keeps better text (next rest)) :
    Keeps better text (expect symbol start >>= next) := by
  unfold expect
  split
  · rename_i found
    exact later _ ((suffix_of_leaves (symbol?_leaves ink found)).trans within)
  · exact (suffix_trimStart start).trans within

theorem keeps_require {word? : List Char → Option (α × List Char)}
    (leaves : ∀ value rest, word? text = some (value, rest) → Leaves text rest) :
    Keeps (fun _ => True) text (require word? text) := by
  unfold require
  split
  · rename_i read
    exact ⟨suffix_of_leaves (leaves _ _ read), trivial⟩
  · exact List.suffix_refl _

end Readings

section Parts

variable {pipeline : Reader Expr} (keeps : KeepsTo whole (FiltersTaken source whole) pipeline)

include keeps

omit keeps in
theorem keeps_separated {α : Type} {item : Reader α} {good : α → Prop}
    (each : KeepsTo whole good item) {closing : String} (ink : EndsInInk closing.toList)
    (fuel : Nat) : KeepsTo whole (fun items => ∀ item ∈ items, good item)
      (separated item closing fuel) := by
  intro text within
  induction fuel generalizing text with
  | zero => exact List.suffix_refl _
  | succ fuel ih =>
      rw [separated]
      split
      · rename_i closed
        exact ⟨suffix_of_leaves (symbol?_leaves ink closed), List.forall_mem_nil _⟩
      · apply (each within).bind
        intro first afterItem after holds
        dsimp only
        split
        · rename_i comma
          have past := (suffix_of_leaves (symbol?_leaves (endsInInk_symbol rfl rfl) comma)).trans after
          apply KeepsTo.bind @ih past within
          intro others rest taken hold
          exact ⟨taken, List.forall_mem_cons.mpr ⟨holds, hold⟩⟩
        · apply keeps_expect ink after
          intro rest taken
          exact ⟨taken, List.forall_mem_singleton.mpr holds⟩

theorem keeps_arguments {closing : String} (ink : EndsInInk closing.toList) :
    KeepsTo whole (fun args => ∀ arg ∈ args, FiltersTaken source whole arg)
      (arguments pipeline closing) := fun within => keeps_separated keeps ink _ within

omit keeps in
theorem keeps_key (text : List Char) : Keeps (fun _ => True) text (key text) := by
  refine Keeps.widen ?_ (suffix_trimStart text)
  unfold key
  generalize trimStart text = start
  dsimp only
  split
  · split
    · exact keeps_require fun _ _ read => quoted?_leaves read
    · exact keeps_require fun _ _ read => name?_leaves read
  · exact List.suffix_refl _

theorem keeps_entry :
    KeepsTo whole (fun entry => FiltersTaken source whole entry.2) (entry pipeline) := by
  intro text within
  apply (keeps_key text).bind
  intro name afterKey after _
  apply keeps_expect (endsInInk_symbol rfl rfl) after
  intro afterColon colon
  apply KeepsTo.bind keeps colon within
  intro value rest taken holds
  exact ⟨taken, holds⟩

theorem keeps_steps (fuel : Nat) :
    KeepsTo whole (fun path => ∀ key ∈ PathStep.keys path, FiltersTaken source whole key)
      (steps pipeline fuel) := by
  intro text within
  induction fuel generalizing text with
  | zero => exact ⟨List.suffix_refl _, List.forall_mem_nil _⟩
  | succ fuel ih =>
      unfold steps
      split
      · exact ⟨List.suffix_refl _, List.forall_mem_nil _⟩
      · split
        · rename_i property
          have past := suffix_of_leaves (property?_leaves property)
          apply KeepsTo.bind @ih past within
          intro later rest taken hold
          exact ⟨taken, hold⟩
        · rename_i afterBracket _ _
          have past := List.suffix_cons '[' afterBracket
          apply KeepsTo.bind keeps past within
          intro index afterIndex after holds
          apply keeps_expect (endsInInk_symbol rfl rfl) after
          intro afterClosing closed
          apply KeepsTo.bind @ih closed within
          intro later rest taken hold
          exact ⟨taken, List.forall_mem_cons.mpr ⟨holds, hold⟩⟩
        · exact ⟨List.suffix_refl _, List.forall_mem_nil _⟩

theorem keeps_named (start : List Char) :
    KeepsTo whole (FiltersTaken source whole) (named source pipeline start) := by
  intro text within
  apply (keeps_require fun _ _ read => name?_leaves read).bind
  intro name afterName after _
  have constant : ∀ value, FiltersTaken source whole
      (.literal (source.extent start afterName) value) := fun value =>
    .node (List.forall_mem_nil _) (List.forall_mem_nil _)
  dsimp only
  split
  · exact ⟨after, constant _⟩
  · split
    · exact ⟨after, constant _⟩
    · split
      · exact ⟨after, constant _⟩
      · split
        · rename_i bracket
          have past := (suffix_of_leaves
            (symbol?_leaves (endsInInk_symbol rfl rfl) bracket)).trans after
          apply KeepsTo.bind (keeps_arguments keeps (endsInInk_symbol rfl rfl)) past within
          intro args rest taken hold
          exact ⟨taken, .node (List.forall_mem_nil _) hold⟩
        · apply KeepsTo.bind (keeps_steps keeps _) after within
          intro path rest taken hold
          exact ⟨taken, .node (List.forall_mem_nil _) hold⟩

theorem keeps_primary : KeepsTo whole (FiltersTaken source whole) (primary source pipeline) := by
  intro text within
  refine Keeps.widen ?_ (suffix_trimStart text)
  replace within := (suffix_trimStart text).trans within
  unfold primary
  generalize trimStart text = start at within ⊢
  dsimp only
  split
  · rename_i afterBracket
    have past := List.suffix_cons '(' afterBracket
    apply KeepsTo.bind keeps past within
    intro inner afterInner after holds
    apply keeps_expect (endsInInk_symbol rfl rfl) after
    intro rest taken
    exact ⟨taken, .node (List.forall_mem_nil _) (List.forall_mem_singleton.mpr holds)⟩
  · rename_i afterBracket
    have past := List.suffix_cons '[' afterBracket
    apply KeepsTo.bind (keeps_arguments keeps (endsInInk_symbol rfl rfl)) past within
    intro items rest taken hold
    exact ⟨taken, .node (List.forall_mem_nil _) hold⟩
  · rename_i afterBrace
    have past := List.suffix_cons '\x7b' afterBrace
    apply KeepsTo.bind (keeps_separated (keeps_entry keeps) (endsInInk_symbol rfl rfl) _) past within
    intro entries rest taken hold
    exact ⟨taken, .node (List.forall_mem_nil _) (List.forall_mem_map.mpr hold)⟩
  · split
    · apply (keeps_require fun _ _ read => quoted?_leaves read).bind
      intro s rest taken _
      exact ⟨taken, .node (List.forall_mem_nil _) (List.forall_mem_nil _)⟩
    · split
      · apply (keeps_require fun _ _ read => number?_leaves read).bind
        intro x rest taken _
        exact ⟨taken, .node (List.forall_mem_nil _) (List.forall_mem_nil _)⟩
      · exact keeps_named keeps _ within
  · exact List.suffix_refl _

/-- A filter takes its region from its name to the end of its arguments. -/
theorem keeps_filterCall :
    KeepsTo whole (fun call => FilterTaken source whole call ∧
      ∀ arg ∈ call.args, FiltersTaken source whole arg) (filterCall source pipeline) := by
  intro text within
  refine Keeps.widen ?_ (suffix_trimStart text)
  replace within := (suffix_trimStart text).trans within
  unfold filterCall
  generalize trimStart text = start at within ⊢
  dsimp only
  cases read : name? start with
  | none =>
      rw [require, read]
      exact List.suffix_refl _
  | some taken =>
      obtain ⟨name, afterName⟩ := taken
      rw [require, read]
      have named := append_of_name? read
      subst named
      have after := List.suffix_append name.toList afterName
      dsimp only [bind, Except.bind]
      split
      · rename_i bracket
        have past := suffix_of_leaves (symbol?_leaves (endsInInk_symbol rfl rfl) bracket)
        refine Keeps.widen ?_ after
        apply KeepsTo.bind (keeps_arguments keeps (endsInInk_symbol rfl rfl)) past
          (after.trans within)
        intro args rest taken hold
        exact ⟨taken, ⟨afterName, rest, within, taken, rfl⟩, hold⟩
      · exact ⟨after, ⟨afterName, afterName, within, List.suffix_refl _, rfl⟩, List.forall_mem_nil _⟩

theorem keeps_filters (fuel : Nat) :
    KeepsTo whole (fun calls => ∀ call ∈ calls, FilterTaken source whole call ∧
      ∀ arg ∈ call.args, FiltersTaken source whole arg) (filters source pipeline fuel) := by
  intro text within
  induction fuel generalizing text with
  | zero => exact ⟨List.suffix_refl _, List.forall_mem_nil _⟩
  | succ fuel ih =>
      rw [filters]
      split
      · exact ⟨List.suffix_refl _, List.forall_mem_nil _⟩
      · rename_i bar
        have past := suffix_of_leaves (pipe?_leaves bar)
        apply KeepsTo.bind (keeps_filterCall keeps) past within
        intro first afterFirst after holds
        apply KeepsTo.bind @ih after within
        intro others rest taken hold
        exact ⟨taken, List.forall_mem_cons.mpr ⟨holds, hold⟩⟩

end Parts

namespace Grammar

/-- That the readers of a grammar keep to a text. Chains and method calls go on from what has been
read already. -/
structure Keeping (source : Source) (whole : List Char) (grammar : Grammar) : Prop where
  pipeline : KeepsTo whole (FiltersTaken source whole) grammar.pipeline
  ternary : KeepsTo whole (FiltersTaken source whole) grammar.ternary
  operand : ∀ levels, KeepsTo whole (FiltersTaken source whole) (grammar.operand levels)
  chain : ∀ {level tighter start left}, FiltersTaken source whole left →
    KeepsTo whole (FiltersTaken source whole) (grammar.chain level tighter start left)
  unary : KeepsTo whole (FiltersTaken source whole) grammar.unary
  methods : ∀ {start receiver}, FiltersTaken source whole receiver →
    KeepsTo whole (FiltersTaken source whole) (grammar.methods start receiver)

theorem keeps_enter {α : Type} {good : α → Prop} {inner : Option Grammar}
    {read : Grammar → Except Failure (α × List Char)} (within : start <:+ text)
    (each : ∀ grammar ∈ inner, Keeps good text (read grammar)) :
    Keeps good text (enter inner start read) := by
  cases inner with
  | none => exact within
  | some grammar => exact each grammar rfl

section Levels

variable {inner : Option Grammar} (keeping : ∀ grammar ∈ inner, grammar.Keeping source whole)

include keeping

theorem keeps_readPipeline :
    KeepsTo whole (FiltersTaken source whole) (readPipeline source inner) := by
  intro text within
  have trimmed := suffix_trimStart text
  apply keeps_enter trimmed
  intro grammar member
  have inside := keeping grammar member
  apply KeepsTo.bind inside.ternary trimmed within
  intro input afterInput after holds
  apply KeepsTo.bind (keeps_filters inside.pipeline _) after within
  intro calls rest taken hold
  dsimp only
  split
  · exact ⟨taken, holds⟩
  · refine ⟨taken, .node (fun call among => (hold call among).1) ?_⟩
    refine List.forall_mem_cons.mpr ⟨holds, fun arg among => ?_⟩
    obtain ⟨call, here, deeper⟩ := List.mem_flatMap.mp among
    exact (hold call here).2 arg deeper

theorem keeps_readMethods {receiver : Expr} (holds : FiltersTaken source whole receiver) :
    KeepsTo whole (FiltersTaken source whole) (readMethods source inner start receiver) := by
  intro text within
  unfold readMethods
  split
  · exact ⟨List.suffix_refl _, holds⟩
  · rename_i name afterBracket called
    apply keeps_enter (List.suffix_refl _)
    intro grammar member
    have past := suffix_of_leaves (methodCall?_leaves called)
    apply KeepsTo.bind (keeps_arguments (keeping grammar member).pipeline
      (endsInInk_symbol rfl rfl)) past within
    intro args rest taken hold
    have call : FiltersTaken source whole
        (.call (source.extent start rest) name (receiver :: args)) :=
      .node (List.forall_mem_nil _) (List.forall_mem_cons.mpr ⟨holds, hold⟩)
    exact KeepsTo.on ((keeping grammar member).methods call) taken within

theorem keeps_readUnary : KeepsTo whole (FiltersTaken source whole) (readUnary source inner) := by
  intro text within
  have trimmed := suffix_trimStart text
  unfold readUnary
  dsimp only
  split
  · rename_i afterOp sign
    apply keeps_enter trimmed
    intro grammar member
    obtain ⟨c, begins⟩ := unaryOp?_cons_of_some sign
    have past := (begins ▸ List.suffix_cons c afterOp : afterOp <:+ trimStart text).trans trimmed
    apply KeepsTo.bind (keeping grammar member).unary past within
    intro operand rest taken holds
    exact ⟨taken, .node (List.forall_mem_nil _) (List.forall_mem_singleton.mpr holds)⟩
  · apply KeepsTo.bind (keeps_primary (keeps_readPipeline keeping)) trimmed within
    intro first afterFirst after holds
    exact KeepsTo.on (keeps_readMethods keeping holds) after within

/-- One more link makes a chain whose operands are the chain so far and one more operand. -/
theorem keeps_readChain {level : Level} {tighter : List Level} {left : Expr}
    (holds : FiltersTaken source whole left) :
    KeepsTo whole (FiltersTaken source whole)
      (readChain source inner level tighter start left) := by
  intro text within
  unfold readChain
  split
  · exact ⟨List.suffix_refl _, holds⟩
  · rename_i op afterOp taken
    have past := suffix_of_operator? taken
    apply keeps_enter past
    intro grammar member
    apply KeepsTo.bind ((keeping grammar member).operand tighter) past within
    intro right afterRight after holdsRight
    have link : FiltersTaken source whole
        (.binary (source.extent start afterRight) op left right) :=
      .node (List.forall_mem_nil _)
        (List.forall_mem_cons.mpr ⟨holds, List.forall_mem_singleton.mpr holdsRight⟩)
    exact KeepsTo.on ((keeping grammar member).chain link) after within

theorem keeps_readOperand (levels : List Level) :
    KeepsTo whole (FiltersTaken source whole) (readOperand source inner levels) := by
  intro text within
  induction levels generalizing text with
  | nil => exact keeps_readUnary keeping within
  | cons level tighter ih =>
      have trimmed := suffix_trimStart text
      apply KeepsTo.bind @ih trimmed within
      intro left afterLeft after holds
      exact KeepsTo.on (keeps_readChain keeping holds) after within

theorem keeps_readTernary :
    KeepsTo whole (FiltersTaken source whole) (readTernary source inner) := by
  intro text within
  have trimmed := suffix_trimStart text
  apply KeepsTo.bind (keeps_readOperand keeping _) trimmed within
  intro condition afterCondition after holds
  dsimp only
  split
  · exact ⟨after, holds⟩
  · rename_i mark
    have marked := (suffix_of_leaves (symbol?_leaves (endsInInk_symbol rfl rfl) mark)).trans after
    apply KeepsTo.bind (keeps_readPipeline keeping) marked within
    intro thenBranch afterThen parted holdsThen
    apply keeps_expect (endsInInk_symbol rfl rfl) parted
    intro afterColon colon
    apply keeps_enter colon
    intro grammar member
    apply KeepsTo.bind (keeping grammar member).ternary colon within
    intro elseBranch rest taken holdsElse
    refine ⟨taken, .node (List.forall_mem_nil _) (List.forall_mem_cons.mpr ⟨holds, ?_⟩)⟩
    exact List.forall_mem_cons.mpr ⟨holdsThen, List.forall_mem_singleton.mpr holdsElse⟩

theorem keeping_build : (build source inner).Keeping source whole where
  pipeline := keeps_readPipeline keeping
  ternary := keeps_readTernary keeping
  operand levels := keeps_readOperand keeping levels
  chain := keeps_readChain keeping
  unary := keeps_readUnary keeping
  methods := keeps_readMethods keeping

end Levels

theorem keeping_ofLevels (source : Source) (whole : List Char) (levels : Nat) :
    (ofLevels source levels).Keeping source whole := by
  induction levels with
  | zero => exact keeping_build fun grammar member => nomatch member
  | succ levels ih =>
      refine keeping_build fun grammar member => ?_
      cases member
      exact ih

end Grammar

theorem exact_span {part : List Char} (begins : start <:+ text) (cut : part ++ rest = start) :
    ((Source.ofText origin text).span start rest).Exact origin text part rest := by
  obtain ⟨front, rfl⟩ := begins
  subst cut
  rw [← List.append_assoc]
  exact ⟨front, rfl, Source.span_ofText origin front part rest⟩

theorem exact_spanFrom (begins : rest <:+ text) :
    ((Source.ofText origin text).spanFrom rest).Exact origin text rest [] :=
  exact_span begins (List.append_nil rest)

/-- Everything that is read has the region of its source, and a filter that of its call. -/
theorem exact_of_parse_ok {expr : Expr} (read : parse origin text = .ok expr) :
    ∀ node ∈ expr.walk,
      (∃ part behind, node.raw = some (String.ofList part) ∧
        node.span.Exact origin text part behind) ∧
      ∀ call ∈ node.filterCalls, ∃ part behind, call.name.toList <+: part ∧
        call.span.Exact origin text part behind := by
  have kept : FiltersTaken (Source.ofText origin text) text expr := by
    obtain ⟨after, readPipeline, _⟩ := pipeline_of_parse read
    have keeps := (Grammar.keeping_ofLevels (Source.ofText origin text) text maxLevels).pipeline
      (List.suffix_refl text)
    rw [readPipeline] at keeps
    exact keeps.2
  obtain ⟨start, rest, begins, cut⟩ := cut_of_parse read
  intro node member
  constructor
  · obtain ⟨start, rest, ahead, here⟩ := cut.within node member
    cases here with
    | node taken extent _ =>
        obtain ⟨part, whole⟩ := taken
        refine ⟨part, rest, ?_, ?_⟩
        · rw [Expr.raw, extent]
          exact ReadFrom.raw_extent whole.symm
        · rw [Expr.span, extent]
          exact exact_span (ahead.trans begins) whole
  · intro call among
    obtain ⟨afterName, rest, ahead, ⟨args, rfl⟩, region⟩ := kept node member call among
    refine ⟨call.name.toList ++ args, rest, List.prefix_append _ _, ?_⟩
    rw [region]
    exact exact_span ahead (List.append_assoc ..)

/-- A problem has the region from the rest of the text that it tells of to the end. -/
theorem exact_of_parse_error {error : ParseError} (failed : parse origin text = .error error) :
    ∃ rest, error.problem.Shows text rest ∧ error.span.Exact origin text rest [] := by
  have keeps := (Grammar.keeping_ofLevels (Source.ofText origin text) text maxLevels).pipeline
    (List.suffix_refl text)
  unfold parse at failed
  dsimp only at failed
  split at failed
  · rename_i blank
    cases failed
    exact ⟨text, ⟨rfl, List.isEmpty_iff.mp blank⟩, exact_spanFrom (List.suffix_refl text)⟩
  · split at failed
    · rename_i failure stopped
      rw [stopped] at keeps
      cases failed
      cases failure with
      | tooDeep rest => exact ⟨rest, rfl, exact_spanFrom keeps⟩
      | unexpected rest =>
          have begins := (suffix_trimStart rest).trans keeps
          refine ⟨trimStart rest, ?_, exact_spanFrom begins⟩
          unfold Source.failure
          dsimp only
          split
          · rename_i none
            exact List.isEmpty_iff.mp none
          · rename_i some
            exact ⟨List.isEmpty_eq_false_iff.mp (by simpa using some), trimStart_idem rest, rfl⟩
    · rename_i after read
      rw [read] at keeps
      split at failed
      · cases failed
      · rename_i some
        cases failed
        have begins := (suffix_trimStart after).trans keeps.1
        exact ⟨trimStart after, ⟨List.isEmpty_eq_false_iff.mp (by simpa using some),
          trimStart_idem after, rfl⟩, exact_spanFrom begins⟩

end Expr.Parser

/-- A line table answers for every offset at which its text can be cut what walking over the text up
to there gives, and its search always ends at a line. The regions of whatever is read, and of the
problem if it cannot be read, are those to which walking over the text leads. -/
theorem LineTable.agrees_with_walking (origin : Position) (text : String) :
    (∀ offset, ∃ line lineStart,
      (ofText origin text.toList).lineAt? offset = some (line, lineStart)) ∧
    (∀ front behind, front ++ behind = text.toList →
      (ofText origin text.toList).positionAt? (byteLength front) =
        some (origin.advanced front)) ∧
    (∀ front part behind, front ++ part ++ behind = text.toList →
      (ofText origin text.toList).spanBetween (byteLength front) (byteLength (front ++ part)) =
        ⟨origin.advanced front, origin.advanced (front ++ part)⟩) ∧
    match parseExpression text origin with
    | .ok expr => ∀ node ∈ expr.walk,
      (∃ part behind, node.raw = some (String.ofList part) ∧
        node.span.Exact origin text.toList part behind) ∧
      ∀ call ∈ node.filterCalls, ∃ part behind, call.name.toList <+: part ∧
        call.span.Exact origin text.toList part behind
    | .error error => ∃ rest, error.problem.Shows text.toList rest ∧
      error.span.Exact origin text.toList rest [] := by
  refine ⟨exists_lineAt? origin text.toList, ?_, ?_, ?_⟩
  · intro front behind whole
    rw [← whole]
    exact positionAt?_ofText origin front behind
  · intro front part behind whole
    rw [← whole]
    exact spanBetween_ofText origin front part behind
  · split
    · rename_i read
      exact Expr.Parser.exact_of_parse_ok read
    · rename_i failed
      exact Expr.Parser.exact_of_parse_error failed

end Stencil
