import Stencil.Proofs.Expr.Accounting
/-!
# How expressions are cut from their source

A reader of expressions cuts a tree out of the front of a text: its extent goes from the start of
the reader to what the reader leaves, and the expressions directly inside of it were cut one after
the other from what lies between. `Cut` tells so of a whole tree. Every reader keeps it, those of
one level because those with one level less do. A chain of operators and a chain of method calls
carry it as the invariant of what has been read so far, and each link cuts the chain anew from the
same start.
-/

namespace Stencil

open Text

/-- The computed keys of a path, in source order. -/
def PathStep.keys {ε : Type} (path : List (PathStep ε)) : List ε :=
  path.filterMap fun
    | .property _ => none
    | .index key => some key

namespace Expr

/-- The expressions directly inside of an expression, in source order. -/
def children : Expr → List Expr
  | literal _ _ | malformed _ _ => []
  | access _ _ path => PathStep.keys path
  | filter _ input filters => input :: filters.flatMap FilterCall.args
  | call _ _ args => args
  | binary _ _ left right => [left, right]
  | unary _ _ operand => [operand]
  | array _ items => items
  | object _ entries => entries.map Prod.snd
  | paren _ inner => [inner]
  | ternary _ condition thenBranch elseBranch => [condition, thenBranch, elseBranch]

theorem walkAll_eq_flatMap (exprs : List Expr) : walkAll exprs = exprs.flatMap walk := by
  induction exprs with
  | nil => rfl
  | cons expr rest ih => rw [walkAll, ih, List.flatMap_cons]

theorem walkEntries_eq_flatMap (entries : List (String × Expr)) :
    walkEntries entries = (entries.map Prod.snd).flatMap walk := by
  induction entries with
  | nil => rfl
  | cons entry rest ih => rw [walkEntries, ih, List.map_cons, List.flatMap_cons]

theorem walkPath_eq_flatMap (path : List (PathStep Expr)) :
    walkPath path = (PathStep.keys path).flatMap walk := by
  induction path with
  | nil => rfl
  | cons step rest ih =>
      cases step with
      | property name => exact ih
      | index key =>
          rw [walkPath, ih]
          rfl

theorem walkFilters_eq_flatMap (filters : List (FilterCall Expr)) :
    walkFilters filters = (filters.flatMap FilterCall.args).flatMap walk := by
  induction filters with
  | nil => rfl
  | cons call rest ih =>
      rw [walkFilters, ih, walkAll_eq_flatMap, List.flatMap_cons, List.flatMap_append]

/-- A walk goes through an expression and then through those directly inside of it. -/
theorem walk_eq_cons (expr : Expr) : expr.walk = expr :: expr.children.flatMap walk := by
  cases expr <;>
    simp [walk, children, walkAll_eq_flatMap, walkEntries_eq_flatMap, walkPath_eq_flatMap,
      walkFilters_eq_flatMap]

end Expr

namespace Expr.Parser

open Lexeme

mutual

/-- That an expression was cut from the front of a text, with all expressions inside of it. -/
inductive Cut (source : Source) : List Char → Expr → List Char → Prop where
  | node {start rest : List Char} {expr : Expr} (taken : rest <:+ start)
      (extent : expr.extent = source.extent start rest)
      (inside : CutAll source start expr.children rest) : Cut source start expr rest

/-- That expressions were cut from a text one after the other, with gaps between them. -/
inductive CutAll (source : Source) : List Char → List Expr → List Char → Prop where
  | nil {text rest : List Char} (taken : rest <:+ text) : CutAll source text [] rest
  | cons {text start middle rest : List Char} {expr : Expr} {others : List Expr}
      (ahead : start <:+ text) (first : Cut source start expr middle)
      (later : CutAll source middle others rest) : CutAll source text (expr :: others) rest

end

variable {source : Source} {text start middle rest : List Char} {expr : Expr}
  {exprs more : List Expr}

theorem suffix_of_leaves (leaves : Leaves text rest) : rest <:+ text := by
  rcases leaves with ⟨taken, whole, _⟩
  exact ⟨taken, whole.symm⟩

theorem suffix_of_operator? {level : Level} {op : BinaryOp}
    (taken : operator? level text = some (op, rest)) : rest <:+ text := by
  rcases symbol?_eq_some (operator?_eq_some taken).2 with ⟨blanks, _, around⟩
  rw [around, ← List.append_assoc]
  exact List.suffix_append _ _

theorem suffix_trimStart (text : List Char) : trimStart text <:+ text :=
  List.dropWhile_suffix _

theorem Cut.suffix (cut : Cut source start expr rest) : rest <:+ start := by
  cases cut with
  | node taken _ _ => exact taken

namespace CutAll

theorem suffix (cuts : CutAll source text exprs rest) : rest <:+ text := by
  induction exprs generalizing text with
  | nil =>
      cases cuts with
      | nil taken => exact taken
  | cons expr others ih =>
      cases cuts with
      | cons ahead first later => exact ((ih later).trans first.suffix).trans ahead

theorem before (cuts : CutAll source middle exprs rest) (ahead : middle <:+ text) :
    CutAll source text exprs rest := by
  cases cuts with
  | nil taken => exact .nil (taken.trans ahead)
  | cons start first later => exact .cons (start.trans ahead) first later

theorem append (early : CutAll source text exprs middle) (late : CutAll source middle more rest) :
    CutAll source text (exprs ++ more) rest := by
  induction exprs generalizing text with
  | nil =>
      cases early with
      | nil taken => exact late.before taken
  | cons expr others ih =>
      cases early with
      | cons ahead first later => exact .cons ahead first (ih later)

theorem behind (cuts : CutAll source text exprs middle) (taken : rest <:+ middle) :
    CutAll source text exprs rest := by
  have none := cuts.append (.nil taken)
  rwa [List.append_nil] at none

theorem single (cut : Cut source start expr rest) (ahead : start <:+ text) :
    CutAll source text [expr] rest :=
  .cons ahead cut (.nil (List.suffix_refl _))

end CutAll

/-- That everything inside of an expression was cut from a text. -/
def CutWithin (source : Source) (text : List Char) (expr : Expr) : Prop :=
  ∀ part ∈ expr.walk, ∃ start rest, start <:+ text ∧ Cut source start part rest

theorem CutWithin.before (within : CutWithin source middle expr) (ahead : middle <:+ text) :
    CutWithin source text expr := by
  intro part member
  rcases within part member with ⟨start, rest, behind, cut⟩
  exact ⟨start, rest, behind.trans ahead, cut⟩

/-- Everything inside of an expression was cut from the text that it was cut from. -/
theorem Cut.within (cut : Cut source start expr rest) : CutWithin source start expr := by
  -- The two predicates are mutual, so the recursor is given what it shows of each.
  refine @Cut.rec source (fun start expr _ _ => CutWithin source start expr)
    (fun text exprs _ _ => ∀ expr ∈ exprs, CutWithin source text expr)
    ?node ?nil ?cons start expr rest cut
  case node =>
      intro start rest expr taken extent inside ih part member
      rw [walk_eq_cons, List.mem_cons, List.mem_flatMap] at member
      rcases member with same | ⟨child, among, deeper⟩
      · rw [same]
        exact ⟨start, rest, List.suffix_refl _, .node taken extent inside⟩
      · exact ih child among part deeper
  case nil =>
      intro _ _ _ expr member
      cases member
  case cons =>
      intro text start middle rest expr others ahead first _ within ih other member
      rcases List.mem_cons.mp member with same | among
      · rw [same]
        exact within.before ahead
      · exact (ih other among).before (first.suffix.trans ahead)

theorem Cut.whole (extent : expr.extent = source.extent start rest)
    (inside : CutAll source start expr.children rest) : Cut source start expr rest :=
  .node inside.suffix extent inside

/-- That a reader cuts the expressions that are parts of its result. -/
def Cuts {α : Type} (source : Source) (parts : α → List Expr) (reader : Reader α) : Prop :=
  ∀ {text value rest}, reader text = .ok (value, rest) → CutAll source text (parts value) rest

/-- That a reader of expressions cuts them behind white space. -/
def CutsExpr (source : Source) (reader : Reader Expr) : Prop :=
  ∀ {text expr rest}, reader text = .ok (expr, rest) → Cut source (trimStart text) expr rest

section Parts

variable {pipeline : Reader Expr} (cuts : CutsExpr source pipeline)

include cuts

theorem cuts_item : Cuts source (fun item => [item]) pipeline := by
  intro text item rest read
  exact .single (cuts read) (suffix_trimStart text)

omit cuts in
theorem ItemsRead.cut {α : Type} {item : Reader α} {parts : α → List Expr} {closing : String}
    {items : List α} (form : ItemsRead item closing text items rest)
    (each : Cuts source parts item) (ink : EndsInInk closing.toList) :
    CutAll source text (items.flatMap parts) rest := by
  induction form with
  | none closed => exact .nil (suffix_of_leaves (symbol?_leaves ink closed))
  | last read closed =>
      rw [List.flatMap_singleton]
      exact (each read).behind (suffix_of_leaves (symbol?_leaves ink closed))
  | more read comma _ ih =>
      have past := suffix_of_leaves (symbol?_leaves (endsInInk_symbol rfl rfl) comma)
      rw [List.flatMap_cons]
      exact (each read).append (ih.before past)

theorem ItemsRead.cutArgs {closing : String} {args : List Expr}
    (form : ItemsRead pipeline closing text args rest) (ink : EndsInInk closing.toList) :
    CutAll source text args rest := by
  have each := form.cut (cuts_item cuts) ink
  rwa [List.flatMap_singleton'] at each

theorem cuts_entry : Cuts source (fun entry => [entry.2]) (entry pipeline) := by
  intro text pair rest read
  rcases entry_eq_ok.mp read with ⟨afterKey, afterColon, readKey, colon, readValue⟩
  have front := (key_leaves readKey).trans (symbol?_leaves (endsInInk_symbol rfl rfl) colon)
  exact (cuts_item cuts readValue).before (suffix_of_leaves front)

theorem PathRead.cut {path : List (PathStep Expr)} (form : PathRead pipeline text path rest) :
    CutAll source text (PathStep.keys path) rest := by
  induction form with
  | none => exact .nil (List.suffix_refl _)
  | property named _ ih => exact ih.before (suffix_of_leaves (property?_leaves named))
  | index read closed _ ih =>
      have inside := cuts_item cuts read
      have past := suffix_of_leaves (symbol?_leaves (endsInInk_symbol rfl rfl) closed)
      exact (inside.before (List.suffix_cons _ _)).append (ih.before past)

theorem NamedRead.cut (form : NamedRead source pipeline start expr rest) :
    Cut source start expr rest := by
  cases form with
  | constant named stands =>
      have past := suffix_of_leaves (name?_leaves named)
      exact .node past rfl (.nil past)
  | call named free bracket readArgs =>
      have past := (suffix_of_leaves (symbol?_leaves (endsInInk_symbol rfl rfl) bracket)).trans
        (suffix_of_leaves (name?_leaves named))
      exact .whole rfl ((readArgs.cutArgs cuts (endsInInk_symbol rfl rfl)).before past)
  | access named free readPath =>
      exact .whole rfl ((readPath.cut cuts).before (suffix_of_leaves (name?_leaves named)))

theorem PrimaryRead.cut (form : PrimaryRead source pipeline start expr rest) :
    Cut source start expr rest := by
  cases form with
  | grouping readInner closed =>
      have past := suffix_of_leaves (symbol?_leaves (endsInInk_symbol rfl rfl) closed)
      exact .whole rfl (((cuts_item cuts readInner).behind past).before (List.suffix_cons '(' _))
  | array readItems =>
      have inside := readItems.cutArgs cuts (endsInInk_symbol rfl rfl)
      exact .whole rfl (inside.before (List.suffix_cons '[' _))
  | object readEntries =>
      have each := readEntries.cut (cuts_entry cuts) (endsInInk_symbol rfl rfl)
      rw [← List.map_eq_flatMap] at each
      exact .whole rfl (each.before (List.suffix_cons '\x7b' _))
  | text quoted =>
      have past := suffix_of_leaves (quoted?_leaves quoted)
      exact .node past rfl (.nil past)
  | number digits =>
      have past := suffix_of_leaves (number?_leaves digits)
      exact .node past rfl (.nil past)
  | named form => exact form.cut cuts

theorem cuts_filterCall : Cuts source FilterCall.args (filterCall source pipeline) := by
  intro text call rest read
  cases filterRead_of_filterCall read with
  | bare named => exact .nil (suffix_of_leaves (name?_leaves named).of_trimStart)
  | called named bracket readArgs =>
      have past := (name?_leaves named).trans (symbol?_leaves (endsInInk_symbol rfl rfl) bracket)
      exact (readArgs.cutArgs cuts (endsInInk_symbol rfl rfl)).before
        (suffix_of_leaves past.of_trimStart)

theorem FiltersRead.cut {calls : List (FilterCall Expr)}
    (form : FiltersRead source pipeline text calls rest) :
    CutAll source text (calls.flatMap FilterCall.args) rest := by
  induction form with
  | none => exact .nil (List.suffix_refl _)
  | more bar readCall _ ih =>
      have here := (cuts_filterCall cuts readCall).before (suffix_of_leaves (pipe?_leaves bar))
      rw [List.flatMap_cons]
      exact here.append ih

end Parts

namespace Grammar

/-- That the readers of a grammar cut what they read. Chains and method calls go on from what has
been cut since the start. -/
structure Cutting (source : Source) (grammar : Grammar) : Prop where
  pipeline : CutsExpr source grammar.pipeline
  ternary : CutsExpr source grammar.ternary
  operand : ∀ levels, CutsExpr source (grammar.operand levels)
  chain : ∀ {level tighter start left text expr rest}, Cut source start left text →
    grammar.chain level tighter start left text = .ok (expr, rest) → Cut source start expr rest
  unary : CutsExpr source grammar.unary
  methods : ∀ {start receiver text expr rest}, Cut source start receiver text →
    grammar.methods start receiver text = .ok (expr, rest) → Cut source start expr rest

section Levels

variable {inner : Option Grammar} (cutting : ∀ grammar ∈ inner, grammar.Cutting source)

include cutting

theorem cuts_readPipeline : CutsExpr source (readPipeline source inner) := by
  intro text expr rest read
  cases pipelineRead_of_readPipeline read with
  | plain member readInput =>
      have first := (cutting _ member).ternary readInput
      rwa [trimStart_idem] at first
  | filtered member readInput readCalls =>
      have first := (cutting _ member).ternary readInput
      rw [trimStart_idem] at first
      have later := readCalls.cut (cutting _ member).pipeline
      exact .whole rfl (.cons (List.suffix_refl _) first later)

theorem readMethods_cut {receiver : Expr} (first : Cut source start receiver text)
    (read : readMethods source inner start receiver text = .ok (expr, rest)) :
    Cut source start expr rest := by
  cases methodsRead_of_readMethods read with
  | none => exact first
  | call called member readArgs later =>
      have past := suffix_of_leaves (methodCall?_leaves called)
      have each := readArgs.cutArgs (cutting _ member).pipeline (endsInInk_symbol rfl rfl)
      refine (cutting _ member).methods ?_ later
      exact .whole rfl (.cons (List.suffix_refl _) first (each.before past))

theorem cuts_readUnary : CutsExpr source (readUnary source inner) := by
  intro text expr rest read
  cases unaryRead_of_readUnary read with
  | sign sign member readOperand =>
      rcases unaryOp?_cons_of_some sign with ⟨c, begins⟩
      refine .whole rfl (.single ((cutting _ member).unary readOperand) ?_)
      rw [begins]
      exact (suffix_trimStart _).trans (List.suffix_cons _ _)
  | primary readFirst later =>
      have primary := (primaryRead_of_primary readFirst).cut (cuts_readPipeline cutting)
      rw [trimStart_idem] at primary
      exact readMethods_cut cutting primary later

/-- One more link cuts the chain anew from its start. -/
theorem readChain_cut {level : Level} {tighter : List Level} {left : Expr}
    (chain : Cut source start left text)
    (read : readChain source inner level tighter start left text = .ok (expr, rest)) :
    Cut source start expr rest := by
  cases chainRead_of_readChain read with
  | none => exact chain
  | link taken member readRight later =>
      have past := suffix_of_operator? taken
      have operand := (cutting _ member).operand tighter readRight
      have behind := CutAll.single operand ((suffix_trimStart _).trans past)
      refine (cutting _ member).chain ?_ later
      exact .whole rfl (.cons (List.suffix_refl _) chain behind)

theorem cuts_readOperand (levels : List Level) :
    CutsExpr source (readOperand source inner levels) := by
  intro text expr rest read
  induction levels generalizing text expr rest with
  | nil => exact cuts_readUnary cutting read
  | cons level tighter ih =>
      rcases readOperand_cons_eq_ok.mp read with ⟨left, afterLeft, readLeft, later⟩
      have first := ih readLeft
      rw [trimStart_idem] at first
      exact readChain_cut cutting first later

theorem cuts_readTernary : CutsExpr source (readTernary source inner) := by
  intro text expr rest read
  cases ternaryRead_of_readTernary read with
  | plain readCondition =>
      have first := cuts_readOperand cutting _ readCondition
      rwa [trimStart_idem] at first
  | branches readCondition mark readThen colon member readElse =>
      have first := cuts_readOperand cutting _ readCondition
      rw [trimStart_idem] at first
      have second := cuts_item (cuts_readPipeline cutting) readThen
      have third := cuts_item (cutting _ member).ternary readElse
      have marked := suffix_of_leaves (symbol?_leaves (endsInInk_symbol rfl rfl) mark)
      have parted := suffix_of_leaves (symbol?_leaves (endsInInk_symbol rfl rfl) colon)
      exact .whole rfl (.cons (List.suffix_refl _) first
        ((second.before marked).append (third.before parted)))

theorem cutting_build : (build source inner).Cutting source where
  pipeline := cuts_readPipeline cutting
  ternary := cuts_readTernary cutting
  operand levels := cuts_readOperand cutting levels
  chain := readChain_cut cutting
  unary := cuts_readUnary cutting
  methods := readMethods_cut cutting

end Levels

theorem cutting_ofLevels (source : Source) (levels : Nat) :
    (ofLevels source levels).Cutting source := by
  induction levels with
  | zero => exact cutting_build fun grammar member => nomatch member
  | succ levels ih =>
      refine cutting_build fun grammar member => ?_
      cases member
      exact ih

end Grammar

/-- An expression that is read was cut from its source. -/
theorem cut_of_parse {origin : Position} (read : parse origin text = .ok expr) :
    ∃ start rest, start <:+ text ∧ Cut (Source.ofText origin text) start expr rest := by
  rcases pipeline_of_parse read with ⟨after, readPipeline, _⟩
  exact ⟨trimStart text, after, suffix_trimStart text,
    (Grammar.cutting_ofLevels _ _).pipeline readPipeline⟩

end Expr.Parser

end Stencil
