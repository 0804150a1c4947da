import Stencil.Proofs.Template.Accepting
import Stencil.Proofs.Template.Filling
/-!
# What a token does

A token that is taken without a problem adds a node to what is open, opens a construct, goes on with
the next branch of a choice, or closes the innermost construct; a comment does nothing. `Moves` says
so, one case for each, and `Run` of tokens one after the other. This does not depend on how many
constructs are open: only whether a construct may be opened does. `parseUnlimited` reads templates
as if it always might.
-/

namespace Stencil

namespace Template.Parser

/-- Takes one token as if constructs might nest without limit. -/
def State.takeUnlimited (state : State) (token : Token) : State :=
  let statement := Statement.ofToken token
  if token.tag? = some .statement then
    match statement.keyword, state.stack with
    | "if", _ => state.openChoice statement
    | "for", _ => state.push (.loop statement [])
    | "block", _ => state.push (.block statement [])
    | "elif", .choice head condition body :: outer =>
      { state with stack := .continued head condition body :: outer }.openChoice statement
    | _, _ => state.take token
  else state.take token

end Template.Parser

open Template.Parser in
/-- The template that tokens would make if constructs might nest without limit. -/
def parseUnlimited (tokens : List Token) : ParseResult :=
  let read := tokens.foldl State.takeUnlimited {}
  let state := State.finish (spanOf tokens).stop read.stack.length read
  { template := ⟨state.children, spanOf tokens⟩, errors := state.errors }

namespace Template.Parser

variable {state after : State} {token : Token} {head : Statement} {frame : Frame}
  {outer : List Frame} {node : Node} {name? : Option String} {stop : Position}

namespace Frame

/-- A construct with the finished nodes of each branch changed. -/
def mapped (change : List Node → List Node) : Frame → Frame
  | choice head condition body => choice head condition (change body)
  | otherwise head condition body others => otherwise head condition (change body) (change others)
  | continued head condition body => continued head condition (change body)
  | loop head body => loop head (change body)
  | block head body => block head (change body)

/-- What is noticed where a construct is closed, by a tag or by the end of the text. -/
def closingProblems (closing : Option Statement) : Frame → List ParseError
  | choice head _ _ | otherwise head _ _ _ => closingErrors head closing "endif"
  | continued _ _ _ => []
  | loop head _ => closingErrors head closing "endfor"
  | block head _ => mismatchErrors head.blockName? closing ++ closingErrors head closing "endblock"

section Mapped

variable (change : List Node → List Node) (frame : Frame)

theorem closer_mapped : (frame.mapped change).closer = frame.closer := by
  cases frame <;> rfl

theorem isContinued_mapped : (frame.mapped change).isContinued = frame.isContinued := by
  cases frame <;> rfl

theorem closingProblems_mapped (closing : Option Statement) :
    (frame.mapped change).closingProblems closing = frame.closingProblems closing := by
  cases frame <;> rfl

end Mapped

/-- That a construct makes a node without a problem when it is closed at a place, and the name that
it records. -/
inductive Finishes (stop : Position) : Frame → Node → Option String → Prop where
  | choice {head : Statement} {condition : Expr} {body : List Node} :
      Finishes stop (.choice head condition body)
        (.choice (head.extentTo stop) condition body none) none
  | otherwise {head : Statement} {condition : Expr} {body others : List Node} :
      Finishes stop (.otherwise head condition body others)
        (.choice (head.extentTo stop) condition body (some others)) none
  | loop {head : Statement} {iterator : String} {source : List Char} {iterable : Expr}
      {body : List Node} (read : head.loopHead? = some (iterator, source))
      (free : bindingErrors iterator head = [])
      (reads : requiredExpression head source = (iterable, [])) :
      Finishes stop (.loop head body) (.loop (head.extentTo stop) iterator iterable body) none
  | block {head : Statement} {name : String} {body : List Node}
      (read : head.blockName? = some name) :
      Finishes stop (.block head body) (.block (head.extentTo stop) name body) (some name)

end Frame

/-- That a tag opens a construct. -/
inductive Opening (head : Statement) : Frame → Prop where
  | choice {condition : Expr} (opens : head.Says "if")
      (reads : requiredExpression head head.rest = (condition, [])) :
      Opening head (.choice head condition [])
  | loop (opens : head.Says "for") : Opening head (.loop head [])
  | block (opens : head.Says "block") : Opening head (.block head [])

theorem Opening.own (opening : Opening head frame) : frame.isContinued = false := by
  cases opening <;> rfl

theorem Opening.says (opening : Opening head frame) :
    ∃ keyword ∈ ["if", "for", "block"], head.Says keyword := by
  cases opening with
  | choice opens _ => exact ⟨"if", by decide, opens⟩
  | loop opens => exact ⟨"for", by decide, opens⟩
  | block opens => exact ⟨"block", by decide, opens⟩

/-- That a token is a node of its own. -/
inductive Leaf (token : Token) : Node → Prop where
  | text (plain : token.tag? = none) :
      Leaf token (.text ⟨token.span, some token.content⟩ token.content)
  | output {value : Expr} (tag : token.tag? = some .expression)
      (reads : parseExpression token.body token.bodyStart = .ok value) :
      Leaf token (.output ⟨token.span, some token.content⟩ value)
  | assignment {extent : Extent} {name : String} {value : Expr}
      (opens : (Statement.ofToken token).Says "set")
      (reads : assignmentNode (Statement.ofToken token) = (.assignment extent name value, [])) :
      Leaf token (.assignment extent name value)

/-- The only tag of a statement that is a node of its own is that of an assignment. -/
theorem Leaf.plain_or_set (leaf : Leaf token node) :
    token.tag? ≠ some .statement ∨ (Statement.ofToken token).Says "set" := by
  cases leaf with
  | text plain =>
      rw [plain]
      exact .inl (by decide)
  | output tag _ =>
      rw [tag]
      exact .inl (by decide)
  | assignment opens _ => exact .inr opens

/-- The state after the innermost construct has been closed. -/
def State.finished (state : State) (outer : List Frame) (node : Node) (name? : Option String)
    (problems : List ParseError) : State :=
  { ({ state with stack := outer }.notice problems).attach (node, []) with
    blockNames := name?.toList ++ state.blockNames }

/-- What a token does that is taken without a problem. -/
inductive Moves (token : Token) (state : State) : State → Prop where
  | comment (tag : token.tag? = some .comment) : Moves token state state
  | leaf {node : Node} (leaf : Leaf token node) : Moves token state (state.attach (node, []))
  | opens {frame : Frame} (opening : Opening (Statement.ofToken token) frame) :
      Moves token state (state.push frame)
  | further {head : Statement} {condition next : Expr} {body : List Node} {outer : List Frame}
      (continues : (Statement.ofToken token).Says "elif")
      (stack : state.stack = .choice head condition body :: outer)
      (reads : requiredExpression (Statement.ofToken token) (Statement.ofToken token).rest =
        (next, [])) :
      Moves token state ({ state with stack := .continued head condition body :: outer }.push
        (.choice (Statement.ofToken token) next []))
  | middle {head : Statement} {condition : Expr} {body : List Node} {outer : List Frame}
      (continues : (Statement.ofToken token).Says "else") (bare : (Statement.ofToken token).Bare)
      (stack : state.stack = .choice head condition body :: outer) :
      Moves token state { state with stack := .otherwise head condition body [] :: outer }
  | closes {frame : Frame} {outer : List Frame} {node : Node} {name? : Option String}
      (stack : state.stack = frame :: outer) (tag : (Statement.ofToken token).Says frame.closer)
      (finishes : frame.Finishes token.stop node name?)
      (quiet : frame.closingProblems (some (Statement.ofToken token)) = [])
      (new : ∀ name ∈ name?, name ∉ state.blockNames) :
      Moves token state (state.finished outer node name? [])

/-- That tokens are taken without a problem, one after the other. -/
inductive Run : List Token → State → State → Prop where
  | nil {state : State} : Run [] state state
  | cons {token : Token} {tokens : List Token} {first second last : State}
      (move : Moves token first second) (later : Run tokens second last) :
      Run (token :: tokens) first last

/-- That no problem has been noticed, nothing is passed over, and the next tag is for the innermost
construct. -/
structure Calm (state : State) : Prop where
  clean : state.errors = []
  skip : state.skip = none
  settled : Settled state.stack

theorem settled_attachTo (children : List Node) (node : Node) (stack : List Frame) :
    Settled (State.attachTo children node stack).2 := by
  induction stack generalizing node with
  | nil => trivial
  | cons frame outer ih =>
      cases frame with
      | continued head condition body => exact ih _
      | _ => trivial

theorem length_attachTo (children : List Node) (node : Node) (stack : List Frame) :
    (State.attachTo children node stack).2.length ≤ stack.length := by
  induction stack generalizing node with
  | nil => exact Nat.le_refl _
  | cons frame outer ih =>
      cases frame with
      | continued head condition body => exact Nat.le_succ_of_le (ih _)
      | _ => exact Nat.le_refl _

theorem Calm.attach (calm : Calm state) (node : Node) : Calm (state.attach (node, [])) := by
  refine ⟨?_, calm.skip, settled_attachTo _ _ _⟩
  rw [State.attach, calm.clean]
  rfl

theorem Moves.calm (move : Moves token state after) (calm : Calm state) : Calm after := by
  cases move with
  | comment _ => exact calm
  | leaf _ => exact calm.attach _
  | opens opening =>
      refine ⟨calm.clean, calm.skip, ?_⟩
      cases opening <;> trivial
  | further _ _ _ => exact ⟨calm.clean, calm.skip, trivial⟩
  | middle _ _ _ => exact ⟨calm.clean, calm.skip, trivial⟩
  | closes _ _ _ _ _ =>
      refine ⟨?_, calm.skip, settled_attachTo _ _ _⟩
      simp [State.finished, State.attach, State.notice, calm.clean]

section Closing

/-- A construct that finishes is closed with no problem but that of the place. -/
theorem close_of_finishes (stack : state.stack = frame :: outer)
    (finishes : frame.Finishes stop node name?) (new : ∀ name ∈ name?, name ∉ state.blockNames)
    (closing : Option Statement) :
    state.close closing stop = state.finished outer node name? (frame.closingProblems closing) := by
  rcases state with ⟨children, _, skip, errors, names⟩
  subst stack
  cases finishes with
  | choice => rfl
  | otherwise => rfl
  | loop read free reads =>
      simp only [State.close, State.finished, Frame.closingProblems, loopNode, read, free, reads,
        List.append_nil]
      rfl
  | block read =>
      rename_i name body
      have unrepeated : ¬names.contains name = true := fun member =>
        new name rfl (List.contains_iff_mem.mp member)
      simp only [State.close, State.finished, Frame.closingProblems, blockNode, read,
        if_neg unrepeated]

/-- What is closed without a problem finishes. -/
theorem finishes_of_clean (stack : state.stack = frame :: outer)
    (active : frame.isContinued = false) {closing : Option Statement}
    (clean : (state.close closing stop).errors = []) :
    ∃ node name?, frame.Finishes stop node name? ∧ frame.closingProblems closing = [] ∧
      ∀ name ∈ name?, name ∉ state.blockNames := by
  have unnamed : ∀ name ∈ (none : Option String), name ∉ state.blockNames := by
    intro name member
    cases member
  rw [State.close, stack] at clean
  cases frame with
  | choice head condition body =>
      exact ⟨_, none, .choice, (clean_notice_attach clean).1, unnamed⟩
  | otherwise head condition body others =>
      exact ⟨_, none, .otherwise, (clean_notice_attach clean).1, unnamed⟩
  | continued head condition body => cases active
  | loop head body =>
      rcases clean_notice_attach clean with ⟨closing, noNode⟩
      unfold loopNode at noNode
      split at noNode
      · cases noNode
      · rename_i iterator source read
        rcases List.append_eq_nil_iff.mp noNode with ⟨free, noErrors⟩
        have reads : requiredExpression head source = ((requiredExpression head source).1, []) :=
          Prod.ext rfl noErrors
        exact ⟨_, none, .loop read free reads, closing, unnamed⟩
  | block head body =>
      rcases clean_notice_attach clean with ⟨closing, noNode⟩
      unfold blockNode at noNode
      split at noNode
      · cases noNode
      · rename_i name read
        refine ⟨_, some name, .block read, closing, ?_⟩
        rintro _ ⟨⟩ member
        rw [if_pos (List.contains_iff_mem.mpr member)] at noNode
        cases noNode

end Closing

section Taking

/-! Where nothing is passed over, each sort of token is taken in one way. -/

variable (noSkip : state.skip = none)

include noSkip

theorem take_comment (tag : token.tag? = some .comment) : state.take token = state := by
  simp only [State.take, noSkip, tag]

theorem take_leaf (leaf : Leaf token node) : state.take token = state.attach (node, []) := by
  cases leaf with
  | text plain => simp only [State.take, noSkip, plain]
  | output tag reads =>
      rw [parseExpression] at reads
      simp only [State.take, noSkip, tag, outputNode, reads]
  | assignment opens reads =>
      have other : state.take token = state.takeOther (Statement.ofToken token) :=
        take_opening noSkip opens (by decide)
      rw [other, ← reads]
      simp [State.takeOther, opens.word]

theorem take_if (opens : (Statement.ofToken token).Says "if") :
    state.take token = if maxDepth ≤ state.stack.length then
      state.openSkip (Statement.ofToken token) else state.openChoice (Statement.ofToken token) := by
  have other : state.take token = state.takeOther (Statement.ofToken token) :=
    take_opening noSkip opens (by decide)
  rw [other]
  simp [State.takeOther, opens.word]

theorem take_for (opens : (Statement.ofToken token).Says "for") :
    state.take token = if maxDepth ≤ state.stack.length then
      state.openSkip (Statement.ofToken token)
        else state.push (.loop (Statement.ofToken token) []) := by
  have other : state.take token = state.takeOther (Statement.ofToken token) :=
    take_opening noSkip opens (by decide)
  rw [other]
  simp [State.takeOther, opens.word]

theorem take_block (opens : (Statement.ofToken token).Says "block") :
    state.take token = if maxDepth ≤ state.stack.length then
      state.openSkip (Statement.ofToken token)
        else state.push (.block (Statement.ofToken token) []) := by
  have other : state.take token = state.takeOther (Statement.ofToken token) :=
    take_opening noSkip opens (by decide)
  rw [other]
  simp [State.takeOther, opens.word]

/-- A construct is opened where one more fits. -/
theorem take_opens (opening : Opening (Statement.ofToken token) frame) :
    state.take token = if maxDepth ≤ state.stack.length then
      state.openSkip (Statement.ofToken token) else state.push frame := by
  cases opening with
  | choice opens reads =>
      rw [take_if noSkip opens, State.openChoice, reads]
      simp only [State.notice_nil]
  | loop opens => exact take_for noSkip opens
  | block opens => exact take_block noSkip opens

variable {condition next : Expr} {body : List Node}

/-- A further condition is taken where one more construct fits. -/
theorem take_further (continues : (Statement.ofToken token).Says "elif")
    (stack : state.stack = .choice head condition body :: outer)
    (reads : requiredExpression (Statement.ofToken token) (Statement.ofToken token).rest =
      (next, [])) :
    state.take token =
      let continued := { state with stack := .continued head condition body :: outer }
      if maxDepth ≤ state.stack.length then continued.openSkip (Statement.ofToken token)
      else continued.push (.choice (Statement.ofToken token) next []) := by
  have statement : state.take token = state.takeStatement (Statement.ofToken token) :=
    take_of_keyword noSkip continues (by decide)
  rw [statement, takeStatement_elif continues.word stack]
  simp [State.takeElif, State.openChoice, reads, State.notice_nil]

theorem take_middle (continues : (Statement.ofToken token).Says "else")
    (bare : (Statement.ofToken token).Bare)
    (stack : state.stack = .choice head condition body :: outer) :
    state.take token = { state with stack := .otherwise head condition body [] :: outer } := by
  have statement : state.take token = state.takeStatement (Statement.ofToken token) :=
    take_of_keyword noSkip continues (by decide)
  rw [statement, takeStatement_else continues.word stack, State.takeElse,
    bareErrors_eq_nil_iff.mpr bare, State.notice_nil]

/-- A construct is closed by a tag with its keyword. -/
theorem take_closing (stack : state.stack = frame :: outer) (active : frame.isContinued = false)
    (tag : (Statement.ofToken token).Says frame.closer) :
    state.take token = state.close (some (Statement.ofToken token)) token.stop := by
  have known : ∀ word ∈ ["endif", "endfor", "endblock"], word ∈ keywords := by decide
  have statement : state.take token = state.takeStatement (Statement.ofToken token) :=
    take_of_keyword noSkip tag (known _ frame.closer_mem)
  rw [statement]
  cases frame with
  | choice head condition body => exact takeStatement_endif tag.word stack
  | otherwise head condition body others => exact takeStatement_endif_otherwise tag.word stack
  | continued head condition body => cases active
  | loop head body => exact takeStatement_endfor tag.word stack
  | block head body => exact takeStatement_endblock tag.word stack

end Taking

theorem Frame.Finishes.active (finishes : frame.Finishes stop node name?) :
    frame.isContinued = false := by
  cases finishes <;> rfl

section Unlimited

theorem errors_takeUnlimited (state : State) (token : Token) :
    state.errors <+: (state.takeUnlimited token).errors := by
  unfold State.takeUnlimited
  dsimp only
  split
  · split
    · exact errors_openChoice _ _
    · exact List.prefix_refl _
    · exact List.prefix_refl _
    · exact errors_openChoice _ _
    · exact errors_take _ _
  · exact errors_take _ _

theorem errors_foldlUnlimited (state : State) (tokens : List Token) :
    state.errors <+: (tokens.foldl State.takeUnlimited state).errors := by
  induction tokens generalizing state with
  | nil => exact List.prefix_refl _
  | cons token rest ih => exact (errors_takeUnlimited state token).trans (ih _)

/-- A choice that is opened without a problem has a condition. -/
theorem reads_of_clean (clean : (state.openChoice head).errors = []) : ∃ condition,
    requiredExpression head head.rest = (condition, []) ∧
      state.openChoice head = state.push (.choice head condition []) := by
  have noErrors : (requiredExpression head head.rest).2 = [] := clean_notice clean
  exact ⟨_, Prod.ext rfl noErrors, (reads_of_openChoice clean).2⟩

/-- What is taken without a problem is not too deep. -/
theorem take_eq_takeUnlimited (noSkip : state.skip = none)
    (clean : (state.take token).errors = []) : state.take token = state.takeUnlimited token := by
  unfold State.takeUnlimited
  dsimp only
  split
  · rename_i tag
    have opens := Statement.says_ofToken tag
    split
    · rename_i word
      rw [word] at opens
      rw [take_if noSkip opens] at clean ⊢
      rw [if_neg (Nat.not_le.mpr (fits_of_clean clean))]
    · rename_i word
      rw [word] at opens
      rw [take_for noSkip opens] at clean ⊢
      rw [if_neg (Nat.not_le.mpr (fits_of_clean clean))]
    · rename_i word
      rw [word] at opens
      rw [take_block noSkip opens] at clean ⊢
      rw [if_neg (Nat.not_le.mpr (fits_of_clean clean))]
    · rename_i word stack
      rw [word] at opens
      have statement : state.take token = state.takeStatement (Statement.ofToken token) :=
        take_of_keyword noSkip opens (by decide)
      rw [statement, takeStatement_elif word stack, State.takeElif] at clean ⊢
      rw [if_neg (Nat.not_le.mpr (fits_of_clean clean))]
    · rfl
  · rfl

/-- What is closed without a problem is finished. -/
theorem moves_of_close (stack : state.stack = frame :: outer) (active : frame.isContinued = false)
    (tag : (Statement.ofToken token).Says frame.closer)
    (clean : (state.close (some (Statement.ofToken token)) token.stop).errors = []) :
    Moves token state (state.close (some (Statement.ofToken token)) token.stop) := by
  rcases finishes_of_clean stack active clean with ⟨node, name?, finishes, quiet, new⟩
  rw [close_of_finishes stack finishes new, quiet]
  exact .closes stack tag finishes quiet new

theorem assignmentNode_of_clean (clean : (assignmentNode head).2 = []) :
    ∃ extent name value, assignmentNode head = (.assignment extent name value, []) := by
  unfold assignmentNode at clean ⊢
  split at clean
  · cases clean
  · exact ⟨_, _, _, Prod.ext rfl clean⟩

/-- A token that is a node of its own without a problem is a leaf. -/
theorem Single.leaf {made : Noticing Node} (single : Single token made) (clean : made.2 = []) :
    Leaf token made.1 := by
  cases single with
  | text plain => exact .text plain
  | output tag =>
      unfold outputNode at clean ⊢
      dsimp only at clean ⊢
      split at clean
      · rename_i value read
        exact .output tag read
      · cases clean
  | assignment opens =>
      rcases assignmentNode_of_clean clean with ⟨extent, name, value, read⟩
      rw [read]
      exact .assignment opens read
  | malformed tag problem => cases clean

/-- One token that is taken without a problem is one of the moves. -/
theorem Step.moves (step : Step token state after) (calm : Calm state)
    (clean : after.errors = []) : Moves token state after := by
  cases step with
  | passing skipping _ | passed skipping _ =>
      rw [calm.skip] at skipping
      cases skipping
  | comment _ tag => exact .comment tag
  | @single made _ single =>
      have noErrors := clean_attach clean
      have quiet : made = (made.1, []) := Prod.ext rfl noErrors
      rw [quiet]
      exact .leaf (single.leaf noErrors)
  | choice _ opens _ =>
      rcases reads_of_clean clean with ⟨condition, reads, pushed⟩
      rw [pushed]
      exact .opens (.choice opens reads)
  | loop _ opens _ => exact .opens (.loop opens)
  | block _ opens _ => exact .opens (.block opens)
  | tooDeep _ _ _ _ | furtherTooDeep _ _ _ _ => exact absurd clean not_clean_openSkip
  | further _ continues stack _ =>
      rcases reads_of_clean clean with ⟨next, reads, pushed⟩
      rw [pushed]
      exact .further continues stack reads
  | middle _ continues stack =>
      have bare : bareErrors (Statement.ofToken token) = [] := clean_notice clean
      rw [State.takeElse, bare, State.notice_nil]
      exact .middle continues (bareErrors_eq_nil_iff.mp bare) stack
  | closes _ stack active tag => exact moves_of_close stack active tag clean

/-- The same without the limit: the only difference is in what opens a construct. -/
theorem moves_of_clean (calm : Calm state) (clean : (state.takeUnlimited token).errors = []) :
    Moves token state (state.takeUnlimited token) := by
  unfold State.takeUnlimited at clean ⊢
  dsimp only at clean ⊢
  split
  · rename_i tag
    rw [if_pos tag] at clean
    have opens := Statement.says_ofToken tag
    split at clean
    · rename_i word
      rw [word] at opens
      rcases reads_of_clean clean with ⟨condition, reads, pushed⟩
      rw [pushed]
      exact .opens (.choice opens reads)
    · rename_i word
      rw [word] at opens
      exact .opens (.loop opens)
    · rename_i word
      rw [word] at opens
      exact .opens (.block opens)
    · rename_i word stack
      rw [word] at opens
      rcases reads_of_clean clean with ⟨next, reads, pushed⟩
      rw [pushed]
      exact .further opens stack reads
    · exact (step_take state token).moves calm clean
  · rename_i noStatement
    rw [if_neg noStatement] at clean
    exact (step_take state token).moves calm clean

theorem run_of_clean {tokens : List Token} (calm : Calm state)
    (clean : (tokens.foldl State.takeUnlimited state).errors = []) :
    Run tokens state (tokens.foldl State.takeUnlimited state) := by
  induction tokens generalizing state with
  | nil => exact .nil
  | cons token rest ih =>
      have before := clean_of_earlier (errors_foldlUnlimited (state.takeUnlimited token) rest) clean
      have move := moves_of_clean calm before
      exact .cons move (ih (move.calm calm) clean)

/-- A run without problems is the same without the limit. -/
theorem foldl_take_eq_unlimited {tokens : List Token} (calm : Calm state)
    (clean : (tokens.foldl State.take state).errors = []) :
    tokens.foldl State.take state = tokens.foldl State.takeUnlimited state := by
  induction tokens generalizing state with
  | nil => rfl
  | cons token rest ih =>
      rw [List.foldl_cons] at clean
      have before := clean_of_earlier (errors_foldl (state.take token) rest) clean
      have same := take_eq_takeUnlimited calm.skip before
      rw [same] at before clean
      rw [List.foldl_cons, List.foldl_cons, same]
      exact ih ((moves_of_clean calm before).calm calm) clean

theorem run_take_of_clean {tokens : List Token} (calm : Calm state)
    (clean : (tokens.foldl State.take state).errors = []) :
    Run tokens state (tokens.foldl State.take state) := by
  have same := foldl_take_eq_unlimited calm clean
  rw [same] at clean ⊢
  exact run_of_clean calm clean

theorem Run.calm {tokens : List Token} (run : Run tokens state after) (calm : Calm state) :
    Calm after := by
  induction run with
  | nil => exact calm
  | cons move _ ih => exact ih (move.calm calm)

theorem calm_start : Calm {} := ⟨rfl, rfl, trivial⟩

/-- Tokens that would be a template without problems if constructs might nest without limit are
taken without a problem, and close what they open. -/
theorem run_of_parseUnlimited {tokens : List Token} (clean : (parseUnlimited tokens).errors = []) :
    ∃ last, Run tokens {} last ∧ last.stack = [] ∧
      (parseUnlimited tokens).template.children = last.children := by
  have fold := clean_of_earlier (errors_finish _ _ _) clean
  have run := run_of_clean calm_start fold
  have nothing := stack_of_clean_finish (run.calm calm_start).settled clean
  refine ⟨_, run, nothing, ?_⟩
  simp only [parseUnlimited, nothing, List.length_nil, State.finish]

end Unlimited

end Template.Parser

/-- A statement tag with a body, all of it at one place. -/
def placelessTag (body : String) : Token :=
  { tag? := some .statement, content := "\x7b%" ++ body ++ "%\x7d", body := body, offset := 0,
    bodyStart := Position.start, start := Position.start, stop := Position.start }

open Template.Parser in
/-- Without problems a template is the same without the limit. -/
theorem parse_eq_parseUnlimited {tokens : List Token} (clean : (parse tokens).errors = []) :
    parse tokens = parseUnlimited tokens := by
  have read := clean_of_earlier (errors_finish _ _ _) clean
  have fold := clean_of_earlier (errors_finishSkip _) read
  have same := foldl_take_eq_unlimited calm_start fold
  rw [same] at fold
  have noSkip := ((run_of_clean calm_start fold).calm calm_start).skip
  simp only [parse, parseUnlimited, same, State.finishSkip, noSkip]

end Stencil
