import Stencil.Proofs.Template.Building
import Stencil.Proofs.Template.Steps
/-!
# Templates without problems are well-formed

Problems are recorded and never withdrawn, so in a run that ends without any there are none at any
time. As long as that is so, the tokens taken so far have been read by the rules of the grammar:
`Opened` splits them by the constructs that are open, each with the tokens that fill it. One token
keeps that, and at the end of the text nothing may be open.
-/

namespace Stencil.Template.Parser

open Text

section Errors

/-! No step withdraws a problem. -/

theorem clean_of_earlier {before after : List ParseError} (kept : before <+: after)
    (clean : after = []) : before = [] := by
  rw [clean] at kept
  exact List.prefix_nil.mp kept

variable (state : State)

theorem errors_notice (errors : List ParseError) : state.errors <+: (state.notice errors).errors :=
  List.prefix_append _ _

theorem errors_attach (node : Noticing Node) : state.errors <+: (state.attach node).errors :=
  List.prefix_append _ _

theorem errors_close (closing : Option Statement) (stop : Position) :
    state.errors <+: (state.close closing stop).errors := by
  unfold State.close
  split
  · exact List.prefix_refl _
  · exact (errors_notice _ _).trans (errors_attach _ _)
  · exact (errors_notice _ _).trans (errors_attach _ _)
  · exact errors_attach _ _
  · exact (errors_notice _ _).trans (errors_attach _ _)
  · exact (errors_notice _ _).trans (errors_attach _ _)

theorem errors_openChoice (head : Statement) :
    state.errors <+: (state.openChoice head).errors :=
  errors_notice _ _

theorem errors_openSkip (head : Statement) : state.errors <+: (state.openSkip head).errors :=
  errors_notice _ _

theorem errors_closeSkip (skip : Skip) : state.errors <+: (state.closeSkip skip).errors :=
  errors_attach _ _

theorem Step.errors {state after : State} {token : Token} (step : Step token state after) :
    state.errors <+: after.errors := by
  cases step with
  | passing _ _ | comment _ _ | loop _ _ _ | block _ _ _ => exact List.prefix_refl _
  | passed _ _ => exact errors_closeSkip _ _
  | single _ _ => exact errors_attach _ _
  | choice _ _ _ | further _ _ _ _ => exact errors_openChoice _ _
  | tooDeep _ _ _ _ | furtherTooDeep _ _ _ _ => exact errors_openSkip _ _
  | middle _ _ _ => exact errors_notice _ _
  | closes _ _ _ _ => exact errors_close _ _ _

theorem errors_take (token : Token) : state.errors <+: (state.take token).errors :=
  (step_take state token).errors

theorem errors_foldl (tokens : List Token) :
    state.errors <+: (tokens.foldl State.take state).errors := by
  induction tokens generalizing state with
  | nil => exact List.prefix_refl _
  | cons token rest ih => exact (errors_take state token).trans (ih _)

theorem errors_finishSkip : state.errors <+: state.finishSkip.errors := by
  unfold State.finishSkip
  split
  · exact errors_closeSkip _ _
  · exact List.prefix_refl _

theorem errors_finish (stop : Position) (fuel : Nat) :
    state.errors <+: (State.finish stop fuel state).errors := by
  induction fuel generalizing state with
  | zero => exact List.prefix_refl _
  | succ fuel ih =>
      rw [State.finish]
      split
      · exact List.prefix_refl _
      · exact (errors_close _ _ _).trans (ih _)

end Errors

/-- The keyword that begins a choice inside of what is open. -/
def choiceKeyword : List Frame → String
  | .continued _ _ _ :: _ => "elif"
  | _ => "if"

/-- That a tag begins a choice inside of what is open. -/
structure Begins (outer : List Frame) (head : Statement) (condition : Expr) : Prop where
  opens : head.Says (choiceKeyword outer)
  room : outer.length < maxDepth
  reads : head.Reads head.rest condition

/-- The tokens that have been taken when some constructs are open: those before the tag that opened
the innermost one, this tag, and what has filled it since. -/
inductive Opened (children : List Node) : List Frame → List Token → Prop where
  | nothing {tokens : List Token} (forms : Forms 0 tokens children) : Opened children [] tokens
  | choice {outer : List Frame} {before inside : List Token} {head : Statement} {condition : Expr}
      {body : List Node} (opened : Opened children outer before)
      (begins : Begins outer head condition) (forms : Forms (outer.length + 1) inside body) :
      Opened children (.choice head condition body :: outer) (before ++ head.token :: inside)
  | otherwise {outer : List Frame} {before inside further : List Token} {head middle : Statement}
      {condition : Expr} {body others : List Node} (opened : Opened children outer before)
      (begins : Begins outer head condition) (forms : Forms (outer.length + 1) inside body)
      (continues : middle.Says "else") (bare : middle.Bare)
      (formsOther : Forms (outer.length + 1) further others) :
      Opened children (.otherwise head condition body others :: outer)
        (before ++ head.token :: (inside ++ middle.token :: further))
  | continued {outer : List Frame} {before inside : List Token} {head : Statement}
      {condition : Expr} {body : List Node} (opened : Opened children outer before)
      (begins : Begins outer head condition) (forms : Forms (outer.length + 1) inside body) :
      Opened children (.continued head condition body :: outer) (before ++ head.token :: inside)
  | loop {outer : List Frame} {before inside : List Token} {head : Statement} {body : List Node}
      (opened : Opened children outer before) (settled : Settled outer) (opens : head.Says "for")
      (room : outer.length < maxDepth) (forms : Forms (outer.length + 1) inside body) :
      Opened children (.loop head body :: outer) (before ++ head.token :: inside)
  | block {outer : List Frame} {before inside : List Token} {head : Statement} {body : List Node}
      (opened : Opened children outer before) (settled : Settled outer) (opens : head.Says "block")
      (room : outer.length < maxDepth) (forms : Forms (outer.length + 1) inside body) :
      Opened children (.block head body :: outer) (before ++ head.token :: inside)

/-- Tokens one after the other form their nodes one after the other. -/
theorem forms_append : ∀ {depth : Nat} {tokens later : List Token} {nodes more : List Node},
    Forms depth tokens nodes → Forms depth later more →
      Forms depth (tokens ++ later) (nodes ++ more)
  | _, _, _, _, _, .nil, more => more
  | _, _, _, _, _, .text plain rest, more => .text plain (forms_append rest more)
  | _, _, _, _, _, .comment tag rest, more => .comment tag (forms_append rest more)
  | _, _, _, _, _, .output tag reads rest, more => .output tag reads (forms_append rest more)
  | _, _, _, _, _, .assignment opens header free reads rest, more =>
    .assignment opens header free reads (forms_append rest more)
  | _, _, _, _, _, .choice opens room reads branches rest, more => by
    have whole := Forms.choice opens room reads branches (forms_append rest more)
    rwa [← List.append_assoc] at whole
  | _, _, _, _, _, .loop opens room header free reads inside closes bare rest, more => by
    have whole := Forms.loop opens room header free reads inside closes bare
      (forms_append rest more)
    simpa only [List.cons_append, List.append_assoc] using whole
  | _, _, _, _, _, .block opens room header inside closes matching rest, more => by
    have whole := Forms.block opens room header inside closes matching (forms_append rest more)
    simpa only [List.cons_append, List.append_assoc] using whole

/-- What is open innermost is filled with further nodes. -/
theorem opened_grown {state : State} {tokens piece : List Token} {nodes : List Node}
    (opened : Opened state.children state.stack tokens) (settled : Settled state.stack)
    (forms : Forms state.stack.length piece nodes) :
    Opened (state.grown nodes).children (state.grown nodes).stack (tokens ++ piece) := by
  rcases state with ⟨children, stack, skip, errors, names⟩
  cases opened with
  | nothing first => exact .nothing (forms_append first forms)
  | choice opened begins first =>
      rw [List.append_assoc, List.cons_append]
      exact .choice opened begins (forms_append first forms)
  | otherwise opened begins first continues bare formsOther =>
      simp only [List.append_assoc, List.cons_append]
      exact .otherwise opened begins first continues bare (forms_append formsOther forms)
  | continued opened begins first => exact absurd settled id
  | loop opened settledOuter opens room first =>
      rw [List.append_assoc, List.cons_append]
      exact .loop opened settledOuter opens room (forms_append first forms)
  | block opened settledOuter opens room first =>
      rw [List.append_assoc, List.cons_append]
      exact .block opened settledOuter opens room (forms_append first forms)

/-- A node that is finished fills what is open around it. -/
theorem opened_attachTo {children : List Node} {outer : List Frame} {before piece : List Token}
    {node : Node} (opened : Opened children outer before) (settled : Settled outer)
    (forms : Forms outer.length piece [node]) :
    Opened (State.attachTo children node outer).1 (State.attachTo children node outer).2
        (before ++ piece) ∧ Settled (State.attachTo children node outer).2 := by
  let state : State := { children := children, stack := outer }
  have ready : Ready state outer.length := ⟨rfl, rfl, settled⟩
  have same : state.completed outer node = state.grown [node] :=
    State.completed_eq_grown ready.settled node
  have grown : Opened (state.grown [node]).children (state.grown [node]).stack (before ++ piece) :=
    opened_grown opened settled forms
  have still := (ready.grown [node]).settled
  rw [← same] at grown still
  exact ⟨grown, still⟩

theorem choiceKeyword_of_settled {outer : List Frame} (settled : Settled outer) :
    choiceKeyword outer = "if" := by
  cases outer with
  | nil => rfl
  | cons frame rest =>
      cases frame with
      | continued head condition body => exact absurd settled id
      | _ => rfl

/-- A choice that continues no other fills what is open around it. -/
theorem opened_first {children : List Node} {outer : List Frame} {before piece : List Token}
    {head : Statement} {condition : Expr} {node : Node} (opened : Opened children outer before)
    (settled : Settled outer) (begins : Begins outer head condition)
    (branches : Branches (outer.length + 1) head condition piece node) :
    Opened (State.attachTo children node outer).1 (State.attachTo children node outer).2
        (before ++ head.token :: piece) ∧ Settled (State.attachTo children node outer).2 := by
  have opens := begins.opens
  rw [choiceKeyword_of_settled settled] at opens
  have forms := Forms.choice opens begins.room begins.reads branches .nil
  rw [List.append_nil] at forms
  exact opened_attachTo opened settled forms

/-- A choice that is finished fills what is open around it, and so do all the choices that it
finishes with itself. -/
theorem opened_finished {children : List Node} {outer : List Frame} {before piece : List Token}
    {head : Statement} {condition : Expr} {node : Node} (opened : Opened children outer before)
    (begins : Begins outer head condition)
    (branches : Branches (outer.length + 1) head condition piece node) :
    Opened (State.attachTo children node outer).1 (State.attachTo children node outer).2
        (before ++ head.token :: piece) ∧ Settled (State.attachTo children node outer).2 := by
  -- A further condition ends with the choice that it continues, so the induction goes outwards
  -- through all the choices that wait for one end.
  induction opened generalizing head condition piece node with
  | continued opened beginsOuter forms ih =>
      have whole := ih beginsOuter (.further forms begins.opens begins.room begins.reads branches)
      rw [List.append_assoc, List.cons_append]
      exact whole
  | nothing forms => exact opened_first (.nothing forms) trivial begins branches
  | choice opened beginsOuter forms =>
      exact opened_first (.choice opened beginsOuter forms) trivial begins branches
  | otherwise opened beginsOuter forms continues bare formsOther =>
      exact opened_first (.otherwise opened beginsOuter forms continues bare formsOther) trivial
        begins branches
  | loop opened settled opens room forms =>
      exact opened_first (.loop opened settled opens room forms) trivial begins branches
  | block opened settled opens room forms =>
      exact opened_first (.block opened settled opens room forms) trivial begins branches

/-- The names of the named parts that have been finished inside of an open construct. -/
def Frame.names : Frame → List String
  | .choice _ _ body => Node.blockNamesAll body
  | .otherwise _ _ body others => Node.blockNamesAll body ++ Node.blockNamesAll others
  | .continued _ _ body => Node.blockNamesAll body
  | .loop _ body => Node.blockNamesAll body
  | .block _ body => Node.blockNamesAll body

def openNames : List Frame → List String
  | [] => []
  | frame :: outer => openNames outer ++ frame.names

/-- A node that is finished takes its names along. -/
theorem names_attachTo (children : List Node) (node : Node) (stack : List Frame) :
    Node.blockNamesAll (State.attachTo children node stack).1 ++
        openNames (State.attachTo children node stack).2 =
      Node.blockNamesAll children ++ (openNames stack ++ node.blockNames) := by
  induction stack generalizing node with
  | nil =>
      simp [State.attachTo, openNames, State.blockNamesAll_append, Node.blockNamesAll]
  | cons frame outer ih =>
      cases frame with
      | continued head condition body =>
          rw [State.attachTo, ih]
          simp [openNames, Frame.names, Node.blockNames, Node.blockNamesAll]
      | _ =>
          simp [State.attachTo, openNames, Frame.names, State.blockNamesAll_append,
            Node.blockNamesAll]

/-- That tokens have been taken without a problem so far. -/
structure Pending (state : State) (tokens : List Token) : Prop where
  clean : state.errors = []
  skip : state.skip = none
  settled : Settled state.stack
  opened : Opened state.children state.stack tokens
  names : state.blockNames =
    (Node.blockNamesAll state.children ++ openNames state.stack).reverse
  distinct : state.blockNames.Nodup

section Steps

variable {state : State} {tokens : List Token} {token : Token}

theorem clean_notice {errors : List ParseError} (clean : (state.notice errors).errors = []) :
    errors = [] :=
  (List.append_eq_nil_iff.mp clean).2

theorem clean_attach {node : Noticing Node} (clean : (state.attach node).errors = []) :
    node.2 = [] :=
  (List.append_eq_nil_iff.mp clean).2

/-- What closes a construct and what is read as its node are noticed one after the other. -/
theorem clean_notice_attach {errors : List ParseError} {node : Noticing Node}
    (clean : ((state.notice errors).attach node).errors = []) : errors = [] ∧ node.2 = [] := by
  rcases List.append_eq_nil_iff.mp clean with ⟨noticed, read⟩
  exact ⟨clean_notice noticed, read⟩

/-- A node without names that is read from one token is added. -/
theorem pending_attach (pending : Pending state tokens) {node : Node}
    (forms : Forms state.stack.length [token] [node]) (unnamed : node.blockNames = []) :
    Pending (state.attach (node, [])) (tokens ++ [token]) := by
  rcases opened_attachTo pending.opened pending.settled forms with ⟨opened, settled⟩
  refine ⟨?_, pending.skip, settled, opened, ?_, pending.distinct⟩
  · simp [State.attach, pending.clean]
  · have names := names_attachTo state.children node state.stack
    rw [unnamed, List.append_nil] at names
    simp only [State.attach, names]
    exact pending.names

/-- A construct is opened. -/
theorem pending_push (pending : Pending state tokens) {frame : Frame}
    (opened : Opened state.children (frame :: state.stack) (tokens ++ [token]))
    (settled : Settled (frame :: state.stack)) (unnamed : frame.names = []) :
    Pending (state.push frame) (tokens ++ [token]) := by
  refine ⟨pending.clean, pending.skip, settled, opened, ?_, pending.distinct⟩
  simp only [State.push, openNames, unnamed, List.append_nil]
  exact pending.names

/-- The innermost construct is finished, perhaps with a name of its own. -/
theorem pending_close (pending : Pending state tokens) {frame : Frame} {outer : List Frame}
    {node : Node} (name : Option String) (stack : state.stack = frame :: outer)
    (named : node.blockNames = frame.names ++ name.toList)
    (new : ∀ one ∈ name, one ∉ state.blockNames)
    (opened : Opened (State.attachTo state.children node outer).1
      (State.attachTo state.children node outer).2 (tokens ++ [token]) ∧
        Settled (State.attachTo state.children node outer).2) :
    Pending { ({ state with stack := outer } : State).attach (node, []) with
      blockNames := name.toList ++ state.blockNames } (tokens ++ [token]) := by
  refine ⟨?_, pending.skip, opened.2, opened.1, ?_, ?_⟩
  · simp [State.attach, pending.clean]
  · have names := names_attachTo state.children node outer
    have before := pending.names
    rw [stack, openNames] at before
    simp only [State.attach, names, before, named]
    cases name <;> simp
  · cases name with
    | none => exact pending.distinct
    | some one => exact List.nodup_cons.mpr ⟨new one rfl, pending.distinct⟩

/-- The innermost construct is finished, and has no name of its own. -/
theorem pending_closeUnnamed (pending : Pending state tokens) {frame : Frame} {outer : List Frame}
    {node : Node} (stack : state.stack = frame :: outer) (named : node.blockNames = frame.names)
    (opened : Opened (State.attachTo state.children node outer).1
      (State.attachTo state.children node outer).2 (tokens ++ [token]) ∧
        Settled (State.attachTo state.children node outer).2) :
    Pending (({ state with stack := outer } : State).attach (node, [])) (tokens ++ [token]) := by
  refine pending_close pending none stack ?_ ?_ opened
  · rw [named, Option.toList_none, List.append_nil]
  · intro one member
    cases member

variable {head : Statement} {condition : Expr} {body others : List Node} {outer : List Frame}

theorem bare_of_closingErrors {closing : Statement} {keyword : String}
    (closes : closing.Says keyword) (bare : keyword ≠ "endblock")
    (clean : closingErrors head (some closing) keyword = []) : closing.Bare := by
  rw [closingErrors, closes.word, if_neg bare] at clean
  exact bareErrors_eq_nil_iff.mp clean

/-- A condition is read, or it is noticed that it cannot be. -/
theorem reads_of_openChoice (clean : (state.openChoice head).errors = []) :
    head.Reads head.rest (requiredExpression head head.rest).1 ∧
      state.openChoice head =
        state.push (.choice head (requiredExpression head head.rest).1 []) := by
  have noErrors : (requiredExpression head head.rest).2 = [] := clean_notice clean
  refine ⟨reads_of_requiredExpression noErrors, ?_⟩
  simp only [State.openChoice, noErrors, State.notice_nil]

/-- A block that is passed over is noticed. -/
theorem not_clean_openSkip : (state.openSkip head).errors ≠ [] := by
  simp [State.openSkip, State.notice]

/-- Without a problem a construct is opened only where one more fits. -/
theorem fits_of_clean {size : Nat} {opened : State}
    (clean : (if maxDepth ≤ size then state.openSkip head else opened).errors = []) :
    size < maxDepth := by
  by_cases deep : maxDepth ≤ size
  · rw [if_pos deep] at clean
    exact absurd clean not_clean_openSkip
  · exact Nat.not_le.mp deep

theorem pending_further (pending : Pending state tokens) {next : Statement}
    (continues : next.Says "elif") (stack : state.stack = .choice head condition body :: outer)
    (room : state.stack.length < maxDepth)
    (clean : ({ state with
      stack := .continued head condition body :: outer }.openChoice next).errors = []) :
    Pending ({ state with stack := .continued head condition body :: outer }.openChoice next)
      (tokens ++ [next.token]) := by
  rcases reads_of_openChoice clean with ⟨reads, pushed⟩
  rw [pushed]
  rcases state with ⟨children, _, skip, errors, names⟩
  subst stack
  cases pending.opened with
  | choice opened begins forms =>
      refine ⟨pending.clean, pending.skip, trivial, ?_, ?_, pending.distinct⟩
      · exact .choice (.continued opened begins forms) ⟨continues, room, reads⟩ .nil
      · have before := pending.names
        simpa [openNames, Frame.names, Node.blockNamesAll, State.push] using before

theorem pending_takeElse (pending : Pending state tokens) {middle : Statement}
    (continues : middle.Says "else") (stack : state.stack = .choice head condition body :: outer)
    (clean : (state.takeElse middle head condition body outer).errors = []) :
    Pending (state.takeElse middle head condition body outer) (tokens ++ [middle.token]) := by
  have bare : bareErrors middle = [] := clean_notice clean
  rw [State.takeElse, bare, State.notice_nil]
  rcases state with ⟨children, _, skip, errors, names⟩
  subst stack
  cases pending.opened with
  | choice opened begins forms =>
      refine ⟨pending.clean, pending.skip, trivial, ?_, ?_, pending.distinct⟩
      · rw [List.append_assoc, List.cons_append]
        exact .otherwise opened begins forms continues (bareErrors_eq_nil_iff.mp bare) .nil
      · have before := pending.names
        simpa [openNames, Frame.names, Node.blockNamesAll] using before

/-- The last branch of a choice is closed. -/
theorem pending_closeChoice (pending : Pending state tokens) {close : Statement}
    (closes : close.Says "endif") (stack : state.stack = .choice head condition body :: outer)
    (clean : (state.close (some close) close.token.stop).errors = []) :
    Pending (state.close (some close) close.token.stop) (tokens ++ [close.token]) := by
  rw [State.close, stack] at clean ⊢
  dsimp only at clean ⊢
  have closing : closingErrors head (some close) "endif" = [] := (clean_notice_attach clean).1
  have opened := pending.opened
  rw [stack] at opened
  rw [closing, State.notice_nil]
  cases opened with
  | choice opened begins forms =>
      have finished := opened_finished opened begins
        (.single forms closes (bare_of_closingErrors closes (by decide) closing))
      refine pending_closeUnnamed pending stack ?_ ?_
      · simp only [Node.blockNames, Frame.names]
      · rwa [List.append_assoc, List.cons_append]

theorem pending_closeOtherwise (pending : Pending state tokens) {close : Statement}
    (closes : close.Says "endif")
    (stack : state.stack = .otherwise head condition body others :: outer)
    (clean : (state.close (some close) close.token.stop).errors = []) :
    Pending (state.close (some close) close.token.stop) (tokens ++ [close.token]) := by
  rw [State.close, stack] at clean ⊢
  dsimp only at clean ⊢
  have closing : closingErrors head (some close) "endif" = [] := (clean_notice_attach clean).1
  have opened := pending.opened
  rw [stack] at opened
  rw [closing, State.notice_nil]
  cases opened with
  | otherwise opened begins forms continues bare formsOther =>
      have finished := opened_finished opened begins
        (.otherwise forms continues bare formsOther closes
          (bare_of_closingErrors closes (by decide) closing))
      refine pending_closeUnnamed pending stack ?_ ?_
      · simp only [Node.blockNames, Frame.names]
      · simpa only [List.append_assoc, List.cons_append] using finished

theorem pending_closeLoop (pending : Pending state tokens) {close : Statement}
    (closes : close.Says "endfor") (stack : state.stack = .loop head body :: outer)
    (clean : (state.close (some close) close.token.stop).errors = []) :
    Pending (state.close (some close) close.token.stop) (tokens ++ [close.token]) := by
  rw [State.close, stack] at clean ⊢
  dsimp only at clean ⊢
  rcases clean_notice_attach clean with ⟨closing, noNode⟩
  have opened := pending.opened
  rw [stack] at opened
  rw [closing, State.notice_nil]
  unfold loopNode at noNode ⊢
  split at noNode
  · cases noNode
  · rename_i iterator source read
    simp only
    have free : bindingErrors iterator head = [] := (List.append_eq_nil_iff.mp noNode).1
    have noErrors : (requiredExpression head source).2 = [] := (List.append_eq_nil_iff.mp noNode).2
    rcases Statement.loopHead?_eq_some_iff.mp read with ⟨name, rfl, header⟩
    rw [free, noErrors]
    cases opened with
    | loop opened settled saysFor room forms =>
        have whole := Forms.loop saysFor room header (bindingErrors_eq_nil_iff.mp free)
          (reads_of_requiredExpression noErrors) forms closes
          (bare_of_closingErrors closes (by decide) closing) .nil
        have finished := opened_attachTo opened settled whole
        refine pending_closeUnnamed pending stack ?_ ?_
        · simp only [Node.blockNames, Frame.names]
        · simpa only [List.append_assoc, List.cons_append] using finished

theorem pending_closeBlock (pending : Pending state tokens) {close : Statement}
    (closes : close.Says "endblock") (stack : state.stack = .block head body :: outer)
    (clean : (state.close (some close) close.token.stop).errors = []) :
    Pending (state.close (some close) close.token.stop) (tokens ++ [close.token]) := by
  rw [State.close, stack] at clean ⊢
  dsimp only at clean ⊢
  rcases clean_notice_attach clean with ⟨closed, noNode⟩
  rcases List.append_eq_nil_iff.mp closed with ⟨matching, closing⟩
  have opened := pending.opened
  rw [stack] at opened
  rw [closing, matching, List.append_nil, State.notice_nil]
  unfold blockNode at noNode ⊢
  split at noNode
  · cases noNode
  · rename_i found read
    have new : found ∉ state.blockNames := by
      intro member
      rw [if_pos (List.contains_iff_mem.mpr member)] at noNode
      cases noNode
    have unrepeated : ¬state.blockNames.contains found = true := fun member =>
      new (List.contains_iff_mem.mp member)
    rw [read] at matching ⊢
    simp only [if_neg unrepeated]
    rcases Statement.blockName?_eq_some_iff.mp read with ⟨name, rfl, header⟩
    cases opened with
    | block opened settled saysBlock room forms =>
        have whole := Forms.block saysBlock room header forms closes
          (mismatchErrors_eq_nil_iff.mp matching) .nil
        have finished := opened_attachTo opened settled whole
        refine pending_close pending (some name.name) stack ?_ ?_ ?_
        · simp [Node.blockNames, Frame.names]
        · intro one same
          cases same
          exact new
        · simpa only [List.append_assoc, List.cons_append] using finished

theorem pending_openChoice (pending : Pending state tokens) (opens : head.Says "if")
    (room : state.stack.length < maxDepth) (clean : (state.openChoice head).errors = []) :
    Pending (state.openChoice head) (tokens ++ [head.token]) := by
  rcases reads_of_openChoice clean with ⟨reads, pushed⟩
  rw [← choiceKeyword_of_settled pending.settled] at opens
  rw [pushed]
  exact pending_push pending
    (.choice pending.opened ⟨opens, room, reads⟩ .nil) trivial rfl

theorem pending_assignment (pending : Pending state tokens) (opens : head.Says "set")
    (clean : (state.attach (assignmentNode head)).errors = []) :
    Pending (state.attach (assignmentNode head)) (tokens ++ [head.token]) := by
  have noNode := clean_attach clean
  unfold assignmentNode at noNode ⊢
  split at noNode
  · cases noNode
  · rename_i name source read
    simp only
    have free : bindingErrors name head = [] := (List.append_eq_nil_iff.mp noNode).1
    have noErrors : (requiredExpression head source).2 = [] := (List.append_eq_nil_iff.mp noNode).2
    rcases Statement.assignmentHead?_eq_some_iff.mp read with ⟨name, rfl, header⟩
    rw [free, noErrors]
    exact pending_attach pending (.assignment opens header (bindingErrors_eq_nil_iff.mp free)
      (reads_of_requiredExpression noErrors) .nil) rfl

theorem pending_output (pending : Pending state tokens) (tag : token.tag? = some .expression)
    (clean : (state.attach (outputNode token)).errors = []) :
    Pending (state.attach (outputNode token)) (tokens ++ [token]) := by
  have noNode := clean_attach clean
  unfold outputNode at noNode ⊢
  dsimp only at noNode ⊢
  split at noNode
  · rename_i value read
    exact pending_attach pending (.output tag read .nil) rfl
  · cases noNode

theorem pending_comment (pending : Pending state tokens) (tag : token.tag? = some .comment) :
    Pending state (tokens ++ [token]) := by
  have opened := opened_grown pending.opened pending.settled (.comment tag .nil)
  rw [State.grown_nil] at opened
  exact ⟨pending.clean, pending.skip, pending.settled, opened, pending.names, pending.distinct⟩

theorem pending_closes (pending : Pending state tokens) {frame : Frame} {close : Statement}
    (stack : state.stack = frame :: outer) (active : frame.isContinued = false)
    (tag : close.Says frame.closer)
    (clean : (state.close (some close) close.token.stop).errors = []) :
    Pending (state.close (some close) close.token.stop) (tokens ++ [close.token]) := by
  cases frame with
  | choice head condition body => exact pending_closeChoice pending tag stack clean
  | otherwise head condition body others => exact pending_closeOtherwise pending tag stack clean
  | continued head condition body => cases active
  | loop head body => exact pending_closeLoop pending tag stack clean
  | block head body => exact pending_closeBlock pending tag stack clean

/-- One token that is taken without a problem keeps to the rules. -/
theorem Step.pending {after : State} (step : Step token state after)
    (pending : Pending state tokens) (clean : after.errors = []) :
    Pending after (tokens ++ [token]) := by
  cases step with
  | passing skipping _ | passed skipping _ =>
      rw [pending.skip] at skipping
      cases skipping
  | comment _ tag => exact pending_comment pending tag
  | single _ single =>
      cases single with
      | text plain => exact pending_attach pending (.text plain .nil) rfl
      | output tag => exact pending_output pending tag clean
      | assignment opens => exact pending_assignment pending opens clean
      | malformed _ problem => cases clean_attach clean
  | choice _ opens room => exact pending_openChoice pending opens room clean
  | loop _ opens room =>
      exact pending_push pending (.loop pending.opened pending.settled opens room .nil) trivial rfl
  | block _ opens room =>
      exact pending_push pending (.block pending.opened pending.settled opens room .nil) trivial rfl
  | tooDeep _ _ _ _ | furtherTooDeep _ _ _ _ => exact absurd clean not_clean_openSkip
  | further _ continues stack room => exact pending_further pending continues stack room clean
  | middle _ continues stack => exact pending_takeElse pending continues stack clean
  | closes _ stack active tag => exact pending_closes pending stack active tag clean

/-- A run without problems keeps to the rules from one token to the next. -/
theorem pending_foldl (pending : Pending state tokens) (later : List Token)
    (clean : (later.foldl State.take state).errors = []) :
    Pending (later.foldl State.take state) (tokens ++ later) := by
  induction later generalizing state tokens with
  | nil => rwa [List.append_nil]
  | cons token rest ih =>
      -- No problem is withdrawn later, so there is none after this token either.
      have before := clean_of_earlier (errors_foldl (state.take token) rest) clean
      have whole := ih ((step_take state token).pending pending before) clean
      rwa [List.append_assoc] at whole

/-- What is open at the end of the text is noticed. -/
theorem not_clean_close (settled : Settled state.stack) (stop : Position)
    (some : state.stack ≠ []) : (state.close none stop).errors ≠ [] := by
  intro clean
  unfold State.close at clean
  split at clean
  · rename_i empty
    exact some empty
  · simp [State.attach, State.notice, closingErrors] at clean
  · simp [State.attach, State.notice, closingErrors] at clean
  · rename_i stack
    rw [stack] at settled
    exact settled
  · simp [State.attach, State.notice, closingErrors] at clean
  · simp [State.attach, State.notice, closingErrors] at clean

/-- Nothing is open at the end of the text if no problem is noticed there. -/
theorem stack_of_clean_finish (settled : Settled state.stack) {stop : Position}
    (clean : (State.finish stop state.stack.length state).errors = []) : state.stack = [] := by
  cases stack : state.stack with
  | nil => rfl
  | cons frame outer =>
      have some : state.stack ≠ [] := by simp [stack]
      have left := not_clean_close settled stop some
      rw [stack, List.length_cons, State.finish, stack, List.isEmpty_cons, if_neg (by decide)]
        at clean
      exact absurd (clean_of_earlier (errors_finish _ _ _) clean) left

end Steps

/-- Tokens in which no problem is noticed form the nodes of the template, and named parts have
names of their own. -/
theorem forms_of_parse {tokens : List Token} (clean : (parse tokens).errors = []) :
    Forms 0 tokens (parse tokens).template.children ∧
      (Node.blockNamesAll (parse tokens).template.children).Nodup := by
  have start : Pending {} [] :=
    ⟨rfl, rfl, trivial, .nothing .nil, rfl, List.Pairwise.nil⟩
  have finish := clean_of_earlier (errors_finish _ _ _) clean
  have fold := clean_of_earlier (errors_finishSkip _) finish
  have pending := pending_foldl start tokens fold
  rw [List.nil_append] at pending
  have read : (tokens.foldl State.take {}).finishSkip = tokens.foldl State.take {} := by
    rw [State.finishSkip, pending.skip]
  have nothing : (tokens.foldl State.take {}).stack = [] := by
    simp only [parse, read] at clean
    exact stack_of_clean_finish pending.settled clean
  have children : (parse tokens).template.children = (tokens.foldl State.take {}).children := by
    simp only [parse, read, nothing, List.length_nil, State.finish]
  have opened := pending.opened
  have names := pending.names
  have distinct := pending.distinct
  rw [nothing] at opened names
  rw [openNames, List.append_nil] at names
  rw [names] at distinct
  rw [children]
  refine ⟨?_, (List.pairwise_reverse.mp distinct).imp Ne.symm⟩
  cases opened with
  | nothing forms => exact forms

end Stencil.Template.Parser
