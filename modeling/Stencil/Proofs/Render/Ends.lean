import Stencil.Proofs.Render.Coupling
import Stencil.Proofs.Template.Comments
/-!
# Where nodes end does not matter to a render

A render looks at the end of a region only to tell it in a problem, and nothing depends on the
problems that have been recorded. So two templates that are the same but for the ends of regions
take the same steps, as `SameButEnds` says of their renders, and give the same text, the same
problems but for the ends of regions, and the same state.
-/

namespace Stencil

open Render

/-- A problem without the end of its region. -/
def RenderError.unended (error : RenderError) : RenderError :=
  { error with span := error.span.map Span.unended }

/-- A state without the ends of the regions in its problems. -/
def RenderState.unended (state : RenderState) : RenderState :=
  { state with errors := state.errors.map RenderError.unended }

def Interruption.unended : Interruption → Interruption
  | .thrown error => .thrown error.unended
  | .halted error => .halted error.unended
  | .panicked message => .panicked message

def RenderOutput.unended (output : RenderOutput) : RenderOutput :=
  { output with errors := output.errors.map RenderError.unended }

/-- What a render gives and the state that it leaves, without the ends of regions. -/
def unendedResult (result : Except RenderError RenderOutput × RenderState) :
    Except RenderError RenderOutput × RenderState :=
  ((result.1.mapError RenderError.unended).map RenderOutput.unended, result.2.unended)

/-- How a step ends and the state that it leaves, without the ends of regions. -/
def unendedOutcome {α : Type} (outcome : Except Interruption α × RenderState) :
    Except Interruption α × RenderState :=
  (outcome.1.mapError Interruption.unended, outcome.2.unended)

/-- Two steps that do the same, but for the ends of regions, in states that are the same but for
those. -/
def SameButEnds {α : Type} (action action' : Render α) : Prop :=
  ∀ state state' : RenderState, state.unended = state'.unended →
    unendedOutcome (action.exec state) = unendedOutcome (action'.exec state')

theorem RenderState.noting_unended (state : RenderState) (lines : List String) :
    (state.noting lines).unended = state.unended.noting lines := rfl

theorem RenderState.recording_unended (state : RenderState) (error : RenderError) :
    (state.recording error).unended = state.unended.recording error.unended := by
  simp [recording, unended]

/-- What is said about a problem does not tell its region. -/
theorem RenderError.text_unended (error : RenderError) : error.unended.text = error.text := rfl

theorem RenderError.located_unended (error : RenderError) {span span' : Span}
    (same : span.unended = span'.unended) :
    (error.located span).unended = (error.located span').unended := by
  simp [located, unended, same]

namespace SameButEnds

variable {α β : Type} {input : RenderInput}

theorem pure (value : α) : SameButEnds (Pure.pure value) (Pure.pure value) := by
  intro state state' same
  simp only [exec_pure, unendedOutcome, same]

theorem bind {action action' : Render α} {next next' : α → Render β}
    (first : SameButEnds action action') (rest : ∀ value, SameButEnds (next value) (next' value)) :
    SameButEnds (action >>= next) (action' >>= next') := by
  intro state state' same
  have here := first state state' same
  rw [exec_bind, exec_bind]
  generalize action.exec state = outcome at here ⊢
  generalize action'.exec state' = outcome' at here ⊢
  rcases outcome with ⟨stop | value, after⟩
  · rcases outcome' with ⟨stop' | value', after'⟩
    · simp only [unendedOutcome, Except.mapError, Prod.mk.injEq, Except.error.injEq] at here ⊢
      exact here
    · simp [unendedOutcome, Except.mapError] at here
  · rcases outcome' with ⟨stop' | value', after'⟩
    · simp [unendedOutcome, Except.mapError] at here
    · simp only [unendedOutcome, Except.mapError, Prod.mk.injEq, Except.ok.injEq] at here
      rcases here with ⟨rfl, left⟩
      exact rest value after after' left

/-- A change of the state that does not look at problems. -/
theorem changing (change : RenderState → RenderState)
    (blind : ∀ state, (change state).unended = change state.unended) :
    SameButEnds (modify change : Render Unit) (modify change) := by
  intro state state' same
  simp only [exec_modify, unendedOutcome, blind, same]

theorem note (line : String) : SameButEnds (Render.note line) (Render.note line) :=
  changing (fun state => state.noting ["debug " ++ line]) fun _ => rfl

theorem trace (line : String) :
    SameButEnds (Render.trace input line) (Render.trace input line) := by
  unfold Render.trace
  split
  · exact changing (fun state => state.noting ["debug " ++ line]) fun _ => rfl
  · exact pure ()

/-- Problems that are the same but for the ends of regions are reported alike. -/
theorem report {error error' : RenderError} (same : error.unended = error'.unended) :
    SameButEnds (Render.report input error) (Render.report input error') := by
  have texts : error.text = error'.text := by
    rw [← error.text_unended, same, error'.text_unended]
  intro state state' states
  unfold Render.report
  split
  · simp only [exec_throw, unendedOutcome, Except.mapError, Interruption.unended, same, states]
  · simp only [exec_modify, unendedOutcome, RenderState.recordSoftly,
      RenderState.recording_unended, RenderState.noting_unended, texts, same, states]

theorem halt {error error' : RenderError} (same : error.unended = error'.unended) :
    SameButEnds (Render.halt error : Render α) (Render.halt error') := by
  have texts : error.text = error'.text := by
    rw [← error.text_unended, same, error'.text_unended]
  intro state state' states
  simp only [exec_halt, unendedOutcome, Except.mapError, Interruption.unended,
    RenderState.recordLast, RenderState.recording_unended, RenderState.noting_unended, texts, same,
    states]

theorem call (name : String) (value : Value) (args : List Value) :
    SameButEnds (Render.call input name value args) (Render.call input name value args) := by
  intro state state' same
  simp only [exec_call, unendedOutcome, RenderState.noting_unended, same]

/-- A step that goes on with something of the state that is no problem. -/
theorem reading {next next' : RenderState → Render β} {γ : Type} (part : RenderState → γ)
    (blind : ∀ state, part state = part state.unended)
    (rest : ∀ state state', part state = part state' → SameButEnds (next state) (next' state')) :
    SameButEnds (get >>= next) (get >>= next') := by
  intro state state' same
  rw [exec_bind_ok (exec_get state), exec_bind_ok (exec_get state')]
  refine rest state state' ?_ state state' same
  rw [blind state, same, ← blind state']

theorem access (span : Span) (root : String) (steps : List ResolvedStep) :
    SameButEnds (Render.access input span root steps) (Render.access input span root steps) := by
  unfold Render.access
  refine reading (fun state => state.lookup input.data root) (fun _ => rfl)
    fun state state' same => ?_
  rw [same]
  split
  · exact pure _
  · exact bind (report rfl) fun _ => pure _

theorem countIteration {span span' : Span} (same : span.unended = span'.unended) (path : String) :
    SameButEnds (Render.countIteration input span path)
      (Render.countIteration input span' path) := by
  unfold Render.countIteration
  refine bind (changing (fun state => state.counted) fun _ => rfl) fun _ => ?_
  split
  · exact pure ()
  · rename_i limit _
    refine reading (fun state => state.iterations) (fun _ => rfl) fun state state' counts => ?_
    rw [counts]
    split
    · exact halt (RenderError.located_unended _ same)
    · exact pure ()

theorem within (frame : Entries Value) {action action' : Render α}
    (inside : SameButEnds action action') :
    SameButEnds (Render.within frame action) (Render.within frame action') := by
  intro state state' same
  have entered : (state.enter frame).unended = (state'.enter frame).unended :=
    congrArg (fun state => state.enter frame) same
  have outcome := inside _ _ entered
  simp only [unendedOutcome, Prod.mk.injEq] at outcome
  rw [exec_within, exec_within]
  simp only [unendedOutcome, outcome.1]
  exact congrArg (Prod.mk _) (congrArg RenderState.leave outcome.2)

/-- Single steps of an evaluation do not look at problems. -/
theorem coupling (input : RenderInput) : EvaluationCoupling input input SameButEnds where
  pure := pure
  bind := bind
  note := note
  trace := trace
  report _ := report rfl
  call := call
  access := access

theorem iterate {start start' : Render Unit} {body body' : Render String}
    (starts : SameButEnds start start') (bodies : SameButEnds body body') (iterator : String)
    (length index : Nat) (items : List Value) (done : String) :
    SameButEnds (Render.iterate start body iterator length index items done)
      (Render.iterate start' body' iterator length index items done) := by
  induction items generalizing index done with
  | nil =>
      rw [Render.iterate, Render.iterate]
      exact pure done
  | cons item rest ih =>
      rw [Render.iterate, Render.iterate]
      refine bind starts fun _ => ?_
      exact bind (within _ bodies) fun piece => ih (index + 1) (done ++ piece)

theorem loop {span span' : Span} (same : span.unended = span'.unended) (source : Span)
    (path iterator : String) {items : Render Value} {body body' : Render String}
    (evaluated : SameButEnds items items) (bodies : SameButEnds body body') :
    SameButEnds (Render.loop input span source path iterator items body)
      (Render.loop input span' source path iterator items body') := by
  unfold Render.loop
  refine reading RenderState.depth (fun _ => rfl) fun state state' depths => ?_
  rw [depths]
  split
  · exact bind (report (RenderError.located_unended _ same)) fun _ => pure _
  · refine bind evaluated fun value => ?_
    split
    · exact iterate (countIteration same path) bodies _ _ _ _ _
    · exact bind (report rfl) fun _ => pure _

end SameButEnds

mutual

/-- A render does not look at where a node ends. -/
theorem renderNode_unended (input : RenderInput) : (node : Node) →
    SameButEnds (renderNode input node) (renderNode input node.unended)
  | .text extent content => by
    rw [Node.unended, renderNode, renderNode]
    exact .bind (.trace _) fun _ => .pure _
  | .output extent value => by
    rw [Node.unended, renderNode, renderNode]
    refine .bind (.trace _) fun _ => ?_
    exact .bind (evaluate_coupled (SameButEnds.coupling input) value) fun _ => .pure _
  | .choice extent condition body none => by
    rw [Node.unended, renderNode, renderNode]
    refine .bind (.trace _) fun _ => ?_
    refine .bind (evaluate_coupled (SameButEnds.coupling input) condition) fun decision => ?_
    split
    · exact renderNodes_unended input body
    · exact .pure _
  | .choice extent condition body (some otherwise) => by
    rw [Node.unended, renderNode, renderNode]
    refine .bind (.trace _) fun _ => ?_
    refine .bind (evaluate_coupled (SameButEnds.coupling input) condition) fun decision => ?_
    split
    · exact renderNodes_unended input body
    · exact renderNodes_unended input otherwise
  | .loop extent iterator iterable body => by
    rw [Node.unended, renderNode, renderNode]
    have same : extent.span.unended = extent.unended.span.unended := rfl
    refine .bind (.trace _) fun _ => ?_
    exact .loop same _ _ _ (evaluate_coupled (SameButEnds.coupling input) iterable)
      (renderNodes_unended input body)
  | .assignment extent name value => by
    rw [Node.unended, renderNode, renderNode]
    refine .bind (.trace _) fun _ => ?_
    refine .bind (evaluate_coupled (SameButEnds.coupling input) value) fun result => ?_
    refine .bind (.changing (fun state => state.assign name result) fun state => ?_)
      fun _ => .pure _
    cases state with
    | mk frames => cases frames <;> rfl
  | .block extent name body => by
    rw [Node.unended, renderNode, renderNode]
    exact .bind (.trace _) fun _ => renderNodes_unended input body
  | .malformed extent message => by
    rw [Node.unended, renderNode, renderNode]
    refine .bind (.trace _) fun _ => ?_
    exact .bind (.note _) fun _ => .pure _

theorem renderNodes_unended (input : RenderInput) : (nodes : List Node) →
    SameButEnds (renderNodes input nodes) (renderNodes input (Node.unendedAll nodes))
  | [] => by
    rw [Node.unendedAll, renderNodes]
    exact .pure _
  | node :: rest => by
    rw [Node.unendedAll, renderNodes, renderNodes]
    refine .bind (renderNode_unended input node) fun first => ?_
    exact .bind (renderNodes_unended input rest) fun _ => .pure _

end

section Ending

variable {state state' : RenderState}

theorem toList_errors_unended (same : state.unended = state'.unended) :
    state.errors.toList.map RenderError.unended = state'.errors.toList.map RenderError.unended := by
  have errors := congrArg (fun state : RenderState => state.errors.toList) same
  simpa [RenderState.unended] using errors

theorem takeErrors_unended (same : state.unended = state'.unended) :
    state.takeErrors.2.unended = state'.takeErrors.2.unended := by
  have rest := congrArg (fun state : RenderState => { state with errors := #[] }) same
  simpa [RenderState.takeErrors, RenderState.unended] using rest

theorem endEarly_unended (input : RenderInput) {error error' : RenderError}
    (problem : error.unended = error'.unended) (same : state.unended = state'.unended) :
    unendedResult (endEarly input error state) = unendedResult (endEarly input error' state') := by
  unfold endEarly
  split
  · simp only [unendedResult, Except.mapError, Except.map, problem, same]
  · have errors := toList_errors_unended same
    have taken := takeErrors_unended same
    simp only [RenderState.takeErrors] at taken ⊢
    simp only [unendedResult, Except.mapError, Except.map, RenderOutput.unended, errors, taken]

/-- What is made of the end of a render does not depend on the ends of regions. -/
theorem conclude_unended (input : RenderInput)
    {outcome outcome' : Except Interruption String × RenderState}
    (same : unendedOutcome outcome = unendedOutcome outcome') :
    unendedResult (conclude input outcome) = unendedResult (conclude input outcome') := by
  rcases outcome with ⟨result, after⟩
  rcases outcome' with ⟨result', after'⟩
  simp only [unendedOutcome, Prod.mk.injEq] at same
  rcases same with ⟨ends, states⟩
  cases result with
  | ok text =>
      cases result' with
      | error stop => cases ends
      | ok text' =>
          cases ends
          have errors := toList_errors_unended states
          have success : after.errors.toList.isEmpty = after'.errors.toList.isEmpty := by
            rw [← List.isEmpty_map (f := RenderError.unended), errors, List.isEmpty_map]
          have taken := takeErrors_unended states
          simp only [conclude, unendedResult, Except.mapError, Except.map, RenderOutput.unended,
            errors, success, taken]
  | error stop =>
      cases result' with
      | ok text => cases ends
      | error stop' =>
          simp only [Except.mapError, Except.error.injEq] at ends
          cases stop with
          | thrown error =>
              cases stop' with
              | thrown error' =>
                  simp only [Interruption.unended, Interruption.thrown.injEq] at ends
                  exact endEarly_unended input ends states
              | halted error' => cases ends
              | panicked message' => cases ends
          | halted error =>
              cases stop' with
              | halted error' =>
                  simp only [Interruption.unended, Interruption.halted.injEq] at ends
                  exact endEarly_unended input ends states
              | thrown error' => cases ends
              | panicked message' => cases ends
          | panicked message =>
              cases stop' with
              | panicked message' =>
                  cases ends
                  refine endEarly_unended input rfl ?_
                  simp only [RenderState.recordLast, RenderState.recording_unended,
                    RenderState.noting_unended, states]
              | thrown error' => cases ends
              | halted error' => cases ends

end Ending

/-- Templates that are the same but for the ends of regions render alike. -/
theorem renderFrom_unended (input : RenderInput) {template template' : Template}
    (same : Node.unendedAll template.children = Node.unendedAll template'.children)
    (state : RenderState) :
    unendedResult (renderFrom input template state) =
      unendedResult (renderFrom input template' state) := by
  rw [renderFrom_eq_conclude, renderFrom_eq_conclude]
  apply conclude_unended
  rw [renderNodes_unended input template.children state state rfl, same,
    ← renderNodes_unended input template'.children state state rfl]

open Template.Parser in
/-- Comments are invisible. Without them the same tree is read, but for the ends of regions, with
the same problems; and both trees render alike from every state, but for the ends of the regions of
problems. -/
theorem comments_invisible (tokens : List Token) :
    Node.unendedAll (parse (withoutComments tokens)).template.children =
        Node.unendedAll (parse tokens).template.children ∧
      (parse (withoutComments tokens)).errors = (parse tokens).errors ∧
      ∀ (input : RenderInput) (state : RenderState),
        unendedResult (renderFrom input (parse (withoutComments tokens)).template state) =
          unendedResult (renderFrom input (parse tokens).template state) := by
  rcases parse_unended tokens with ⟨children, errors⟩
  exact ⟨children.symm, errors.symm, fun input => renderFrom_unended input children.symm⟩

end Stencil
