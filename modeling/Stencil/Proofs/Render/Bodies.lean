import Stencil.Proofs.Render.Steps
/-!
# Loop bodies that a render starts

A second reading of a template tells in which states the bodies of its loops start, in the order in
which a render reaches them. It follows the render step by step: what comes after a step is reached
only if the step goes on.

`renderNodes_enters` relates it to the counters of a state: a render enters and leaves one frame for
each body that it starts, and no other, however the render ends.
-/

namespace Stencil

open Render

/-- The states in which the bodies of loops start, told for each state that a step begins in. -/
abbrev Starts := RenderState → List RenderState

namespace Starts

/-- The starts of a step that has no loops in it. -/
def none : Starts := fun _ => []

/-- The starts of a step and of those after it. A step that breaks the render off is the last. -/
def bind {α : Type} (starts : Starts) (action : Render α) (later : α → Starts) : Starts :=
  fun state =>
    starts state ++
      match action.exec state with
      | (.ok value, after) => later value after
      | (.error _, _) => []

/-- The starts of a body inside of a frame: its own, and those in it. -/
def within (frame : Entries Value) (inside : Starts) : Starts :=
  fun state => state.enter frame :: inside (state.enter frame)

/-- The starts of a loop whose elements have been evaluated. `inside` tells those in its body. -/
def ofIterations (start : Render Unit) (body : Render String) (inside : Starts)
    (iterator : String) (length : Nat) : Nat → List Value → Starts
  | _, [] => none
  | index, item :: rest =>
    none.bind start fun _ =>
      (within (loopFrame iterator item index length) inside).bind
        (Render.within (loopFrame iterator item index length) body) fun _ =>
          ofIterations start body inside iterator length (index + 1) rest

/-- The starts of a loop. -/
def ofLoop (input : RenderInput) (span : Span) (path iterator : String) (items : Render Value)
    (body : Render String) (inside : Starts) : Starts := fun state =>
  if input.options.maxDepth ≤ state.depth then []
  else
    none.bind items (fun value =>
      match value with
      | .array values =>
        ofIterations (countIteration input span path) body inside iterator values.length 0 values
      | _ => none) state

end Starts

mutual

/-- The states in which loop bodies start while a node is rendered. -/
def nodeStarts (input : RenderInput) : Node → Starts
  | .text _ _ => Starts.none
  | .output _ _ => Starts.none
  | .choice extent condition body otherwise =>
    Starts.none.bind (trace input ("render if at " ++ extent.span.start.text)) fun _ =>
      Starts.none.bind (evaluate input condition) fun decision =>
        if decision.truthy then nodesStarts input body
        else
          match otherwise with
          | some nodes => nodesStarts input nodes
          | none => Starts.none
  | .loop extent iterator iterable body =>
    Starts.none.bind (trace input ("render for at " ++ extent.span.start.text)) fun _ =>
      Starts.ofLoop input extent.span (iterable.extent.sourceOr iterator) iterator
        (evaluate input iterable) (renderNodes input body) (nodesStarts input body)
  | .assignment _ _ _ => Starts.none
  | .block extent _ body =>
    Starts.none.bind (trace input ("render block at " ++ extent.span.start.text)) fun _ =>
      nodesStarts input body
  | .malformed _ _ => Starts.none

/-- The states in which loop bodies start while nodes are rendered one after another. -/
def nodesStarts (input : RenderInput) : List Node → Starts
  | [] => Starts.none
  | node :: rest =>
    (nodeStarts input node).bind (renderNode input node) fun _ => nodesStarts input rest

end

/-- That `count` frames have been entered between two states, and as many left. -/
structure RenderState.Entered (count : Nat) (before after : RenderState) : Prop where
  pushes : after.pushes = before.pushes + count
  pops : after.pops = before.pops + count

theorem RenderState.Entered.trans {first second third : RenderState} {count more : Nat}
    (early : Entered count first second) (late : Entered more second third) :
    Entered (count + more) first third := by
  refine ⟨?_, ?_⟩
  · rw [late.pushes, early.pushes, Nat.add_assoc]
  · rw [late.pops, early.pops, Nat.add_assoc]

/-- Expressions enter no frames. -/
theorem entersNone_evaluation : EvaluationInvariant (RenderState.Entered 0) where
  refl _ := ⟨rfl, rfl⟩
  trans early late := early.trans late
  noting _ _ := ⟨rfl, rfl⟩
  recording _ _ := ⟨rfl, rfl⟩

/-- That a step enters and leaves one frame for each of the starts told of it. -/
def Render.Enters {α : Type} (starts : Starts) (action : Render α) : Prop :=
  ∀ state, RenderState.Entered (starts state).length state (action.exec state).2

namespace Render.Enters

variable {α β : Type} {starts : Starts} {action : Render α} {next : α → Render β}

theorem none (kept : Keeps (RenderState.Entered 0) action) : Enters Starts.none action := kept

theorem bind {later : α → Starts} (first : Enters starts action)
    (rest : ∀ value, Enters (later value) (next value)) :
    Enters (starts.bind action later) (action >>= next) := by
  intro state
  have entered := first state
  rw [Starts.bind, exec_bind]
  generalize action.exec state = outcome at entered ⊢
  rcases outcome with ⟨_ | value, after⟩
  · simpa using entered
  · simpa using entered.trans (rest value after)

theorem bind_keeps (first : Enters starts action)
    (rest : ∀ value, Keeps (RenderState.Entered 0) (next value)) :
    Enters starts (action >>= next) := by
  intro state
  have entered := first.bind (fun value => Enters.none (rest value)) state
  rw [Starts.bind] at entered
  generalize action.exec state = outcome at entered
  rcases outcome with ⟨_ | value, after⟩ <;> simpa [Starts.none] using entered

/-- Entering a frame adds that frame to what is entered inside of it. -/
theorem within (frame : Entries Value) (inside : Enters starts action) :
    Enters (Starts.within frame starts) (Render.within frame action) := by
  intro state
  have entered := inside (state.enter frame)
  rw [exec_within]
  have counted : (Starts.within frame starts state).length =
      (starts (state.enter frame)).length + 1 := List.length_cons
  refine ⟨?_, ?_⟩
  · rw [RenderState.leave_pushes, entered.pushes, RenderState.enter_pushes, counted]
    omega
  · rw [RenderState.leave_pops, entered.pops, RenderState.enter_pops, counted]
    omega

theorem iterate {start : Render Unit} {body : Render String} {inside : Starts}
    (begins : Keeps (RenderState.Entered 0) start) (bodies : Enters inside body)
    (iterator : String) (length index : Nat) (items : List Value) (done : String) :
    Enters (Starts.ofIterations start body inside iterator length index items)
      (Render.iterate start body iterator length index items done) := by
  induction items generalizing index done with
  | nil =>
      rw [Render.iterate, Starts.ofIterations]
      exact none (entersNone_evaluation.pure done)
  | cons item rest ih =>
      rw [Render.iterate, Starts.ofIterations]
      refine (none begins).bind fun _ => (bodies.within _).bind fun piece => ?_
      exact ih (index + 1) (done ++ piece)

theorem loop (input : RenderInput) (span source : Span) (path iterator : String)
    {items : Render Value} {body : Render String} {inside : Starts}
    (evaluated : Keeps (RenderState.Entered 0) items) (bodies : Enters inside body) :
    Enters (Starts.ofLoop input span path iterator items body inside)
      (Render.loop input span source path iterator items body) := by
  intro state
  have counting := entersNone_evaluation.countIteration (fun _ => ⟨rfl, rfl⟩) input span path
  have reporting (error : RenderError) :
      Keeps (RenderState.Entered 0) (report input error >>= fun _ => pure "") :=
    entersNone_evaluation.bind (entersNone_evaluation.report input error) fun _ =>
      entersNone_evaluation.pure _
  unfold Render.loop Starts.ofLoop
  rw [exec_bind_ok (exec_get state)]
  split
  · exact reporting _ state
  · refine (none evaluated).bind (fun value => ?_) state
    cases value with
    | array values => exact iterate counting bodies iterator _ 0 values ""
    | _ => exact none (reporting _)

end Render.Enters

mutual

/-- Rendering a node enters one frame for each body that it starts. -/
theorem renderNode_enters (input : RenderInput) :
    (node : Node) → Enters (nodeStarts input node) (renderNode input node)
  | .text extent content => by
    rw [renderNode, nodeStarts]
    refine Enters.none (entersNone_evaluation.bind (entersNone_evaluation.trace input _) ?_)
    exact fun _ => entersNone_evaluation.pure _
  | .output extent value => by
    rw [renderNode, nodeStarts]
    refine Enters.none (entersNone_evaluation.bind (entersNone_evaluation.trace input _) ?_)
    refine fun _ => entersNone_evaluation.bind (evaluate_keeps entersNone_evaluation input value) ?_
    exact fun _ => entersNone_evaluation.pure _
  | .choice extent condition body otherwise => by
    have traced (line : String) := Enters.none (entersNone_evaluation.trace input line)
    have decided := Enters.none (evaluate_keeps entersNone_evaluation input condition)
    cases otherwise with
    | none =>
        rw [renderNode, nodeStarts]
        refine (traced _).bind fun _ => decided.bind fun decision => ?_
        split
        · exact renderNodes_enters input body
        · exact Enters.none (entersNone_evaluation.pure _)
    | some nodes =>
        rw [renderNode, nodeStarts]
        refine (traced _).bind fun _ => decided.bind fun decision => ?_
        split
        · exact renderNodes_enters input body
        · exact renderNodes_enters input nodes
  | .loop extent iterator iterable body => by
    rw [renderNode, nodeStarts]
    refine (Enters.none (entersNone_evaluation.trace input _)).bind fun _ => ?_
    exact Enters.loop input _ _ _ iterator (evaluate_keeps entersNone_evaluation input iterable)
      (renderNodes_enters input body)
  | .assignment extent name value => by
    rw [renderNode, nodeStarts]
    refine Enters.none (entersNone_evaluation.bind (entersNone_evaluation.trace input _) ?_)
    refine fun _ => entersNone_evaluation.bind (evaluate_keeps entersNone_evaluation input value) ?_
    intro result
    refine entersNone_evaluation.bind (fun state => ?_) fun _ => entersNone_evaluation.pure _
    rw [exec_modify, RenderState.assign]
    split <;> exact ⟨rfl, rfl⟩
  | .block extent name body => by
    rw [renderNode, nodeStarts]
    refine (Enters.none (entersNone_evaluation.trace input _)).bind fun _ => ?_
    exact renderNodes_enters input body
  | .malformed extent message => by
    rw [renderNode, nodeStarts]
    refine Enters.none (entersNone_evaluation.bind (entersNone_evaluation.trace input _) ?_)
    refine fun _ => entersNone_evaluation.bind (fun _ => ⟨rfl, rfl⟩) fun _ => ?_
    exact entersNone_evaluation.pure _

/-- Rendering nodes enters one frame for each body that they start. -/
theorem renderNodes_enters (input : RenderInput) :
    (nodes : List Node) → Enters (nodesStarts input nodes) (renderNodes input nodes)
  | [] => by
    rw [renderNodes, nodesStarts]
    exact Enters.none (entersNone_evaluation.pure _)
  | node :: rest => by
    rw [renderNodes, nodesStarts]
    refine (renderNode_enters input node).bind fun first => ?_
    exact (renderNodes_enters input rest).bind_keeps fun _ => entersNone_evaluation.pure _

end

end Stencil
