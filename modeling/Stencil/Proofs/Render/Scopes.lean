import Stencil.Proofs.Render.Bodies
/-!
# Frames and the scopes they make

A render leaves as many frames as it enters, whatever ends it, and enters one for each loop body
that it starts. What is bound inside of a frame is gone once the frame is left: a binding goes to
the innermost frame, and to the globals only where there is no frame.

Both facts rest on one relation between the states before and after a step. `Confined` says that a
step changes at most the innermost frame, or the globals if there is no frame. It is an invariant of
rendering, because a frame that has been left takes its bindings with it.
-/

namespace Stencil

open Render

namespace RenderState

/-- A change of at most the innermost frame, or of the globals where there is no frame. -/
structure Confined (before after : RenderState) : Prop where
  depth : after.depth = before.depth
  outer : after.frames.tail = before.frames.tail
  globals : before.frames ≠ [] → after.globals = before.globals

/-- The same frames and globals. -/
structure SameBindings (before after : RenderState) : Prop where
  frames : after.frames = before.frames
  globals : after.globals = before.globals

theorem Confined.trans {first second third : RenderState} (early : Confined first second)
    (late : Confined second third) : Confined first third where
  depth := late.depth.trans early.depth
  outer := late.outer.trans early.outer
  globals inside := by
    have stillInside : second.frames ≠ [] := by
      rw [← List.length_pos_iff] at inside ⊢
      rw [show second.frames.length = first.frames.length from early.depth]
      exact inside
    rw [late.globals stillInside, early.globals inside]

theorem Confined.assign (state : RenderState) (name : String) (value : Value) :
    Confined state (state.assign name value) := by
  rcases frames : state.frames with _ | ⟨frame, outer⟩
  · have bound : state.assign name value =
        { state with globals := state.globals.insert name value } := by
      rw [RenderState.assign, frames]
    rw [bound]
    exact ⟨rfl, rfl, fun inside => absurd frames inside⟩
  · have bound : state.assign name value =
        { state with frames := frame.insert name value :: outer } := by
      rw [RenderState.assign, frames]
    rw [bound]
    refine ⟨?_, ?_, fun _ => rfl⟩
    · simp [RenderState.depth, frames]
    · simp [frames]

/-- Whatever is confined to a frame is gone when the frame is left. -/
theorem Confined.sameBindings_leave {state inside : RenderState} {frame : Entries Value}
    (confined : Confined (state.enter frame) inside) : SameBindings state inside.leave where
  frames := by
    rw [leave_frames, confined.outer, enter_frames, List.tail_cons]
  globals := by
    rw [leave_globals, confined.globals (by simp), enter_globals]

theorem SameBindings.confined {before after : RenderState} (same : SameBindings before after) :
    Confined before after where
  depth := by
    rw [depth, depth, same.frames]
  outer := by
    rw [same.frames]
  globals _ := same.globals

theorem SameBindings.lookup {before after : RenderState} (same : SameBindings before after)
    (data : Value) (name : String) : after.lookup data name = before.lookup data name := by
  rw [RenderState.lookup, RenderState.lookup, same.frames, same.globals]

end RenderState

open RenderState

/-- Expressions bind nothing. -/
theorem sameBindings_evaluation : EvaluationInvariant SameBindings where
  refl _ := ⟨rfl, rfl⟩
  trans early late := ⟨late.frames.trans early.frames, late.globals.trans early.globals⟩
  noting _ _ := ⟨rfl, rfl⟩
  recording _ _ := ⟨rfl, rfl⟩

/-- Nodes bind nothing but in the innermost frame, or in the globals if there is no frame. -/
theorem confined_rendering : RenderingInvariant Confined where
  refl _ := ⟨rfl, rfl, fun _ => rfl⟩
  trans := Confined.trans
  noting _ _ := ⟨rfl, rfl, fun _ => rfl⟩
  recording _ _ := ⟨rfl, rfl, fun _ => rfl⟩
  assign := Confined.assign
  counted _ := ⟨rfl, rfl, fun _ => rfl⟩
  enclosed confined := confined.sameBindings_leave.confined

theorem renderFrom_confined (input : RenderInput) (template : Template) (state : RenderState) :
    Confined state (renderFrom input template state).2 :=
  renderFrom_keeps confined_rendering (fun _ => ⟨rfl, rfl, fun _ => rfl⟩) input template state

/-- What ends a render does not touch the counters of frames. -/
theorem conclude_entered (input : RenderInput) {count : Nat} {before : RenderState}
    (outcome : Except Interruption String × RenderState)
    (entered : Entered count before outcome.2) :
    Entered count before (conclude input outcome).2 := by
  have ending (error : RenderError) (last : RenderState) (reached : Entered count before last) :
      Entered count before (endEarly input error last).2 := by
    unfold endEarly
    split
    · exact reached
    · exact ⟨reached.pushes, reached.pops⟩
  rcases outcome with ⟨(error | error | message) | text, after⟩
  · exact ending error after entered
  · exact ending error after entered
  · exact ending _ _ ⟨entered.pushes, entered.pops⟩
  · exact ⟨entered.pushes, entered.pops⟩

/-- However a render ends, it leaves the depth of the frames as it was. It has entered one frame for
each loop body that it has started, and it has left as many. -/
theorem renderFrom_balances_frames (input : RenderInput) (template : Template)
    (state : RenderState) :
    (renderFrom input template state).2.depth = state.depth ∧
      (renderFrom input template state).2.pushes =
        state.pushes + (nodesStarts input template.children state).length ∧
      (renderFrom input template state).2.pops =
        state.pops + (nodesStarts input template.children state).length := by
  have walked := renderNodes_enters input template.children state
  have entered := conclude_entered input _ walked
  rw [← renderFrom_eq_conclude] at entered
  exact ⟨(renderFrom_confined input template state).depth, entered.pushes, entered.pops⟩

/-- What may be done with the state of a render. -/
inductive Operation where
  | assign (name : String) (value : Value)
  | report (error : RenderError)
  | lookup (name : String)
  | call (name : String) (value : Value) (args : List Value)
  | render (template : Template)
  | enter (frame : Entries Value)
  | leave

namespace Operation

/-- The state that an operation leaves, whether it succeeds or not. -/
def perform (input : RenderInput) (state : RenderState) : Operation → RenderState
  | assign name value => state.assign name value
  | report error => ((Render.report input error).exec state).2
  | lookup _ => state
  | call name value args => ((Render.call input name value args).exec state).2
  | render template => (renderFrom input template state).2
  | enter frame => state.enter frame
  | leave => state.leave

/-- The state that operations leave one after another. -/
def performAll (input : RenderInput) (state : RenderState) (operations : List Operation) :
    RenderState :=
  operations.foldl (perform input) state

/-- Whether operations leave all frames that they enter, after `opened` frames have been entered
before them, and leave no other. -/
def closes : Nat → List Operation → Bool
  | opened, [] => opened == 0
  | opened, enter _ :: rest => closes (opened + 1) rest
  | 0, leave :: _ => false
  | opened + 1, leave :: rest => closes opened rest
  | opened, _ :: rest => closes opened rest

/-- Whether operations leave exactly the frames that they enter, each after it has been entered. -/
def balanced (operations : List Operation) : Bool := closes 0 operations

end Operation

/-- A state inside of a frame above `below`, with `opened` further frames inside of that one. -/
structure RenderState.Above (below : List (Entries Value)) (globals : Entries Value) (opened : Nat)
    (state : RenderState) : Prop where
  frames : ∃ inner, inner.length = opened + 1 ∧ state.frames = inner ++ below
  globals : state.globals = globals

namespace RenderState.Above

variable {below : List (Entries Value)} {globals : Entries Value} {opened : Nat}
  {state after : RenderState}

theorem of_confined (above : Above below globals opened state)
    (confined : Confined state after) : Above below globals opened after := by
  rcases above.frames with ⟨inner, length, frames⟩
  rcases inner with _ | ⟨frame, outer⟩
  · simp at length
  · have inside : state.frames ≠ [] := by simp [frames]
    refine ⟨?_, (confined.globals inside).trans above.globals⟩
    have depth : after.frames.length = state.frames.length := confined.depth
    have tail := confined.outer
    rw [frames] at depth tail
    rcases left : after.frames with _ | ⟨changed, rest⟩
    · simp [left] at depth
    · refine ⟨changed :: outer, length, ?_⟩
      simpa [left] using tail

theorem enter (above : Above below globals opened state) (frame : Entries Value) :
    Above below globals (opened + 1) (state.enter frame) := by
  rcases above.frames with ⟨inner, length, frames⟩
  refine ⟨⟨frame :: inner, ?_, ?_⟩, above.globals⟩
  · rw [List.length_cons, length]
  · rw [enter_frames, frames, List.cons_append]

theorem leave (above : Above below globals (opened + 1) state) :
    Above below globals opened state.leave := by
  rcases above.frames with ⟨inner, length, frames⟩
  rcases inner with _ | ⟨frame, outer⟩
  · simp at length
  · refine ⟨⟨outer, ?_, ?_⟩, above.globals⟩
    · simpa using length
    · rw [leave_frames, frames, List.cons_append, List.tail_cons]

/-- Balanced operations never come down to the frames below. -/
theorem performAll (input : RenderInput) (operations : List Operation)
    (closing : Operation.closes opened operations = true)
    (above : Above below globals opened state) :
    Above below globals 0 (Operation.performAll input state operations) := by
  induction operations generalizing opened state with
  | nil =>
      have none : opened = 0 := by simpa [Operation.closes] using closing
      rwa [none] at above
  | cons operation rest ih =>
      rw [Operation.performAll, List.foldl_cons]
      cases operation with
      | assign name value => exact ih closing (above.of_confined (Confined.assign state name value))
      | report error =>
          exact ih closing (above.of_confined (confined_rendering.report input error state))
      | lookup name => exact ih closing above
      | call name value args =>
          exact ih closing (above.of_confined (confined_rendering.call input name value args state))
      | render template =>
          exact ih closing (above.of_confined (renderFrom_confined input template state))
      | enter frame => exact ih closing (above.enter frame)
      | leave =>
          cases opened with
          | zero => simp [Operation.closes] at closing
          | succ opened => exact ih closing above.leave

end RenderState.Above

/-- Entering a frame, doing anything that is balanced inside of it and leaving it changes no
binding. -/
theorem sameBindings_enclosed (input : RenderInput) (state : RenderState) (frame : Entries Value)
    (operations : List Operation) (balanced : Operation.balanced operations = true) :
    SameBindings state (Operation.performAll input (state.enter frame) operations).leave := by
  have entered : Above state.frames state.globals 0 (state.enter frame) :=
    ⟨⟨[frame], rfl, rfl⟩, rfl⟩
  have above := entered.performAll input operations balanced
  rcases above.frames with ⟨inner, length, frames⟩
  rcases List.length_eq_one_iff.mp length with ⟨last, rfl⟩
  refine ⟨?_, above.globals⟩
  rw [leave_frames, frames, List.singleton_append, List.tail_cons]

/-- A loop changes no binding, because all that its bodies bind is in the frames of iterations. -/
theorem renderNode_loop_sameBindings (input : RenderInput) (extent : Extent) (iterator : String)
    (iterable : Expr) (body : List Node) :
    Keeps SameBindings (renderNode input (.loop extent iterator iterable body)) := by
  rw [renderNode]
  refine sameBindings_evaluation.bind (sameBindings_evaluation.trace input _) fun _ => ?_
  refine sameBindings_evaluation.loop (fun _ => ⟨rfl, rfl⟩) input _ _ _ iterator
    (evaluate_keeps sameBindings_evaluation input iterable) ?_
  intro frame state
  rw [exec_within]
  exact (renderNodes_keeps confined_rendering input body (state.enter frame)).sameBindings_leave

/-- The scope of a frame is airtight: after balanced operations inside of it, and after a whole loop
however that ends, the frames below, the globals and the value of every name are what they were. -/
theorem loop_scopes_airtight (input : RenderInput) (state : RenderState) :
    (∀ (frame : Entries Value) (operations : List Operation),
      Operation.balanced operations = true →
        let after := (Operation.performAll input (state.enter frame) operations).leave
        after.frames = state.frames ∧ after.globals = state.globals ∧
          ∀ name, after.lookup input.data name = state.lookup input.data name) ∧
    (∀ (extent : Extent) (iterator : String) (iterable : Expr) (body : List Node),
        let after := ((renderNode input (.loop extent iterator iterable body)).run.run state).2
        after.frames = state.frames ∧ after.globals = state.globals ∧
          ∀ name, after.lookup input.data name = state.lookup input.data name) := by
  refine ⟨?_, ?_⟩
  · intro frame operations balanced
    have same := sameBindings_enclosed input state frame operations balanced
    exact ⟨same.frames, same.globals, same.lookup input.data⟩
  · intro extent iterator iterable body
    have same := renderNode_loop_sameBindings input extent iterator iterable body state
    exact ⟨same.frames, same.globals, same.lookup input.data⟩

/-- A name that is shadowed and bound again inside of a frame, with another frame inside of it. -/
theorem loop_scopes_airtight_shadowed :
    let input : RenderInput := ⟨.object [("y", .bool true)], Registry.empty, {}⟩
    let state : RenderState := { globals := [("x", .null)] }
    let operations : List Operation :=
      [.assign "x" (.bool false), .enter [("y", .null)], .assign "y" .undefined, .leave,
        .render
          ⟨[.assignment ⟨Span.empty, none⟩ "x" (.literal ⟨Span.empty, none⟩ .null)], Span.empty⟩,
        .lookup "x"]
    let after :=
      (Operation.performAll input (state.enter [("x", .string "inner")]) operations).leave
    Operation.balanced operations = true ∧
      (after.frames = [] ∧ after.globals = [("x", .null)] ∧
        ∀ name, after.lookup input.data name = state.lookup input.data name) := by
  intro input state operations after
  exact ⟨rfl, (loop_scopes_airtight input state).1 [("x", .string "inner")] operations rfl⟩

end Stencil
