import Stencil.Proofs.Render.Coupling
/-!
# Throwing the first problem

A render that throws problems stops at the first problem that a lenient render of the same template
records, and hands back that very problem. Without one, both renders give the same.

Two runs are compared step by step from a common state. As long as the lenient run records nothing,
the two are the same run; as soon as it records a problem, the throwing run has ended with it, and
whatever the lenient run records later comes behind it (`Parallel`). That relation chains along the
steps of a render and holds of the single steps, which is all that a coupling of two renders asks
(`agreeing`), so it holds of whole templates.
-/

namespace Stencil

open Render

namespace RenderInput

/-- The same input with problems collected. -/
def lenient (input : RenderInput) : RenderInput :=
  { input with options := { input.options with throwOnError := false } }

/-- The same input with problems thrown. -/
def throwing (input : RenderInput) : RenderInput :=
  { input with options := { input.options with throwOnError := true } }

end RenderInput

/-- The problem that an interruption carries. A panic has none before the render reports it. -/
def Interruption.problem? : Interruption → Option RenderError
  | thrown error => some error
  | halted error => some error
  | panicked _ => none

namespace Render

variable {α β : Type}

/-- How a lenient and a throwing run compare that began in the same state. -/
inductive Parallel (state : RenderState)
    (lenient throwing : Except Interruption α × RenderState) : Prop where
  /-- Nothing has been recorded. The runs are the same, and no problem has ended them. -/
  | together (clean : lenient.2.errors = state.errors) (same : throwing = lenient)
      (unbroken : ∀ stop, lenient.1 = .error stop → stop.problem? = none)
  /-- Something has been recorded. The throwing run has ended with the first of it. -/
  | apart (first : RenderError) (others : List RenderError)
      (recorded : lenient.2.errors.toList = state.errors.toList ++ first :: others)
      (broken : ∃ stop, throwing.1 = .error stop ∧ stop.problem? = some first)

namespace Parallel

variable {state : RenderState} {lenient throwing : Except Interruption α × RenderState}

/-- A lenient run only ever adds problems behind those recorded before. -/
theorem extends_errors (parallel : Parallel state lenient throwing) :
    ∃ more, lenient.2.errors.toList = state.errors.toList ++ more := by
  cases parallel with
  | together clean same unbroken => exact ⟨[], by rw [clean, List.append_nil]⟩
  | apart first others recorded broken => exact ⟨first :: others, recorded⟩

/-- Only the problems of the state in which the runs began matter. -/
theorem of_errors_eq {earlier : RenderState} (parallel : Parallel state lenient throwing)
    (clean : state.errors = earlier.errors) : Parallel earlier lenient throwing := by
  cases parallel with
  | together same equal unbroken => exact .together (same.trans clean) equal unbroken
  | apart first others recorded broken =>
      rw [clean] at recorded
      exact .apart first others recorded broken

end Parallel

/-- What ends a call is a panic. -/
theorem problem?_of_call {answer : CallResult} {stop : Interruption}
    (ended : ofCallResult answer = .error stop) : stop.problem? = none := by
  rcases answer with (error | message) | result
  · cases ended
  · cases ended
    rfl
  · cases ended

/-- That two steps compare in this way from every state. -/
def Agree (lenient throwing : Render α) : Prop :=
  ∀ state, Parallel state (lenient.exec state) (throwing.exec state)

namespace Agree

/-- A step that records nothing and that no problem ends agrees with itself. -/
theorem refl {action : Render α} (clean : ∀ state, (action.exec state).2.errors = state.errors)
    (unbroken : ∀ state stop, (action.exec state).1 = .error stop → stop.problem? = none) :
    Agree action action :=
  fun state => .together (clean state) rfl (unbroken state)

theorem pure (value : α) : Agree (Pure.pure value) (Pure.pure value) :=
  refl (fun _ => rfl) (fun _ stop ended => by cases ended)

theorem get : Agree MonadState.get MonadState.get :=
  refl (fun _ => rfl) (fun _ stop ended => by cases ended)

theorem changing {change : RenderState → RenderState}
    (clean : ∀ state, (change state).errors = state.errors) :
    Agree (modify change) (modify change) :=
  refl clean (fun _ stop ended => by cases ended)

theorem bind {first first' : Render α} {next next' : α → Render β} (agree : Agree first first')
    (rest : ∀ value, Agree (next value) (next' value)) :
    Agree (first >>= next) (first' >>= next') := by
  intro state
  have parallel := agree state
  rw [exec_bind, exec_bind]
  cases parallel with
  | together clean same unbroken =>
      rw [same]
      generalize first.exec state = outcome at clean unbroken ⊢
      rcases outcome with ⟨stop | value, after⟩
      · refine .together clean rfl ?_
        rintro stop' ⟨rfl⟩
        exact unbroken stop rfl
      · exact (rest value after).of_errors_eq clean
  | apart problem others recorded broken =>
      rcases broken with ⟨stop, ended, carried⟩
      generalize first.exec state = lenient at recorded ⊢
      generalize first'.exec state = throwing at ended ⊢
      rcases throwing with ⟨result, thrownAt⟩
      dsimp only at ended
      subst ended
      rcases lenient with ⟨_ | value, after⟩
      · exact .apart problem others recorded ⟨stop, rfl, carried⟩
      · rcases (rest value after).extends_errors with ⟨more, extended⟩
        refine .apart problem (others ++ more) ?_ ⟨stop, rfl, carried⟩
        rw [extended, recorded, List.append_assoc, List.cons_append]

theorem trace (input : RenderInput) (line : String) :
    Agree (Render.trace input.lenient line) (Render.trace input.throwing line) := by
  refine refl (fun state => ?_) (fun state stop ended => ?_)
  · rcases exec_trace input.lenient line state with ⟨lines, traced⟩
    rw [traced]
    rfl
  · rcases exec_trace input.lenient line state with ⟨lines, traced⟩
    rw [traced] at ended
    cases ended

theorem note (line : String) : Agree (Render.note line) (Render.note line) :=
  changing fun _ => rfl

/-- Where the two runs part: one records a problem and goes on, and the other ends with it. -/
theorem report (input : RenderInput) (error : RenderError) :
    Agree (Render.report input.lenient error) (Render.report input.throwing error) := by
  intro state
  refine .apart error [] ?_ ⟨.thrown error, rfl, rfl⟩
  change (state.errors.push error).toList = _
  rw [Array.toList_push]

theorem halt (error : RenderError) : Agree (Render.halt (α := α) error) (Render.halt error) := by
  intro state
  refine .apart error [] ?_ ⟨.halted error, rfl, rfl⟩
  change (state.errors.push error).toList = _
  rw [Array.toList_push]

theorem call (input : RenderInput) (name : String) (value : Value) (args : List Value) :
    Agree (Render.call input.lenient name value args)
      (Render.call input.throwing name value args) := by
  refine refl (fun state => ?_) (fun state stop ended => ?_)
  · rw [exec_call]
    rfl
  · rw [exec_call] at ended
    exact problem?_of_call ended

theorem within {lenient throwing : Render α} (frame : Entries Value)
    (agree : Agree lenient throwing) :
    Agree (Render.within frame lenient) (Render.within frame throwing) := by
  intro state
  rw [exec_within, exec_within]
  cases agree (state.enter frame) with
  | together clean same unbroken =>
      refine .together clean ?_ unbroken
      rw [same]
  | apart first others recorded broken => exact .apart first others recorded broken

theorem access (input : RenderInput) (span : Span) (root : String) (steps : List ResolvedStep) :
    Agree (Render.access input.lenient span root steps)
      (Render.access input.throwing span root steps) := by
  unfold Render.access
  refine get.bind fun state => ?_
  dsimp only [RenderInput.lenient, RenderInput.throwing]
  cases state.lookup input.data root with
  | some value => exact pure _
  | none => exact (report input _).bind fun _ => pure _

theorem countIteration (input : RenderInput) (span : Span) (path : String) :
    Agree (Render.countIteration input.lenient span path)
      (Render.countIteration input.throwing span path) := by
  unfold Render.countIteration
  refine bind (changing ?_) fun _ => ?_
  · exact fun _ => rfl
  dsimp only [RenderInput.lenient, RenderInput.throwing]
  cases input.options.maxIterations with
  | none => exact pure _
  | some limit =>
      refine get.bind fun state => ?_
      split
      · exact halt _
      · exact pure _

theorem round (input : RenderInput) (span : Span) (path : String) (frame : Entries Value)
    {body body' : Render String} (bodies : Agree body body') :
    Agree (Render.round input.lenient span path frame body)
      (Render.round input.throwing span path frame body') :=
  (countIteration input span path).bind fun _ => bodies.within frame

theorem capped (input : RenderInput) (span : Span) (path : String) {rest rest' : Render String}
    (agree : Agree rest rest') :
    Agree (Render.capped input.lenient span path rest)
      (Render.capped input.throwing span path rest') := by
  unfold Render.capped
  refine get.bind fun state => ?_
  change Agree (if input.options.maxDepth ≤ state.depth then _ else _)
    (if input.options.maxDepth ≤ state.depth then _ else _)
  split
  · exact (report input _).bind fun _ => pure _
  · exact agree

theorem assign (name : String) (value : Value) :
    Agree (modify fun state => state.assign name value)
      (modify fun state => state.assign name value) := by
  refine changing fun state => ?_
  rw [RenderState.assign]
  split <;> rfl

end Agree

/-- A lenient and a throwing render are coupled by how their steps compare, whatever bodies of loops
start in them. -/
theorem agreeing (input : RenderInput) :
    RenderingCoupling input.lenient input.throwing Agree
      (fun _ action _ action' => Agree action action') where
  pure := Agree.pure
  bind := Agree.bind
  note := Agree.note
  trace := Agree.trace input
  report := Agree.report input
  call := Agree.call input
  access := Agree.access input
  shown _ := rfl
  assign := Agree.assign
  evaluation agree := agree
  chain := Agree.bind
  round span path frame := Agree.round input span path frame
  capped span path := Agree.capped input span path

end Render

/-- A lenient render gives a result however it ends, with all that has been recorded. -/
theorem conclude_lenient (input : RenderInput)
    (outcome : Except Interruption String × RenderState) :
    ∃ text more success, (conclude input.lenient outcome).1 =
      .ok { text, errors := outcome.2.errors.toList ++ more, success } := by
  rcases outcome with ⟨(error | error | message) | text, after⟩
  · exact ⟨"", [], false, by simp [conclude, endEarly, RenderInput.lenient, RenderState.takeErrors]⟩
  · exact ⟨"", [], false, by simp [conclude, endEarly, RenderInput.lenient, RenderState.takeErrors]⟩
  · refine ⟨"", [panicError message], false, ?_⟩
    change Except.ok _ = _
    rw [← Array.toList_push]
    rfl
  · exact ⟨text, [], after.errors.toList.isEmpty, by simp [conclude]⟩

/-- A throwing render that a problem has ended hands that problem back. -/
theorem conclude_throwing_of_problem (input : RenderInput) {stop : Interruption}
    {error : RenderError} (carried : stop.problem? = some error) (after : RenderState) :
    (conclude input.throwing (.error stop, after)).1 = .error error := by
  cases stop with
  | thrown thrown =>
      cases carried
      rfl
  | halted last =>
      cases carried
      rfl
  | panicked message => cases carried

/-- A throwing render hands back the first problem that a lenient render records, whole: its kind,
message, path, region and function. If there is none, both renders succeed with the same text. -/
theorem throwing_render_returns_first_problem (input : RenderInput) (template : Template) :
    ∃ output, render input.lenient template = .ok output ∧
      render input.throwing template =
        match output.errors with
        | [] => .ok { text := output.text, errors := [], success := true }
        | first :: _ => .error first := by
  have parallel := renderNodes_coupled (agreeing input) template.children {}
  rw [render, render, renderFrom_eq_conclude, renderFrom_eq_conclude]
  generalize (renderNodes input.lenient template.children).exec {} = outcome at parallel ⊢
  cases parallel with
  | together clean same unbroken =>
      rw [same]
      rcases outcome with ⟨stop | text, after⟩
      · rcases stop with error | error | message
        · cases unbroken _ rfl
        · cases unbroken _ rfl
        · refine ⟨⟨"", [panicError message], false⟩, ?_, rfl⟩
          dsimp only at clean
          change Except.ok (RenderOutput.mk "" (after.errors.push _).toList false) = _
          rw [clean]
          rfl
      · refine ⟨⟨text, [], true⟩, ?_, ?_⟩ <;>
        · dsimp only at clean
          rw [conclude, clean]
          rfl
  | apart first others recorded broken =>
      rcases broken with ⟨stop, ended, carried⟩
      rcases conclude_lenient input outcome with ⟨text, more, success, concluded⟩
      refine ⟨_, concluded, ?_⟩
      generalize (renderNodes input.throwing template.children).exec {} = thrown at ended ⊢
      rcases thrown with ⟨result, after⟩
      dsimp only at ended
      subst ended
      rw [conclude_throwing_of_problem input carried, recorded]
      rfl

end Stencil
