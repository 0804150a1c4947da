import Stencil.Proofs.Render.Iterations
/-!
# Evaluations in a scope

What an evaluation comes to depends on the names that are bound where it is done, and on nothing
that has been recorded before. `AmountsTo` says that an action gives a value wherever the same names
are bound, with problems of its own behind those recorded before, and that it binds nothing.

Where problems are collected and no function panics, every evaluation amounts to something, whether
iterations are limited or not. So evaluations that are done one after another in a scope can be told
one by one.
-/

namespace Stencil

open Render RenderState

namespace Render

variable {α β : Type} {input : RenderInput} {scope : RenderState}

/-- That an action gives a value and records problems wherever the same names are bound as in a
scope, and leaves them bound as they are. -/
def AmountsTo (action : Render α) (scope : RenderState) (value : α) (problems : List RenderError) :
    Prop :=
  ∀ state, SameBindings scope state → ∃ after, action.exec state = (.ok value, after) ∧
    SameBindings scope after ∧ after.errors.toList = state.errors.toList ++ problems

namespace AmountsTo

theorem pure (value : α) : AmountsTo (Pure.pure value) scope value [] := by
  intro state same
  exact ⟨state, rfl, same, by simp⟩

theorem bind {action : Render α} {next : α → Render β} {value : α} {result : β}
    {problems more : List RenderError} (first : AmountsTo action scope value problems)
    (later : AmountsTo (next value) scope result more) :
    AmountsTo (action >>= next) scope result (problems ++ more) := by
  intro state same
  rcases first state same with ⟨between, done, stillSame, recorded⟩
  rcases later between stillSame with ⟨after, doneLater, lastSame, recordedLater⟩
  refine ⟨after, ?_, lastSame, ?_⟩
  · rw [exec_bind_ok done, doneLater]
  · simp [recordedLater, recorded]

/-- An action that gives a value and only adds lines to the log. -/
theorem noting {action : Render α} {value : α}
    (noted : ∀ state, ∃ lines, action.exec state = (.ok value, state.noting lines)) :
    AmountsTo action scope value [] := by
  intro state same
  rcases noted state with ⟨lines, done⟩
  exact ⟨_, done, ⟨same.frames, same.globals⟩, (List.append_nil _).symm⟩

theorem trace (line : String) : AmountsTo (Render.trace input line) scope () [] := by
  apply noting
  intro state
  exact exec_trace input line state

theorem report (collects : input.options.throwOnError = false) (error : RenderError) :
    AmountsTo (Render.report input error) scope () [error] := by
  intro state same
  refine ⟨_, exec_report_lenient collects error state, ⟨same.frames, same.globals⟩, ?_⟩
  exact Array.toList_push

theorem call {name : String} {value : Value} {args : List Value}
    {answer : Except FunctionError Value}
    (called : ofCallResult (input.registry.call name value args) = .ok answer) :
    AmountsTo (Render.call input name value args) scope answer [] := by
  apply noting
  intro state
  rw [exec_call, called]
  exact ⟨_, rfl⟩

/-- An action amounts to one value and one list of problems. -/
theorem unique {action : Render α} {value other : α} {problems more : List RenderError}
    (amounts : AmountsTo action scope value problems) (again : AmountsTo action scope other more) :
    other = value ∧ more = problems := by
  rcases amounts scope ⟨rfl, rfl⟩ with ⟨after, done, _, recorded⟩
  rcases again scope ⟨rfl, rfl⟩ with ⟨_, doneAgain, _, recordedAgain⟩
  rw [done] at doneAgain
  cases doneAgain
  rw [recorded] at recordedAgain
  exact ⟨rfl, (List.append_cancel_left recordedAgain).symm⟩

end AmountsTo

/-- The same steps, told under no limit on iterations, and that they bind nothing. -/
theorem unlimited_evaluation (input : RenderInput) :
    EvaluationCoupling input (input.limited input.options.maxDepth none)
      (fun action action' => action' = action ∧ Keeps SameBindings action) :=
  sameBindings_evaluation.coupling input _ none

/-- An action amounts to something if it always goes on, binds nothing, and does the same wherever
the same names are bound. -/
theorem exists_amountsTo {action unlimited : Render α} {problems : Problems}
    (collects : input.options.throwOnError = false) (proper : input.registry.NeverPanics)
    (same : unlimited = action ∧ Keeps SameBindings action) (echoed : Echoed action action)
    (raises : Raises (input.limited input.options.maxDepth none) problems unlimited)
    (scope : RenderState) : ∃ value own, AmountsTo action scope value own := by
  rcases same with ⟨rfl, kept⟩
  have unbroken : (input.limited input.options.maxDepth none).Unbroken := ⟨collects, rfl, proper⟩
  have goesOn (state : RenderState) := unbroken.exists_ok (raises state)
  rcases goesOn scope.scope with ⟨value, alone, done⟩
  refine ⟨value, alone.errors.toList, ?_⟩
  intro state bound
  have echoes : Echoes state scope.scope :=
    ⟨⟨bound.frames.symm, bound.globals.symm⟩, Nat.zero_le _⟩
  have echo := echoed state scope.scope echoes
  have keeps := kept state
  rcases goesOn state with ⟨here, after, doneHere⟩
  rw [done, doneHere] at echo
  rw [doneHere] at keeps ⊢
  cases echo with
  | same _ recorded recorded' =>
      have started : scope.scope.errors.toList = [] := rfl
      rw [started, List.nil_append] at recorded'
      rw [← recorded'] at recorded
      exact ⟨after, rfl, ⟨keeps.frames.trans bound.frames, keeps.globals.trans bound.globals⟩,
        recorded⟩

end Render

section Evaluations

variable {input : RenderInput} (collects : input.options.throwOnError = false)
  (proper : input.registry.NeverPanics) (scope : RenderState)

include collects proper

theorem evaluate_amountsTo (expr : Expr) :
    ∃ value problems, AmountsTo (evaluate input expr) scope value problems :=
  exists_amountsTo collects proper (evaluate_coupled (unlimited_evaluation input) expr)
    (evaluate_coupled (echoCoupling input).toEvaluationCoupling expr) (evaluate_raises _ expr) scope

theorem evaluateAll_amountsTo (exprs : List Expr) :
    ∃ values problems, AmountsTo (evaluateAll input exprs) scope values problems :=
  exists_amountsTo collects proper (evaluateAll_coupled (unlimited_evaluation input) exprs)
    (evaluateAll_coupled (echoCoupling input).toEvaluationCoupling exprs)
    (evaluateAll_raises _ exprs) scope

theorem evaluatePath_amountsTo (path : List (PathStep Expr)) :
    ∃ steps problems, AmountsTo (evaluatePath input path) scope steps problems :=
  exists_amountsTo collects proper (evaluatePath_coupled (unlimited_evaluation input) path)
    (evaluatePath_coupled (echoCoupling input).toEvaluationCoupling path)
    (evaluatePath_raises _ path) scope

end Evaluations

end Stencil
