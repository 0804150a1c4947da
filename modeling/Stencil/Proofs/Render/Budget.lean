import Stencil.Proofs.Render.Coupling
import Stencil.Proofs.Render.Scopes
/-!
# The budget of loop iterations

A render with a limit on iterations is compared with the render of the same template without one. As
long as the limit is not exceeded the two are the same. In the iteration that is one too many the
limited render ends with one more problem, and has started the bodies that the other has started
until then, and no other (`Bounded`).
-/

namespace Stencil

open Render

/-- The states in which loop bodies start in the render of a template on a fresh context, in
order. -/
def loopStarts (input : RenderInput) (template : Template) : List RenderState :=
  nodesStarts input template.children {}

/-- How a step without a limit on iterations and the same step with one compare, begun in the same
state: by the states in which loop bodies start, and by how the steps end. -/
inductive Bounded {α : Type} (limit : Nat) (state : RenderState) :
    List RenderState → Except Interruption α × RenderState →
      List RenderState → Except Interruption α × RenderState → Prop where
  /-- The limit has not been exceeded. The steps are the same. -/
  | within {starts : List RenderState} {outcome : Except Interruption α × RenderState}
      (counted : outcome.2.iterations = state.iterations + starts.length)
      (fits : outcome.2.iterations ≤ limit) : Bounded limit state starts outcome starts outcome
  /-- The limited step has ended where the other has started one body more than it may. -/
  | cut {early late : List RenderState} {next after : RenderState}
      {outcome : Except Interruption α × RenderState} {span : Span} {path : String}
      (count : state.iterations + early.length = limit)
      (recorded : after.errors = next.errors.push (overBudget limit span path)) :
      Bounded limit state (early ++ next :: late) outcome early
        (.error (.halted (overBudget limit span path)), after)

/-- That no iteration is counted between two states. -/
def RenderState.SameCount (before after : RenderState) : Prop :=
  after.iterations = before.iterations

theorem sameCount_evaluation : EvaluationInvariant RenderState.SameCount where
  refl _ := rfl
  trans early late := late.trans early
  noting _ _ := rfl
  recording _ _ := rfl

namespace Bounded

variable {α β : Type} {limit : Nat} {state : RenderState}

/-- A step without loops is the same with a limit and without. -/
theorem evaluation {action action' : Render α}
    (same : action' = action ∧ Keeps RenderState.SameCount action) (fits : state.iterations ≤ limit) :
    Bounded limit state (Starts.none state) (action.exec state) (Starts.none state)
      (action'.exec state) := by
  rcases same with ⟨rfl, kept⟩
  have count : (action'.exec state).2.iterations = state.iterations := kept state
  apply Bounded.within
  · simp [count, Starts.none]
  · omega

/-- What comes behind starts that are the same. -/
theorem behind {starts : List RenderState} {middle : RenderState}
    {late late' : List RenderState} {outcome outcome' : Except Interruption α × RenderState}
    (counted : middle.iterations = state.iterations + starts.length)
    (bounded : Bounded limit middle late outcome late' outcome') :
    Bounded limit state (starts ++ late) outcome (starts ++ late') outcome' := by
  cases bounded with
  | within more fits =>
      apply Bounded.within _ fits
      rw [more, counted, List.length_append, Nat.add_assoc]
  | @cut early late next after _ span path count recorded =>
      rw [← List.append_assoc]
      apply Bounded.cut _ recorded
      rw [List.length_append]
      omega

theorem chain {starts starts' : Starts} {action action' : Render α} {later later' : α → Starts}
    {next next' : α → Render β}
    (first : Bounded limit state (starts state) (action.exec state) (starts' state)
      (action'.exec state))
    (rest : ∀ value middle, middle.iterations ≤ limit →
      Bounded limit middle (later value middle) ((next value).exec middle) (later' value middle)
        ((next' value).exec middle)) :
    Bounded limit state (starts.bind action later state) ((action >>= next).exec state)
      (starts'.bind action' later' state) ((action' >>= next').exec state) := by
  simp only [Starts.bind, exec_bind]
  generalize starts state = here at first ⊢
  generalize starts' state = here' at first ⊢
  generalize action.exec state = outcome at first ⊢
  generalize action'.exec state = outcome' at first ⊢
  cases first with
  | within counted fits =>
      rcases outcome with ⟨stop | value, after⟩
      · simp only [List.append_nil]
        exact .within counted fits
      · exact (rest value after fits).behind counted
  | cut count recorded =>
      simp only [List.append_assoc, List.cons_append, List.append_nil]
      exact .cut count recorded

/-- A body that starts inside of a frame has started one body more. -/
theorem enclosed {frame : Entries Value} {starts starts' : List RenderState}
    {outcome outcome' : Except Interruption α × RenderState}
    (inner : Bounded limit (state.counted.enter frame) starts outcome starts' outcome') :
    Bounded limit state (state.counted.enter frame :: starts) (outcome.1, outcome.2.leave)
      (state.counted.enter frame :: starts') (outcome'.1, outcome'.2.leave) := by
  have counted : (state.counted.enter frame).iterations = state.iterations + 1 := rfl
  cases inner with
  | within more below =>
      apply Bounded.within
      · change outcome.2.iterations = _
        simp only [List.length_cons]
        omega
      · exact below
  | @cut early late next after _ span path count recorded =>
      rw [← List.cons_append]
      apply Bounded.cut
      · simp only [List.length_cons]
        omega
      · exact recorded

theorem round {input limited : RenderInput} (unlimited : input.options.maxIterations = none)
    (bounds : limited.options.maxIterations = some limit) (span : Span) (path : String)
    (frame : Entries Value) {inside inside' : Starts} {body body' : Render String}
    (bodies : ∀ state : RenderState, state.iterations ≤ limit → Bounded limit state (inside state)
      (body.exec state) (inside' state) (body'.exec state))
    (fits : state.iterations ≤ limit) :
    Bounded limit state (Starts.round input span path frame inside state)
      ((Render.round input span path frame body).exec state)
      (Starts.round limited span path frame inside' state)
      ((Render.round limited span path frame body').exec state) := by
  have counted := exec_countIteration_of_none unlimited span path state
  simp only [Starts.round, Render.round, Starts.bind, Starts.none, List.nil_append, exec_bind,
    counted]
  by_cases exceeded : limit < state.iterations + 1
  · -- The body that starts here is the one too many.
    simp only [exec_countIteration_of_lt bounds exceeded]
    have count : state.iterations + ([] : List RenderState).length = limit := by
      simp only [List.length_nil]
      omega
    exact Bounded.cut count rfl
  · have room : state.iterations + 1 ≤ limit := by omega
    simp only [exec_countIteration_of_le bounds room, exec_within, Starts.within]
    exact (bodies (state.counted.enter frame) room).enclosed

variable {starts starts' : List RenderState} {outcome outcome' : Except Interruption α × RenderState}

/-- A limit that is not exceeded changes nothing. -/
theorem eq_of_length_le (bounded : Bounded limit state starts outcome starts' outcome')
    (fits : state.iterations + starts.length ≤ limit) : outcome' = outcome := by
  cases bounded with
  | within counted below => rfl
  | cut count recorded =>
      simp only [List.length_append, List.length_cons] at fits
      omega

/-- A limit that is exceeded ends the step with a problem that is recorded behind those recorded
before the body that is one too many. -/
theorem cut_of_lt (bounded : Bounded limit state starts outcome starts' outcome')
    (first : state.iterations = 0) (exceeded : limit < starts.length) :
    starts' = starts.take limit ∧ ∃ span path after,
      outcome' = (.error (.halted (overBudget limit span path)), after) ∧
        after.errors = starts[limit].errors.push (overBudget limit span path) := by
  cases bounded with
  | within counted below => omega
  | cut count recorded =>
      have length : starts'.length = limit := by omega
      subst length
      refine ⟨by simp, _, _, _, rfl, ?_⟩
      simpa using recorded

end Bounded

/-- A render without a limit on iterations and the same render with one compare in this way. -/
theorem boundedCoupling {input : RenderInput} (unlimited : input.options.maxIterations = none)
    (limit : Nat) :
    RenderingCoupling input (input.limited input.options.maxDepth (some limit))
      (fun action action' => action' = action ∧ Keeps RenderState.SameCount action)
      (fun starts action starts' action' => ∀ state : RenderState, state.iterations ≤ limit →
        Bounded limit state (starts state) (action.exec state) (starts' state)
          (action'.exec state)) where
  toEvaluationCoupling := sameCount_evaluation.coupling input _ _
  shown _ := rfl
  assign name value := by
    refine ⟨rfl, fun state => ?_⟩
    simp only [exec_modify, RenderState.assign]
    split <;> rfl
  evaluation same state fits := Bounded.evaluation same fits
  chain first rest state fits := (first state fits).chain rest
  round span path frame _ _ _ _ bodies state fits :=
    Bounded.round unlimited rfl span path frame bodies fits
  capped span path starts starts' rest rest' inner state fits := by
    unfold Starts.capped Render.capped
    rw [exec_bind_ok (exec_get state), exec_bind_ok (exec_get state)]
    change Bounded limit state (if input.options.maxDepth ≤ state.depth then _ else _) _
      (if input.options.maxDepth ≤ state.depth then _ else _)
      (Render.exec (if input.options.maxDepth ≤ state.depth then _ else _) state)
    split
    · refine Bounded.evaluation ⟨rfl, ?_⟩ fits
      exact sameCount_evaluation.bind (sameCount_evaluation.report input _) fun _ =>
        sameCount_evaluation.pure _
    · exact inner state fits

/-- A render enters and leaves one frame for each loop body that it starts. -/
theorem renderFrom_entered (input : RenderInput) (template : Template) :
    RenderState.Entered (loopStarts input template).length {} (renderFrom input template {}).2 := by
  rw [renderFrom_eq_conclude]
  apply conclude_entered
  exact renderNodes_enters input template.children {}

/-- Renders on a fresh context, without a limit on iterations and with one, compare in this way. -/
theorem bounded_of_limit {input : RenderInput} (unlimited : input.options.maxIterations = none)
    (limit : Nat) (template : Template) :
    Bounded limit {} (loopStarts input template) ((renderNodes input template.children).exec {})
      (loopStarts (input.limited input.options.maxDepth (some limit)) template)
      ((renderNodes (input.limited input.options.maxDepth (some limit)) template.children).exec
        {}) := by
  apply renderNodes_coupled (boundedCoupling unlimited limit) template.children
  exact Nat.zero_le limit

/-- A limit on loop iterations that is not exceeded changes nothing, and a limit that is exceeded
admits exactly as many iterations as it says. The render has then no text, and records the problems
that were recorded before the iteration that is one too many, and one more. -/
theorem iteration_budget_exact (input : RenderInput)
    (collects : input.options.throwOnError = false) (template : Template) (limit : Nat) :
    let unlimited : RenderInput :=
      { input with options := { input.options with maxIterations := none } }
    let limited : RenderInput :=
      { input with options := { input.options with maxIterations := some limit } }
    let started := loopStarts unlimited template
    (renderFrom unlimited template {}).2.pushes = started.length ∧
      (started.length ≤ limit →
        renderFrom limited template {} = renderFrom unlimited template {}) ∧
      ∀ exceeded : limit < started.length,
        loopStarts limited template = started.take limit ∧
          (renderFrom limited template {}).2.pushes = limit ∧
          (renderFrom limited template {}).2.pops = limit ∧
          ∃ span path, render limited template =
            .ok { text := "",
                  errors := started[limit].errors.toList ++ [overBudget limit span path],
                  success := false } := by
  intro unlimited limited started
  have bounded : Bounded limit {} started ((renderNodes unlimited template.children).exec {})
      (loopStarts limited template) ((renderNodes limited template.children).exec {}) :=
    bounded_of_limit rfl limit template
  have entered := renderFrom_entered limited template
  refine ⟨?_, ?_, ?_⟩
  · simpa using (renderFrom_entered unlimited template).pushes
  · intro fits
    have same := bounded.eq_of_length_le (by simpa using fits)
    rw [renderFrom_eq_conclude, renderFrom_eq_conclude, same]
    exact conclude_limited unlimited _ _ _
  · intro exceeded
    rcases bounded.cut_of_lt rfl exceeded with ⟨starts, span, path, after, ended, recorded⟩
    have count : (loopStarts limited template).length = limit := by
      rw [starts, List.length_take]
      omega
    refine ⟨starts, ?_, ?_, span, path, ?_⟩
    · simpa [count] using entered.pushes
    · simpa [count] using entered.pops
    · have lenient : limited.options.throwOnError = false := collects
      rw [render, renderFrom_eq_conclude, ended]
      simp [conclude, endEarly, lenient, RenderState.takeErrors, recorded]

/-- Two loops inside of each other, with a name in the inner one that is bound nowhere. -/
def nestedLoops : Template :=
  let extent : Extent := ⟨Span.empty, none⟩
  let pair : Expr := .array extent [.literal extent .null, .literal extent .null]
  ⟨[.loop extent "x" pair [.loop extent "y" pair [.output extent (.access extent "z" [])]]],
    Span.empty⟩

/-- Of the six iterations of two loops three are allowed. The fourth would be the second of the outer
loop, and two problems have been recorded before it. -/
theorem iteration_budget_exact_nested :
    let input : RenderInput := ⟨.object [], Registry.empty, {}⟩
    let unlimited : RenderInput := ⟨.object [], Registry.empty, { maxIterations := none }⟩
    let limited (limit : Nat) : RenderInput :=
      ⟨.object [], Registry.empty, { maxIterations := some limit }⟩
    let problem := (RenderError.undefinedVariable "z").located Span.empty
    input.options.throwOnError = false ∧
      (loopStarts unlimited nestedLoops).length = 6 ∧
      renderFrom (limited 6) nestedLoops {} = renderFrom unlimited nestedLoops {} ∧
      ∃ span path, render (limited 3) nestedLoops =
        .ok { text := "", errors := [problem, problem, overBudget 3 span path],
              success := false } := by
  intro input unlimited limited problem
  have six : (loopStarts unlimited nestedLoops).length = 6 := rfl
  refine ⟨rfl, six, ?_, ?_⟩
  · exact (iteration_budget_exact input rfl nestedLoops 6).2.1 (by decide)
  · have exceeded : 3 < (loopStarts unlimited nestedLoops).length := by decide
    rcases (iteration_budget_exact input rfl nestedLoops 3).2.2 exceeded with
      ⟨_, _, _, span, path, rendered⟩
    exact ⟨span, path, rendered⟩

end Stencil
