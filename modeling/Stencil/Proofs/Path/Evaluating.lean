import Stencil.Proofs.Path.Following
import Stencil.Proofs.Render.Steps
/-!
# Shared paths as templates evaluate them

Where nothing but the data binds names, an expression that stands for a shared path has the value of
the path. Only a root that is not found is a problem, so no problem is recorded where all roots are
found. Filters are called with the values of their constants, and a chain of calls that all succeed
has the result of the last one.
-/

namespace Stencil

/-- That no loop and no assignment has bound a name. -/
structure RenderState.Unbound (state : RenderState) : Prop where
  frames : state.frames = []
  globals : state.globals = []

theorem RenderState.Unbound.lookup {state : RenderState} (unbound : state.Unbound)
    (entries : Entries Value) (name : String) :
    state.lookup (.object entries) name = entries.find? name := by
  rw [RenderState.lookup, unbound.frames, unbound.globals]
  rfl

namespace Render

variable {α β : Type}

/-- That an action goes on with a value and binds nothing where nothing is bound, and records no
problem if it is quiet. -/
def Yields (action : Render α) (value : α) (quiet : Prop) : Prop :=
  ∀ state : RenderState, state.Unbound → ∃ after, action.exec state = (.ok value, after) ∧
    after.Unbound ∧ (quiet → after.errors = state.errors)

namespace Yields

variable {quiet : Prop}

theorem pure (value : α) : Yields (Pure.pure value) value quiet := by
  intro state unbound
  exact ⟨state, rfl, unbound, fun _ => rfl⟩

theorem bind {action : Render α} {next : α → Render β} {value : α} {result : β}
    (first : Yields action value quiet) (later : Yields (next value) result quiet) :
    Yields (action >>= next) result quiet := by
  intro state unbound
  rcases first state unbound with ⟨between, done, stillUnbound, same⟩
  rcases later between stillUnbound with ⟨after, doneLater, lastUnbound, sameLater⟩
  refine ⟨after, ?_, lastUnbound, fun silent => (sameLater silent).trans (same silent)⟩
  rw [exec_bind_ok done]
  exact doneLater

theorem mono {louder : Prop} {action : Render α} {value : α} (yields : Yields action value quiet)
    (weaker : louder → quiet) : Yields action value louder := by
  intro state unbound
  rcases yields state unbound with ⟨after, done, stillUnbound, same⟩
  exact ⟨after, done, stillUnbound, fun silent => same (weaker silent)⟩

theorem trace (input : RenderInput) (line : String) :
    Yields (Render.trace input line) () quiet := by
  intro state unbound
  rcases exec_trace input line state with ⟨lines, traced⟩
  exact ⟨state.noting lines, traced, ⟨unbound.frames, unbound.globals⟩, fun _ => rfl⟩

theorem call {input : RenderInput} {name : String} {value result : Value} {args : List Value}
    (succeeds : input.registry.call name value args = .ok result) :
    Yields (Render.call input name value args) (.ok result) quiet := by
  intro state unbound
  rw [exec_call, succeeds]
  exact ⟨_, rfl, ⟨unbound.frames, unbound.globals⟩, fun _ => rfl⟩

/-- A filter that succeeds yields its result. -/
theorem applyFilter {input : RenderInput} {name : String} {value result : Value}
    {args : List Value} (span : Span)
    (succeeds : input.registry.call name value args = .ok result) :
    Yields (Render.applyFilter input name span args value) result quiet := by
  unfold Render.applyFilter
  exact (trace input _).bind ((call succeeds).bind (pure result))

end Yields

end Render

open Render

/-- A filter that succeeds in a path is a call that succeeds. -/
theorem Query.call_of_applyFilter {registry : Registry} {value result : Value}
    {filter : PathFilter} (succeeds : Query.applyFilter registry value filter = .ok result) :
    registry.call filter.name value filter.args = .ok result := by
  rw [Query.applyFilter] at succeeds
  rcases called : registry.call filter.name value filter.args with (error | message) | found
  · rw [called] at succeeds
    cases succeeds
  · rw [called] at succeeds
    cases succeeds
  · rw [called] at succeeds
    cases succeeds
    rfl

section

variable {input : RenderInput} {entries : Entries Value}

/-- A problem is reported without an interruption where problems are collected. -/
theorem report_yields (lenient : input.options.throwOnError = false) (error : RenderError) :
    Yields (report input error) () False := by
  intro state unbound
  refine ⟨state.recordSoftly error, ?_, ⟨unbound.frames, unbound.globals⟩, nofun⟩
  rw [report, lenient]
  rfl

theorem access_yields (lenient : input.options.throwOnError = false)
    (rooted : input.data = .object entries) (span : Span) (root : RootName)
    (steps : List SharedStep) :
    Yields (access input span root.name (SharedStep.resolvedAll entries steps))
      ((SharedKey.path root steps).value entries) ((entries.find? root.name).isSome = true) := by
  intro state unbound
  have bound := unbound.lookup entries root.name
  rw [access, exec_bind_ok (exec_get state), rooted, bound, SharedKey.value]
  cases entries.find? root.name with
  | some found => exact ⟨state, rfl, unbound, fun _ => rfl⟩
  | none =>
      rcases report_yields lenient ((RenderError.undefinedVariable root.name).located span) state
        unbound with ⟨after, reported, stillUnbound, _⟩
      refine ⟨after, ?_, stillUnbound, nofun⟩
      rw [exec_bind_ok reported]
      rfl

mutual

/-- An expression that stands for a key has its value. -/
theorem evaluate_key (lenient : input.options.throwOnError = false)
    (rooted : input.data = .object entries) (key : SharedKey) (expr : Expr)
    (stands : expr.bare = key.tree) :
    Yields (evaluate input expr) (key.value entries) (key.rootsFound entries) := by
  cases key with
  | position digits =>
      rcases Expr.literal_of_bare stands with ⟨place, rfl⟩
      rw [evaluate]
      exact Yields.pure _
  | quoted quoted =>
      rcases Expr.literal_of_bare stands with ⟨place, rfl⟩
      rw [evaluate]
      exact Yields.pure _
  | path root steps =>
      rcases Expr.access_of_bare stands with ⟨place, path, rfl, bare⟩
      rw [evaluate]
      have keys := evaluatePath_steps lenient rooted steps path bare
      have found := access_yields lenient rooted place.span root steps
      exact (keys.mono And.right).bind (found.mono And.left)

/-- The steps of a path have the values of their keys. -/
theorem evaluatePath_steps (lenient : input.options.throwOnError = false)
    (rooted : input.data = .object entries) (steps : List SharedStep)
    (path : List (PathStep Expr)) (stands : Expr.barePath path = SharedStep.trees steps) :
    Yields (evaluatePath input path) (SharedStep.resolvedAll entries steps)
      (SharedStep.allRootsFound entries steps) := by
  cases steps with
  | nil =>
      rw [Expr.path_nil_of_bare stands, evaluatePath]
      exact Yields.pure _
  | cons step others =>
      cases step with
      | property name =>
          rcases Expr.path_property_of_bare stands with ⟨path, rfl, bare⟩
          rw [evaluatePath]
          have later := evaluatePath_steps lenient rooted others path bare
          exact (later.mono And.right).bind (Yields.pure _)
      | bracket before key after =>
          rcases Expr.path_index_of_bare stands with ⟨inner, path, rfl, bareKey, bare⟩
          rw [evaluatePath]
          have first := evaluate_key lenient rooted key inner bareKey
          have later := evaluatePath_steps lenient rooted others path bare
          exact (first.mono And.left).bind ((later.mono And.right).bind (Yields.pure _))

end

theorem evaluate_literal (constant : SharedLiteral) (expr : Expr)
    (stands : expr.bare = constant.tree) : Yields (evaluate input expr) constant.value True := by
  cases constant with
  | quoted inQuotes =>
      rcases Expr.literal_of_bare stands with ⟨place, rfl⟩
      rw [evaluate]
      exact Yields.pure _
  | number numeral =>
      simp only [SharedLiteral.tree, Numeral.tree] at stands
      rw [SharedLiteral.value, Numeral.value]
      cases sign : numeral.sign with
      | none =>
          rw [sign] at stands
          rcases Expr.literal_of_bare stands with ⟨place, rfl⟩
          rw [evaluate]
          exact Yields.pure _
      | plus =>
          rw [sign] at stands
          rcases Expr.unary_of_bare stands with ⟨place, inner, rfl, bare⟩
          rcases Expr.literal_of_bare bare with ⟨innerPlace, rfl⟩
          rw [evaluate, evaluate]
          exact (Yields.pure _).bind (Yields.pure _)
      | minus =>
          rw [sign] at stands
          rcases Expr.unary_of_bare stands with ⟨place, inner, rfl, bare⟩
          rcases Expr.literal_of_bare bare with ⟨innerPlace, rfl⟩
          rw [evaluate, evaluate]
          exact (Yields.pure _).bind (Yields.pure _)
  | bool b =>
      rcases Expr.literal_of_bare stands with ⟨place, rfl⟩
      rw [evaluate]
      exact Yields.pure _
  | null =>
      rcases Expr.literal_of_bare stands with ⟨place, rfl⟩
      rw [evaluate]
      exact Yields.pure _

theorem evaluateAll_literals (constants : List SharedLiteral) : ∀ args : List Expr,
    Expr.bareAll args = constants.map SharedLiteral.tree →
      Yields (evaluateAll input args) (constants.map SharedLiteral.value) True := by
  induction constants with
  | nil =>
      intro args stands
      rw [Expr.all_nil_of_bare stands, evaluateAll]
      exact Yields.pure _
  | cons constant others ih =>
      intro args stands
      rcases Expr.all_cons_of_bare stands with ⟨arg, later, rfl, bare, bareLater⟩
      rw [evaluateAll]
      exact (evaluate_literal constant arg bare).bind ((ih later bareLater).bind (Yields.pure _))

/-- A chain of filters that all succeed yields the last result. -/
theorem evaluateFilters_shared (given : List SharedFilter) :
    ∀ (calls : List (FilterCall Expr)) (value result : Value),
      Expr.bareFilters calls = given.map SharedFilter.inExpr →
        (given.map SharedFilter.inPath).foldlM (Query.applyFilter input.registry) value =
          .ok result →
        Yields (evaluateFilters input value calls) result True := by
  induction given with
  | nil =>
      intro calls value result stands succeeds
      rw [Expr.filters_nil_of_bare stands, evaluateFilters]
      cases succeeds
      exact Yields.pure _
  | cons filter others ih =>
      intro calls value result stands succeeds
      rcases Expr.filters_cons_of_bare stands with ⟨args, span, later, rfl, bareArgs, bareLater⟩
      rw [List.map_cons, List.foldlM_cons] at succeeds
      cases first : Query.applyFilter input.registry value filter.inPath with
      | error error =>
          rw [first] at succeeds
          cases succeeds
      | ok between =>
          rw [first] at succeeds
          have called := Query.call_of_applyFilter first
          rw [evaluateFilters]
          refine (evaluateAll_literals _ args bareArgs).bind ?_
          exact (Yields.applyFilter span called).bind (ih later between result bareLater succeeds)

/-- An expression that stands for a query without filters has the value of its path. -/
theorem evaluate_query (lenient : input.options.throwOnError = false)
    (rooted : input.data = .object entries) (query : SharedQuery) (expr : Expr)
    (stands : expr.bare = query.tree) {result : Value}
    (succeeds : (query.filters.map SharedFilter.inPath).foldlM
      (Query.applyFilter input.registry) (query.path.value entries) = .ok result) :
    Yields (evaluate input expr) result (query.path.rootsFound entries) := by
  rw [SharedQuery.tree] at stands
  split at stands
  · rename_i none
    rw [List.isEmpty_iff] at none
    rw [none] at succeeds
    cases succeeds
    exact evaluate_key lenient rooted query.path expr stands
  · rcases Expr.filter_of_bare stands with ⟨place, inner, calls, rfl, bare, bareCalls⟩
    rw [evaluate]
    have filtered := evaluateFilters_shared query.filters calls _ result bareCalls succeeds
    exact (evaluate_key lenient rooted query.path inner bare).bind (filtered.mono fun _ => trivial)

end

end Stencil
