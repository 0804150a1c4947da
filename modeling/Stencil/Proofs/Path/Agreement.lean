import Stencil.Proofs.Path.AsExpression
import Stencil.Proofs.Path.AsPath
import Stencil.Proofs.Path.Evaluating
/-!
# Queries and templates resolve paths alike

A text that is a path in both languages leads to the same place in both. The two readers make a path
and an expression out of one tree, the query settles at the value of the tree, and the expression
evaluates to it. A strict query that succeeds has found every root and has seen every filter
succeed, so the evaluation of the same text has nothing to record.
-/

namespace Stencil

open Render

namespace Query

variable {entries : Entries Value} {maxDepth : Nat}

theorem readPath_shared (query : SharedQuery) :
    readPath query.text = .ok ⟨query.segments, query.filters.map SharedFilter.inPath⟩ := by
  rw [readPath, Path.Parser.parse_shared]
  rfl

/-- A lenient query for a path gives the value of the path, where `undefined` is the default. -/
theorem run_shared (query : SharedQuery) (noFilters : query.filters = [])
    (fits : query.path.longest ≤ maxDepth) :
    run (.object entries) query.text
        { strict := false, defaultValue := .undefined, maxDepth := maxDepth } =
      .ok (query.path.value entries) := by
  have settles := query.resolve_settles entries query.text fits
  have resolved : strictly (.object entries) query.text maxDepth =
      QueryScope.resolve ⟨.object entries, query.text, maxDepth⟩ query.segments := by
    rw [strictly, readPath_shared, noFilters]
    rfl
  rw [run, resolved]
  generalize QueryScope.resolve ⟨.object entries, query.text, maxDepth⟩ query.segments = outcome
    at settles
  cases settles with
  | ok all => rfl
  | error proper absent =>
      rename_i error
      rw [absent]
      cases error with
      | panic message => exact absurd rfl (proper message)
      | _ => rfl

/-- A strict query succeeds only if all roots are found and all filters succeed on the value of the
path. -/
theorem runWith_shared {registry : Registry} {query : SharedQuery} {value defaultValue : Value}
    (fits : query.path.longest ≤ maxDepth)
    (succeeds : runWith registry (.object entries) query.text
      { strict := true, defaultValue := defaultValue, maxDepth := maxDepth } = .ok value) :
    query.path.rootsFound entries ∧
      (query.filters.map SharedFilter.inPath).foldlM (applyFilter registry)
        (query.path.value entries) = .ok value := by
  have settles := query.resolve_settles entries query.text fits
  rw [runWith, readPath_shared] at succeeds
  change settle _ (QueryScope.resolve ⟨.object entries, query.text, maxDepth⟩ query.segments >>=
    fun found => (query.filters.map SharedFilter.inPath).foldlM (applyFilter registry) found) =
      .ok value at succeeds
  generalize QueryScope.resolve ⟨.object entries, query.text, maxDepth⟩ query.segments = outcome
    at settles succeeds
  cases settles with
  | ok all =>
      refine ⟨all, ?_⟩
      change settle _ ((query.filters.map SharedFilter.inPath).foldlM (applyFilter registry)
        (query.path.value entries)) = .ok value at succeeds
      generalize (query.filters.map SharedFilter.inPath).foldlM (applyFilter registry)
        (query.path.value entries) = ending at succeeds ⊢
      rcases ending with error | result
      · cases error <;> cases succeeds
      · exact succeeds
  | error proper absent =>
      rename_i error
      cases error <;> cases succeeds

end Query

/-- A path of both languages leads a template where it leads a query. With filters behind it, what a
strict query gives is what the template gives, and the template records no problem. -/
theorem shared_paths_resolve_alike (registry : Registry) (options : RenderOptions)
    (lenient : options.throwOnError = false) (entries : Entries Value) (query : SharedQuery)
    (origin : Position) (maxDepth : Nat) (nests : query.path.levels ≤ Expr.maxLevels)
    (fits : query.path.longest ≤ maxDepth) : ∃ expr,
      parseExpression query.text origin = .ok expr ∧
        (query.filters = [] → ∃ value after,
          (evaluate ⟨.object entries, registry, options⟩ expr).exec {} = (.ok value, after) ∧
            Query.run (.object entries) query.text
              { strict := false, defaultValue := .undefined, maxDepth := maxDepth } =
                .ok value) ∧
        ∀ value defaultValue,
          Query.runWith registry (.object entries) query.text
              { strict := true, defaultValue := defaultValue, maxDepth := maxDepth } = .ok value →
            ∃ after,
              (evaluate ⟨.object entries, registry, options⟩ expr).exec {} = (.ok value, after) ∧
                after.errors = #[] := by
  rcases parseExpression_shared query origin nests with ⟨expr, read, stands⟩
  have fresh : RenderState.Unbound {} := ⟨rfl, rfl⟩
  let input : RenderInput := ⟨.object entries, registry, options⟩
  have rooted : input.data = .object entries := rfl
  refine ⟨expr, read, ?_, ?_⟩
  · intro noFilters
    have succeeds : (query.filters.map SharedFilter.inPath).foldlM
        (Query.applyFilter input.registry) (query.path.value entries) =
          .ok (query.path.value entries) := by
      rw [noFilters]
      rfl
    rcases evaluate_query lenient rooted query expr stands succeeds {} fresh with
      ⟨after, done, _, _⟩
    exact ⟨query.path.value entries, after, done, Query.run_shared query noFilters fits⟩
  · intro value defaultValue succeeds
    rcases Query.runWith_shared fits succeeds with ⟨all, filtered⟩
    rcases evaluate_query lenient rooted query expr stands filtered {} fresh with
      ⟨after, done, _, silent⟩
    exact ⟨after, done, silent all⟩

/-- The path `a[k]` with filters behind it. -/
def indirectQuery (filters : List SharedFilter) : SharedQuery where
  leading := ⟨[], by simp⟩
  root := ⟨⟨'a', [], rfl, by simp⟩, by decide, by decide, by decide⟩
  steps := [.bracket ⟨[], by simp⟩
    (.path ⟨⟨'k', [], rfl, by simp⟩, by decide, by decide, by decide⟩ []) ⟨[], by simp⟩]
  filters := filters
  trailing := ⟨[], by simp⟩

/-- The filter `pair("y")` behind a bar. -/
def pairFilter : SharedFilter where
  beforeBar := ⟨[' '], List.all_eq_true.mp rfl⟩
  afterBar := ⟨[' '], List.all_eq_true.mp rfl⟩
  name := ⟨⟨'p', ['a', 'i', 'r'], rfl, List.all_eq_true.mp rfl⟩, List.all_eq_true.mp rfl⟩
  arguments := .listed ⟨[], by simp⟩
    ⟨⟨[], by simp⟩, .quoted ⟨'"', ['y'], .inr rfl, by simp⟩, ⟨[], by simp⟩⟩ []

/-- A registry with a function that gives its value and its arguments as one array. -/
def pairRegistry : Registry :=
  Registry.empty.register
    ⟨⟨"pair", .array, "", [], "array", []⟩, fun value args => .ok (.array (value :: args)),
      fun _ _ => []⟩

theorem shared_paths_resolve_alike_indirect :
    let data : Entries Value := [("a", .object [("b", .string "x")]), ("k", .string "b")]
    let input : RenderInput := ⟨.object data, pairRegistry, {}⟩
    (∃ expr value after,
      parseExpression (indirectQuery []).text Position.start = .ok expr ∧
        (evaluate input expr).exec {} = (.ok value, after) ∧
          Query.run (.object data) (indirectQuery []).text {} = .ok value) ∧
      ∃ expr after,
        parseExpression (indirectQuery [pairFilter]).text Position.start = .ok expr ∧
          (evaluate input expr).exec {} = (.ok (.array [.string "x", .string "y"]), after) ∧
            after.errors = #[] := by
  intro data input
  constructor
  · rcases shared_paths_resolve_alike pairRegistry {} rfl data (indirectQuery []) Position.start 100
      (by decide) (by decide) with ⟨expr, read, alike, _⟩
    rcases alike rfl with ⟨value, after, done, same⟩
    exact ⟨expr, value, after, read, done, same⟩
  · rcases shared_paths_resolve_alike pairRegistry {} rfl data (indirectQuery [pairFilter])
      Position.start 100 (by decide) (by decide) with ⟨expr, read, _, alike⟩
    have strict : Query.runWith pairRegistry (.object data) (indirectQuery [pairFilter]).text
        { strict := true, defaultValue := .undefined, maxDepth := 100 } =
          .ok (.array [.string "x", .string "y"]) := by
      rw [Query.runWith, Query.readPath_shared]
      rfl
    rcases alike _ _ strict with ⟨after, done, silent⟩
    exact ⟨expr, after, read, done, silent⟩

end Stencil
