import Stencil.Proofs.Render.Evaluations
/-!
# Chains of filters

A filter that fails leaves the value that is sent through it as it is, and one problem behind those
of its arguments. So a chain of filters is a fold over the filters, and those that fail could be
left out of it: each of the others is met by the same value.

The arguments of all filters are evaluated in one scope, since evaluations bind nothing. Whether a
filter fails depends on the value that the filters before it have left.
-/

namespace Stencil

open Render

/-- A filter whose arguments have been evaluated, with the problems met in them. -/
structure PreparedFilter where
  filter : FilterCall Expr
  args : List Value
  problems : List RenderError

namespace PreparedFilter

/-- Why a filter fails on a value, if it does: its function fails, or there is none of its name. -/
def failure? (registry : Registry) (prepared : PreparedFilter) (value : Value) :
    Option FunctionError :=
  match registry.call prepared.filter.name value prepared.args with
  | .error (.error error) => some error
  | _ => none

/-- What a filter makes of a value: the result of its function, or the value if it fails. -/
def result (registry : Registry) (prepared : PreparedFilter) (value : Value) : Value :=
  match registry.call prepared.filter.name value prepared.args with
  | .ok result => result
  | .error _ => value

/-- The problem of a filter that fails. It names the filter. -/
def problem (prepared : PreparedFilter) (error : FunctionError) : RenderError :=
  (RenderError.filterError prepared.filter.name error.problem.message
    prepared.filter.name).located prepared.filter.span

/-- That the arguments of a filter have been evaluated in a scope. -/
def PreparedIn (input : RenderInput) (scope : RenderState) (prepared : PreparedFilter) : Prop :=
  AmountsTo (evaluateAll input prepared.filter.args) scope prepared.args prepared.problems

/-- What filters make of a value, one after the other from the left. -/
def resultAll (registry : Registry) (value : Value) (chain : List PreparedFilter) : Value :=
  chain.foldl (fun value prepared => prepared.result registry value) value

/-- The problems that filters raise, for each of them those of its arguments and then its own. -/
def raised (registry : Registry) : Value → List PreparedFilter → List RenderError
  | _, [] => []
  | value, prepared :: rest =>
    prepared.problems ++
      ((prepared.failure? registry value).toList.map prepared.problem ++
        raised registry (prepared.result registry value) rest)

/-- The filters of a chain that do not fail. -/
def successful (registry : Registry) : Value → List PreparedFilter → List PreparedFilter
  | _, [] => []
  | value, prepared :: rest =>
    let others := successful registry (prepared.result registry value) rest
    if (prepared.failure? registry value).isSome then others else prepared :: others

variable {registry : Registry} {prepared : PreparedFilter} {value : Value}

theorem result_of_failure {error : FunctionError}
    (fails : prepared.failure? registry value = some error) :
    prepared.result registry value = value := by
  unfold failure? at fails
  unfold result
  split at fails
  · rename_i answer
    rw [answer]
  · cases fails

section Leaving

variable (registry) (chain : List PreparedFilter)

/-- The filters that do not fail make the same of a value as all of them. -/
theorem resultAll_successful (value : Value) :
    resultAll registry value (successful registry value chain) =
      resultAll registry value chain := by
  induction chain generalizing value with
  | nil => rfl
  | cons prepared rest ih =>
      have others := ih (prepared.result registry value)
      simp only [successful]
      cases fails : prepared.failure? registry value with
      | none =>
          simpa [resultAll] using others
      | some error =>
          rw [result_of_failure fails] at others ⊢
          simpa [resultAll, result_of_failure fails] using others

/-- Each filter that does not fail does not fail either when those that do are left out. -/
theorem raised_successful (value : Value) :
    raised registry value (successful registry value chain) =
      (successful registry value chain).flatMap PreparedFilter.problems := by
  induction chain generalizing value with
  | nil => rfl
  | cons prepared rest ih =>
      have others := ih (prepared.result registry value)
      simp only [successful]
      cases fails : prepared.failure? registry value with
      | none => simp [raised, fails, others]
      | some error =>
          rw [result_of_failure fails] at others ⊢
          simpa using others

theorem successful_sublist (value : Value) :
    (successful registry value chain).Sublist chain := by
  induction chain generalizing value with
  | nil => exact .slnil
  | cons prepared rest ih =>
      have others := ih (prepared.result registry value)
      simp only [successful]
      split
      · exact others.cons prepared
      · exact others.cons_cons prepared

end Leaving

end PreparedFilter

/-- A value sent through filters; without any filter it is the value alone. -/
def Expr.through (extent : Extent) (inner : Expr) : List (FilterCall Expr) → Expr
  | [] => inner
  | first :: rest => .filter extent inner (first :: rest)

section Chains

variable {input : RenderInput} {scope : RenderState} {value : Value} {problems : List RenderError}
  (collects : input.options.throwOnError = false) (proper : input.registry.NeverPanics)

include collects proper

/-- One filter gives its result, and raises its own problem if it fails. -/
theorem applyFilter_amountsTo (prepared : PreparedFilter) (value : Value) :
    AmountsTo
      (applyFilter input prepared.filter.name prepared.filter.span prepared.args value) scope
      (prepared.result input.registry value)
      ((prepared.failure? input.registry value).toList.map prepared.problem) := by
  unfold applyFilter PreparedFilter.result PreparedFilter.failure?
  apply (AmountsTo.trace _).bind
  rcases answer : input.registry.call prepared.filter.name value prepared.args with
    (error | message) | result
  · apply (AmountsTo.call (congrArg ofCallResult answer)).bind
    exact (AmountsTo.report collects _).bind (AmountsTo.pure value)
  · exact absurd answer (proper _ _ _ _)
  · apply (AmountsTo.call (congrArg ofCallResult answer)).bind
    exact AmountsTo.pure result

/-- A chain of filters is a fold over them. -/
theorem evaluateFilters_amountsTo (chain : List PreparedFilter)
    (ready : ∀ prepared ∈ chain, prepared.PreparedIn input scope) (value : Value) :
    AmountsTo (evaluateFilters input value (chain.map PreparedFilter.filter)) scope
      (PreparedFilter.resultAll input.registry value chain)
      (PreparedFilter.raised input.registry value chain) := by
  induction chain generalizing value with
  | nil =>
      rw [List.map_nil, evaluateFilters]
      exact AmountsTo.pure value
  | cons prepared rest ih =>
      have arguments := ready prepared List.mem_cons_self
      have later := ih (fun other member => ready other (List.mem_cons_of_mem _ member))
        (prepared.result input.registry value)
      rw [List.map_cons, evaluateFilters]
      exact arguments.bind ((applyFilter_amountsTo collects proper prepared value).bind later)

/-- The arguments of filters have values in every scope. -/
theorem exists_prepared (filters : List (FilterCall Expr)) :
    ∃ chain : List PreparedFilter, chain.map PreparedFilter.filter = filters ∧
      ∀ prepared ∈ chain, prepared.PreparedIn input scope := by
  induction filters with
  | nil => exact ⟨[], rfl, by simp⟩
  | cons filter rest ih =>
      rcases ih with ⟨chain, same, ready⟩
      rcases evaluateAll_amountsTo collects proper scope filter.args with ⟨args, own, amounts⟩
      refine ⟨⟨filter, args, own⟩ :: chain, by rw [List.map_cons, same], ?_⟩
      exact List.forall_mem_cons.mpr ⟨amounts, ready⟩

/-- A value that is sent through prepared filters. -/
theorem through_amountsTo {inner : Expr}
    (sent : AmountsTo (evaluate input inner) scope value problems) (chain : List PreparedFilter)
    (ready : ∀ prepared ∈ chain, prepared.PreparedIn input scope) (extent : Extent) :
    AmountsTo (evaluate input (Expr.through extent inner (chain.map PreparedFilter.filter))) scope
      (PreparedFilter.resultAll input.registry value chain)
      (problems ++ PreparedFilter.raised input.registry value chain) := by
  cases chain with
  | nil => simpa [Expr.through, PreparedFilter.resultAll, PreparedFilter.raised] using sent
  | cons prepared rest =>
      rw [List.map_cons, Expr.through, evaluate]
      exact sent.bind (evaluateFilters_amountsTo collects proper (prepared :: rest) ready value)

end Chains

/-- Filters that fail are transparent. Where problems are collected and no function panics, what is
sent through a chain of filters becomes what they make of it one after the other, where a filter
that fails leaves the value as it is. The problems are those of what is sent, and then for each
filter those of its arguments with one more behind them if it fails, which names it. If the
arguments raise none, the chain without the filters that fail gives the same value with the problems
of what is sent only. -/
theorem failing_filters_pass_through (input : RenderInput)
    (collects : input.options.throwOnError = false) (proper : input.registry.NeverPanics)
    (scope : RenderState) (extent : Extent) (inner : Expr) (filters : List (FilterCall Expr)) :
    ∃ value problems, ∃ chain : List PreparedFilter,
      AmountsTo (evaluate input inner) scope value problems ∧
      chain.map PreparedFilter.filter = filters ∧
      (∀ prepared ∈ chain, prepared.PreparedIn input scope) ∧
      AmountsTo (evaluate input (.filter extent inner filters)) scope
        (PreparedFilter.resultAll input.registry value chain)
        (problems ++ PreparedFilter.raised input.registry value chain) ∧
      ((∀ prepared ∈ chain, prepared.problems = []) → ∀ place : Extent,
        AmountsTo
          (evaluate input (Expr.through place inner
            ((PreparedFilter.successful input.registry value chain).map PreparedFilter.filter)))
          scope (PreparedFilter.resultAll input.registry value chain) problems) := by
  rcases evaluate_amountsTo collects proper scope inner with ⟨value, problems, sent⟩
  rcases exists_prepared collects proper filters with ⟨chain, same, ready⟩
  refine ⟨value, problems, chain, sent, same, ready, ?_, ?_⟩
  · rw [evaluate, ← same]
    exact sent.bind (evaluateFilters_amountsTo collects proper chain ready value)
  · intro silent place
    have kept := PreparedFilter.successful_sublist input.registry chain value
    have shorter := through_amountsTo collects proper sent
      (PreparedFilter.successful input.registry value chain)
      (fun prepared member => ready prepared (kept.subset member)) place
    have nothing : (PreparedFilter.successful input.registry value chain).flatMap
        PreparedFilter.problems = [] := by
      rw [List.flatMap_eq_nil_iff]
      exact fun prepared member => silent prepared (kept.subset member)
    rw [PreparedFilter.resultAll_successful, PreparedFilter.raised_successful, nothing,
      List.append_nil] at shorter
    exact shorter

/-- Functions of which one wraps a value and the other always fails. -/
def wrappingRegistry : Registry :=
  Registry.empty.registerAll
    [{ signature := { name := "wrap", category := .array, description := "" },
       handler := fun value _ => .ok (.array [value]) },
     { signature := { name := "refuse", category := .array, description := "" },
       handler := fun _ _ => .error (.error ⟨"refuse", .custom "refused"⟩) }]

theorem neverPanics_wrapping : wrappingRegistry.NeverPanics := by
  intro name value args message panicked
  simp only [Registry.call, Registry.get?, wrappingRegistry, Registry.registerAll, List.foldl_cons,
    List.foldl_nil, Registry.register, Registry.empty, Entries.find?_insert, Entries.find?_nil]
    at panicked
  split at panicked
  · rename_i known
    split at known
    · cases known
      cases panicked
    · split at known
      · cases known
        cases panicked
      · cases known
  · cases panicked

/-- A chain in which one filter fails and another is unknown, with an argument each. -/
theorem failing_filters_pass_through_mixed :
    let input : RenderInput := ⟨.object [], wrappingRegistry, {}⟩
    let extent : Extent := ⟨Span.empty, none⟩
    let inner : Expr := .literal extent .null
    let filter (name : String) : FilterCall Expr :=
      ⟨name, [.literal extent (.bool true)], Span.empty⟩
    let problem (name message : String) : RenderError :=
      (RenderError.filterError name message name).located Span.empty
    let twice : Value := .array [.array [.null]]
    input.options.throwOnError = false ∧ input.registry.NeverPanics ∧
      AmountsTo
        (evaluate input
          (.filter extent inner [filter "wrap", filter "refuse", filter "shout", filter "wrap"]))
        {} twice [problem "refuse" "refused", problem "shout" "unknown function"] ∧
      AmountsTo (evaluate input (.filter extent inner [filter "wrap", filter "wrap"])) {} twice
        [] := by
  intro input extent inner filter problem twice
  have sentAlone : AmountsTo (evaluate input inner) {} .null [] := AmountsTo.pure _
  have argumentAlone :
      AmountsTo (evaluateAll input [.literal extent (.bool true)]) {} [.bool true] [] :=
    (AmountsTo.pure _).bind ((AmountsTo.pure _).bind (AmountsTo.pure _))
  let filters := [filter "wrap", filter "refuse", filter "shout", filter "wrap"]
  rcases failing_filters_pass_through input rfl neverPanics_wrapping {} extent inner filters with
    ⟨value, problems, chain, sent, same, ready, filtered, shorter⟩
  rcases sentAlone.unique sent with ⟨rfl, rfl⟩
  have each : ∀ prepared ∈ chain, id prepared = ⟨prepared.filter, [.bool true], []⟩ := by
    intro prepared member
    have args : prepared.filter.args = [.literal extent (.bool true)] := by
      have among : prepared.filter ∈ filters := by
        rw [← same]
        exact List.mem_map_of_mem member
      simp only [filters, List.mem_cons, List.not_mem_nil, or_false] at among
      rcases among with is | is | is | is <;> rw [is]
    have amounts := ready prepared member
    rw [PreparedFilter.PreparedIn, args] at amounts
    rcases argumentAlone.unique amounts with ⟨values, silent⟩
    rw [← values, ← silent]
    rfl
  have known : chain = filters.map fun filter => ⟨filter, [.bool true], []⟩ := by
    rw [← same, List.map_map]
    exact (List.map_id chain).symm.trans (List.map_congr_left each)
  subst known
  refine ⟨rfl, neverPanics_wrapping, filtered, shorter ?_ extent⟩
  simp

end Stencil
