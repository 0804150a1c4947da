import Stencil.Proofs.Path.Following
import Stencil.Proofs.Render.Evaluations
/-!
# Paths that end in nothing

A walk along a path stops at the first absence: nothing is inside of it, and the steps that are left
find nothing and are no problem. But the keys of a path are evaluated before the walk begins, those
behind the absence with the others. So all that is left of the steps behind it are the problems of
their keys.
-/

namespace Stencil

open Render RenderState

namespace ResolvedStep

theorem walk_append (value : Value) (early late : List ResolvedStep) :
    walk value (early ++ late) = walk (walk value early) late := by
  induction early generalizing value with
  | nil => rfl
  | cons step rest ih => simp only [List.cons_append, walk_cons, ih]

/-- Nothing is inside of an absence. -/
theorem walk_of_nullish {value : Value} {steps : List ResolvedStep}
    (nothing : value.isNullish = true) (more : steps ≠ []) : walk value steps = .undefined := by
  cases steps with
  | nil => exact absurd rfl more
  | cons step rest => simp [walk, nothing]

end ResolvedStep

section Paths

variable {input : RenderInput} {state middle after : RenderState} {steps : List ResolvedStep}

/-- Every step of a path is taken with the value of its key. -/
theorem length_of_evaluatePath {path : List (PathStep Expr)}
    (done : (evaluatePath input path).exec state = (.ok steps, after)) :
    steps.length = path.length := by
  induction path generalizing state steps after with
  | nil =>
      cases done
      rfl
  | cons step rest ih =>
      cases step with
      | property name =>
          rw [evaluatePath, exec_bind] at done
          rcases later : (evaluatePath input rest).exec state with ⟨_ | others, last⟩
          · simp [later] at done
          · simp only [later, exec_pure, Prod.mk.injEq, Except.ok.injEq] at done
            simp [← done.1, ih later]
      | index key =>
          rw [evaluatePath, exec_bind] at done
          rcases first : (evaluate input key).exec state with ⟨_ | value, between⟩
          · simp [first] at done
          · simp only [first, exec_bind] at done
            rcases later : (evaluatePath input rest).exec between with ⟨_ | others, last⟩
            · simp [later] at done
            · simp only [later, exec_pure, Prod.mk.injEq, Except.ok.injEq] at done
              simp [← done.1, ih later]

/-- Properties have no keys to evaluate. -/
theorem exec_evaluatePath_of_properties (input : RenderInput) (state : RenderState)
    {path : List (PathStep Expr)}
    (properties : ∀ step ∈ path, ∃ name, step = .property name) :
    ∃ steps, (evaluatePath input path).exec state = (.ok steps, state) := by
  induction path with
  | nil => exact ⟨[], rfl⟩
  | cons step rest ih =>
      rcases List.forall_mem_cons.mp properties with ⟨⟨name, rfl⟩, others⟩
      rcases ih others with ⟨steps, done⟩
      refine ⟨.property name :: steps, ?_⟩
      rw [evaluatePath, exec_bind_ok done]
      rfl

theorem exec_access_of_bound {root : String} {found : Value}
    (bound : state.lookup input.data root = some found) (span : Span) (steps : List ResolvedStep) :
    (access input span root steps).exec state = (.ok (ResolvedStep.walk found steps), state) := by
  rw [access, exec_bind_ok (exec_get state), bound]
  rfl

/-- The state behind the keys of a path has the bindings of the state before them. -/
theorem lookup_of_evaluatePath {path : List (PathStep Expr)}
    (done : (evaluatePath input path).exec state = (.ok steps, after)) (root : String) :
    after.lookup input.data root = state.lookup input.data root := by
  have kept := evaluatePath_keeps sameBindings_evaluation input path state
  rw [done] at kept
  exact kept.lookup input.data root

/-- Behind an absence only the keys of the steps that are left are evaluated. -/
theorem exec_access_behind_nullish {root : String} {found : Value} {early : List (PathStep Expr)}
    (bound : state.lookup input.data root = some found)
    (walked : (evaluatePath input early).exec state = (.ok steps, middle))
    (nothing : (ResolvedStep.walk found steps).isNullish = true) (extent : Extent)
    {late : List (PathStep Expr)} (more : late ≠ []) :
    (evaluate input (.access extent root (early ++ late))).exec state =
      (evaluatePath input late >>= fun _ => pure Value.undefined).exec middle := by
  rw [evaluate, evaluatePath_append, bind_assoc, exec_bind_ok walked, bind_assoc, exec_bind,
    exec_bind]
  rcases keys : (evaluatePath input late).exec middle with ⟨stop | others, after⟩
  · rfl
  · have left : others ≠ [] := by
      intro empty
      have length := length_of_evaluatePath keys
      rw [empty, List.length_nil] at length
      exact more (List.length_eq_zero_iff.mp length.symm)
    have boundAfter : after.lookup input.data root = some found := by
      rw [lookup_of_evaluatePath keys, lookup_of_evaluatePath walked, bound]
    simp only [pure_bind, exec_pure]
    rw [exec_access_of_bound boundAfter, ResolvedStep.walk_append,
      ResolvedStep.walk_of_nullish nothing left]

/-- A path comes to nothing at the first absence that it meets, whatever the steps behind it are.
What is left of them are their keys, which are evaluated with the same problems as anywhere else: so
properties are silent, and where problems are collected and no function panics, the path is
`undefined` with the problems of those keys behind the ones that it has met before. -/
theorem path_stops_at_nullish (input : RenderInput) (state middle : RenderState) (root : String)
    (found : Value) (early : List (PathStep Expr)) (steps : List ResolvedStep) (extent : Extent)
    (bound : state.lookup input.data root = some found)
    (walked : (evaluatePath input early).exec state = (.ok steps, middle))
    (nothing : (ResolvedStep.walk found steps).isNullish = true) (late : List (PathStep Expr))
    (more : late ≠ []) :
    (evaluate input (.access extent root (early ++ late))).exec state =
        (evaluatePath input late >>= fun _ => pure Value.undefined).exec middle ∧
      ((∀ step ∈ late, ∃ name, step = .property name) →
        (evaluate input (.access extent root (early ++ late))).exec state =
          (.ok .undefined, middle)) ∧
      (input.options.throwOnError = false → input.registry.NeverPanics →
        ∃ keys problems after, AmountsTo (evaluatePath input late) state keys problems ∧
          (evaluate input (.access extent root (early ++ late))).exec state =
            (.ok .undefined, after) ∧
          after.errors.toList = middle.errors.toList ++ problems) := by
  have rest := exec_access_behind_nullish bound walked nothing extent more
  refine ⟨rest, ?_, ?_⟩
  · intro properties
    rcases exec_evaluatePath_of_properties input middle properties with ⟨keys, done⟩
    rw [rest, exec_bind_ok done]
    rfl
  · intro collects proper
    rcases evaluatePath_amountsTo collects proper state late with ⟨keys, problems, amounts⟩
    have same : SameBindings state middle := by
      have kept := evaluatePath_keeps sameBindings_evaluation input early state
      rwa [walked] at kept
    rcases amounts middle same with ⟨after, done, _, recorded⟩
    refine ⟨keys, problems, after, amounts, ?_, recorded⟩
    rw [rest, exec_bind_ok done]
    rfl

end Paths

/-- Behind `a.b`, where `a` has no entries, a property is silent and a missing name is not. -/
theorem path_stops_at_nullish_empty :
    let input : RenderInput := ⟨.object [("a", .object [])], Registry.empty, {}⟩
    let extent : Extent := ⟨Span.empty, none⟩
    let silent : List (PathStep Expr) := [.property "c"]
    let missing : List (PathStep Expr) := [.index (.access extent "missing" [])]
    (({} : RenderState).lookup input.data "a" = some (.object []) ∧
      (evaluatePath input [.property "b"]).exec {} = (.ok [.property "b"], {}) ∧
      (ResolvedStep.walk (.object []) [.property "b"]).isNullish = true ∧
      silent ≠ [] ∧ missing ≠ []) ∧
    (evaluate input (.access extent "a" (.property "b" :: silent))).exec {} =
      (.ok .undefined, {}) ∧
    ∃ keys problems after, AmountsTo (evaluatePath input missing) {} keys problems ∧
      (evaluate input (.access extent "a" (.property "b" :: missing))).exec {} =
        (.ok .undefined, after) ∧
      after.errors.toList = problems := by
  intro input extent silent missing
  have stops := path_stops_at_nullish input {} {} "a" (.object []) [.property "b"] [.property "b"]
    extent rfl rfl rfl
  refine ⟨⟨rfl, rfl, rfl, by simp [silent], by simp [missing]⟩, ?_, ?_⟩
  · exact (stops silent (by simp [silent])).2.1 (by simp [silent])
  · exact (stops missing (by simp [missing])).2.2 rfl neverPanics_empty

/-- The path `a.b[missing]` raises a problem behind the absence at which `a.b.c` is silent. -/
theorem key_raised_behind_nullish :
    let input : RenderInput := ⟨.object [("a", .object [])], Registry.empty, {}⟩
    let extent : Extent := ⟨Span.empty, none⟩
    let problem := (RenderError.undefinedVariable "missing").located Span.empty
    (ResolvedStep.walk (.object []) [.property "b"]).isNullish = true ∧
      (evaluate input (.access extent "a" [.property "b", .property "c"])).exec {} =
        (.ok .undefined, {}) ∧
      (evaluate input
        (.access extent "a" [.property "b", .index (.access extent "missing" [])])).exec {} =
          (.ok .undefined, ({} : RenderState).recordSoftly problem) := by
  exact ⟨rfl, rfl, rfl⟩

end Stencil
