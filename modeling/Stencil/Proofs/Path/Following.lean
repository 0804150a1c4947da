import Stencil.Proofs.Path.Shared
import Stencil.Query
import Stencil.Render.Evaluation
/-!
# Where shared paths lead

A shared path over the entries of an object has one value, in whichever language it is read: what a
template finds when it evaluates all keys first and then walks. A query evaluates keys on its way
and fails at the first step that finds nothing, so it can only fail where that value is `undefined`,
and where it succeeds every root on the way has been found.
-/

namespace Stencil

mutual

/-- The value of a key over the entries of some data. -/
def SharedKey.value (entries : Entries Value) : SharedKey → Value
  | .position digits => .ofNat (Number.digitsValue digits.text)
  | .quoted quoted => .string quoted.string
  | .path root steps =>
    match entries.find? root.name with
    | some found => ResolvedStep.walk found (SharedStep.resolvedAll entries steps)
    | none => .undefined

/-- A step with the value of its key. -/
def SharedStep.resolved (entries : Entries Value) : SharedStep → ResolvedStep
  | .property name => .property name.name
  | .bracket _ key _ => .key (key.value entries)

def SharedStep.resolvedAll (entries : Entries Value) : List SharedStep → List ResolvedStep
  | [] => []
  | step :: rest => step.resolved entries :: SharedStep.resolvedAll entries rest

end

mutual

/-- Whether every root on a path is the key of an entry. -/
def SharedKey.rootsFound (entries : Entries Value) : SharedKey → Prop
  | .position _ => True
  | .quoted _ => True
  | .path root steps =>
    (entries.find? root.name).isSome ∧ SharedStep.allRootsFound entries steps

def SharedStep.rootsFound (entries : Entries Value) : SharedStep → Prop
  | .property _ => True
  | .bracket _ key _ => key.rootsFound entries

def SharedStep.allRootsFound (entries : Entries Value) : List SharedStep → Prop
  | [] => True
  | step :: rest => step.rootsFound entries ∧ SharedStep.allRootsFound entries rest

end

namespace ResolvedStep

/-- A step from any value. Nothing is inside an absence. -/
def applyFrom (value : Value) (step : ResolvedStep) : Value :=
  if value.isNullish then .undefined else step.apply value

theorem walk_undefined (steps : List ResolvedStep) : walk .undefined steps = .undefined := by
  cases steps with
  | nil => rfl
  | cons step rest => rfl

theorem walk_cons (value : Value) (step : ResolvedStep) (rest : List ResolvedStep) :
    walk value (step :: rest) = walk (step.applyFrom value) rest := by
  rw [walk, applyFrom]
  split
  · exact (walk_undefined rest).symm
  · rfl

end ResolvedStep

/-- How a query ends at a place with the given value: with that value, in which case all roots have
been found, or with a proper failure, in which case the value is `undefined`. -/
inductive Settles (value : Value) (found : Prop) : Except QueryError Value → Prop where
  | ok (all : found) : Settles value found (.ok value)
  | error {error : QueryError} (proper : ∀ message, error ≠ .panic message)
    (absent : value = .undefined) : Settles value found (.error error)

namespace ResolvedStep

/-- Truth values and numbers have no parts. -/
theorem apply_bool (b : Bool) (step : ResolvedStep) : step.apply (.bool b) = .undefined := by
  cases step with
  | property name => rfl
  | key key => cases key <;> rfl

theorem apply_number (x : Float) (step : ResolvedStep) : step.apply (.number x) = .undefined := by
  cases step with
  | property name => rfl
  | key key => cases key <;> rfl

end ResolvedStep

namespace QueryScope

variable {scope : QueryScope} {value : Value} {segment : PathSegment} {found : Prop}

theorem found_settles (result : Value) (all : result ≠ .undefined → found) :
    Settles result found (scope.found segment result) := by
  cases result with
  | undefined => exact .error (fun _ => nofun) rfl
  | _ => exact .ok (all nofun)

/-- What has no parts fails a query, and nothing is found in it. -/
theorem checkParts_settles (step : ResolvedStep) {next : Except QueryError Value}
    (settles : Settles (step.apply value) found next) :
    Settles (step.applyFrom value) found (scope.checkParts segment value >>= fun _ => next) := by
  cases value with
  | undefined => exact .error (fun _ => nofun) rfl
  | null => exact .error (fun _ => nofun) rfl
  | bool b => exact .error (fun _ => nofun) (step.apply_bool b)
  | number x => exact .error (fun _ => nofun) (step.apply_number x)
  | string s => exact settles
  | array items => exact settles
  | object entries => exact settles

theorem follow_cons (scope : QueryScope) (value : Value) (segment : PathSegment)
    (rest : List PathSegment) :
    scope.follow value (segment :: rest) =
      scope.step value segment >>= fun next => scope.follow next rest := by
  rw [follow]

/-- A path settles if its first step and what follows it do. -/
theorem follow_cons_settles {step : ResolvedStep} {rest : List PathSegment}
    {steps : List ResolvedStep} {others : Prop}
    (first : Settles (step.applyFrom value) found (scope.step value segment))
    (later : Settles (ResolvedStep.walk (step.applyFrom value) steps) others
      (scope.follow (step.applyFrom value) rest)) :
    Settles (ResolvedStep.walk value (step :: steps)) (found ∧ others)
      (scope.follow value (segment :: rest)) := by
  rw [follow_cons, ResolvedStep.walk_cons]
  generalize scope.step value segment = outcome at first
  cases first with
  | ok all =>
      change Settles _ _ (scope.follow (step.applyFrom value) rest)
      generalize scope.follow (step.applyFrom value) rest = ending at later
      cases later with
      | ok allOthers => exact .ok ⟨all, allOthers⟩
      | error proper absent => exact .error proper absent
  | error proper absent =>
      refine .error proper ?_
      rw [absent, ResolvedStep.walk_undefined]

/-- A property is found in a value if an entry or a part of that name is there. -/
theorem step_property_settles (name : String)
    (all : Lookup.property value name ≠ .undefined → found) :
    Settles ((ResolvedStep.property name).applyFrom value) found
      (scope.step value (.property name)) := by
  rw [step]
  exact checkParts_settles _ (found_settles _ all)

theorem step_index_settles (position : Nat) :
    Settles ((ResolvedStep.key (.ofNat position)).applyFrom value) True
      (scope.step value (.index position)) := by
  rw [step]
  exact checkParts_settles _ (found_settles _ fun _ => trivial)

/-- A computed key settles as its path does. -/
theorem step_computed_settles {path : List PathSegment} {key : Value}
    (fits : path.length ≤ scope.maxDepth)
    (settles : Settles key found (scope.follow scope.root path)) :
    Settles ((ResolvedStep.key key).applyFrom value) found
      (scope.step value (.computed path)) := by
  have shallow : scope.checkDepth path = .ok () := by
    rw [checkDepth, if_neg (Nat.not_lt.mpr fits)]
  rw [step]
  refine checkParts_settles _ ?_
  rw [shallow]
  change Settles _ _ (scope.follow scope.root path >>= fun key =>
    scope.found (.computed path) (Lookup.index value key))
  generalize scope.follow scope.root path = outcome at settles
  cases settles with
  | ok all => exact found_settles _ fun _ => all
  | error proper absent =>
      refine .error proper ?_
      rw [absent]
      rfl

end QueryScope

open QueryScope

section

variable {scope : QueryScope} {entries : Entries Value}

/-- The root of a path is a step into the entries. -/
theorem SharedKey.value_path (entries : Entries Value) (root : RootName)
    (steps : List SharedStep) :
    (SharedKey.path root steps).value entries =
      ResolvedStep.walk (.object entries)
        (.property root.name :: SharedStep.resolvedAll entries steps) := by
  have entered : (ResolvedStep.property root.name).applyFrom (.object entries) =
      (entries.find? root.name).getD .undefined := rfl
  rw [SharedKey.value, ResolvedStep.walk_cons, entered]
  cases entries.find? root.name with
  | none => exact (ResolvedStep.walk_undefined _).symm
  | some found => rfl

theorem step_root_settles (entries : Entries Value) (name : String) :
    Settles ((ResolvedStep.property name).applyFrom (.object entries))
      ((entries.find? name).isSome = true) (scope.step (.object entries) (.property name)) := by
  refine step_property_settles name ?_
  intro present
  cases here : entries.find? name with
  | none =>
      refine absurd ?_ present
      change (entries.find? name).getD .undefined = .undefined
      rw [here]
      rfl
  | some found => rfl

mutual

/-- A key in brackets settles at its value. -/
theorem step_key_settles (rooted : scope.root = .object entries) (key : SharedKey)
    (fits : key.longest ≤ scope.maxDepth) (value : Value) :
    Settles ((ResolvedStep.key (key.value entries)).applyFrom value) (key.rootsFound entries)
      (scope.step value key.segment) := by
  cases key with
  | position digits =>
      rw [SharedKey.value, SharedKey.rootsFound, SharedKey.segment]
      exact step_index_settles _
  | quoted quoted =>
      rw [SharedKey.value, SharedKey.rootsFound, SharedKey.segment]
      exact step_property_settles quoted.string fun _ => trivial
  | path root steps =>
      simp only [SharedKey.longest, Nat.max_le] at fits
      rw [SharedKey.segment]
      refine step_computed_settles ?_ ?_
      · rw [List.length_cons, SharedStep.length_segments]
        exact fits.1
      · rw [SharedKey.value_path, SharedKey.rootsFound, rooted]
        exact follow_cons_settles (step_root_settles entries root.name)
          (follow_settles rooted steps fits.2 _)

/-- Steps settle at the value that they lead to. -/
theorem follow_settles (rooted : scope.root = .object entries) (steps : List SharedStep)
    (fits : SharedStep.longestAmong steps ≤ scope.maxDepth) (value : Value) :
    Settles (ResolvedStep.walk value (SharedStep.resolvedAll entries steps))
      (SharedStep.allRootsFound entries steps)
      (scope.follow value (SharedStep.segments steps)) := by
  cases steps with
  | nil =>
      rw [SharedStep.resolvedAll, SharedStep.allRootsFound, SharedStep.segments, follow]
      exact .ok trivial
  | cons step others =>
      simp only [SharedStep.longestAmong, Nat.max_le] at fits
      have later (next : Value) := follow_settles rooted others fits.2 next
      rw [SharedStep.resolvedAll, SharedStep.allRootsFound, SharedStep.segments]
      cases step with
      | property name =>
          rw [SharedStep.resolved, SharedStep.rootsFound, SharedStep.segment]
          exact follow_cons_settles (step_property_settles name.name fun _ => trivial) (later _)
      | bracket before key after =>
          rw [SharedStep.resolved, SharedStep.rootsFound, SharedStep.segment]
          exact follow_cons_settles (step_key_settles rooted key fits.1 value) (later _)

end

end

/-- The path of a query settles at its value if it is not too long. -/
theorem SharedQuery.resolve_settles (query : SharedQuery) (entries : Entries Value) (path : String)
    {maxDepth : Nat} (fits : query.path.longest ≤ maxDepth) :
    Settles (query.path.value entries) (query.path.rootsFound entries)
      (resolve ⟨.object entries, path, maxDepth⟩ query.segments) := by
  simp only [SharedQuery.path, SharedKey.longest, Nat.max_le] at fits
  have shallow : checkDepth ⟨.object entries, path, maxDepth⟩ query.segments = .ok () := by
    rw [checkDepth, if_neg]
    rw [SharedQuery.segments, List.length_cons, SharedStep.length_segments]
    exact Nat.not_lt.mpr fits.1
  rw [resolve, shallow, SharedQuery.path, SharedKey.value_path, SharedKey.rootsFound]
  exact follow_cons_settles (step_root_settles entries query.root.name)
    (follow_settles rfl query.steps fits.2 _)

end Stencil
