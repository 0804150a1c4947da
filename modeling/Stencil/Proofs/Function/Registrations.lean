import Mathlib
import Stencil.Proofs.Library.Generation
import Stencil.Proofs.Value.Keys
/-!
# Registries and their histories

What a registry tells is settled by the functions that were registered in it, and of these only the
last one of every name counts. The order in which names were first registered, the replaced
functions and the groups that a name was in before leave no trace.
-/

namespace Stencil

/-! ## The order of descriptions -/

namespace Signature

/-- The place of a description in the order: its group, then its name. -/
def place (signature : Signature) : ℕ ×ₗ String :=
  toLex (signature.category.rank, signature.name)

/-- Whether a description comes before another one. -/
def Before (first second : Signature) : Prop := first.place < second.place

instance : Std.Irrefl Before := ⟨fun signature => lt_irrefl signature.place⟩

instance : Std.Antisymm Before := ⟨fun _ _ less greater => absurd greater less.asymm⟩

theorem atMost_iff (first second : Signature) :
    first.atMost second = true ↔ first.place ≤ second.place := by
  rw [place, place, Prod.Lex.toLex_le_toLex]
  simp [atMost, Ordering.isLE_iff_ne_gt, compare_le_iff_le]

theorem Before.of_le {first second : Signature} (le : first.place ≤ second.place)
    (differ : first.name ≠ second.name) : first.Before second := by
  refine lt_of_le_of_ne le fun same => differ ?_
  exact congrArg (fun place => (ofLex place).2) same

end Signature

theorem Category.mem_all (category : Category) : category ∈ all := by
  cases category <;> decide

/-- The groups of an ordered list, one after the other, are the list. -/
theorem flatMap_category_eq {signatures : List Signature}
    (ordered : signatures.Pairwise Signature.Before) :
    (Category.all.flatMap fun category =>
      signatures.filter fun signature => signature.category = category) = signatures := by
  refine List.Pairwise.eq_of_mem_iff (List.pairwise_flatMap.mpr ⟨fun category _ => ?_, ?_⟩)
    ordered fun signature => ?_
  · exact ordered.filter _
  · have ranks : Category.all.Pairwise fun first second => first.rank < second.rank := by decide
    refine ranks.imp fun {first second} less earlier inFirst later inSecond => ?_
    simp only [List.mem_filter, decide_eq_true_eq] at inFirst inSecond
    rw [Signature.Before, Signature.place, Signature.place, Prod.Lex.toLex_lt_toLex]
    exact .inl (by rwa [inFirst.2, inSecond.2])
  · simp [Category.mem_all]

namespace Registry

/-! ## Histories -/

/-- The function that was registered last under a name. -/
def last? (history : List Function) (name : String) : Option Function :=
  (history.filter fun function => function.signature.name = name).getLast?

theorem last?_append_singleton (history : List Function) (function : Function) (name : String) :
    last? (history ++ [function]) name =
      if function.signature.name = name then some function else last? history name := by
  rw [last?, List.filter_append]
  split
  · rename_i here
    simp [here]
  · rename_i other
    simp [last?, other]

theorem name_of_last? {history : List Function} {name : String} {function : Function}
    (last : last? history name = some function) : function.signature.name = name := by
  have member := List.mem_of_getLast? last
  simpa using (List.mem_filter.mp member).2

theorem isSome_last?_iff {history : List Function} {name : String} :
    (last? history name).isSome ↔ ∃ function ∈ history, function.signature.name = name := by
  simp [last?]

/-- A registry that comes from the empty or the standard one by registrations, with all functions
that were registered in it, from the first to the last. -/
inductive Registered : List Function → Registry → Prop where
  | empty : Registered [] .empty
  | standard : Registered Library.functions Library.standard
  | register {history : List Function} {registry : Registry} (earlier : Registered history registry)
      (function : Function) : Registered (history ++ [function]) (registry.register function)

/-- The entries of a registry are those of the last functions of a history. -/
structure Holds (history : List Function) (registry : Registry) : Prop where
  distinct : registry.functions.keys.Nodup
  get? : ∀ name, registry.get? name = last? history name

namespace Holds

variable {history others : List Function} {registry other : Registry}

theorem empty : Holds [] .empty where
  distinct := List.nodup_nil
  get? := fun _ => rfl

theorem register (holds : Holds history registry) (function : Function) :
    Holds (history ++ [function]) (registry.register function) where
  distinct := Entries.nodup_keys_insert holds.distinct _ _
  get? := fun name => by rw [get?_register, last?_append_singleton, holds.get?]

theorem registerAll (holds : Holds history registry) (functions : List Function) :
    Holds (history ++ functions) (registry.registerAll functions) := by
  induction functions generalizing history registry with
  | nil => rwa [List.append_nil]
  | cons function rest ih =>
      have next := ih (holds.register function)
      rwa [List.append_assoc] at next

theorem of_registered (registered : Registered history registry) : Holds history registry := by
  induction registered with
  | empty => exact empty
  | standard => exact empty.registerAll Library.functions
  | register _ function ih => exact ih.register function

theorem mem_functions_iff (holds : Holds history registry) {name : String}
    {function : Function} :
    (name, function) ∈ registry.functions ↔ last? history name = some function := by
  rw [← holds.get?]
  exact (Entries.find?_eq_some_iff holds.distinct).symm

/-- Functions are kept under their own names. -/
theorem keys_eq (holds : Holds history registry) :
    registry.functions.keys =
      registry.functions.map fun entry => entry.2.signature.name := by
  refine List.map_congr_left fun entry member => ?_
  exact (name_of_last? (holds.mem_functions_iff.mp member)).symm

theorem mem_signatures_iff (holds : Holds history registry) (signature : Signature) :
    signature ∈ registry.signatures ↔
      (last? history signature.name).map Function.signature = some signature := by
  rw [signatures, (List.mergeSort_perm _ _).mem_iff, List.mem_map, Option.map_eq_some_iff]
  constructor
  · rintro ⟨⟨name, function⟩, member, rfl⟩
    have last := holds.mem_functions_iff.mp member
    have named := name_of_last? last
    exact ⟨function, named ▸ last, rfl⟩
  · rintro ⟨function, last, same⟩
    exact ⟨(signature.name, function), holds.mem_functions_iff.mpr last, same⟩

theorem pairwise_signatures (holds : Holds history registry) :
    registry.signatures.Pairwise Signature.Before := by
  have sorted : registry.signatures.Pairwise fun first second => first.atMost second = true := by
    refine List.pairwise_mergeSort (fun first second third => ?_) (fun first second => ?_) _
    · simp only [Signature.atMost_iff]
      exact le_trans
    · simp only [Bool.or_eq_true, Signature.atMost_iff]
      exact le_total _ _
  have names : (registry.signatures.map Signature.name).Perm registry.functions.keys := by
    have sortedNames := (List.mergeSort_perm
      (registry.functions.map fun entry => entry.2.signature) Signature.atMost).map Signature.name
    rw [List.map_map] at sortedNames
    rw [holds.keys_eq]
    exact sortedNames
  have distinct := List.pairwise_map.mp (names.nodup_iff.mpr holds.distinct)
  refine (sorted.and distinct).imp fun {first second} fine => ?_
  exact .of_le ((Signature.atMost_iff _ _).mp fine.1) fine.2

theorem size_eq (holds : Holds history registry) :
    registry.size = (history.map fun function => function.signature.name).toFinset.card := by
  have names : registry.functions.keys.toFinset =
      (history.map fun function => function.signature.name).toFinset := by
    ext name
    have known : name ∈ registry.functions.keys ↔ (last? history name).isSome := by
      simp [Option.isSome_iff_exists, Entries.keys, holds.mem_functions_iff]
    rw [List.mem_toFinset, known, isSome_last?_iff]
    simp
  rw [← names, List.toFinset_card_of_nodup holds.distinct, Entries.keys, List.length_map, size]

end Holds

/-! ## What a registry tells -/

/-- Everything that a registry tells is about the last functions of a history. -/
structure Tells (registry : Registry) (history : List Function) : Prop where
  ordered : registry.signatures.Pairwise Signature.Before
  listed : ∀ signature, signature ∈ registry.signatures ↔
    (last? history signature.name).map Function.signature = some signature
  grouped : Category.all.flatMap registry.byCategory = registry.signatures
  contains : ∀ name, registry.contains name ↔
    ∃ function ∈ history, function.signature.name = name
  described : ∀ name, registry.signature? name = (last? history name).map Function.signature
  size : registry.size = (history.map fun function => function.signature.name).toFinset.card
  called : ∀ name function value args, last? history name = some function →
    registry.call name value args = function.handler value args
  unknown : ∀ name value args, (∀ function ∈ history, function.signature.name ≠ name) →
    registry.call name value args = .error (.error ⟨name, .unknown⟩)

/-- Nothing that two registries tell is different. -/
structure Alike (first second : Registry) : Prop where
  signatures : first.signatures = second.signatures
  byCategory : ∀ category, first.byCategory category = second.byCategory category
  contains : ∀ name, first.contains name = second.contains name
  described : ∀ name, first.signature? name = second.signature? name
  size : first.size = second.size
  called : ∀ name value args, first.call name value args = second.call name value args
  remarks : ∀ name value args, first.remarks name value args = second.remarks name value args

namespace Holds

variable {history others : List Function} {registry other : Registry}

theorem tells (holds : Holds history registry) : registry.Tells history where
  ordered := holds.pairwise_signatures
  listed := holds.mem_signatures_iff
  grouped := flatMap_category_eq holds.pairwise_signatures
  contains := fun name => by rw [Registry.contains, holds.get?, isSome_last?_iff]
  described := fun name => by rw [signature?, holds.get?]
  size := holds.size_eq
  called := fun name function value args last => by rw [call, holds.get?, last]
  unknown := fun name value args absent => by
    have none : last? history name = none := by
      rw [← Option.not_isSome_iff_eq_none, isSome_last?_iff]
      rintro ⟨function, member, named⟩
      exact absent function member named
    rw [call, holds.get?, none]

theorem alike (holds : Holds history registry) (otherHolds : Holds others other)
    (same : ∀ name, last? history name = last? others name) : registry.Alike other := by
  have found (name : String) : registry.get? name = other.get? name := by
    rw [holds.get?, otherHolds.get?, same]
  have signatures : registry.signatures = other.signatures := by
    refine List.Pairwise.eq_of_mem_iff holds.pairwise_signatures otherHolds.pairwise_signatures
      fun signature => ?_
    rw [holds.mem_signatures_iff, otherHolds.mem_signatures_iff, same]
  -- A registry has as many functions as descriptions.
  have size (registry : Registry) : registry.size = registry.signatures.length := by
    rw [Registry.signatures, List.length_mergeSort, List.length_map, Registry.size]
  exact {
    signatures
    byCategory := fun category => by rw [byCategory, byCategory, signatures]
    contains := fun name => by rw [Registry.contains, Registry.contains, found]
    described := fun name => by rw [signature?, signature?, found]
    size := by rw [size, size, signatures]
    called := fun name value args => by rw [call, call, found]
    remarks := fun name value args => by rw [Registry.remarks, Registry.remarks, found] }

end Holds

/-- However a registry comes from the empty or the standard one, what it tells is about the last
function of every name: its descriptions stand in strict order and are divided by group, and calls
go to the handlers of these functions and to no others. Registries with the same last functions
cannot be told apart. -/
theorem registrations_settle {history : List Function} {registry : Registry}
    (registered : Registered history registry) :
    registry.Tells history ∧ ∀ others other, Registered others other →
      (∀ name, last? history name = last? others name) → registry.Alike other := by
  have holds := Holds.of_registered registered
  exact ⟨holds.tells, fun others other otherRegistered same =>
    holds.alike (.of_registered otherRegistered) same⟩

/-- A function of the library is replaced twice and moves to another group. -/
theorem registrations_settle_moved :
    let replaced : Function :=
      { signature := { name := "title", category := .string, description := "Keeps the text" }
        handler := fun value _ => .ok value }
    let moved : Function :=
      { signature := { name := "title", category := .array, description := "Collects titles" }
        handler := fun value args => .ok (.array (value :: args)) }
    let registry := (Library.standard.register replaced).register moved
    Registered (Library.functions ++ [replaced] ++ [moved]) registry ∧
      registry.Tells (Library.functions ++ [replaced] ++ [moved]) ∧
      (∀ name, last? (Library.functions ++ [replaced] ++ [moved]) name =
        last? (Library.functions ++ [moved]) name) ∧
      registry.Alike (Library.standard.register moved) := by
  intro replaced moved registry
  have registered : Registered (Library.functions ++ [replaced] ++ [moved]) registry :=
    .register (.register .standard replaced) moved
  have same (name : String) : last? (Library.functions ++ [replaced] ++ [moved]) name =
      last? (Library.functions ++ [moved]) name := by
    rw [last?_append_singleton, last?_append_singleton, last?_append_singleton]
    change (if "title" = name then _ else if "title" = name then _ else _) =
      if "title" = name then _ else _
    split <;> rfl
  have settled := registrations_settle registered
  exact ⟨registered, settled.1, same, settled.2 _ _ (.register .standard moved) same⟩

end Registry

end Stencil
