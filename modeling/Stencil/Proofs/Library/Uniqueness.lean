import Mathlib
import Stencil.Library.Sequences
import Stencil.Proofs.Value.Equivalence
/-!
# First occurrences

An element stays in an array without repetitions exactly if it is strictly equal to none before it.
The search for repetitions only sees the elements that are kept. They answer for all elements before
a place, since what is equal to a dropped element is equal to the kept one that it repeats.
-/

namespace Stencil.Sequence

/-- Whether one of some elements is strictly equal to a value. -/
def isKnown (items : List Value) (value : Value) : Bool := items.any fun item => item.strictEq value

section Known

variable {items : List Value} {item value : Value}

theorem isKnown_append_singleton :
    isKnown (items ++ [item]) value = (isKnown items value || item.strictEq value) := by
  simp [isKnown]

theorem isKnown_of_strictEq (known : isKnown items item = true)
    (equal : item.strictEq value = true) : isKnown items value = true := by
  rcases List.any_eq_true.mp known with ⟨earlier, member, same⟩
  exact List.any_eq_true.mpr ⟨earlier, member, Value.strictEq_trans same equal⟩

theorem isKnown_take_eq_false_iff (place : Fin items.length) :
    isKnown (items.take place) value = false ↔
      ∀ earlier < place, (items.get earlier).strictEq value = false := by
  rw [isKnown, List.any_eq_false]
  constructor
  · intro fresh earlier before
    refine Bool.eq_false_iff.mpr (fresh _ ?_)
    exact List.mem_take_iff_getElem.mpr ⟨earlier, lt_min before earlier.isLt, rfl⟩
  · intro fresh item member
    rcases List.mem_take_iff_getElem.mp member with ⟨earlier, inside, rfl⟩
    rw [lt_min_iff] at inside
    exact Bool.eq_false_iff.mp (fresh ⟨earlier, inside.2⟩ inside.1)

end Known

/-- Where the kept elements know what all elements before a place know, the elements from there on
are kept by what is before them. -/
theorem uniqueFrom_eq {kept before : List Value}
    (same : ∀ value, isKnown kept value = isKnown before value) (rest : List Value) :
    uniqueFrom kept rest = kept.reverse ++
      ((rest.zipIdx before.length).filter fun placed =>
        !isKnown ((before ++ rest).take placed.2) placed.1).map Prod.fst := by
  induction rest generalizing kept before with
  | nil => simp [uniqueFrom]
  | cons item rest ih =>
      have passed : before ++ item :: rest = (before ++ [item]) ++ rest := by simp
      have place : before.length + 1 = (before ++ [item]).length := by simp
      have here : (before ++ item :: rest).take before.length = before := List.take_left
      rw [uniqueFrom, List.zipIdx_cons, List.filter_cons, here, place, passed]
      change (if isKnown kept item = true then _ else _) = _
      cases known : isKnown kept item with
      | true =>
          have dropped : ∀ value, isKnown kept value = isKnown (before ++ [item]) value := by
            intro value
            rw [isKnown_append_singleton, ← same]
            cases equal : item.strictEq value with
            | true => rw [isKnown_of_strictEq known equal, Bool.or_true]
            | false => rw [Bool.or_false]
          rw [if_pos rfl, ih dropped, ← same, known]
          rfl
      | false =>
          have added : ∀ value,
              isKnown (item :: kept) value = isKnown (before ++ [item]) value := by
            intro value
            rw [isKnown_append_singleton, ← same, Bool.or_comm]
            rfl
          rw [if_neg Bool.false_ne_true, ih added, ← same, known]
          simp

/-- Elements that do not repeat are all kept. -/
theorem uniqueFrom_of_pairwise {kept items : List Value}
    (apart : (kept.reverse ++ items).Pairwise fun earlier later =>
      earlier.strictEq later = false) : uniqueFrom kept items = kept.reverse ++ items := by
  induction items generalizing kept with
  | nil => simp [uniqueFrom]
  | cons item rest ih =>
      have fresh : ¬(kept.any fun earlier => earlier.strictEq item) = true := by
        rw [List.any_eq_true]
        rintro ⟨earlier, member, equal⟩
        have differs := (List.pairwise_append.mp apart).2.2 earlier (List.mem_reverse.mpr member)
          item List.mem_cons_self
        exact absurd equal (Bool.eq_false_iff.mp differs)
      have shifted : (item :: kept).reverse ++ rest = kept.reverse ++ item :: rest := by simp
      rw [uniqueFrom, if_neg fresh, ih (by rwa [shifted]), shifted]

/-- The places of the elements that are strictly equal to none before them. -/
def firstPlaces (items : List Value) : List (Fin items.length) :=
  (List.finRange items.length).filter fun place => !isKnown (items.take place) (items.get place)

section Places

variable {items : List Value}

theorem mem_firstPlaces_iff {place : Fin items.length} :
    place ∈ firstPlaces items ↔
      ∀ earlier < place, (items.get earlier).strictEq (items.get place) = false := by
  rw [firstPlaces, List.mem_filter, Bool.not_eq_true', isKnown_take_eq_false_iff]
  exact and_iff_right (List.mem_finRange place)

theorem pairwise_firstPlaces (items : List Value) : (firstPlaces items).Pairwise (· < ·) :=
  (List.pairwise_lt_finRange items.length).filter _

/-- The element that a dropped one repeats may be dropped too, and then repeats one before it. -/
theorem exists_firstPlace {place : Fin items.length} (dropped : place ∉ firstPlaces items) :
    ∃ first ∈ firstPlaces items, first < place ∧
      (items.get first).strictEq (items.get place) = true := by
  induction place using WellFoundedLT.induction with
  | ind place ih =>
      rw [mem_firstPlaces_iff, not_forall] at dropped
      rcases dropped with ⟨earlier, repeated⟩
      rw [Classical.not_imp, Bool.not_eq_false] at repeated
      rcases repeated with ⟨before, equal⟩
      by_cases kept : earlier ∈ firstPlaces items
      · exact ⟨earlier, kept, before, equal⟩
      · rcases ih earlier before kept with ⟨first, member, ahead, same⟩
        exact ⟨first, member, ahead.trans before, Value.strictEq_trans same equal⟩

theorem map_get_firstPlaces (items : List Value) :
    (firstPlaces items).map items.get = uniqueFrom [] items := by
  have placed : items.zipIdx =
      (List.finRange items.length).map fun place => (items.get place, place.val) := by
    refine List.ext_getElem (by simp) fun n _ _ => ?_
    simp
  rw [@uniqueFrom_eq [] [] (fun _ => rfl), List.length_nil, placed, List.filter_map, List.map_map]
  rfl

theorem sublist_firstPlaces (items : List Value) :
    ((firstPlaces items).map items.get).Sublist items := by
  conv_rhs => rw [← List.map_get_finRange items]
  exact (List.filter_sublist).map _

theorem pairwise_get_firstPlaces (items : List Value) :
    ((firstPlaces items).map items.get).Pairwise fun earlier later =>
      earlier.strictEq later = false := by
  rw [List.pairwise_map]
  refine (pairwise_firstPlaces items).imp_of_mem ?_
  intro earlier later _ member before
  exact mem_firstPlaces_iff.mp member earlier before

end Places

/-- The places of the elements that an array without repetitions has: those of the elements that
are strictly equal to none before them. Every other element repeats one of these. -/
structure FirstOccurrences (items : List Value) (places : List (Fin items.length)) : Prop where
  ascending : places.Pairwise (· < ·)
  kept : ∀ place, place ∈ places ↔
    ∀ earlier < place, (items.get earlier).strictEq (items.get place) = false
  dropped : ∀ place, place ∉ places → ∃ first ∈ places, first < place ∧
    (items.get first).strictEq (items.get place) = true

theorem firstOccurrences_firstPlaces (items : List Value) :
    FirstOccurrences items (firstPlaces items) where
  ascending := pairwise_firstPlaces items
  kept := fun _ => mem_firstPlaces_iff
  dropped := fun _ => exists_firstPlace

/-- Dropping what repeats leaves the first occurrences of an array in their order, no two of them
equal in either direction where every key of an object occurs once, and a second time there is
nothing left to drop. Objects repeat each other whatever the order of their keys, and the float that
is no number repeats nothing. -/
theorem unique_keeps_first (items : List Value) (args : Arguments) :
    (∃ places : List (Fin items.length), FirstOccurrences items places ∧
      unique (.array items) args = .ok (.array (places.map items.get)) ∧
      (places.map items.get).Sublist items ∧
      (places.map items.get).Pairwise (fun earlier later => earlier.strictEq later = false) ∧
      ((∀ item ∈ items, item.DistinctKeys) → ∀ place ∈ places, ∀ other ∈ places, place ≠ other →
        (items.get place).strictEq (items.get other) = false) ∧
      unique (.array (places.map items.get)) args = .ok (.array (places.map items.get))) ∧
    (∀ entries others : Entries Value, entries.Perm others → entries.keys.Nodup →
      ((∀ entry ∈ entries, entry.2.strictEq entry.2 = true) →
        (Value.object entries).strictEq (.object others) = true) ∧
      ∀ value : Value,
        (Value.object entries).strictEq value = (Value.object others).strictEq value ∧
        value.strictEq (.object entries) = value.strictEq (.object others)) ∧
    ∀ x : Float, x.isNaN = true → ∀ value : Value,
      (Value.number x).strictEq value = false ∧ value.strictEq (.number x) = false := by
  refine ⟨⟨firstPlaces items, firstOccurrences_firstPlaces items, ?_, sublist_firstPlaces items,
    pairwise_get_firstPlaces items, ?_, ?_⟩, ?_, ?_⟩
  · rw [map_get_firstPlaces]
    rfl
  · intro distinct place member other otherMember differs
    rcases lt_or_gt_of_ne differs with before | behind
    · exact mem_firstPlaces_iff.mp otherMember place before
    · rw [Value.strictEq_comm (distinct _ (List.get_mem items place))
        (distinct _ (List.get_mem items other))]
      exact mem_firstPlaces_iff.mp member other behind
  · have again : uniqueFrom [] ((firstPlaces items).map items.get) =
        (firstPlaces items).map items.get := uniqueFrom_of_pairwise (pairwise_get_firstPlaces items)
    change Except.ok (Value.array (uniqueFrom [] _)) = _
    rw [again]
  · intro entries others same distinct
    refine ⟨fun equal => ?_, Value.strictEq_object_of_perm same distinct⟩
    rw [← (Value.strictEq_object_of_perm same distinct _).2]
    exact Value.strictEq_object_self distinct equal
  · intro x none value
    exact Value.strictEq_of_isNaN none value

/-- Objects with the same entries in different orders, the float that is no number twice, and a
number beside its text. -/
theorem unique_keeps_first_mixed :
    let first : Value := .object [("x", .number 1.0), ("y", .null)]
    let second : Value := .object [("y", .null), ("x", .number 1.0)]
    let nothing : Value := .number Number.notANumber
    let items : List Value := [first, nothing, .string "1", second, .number 1.0, nothing]
    first.strictEq second = true ∧
      unique (.array items) [] =
        .ok (.array [first, nothing, .string "1", .number 1.0, nothing]) ∧
      ∃ places : List (Fin items.length), FirstOccurrences items places ∧
        unique (.array items) [] = .ok (.array (places.map items.get)) ∧
        ∀ place ∈ places, ∀ other ∈ places, place ≠ other →
          (items.get place).strictEq (items.get other) = false := by
  intro first second nothing items
  rcases unique_keeps_first items [] with
    ⟨⟨places, occurrences, result, _, _, apart, _⟩, orderless, _⟩
  have equal : ∀ entry ∈ [("x", Value.number 1.0), ("y", .null)],
      entry.2.strictEq entry.2 = true := by
    simp only [List.forall_mem_cons, List.not_mem_nil, false_imp_iff, implies_true, and_true]
    exact ⟨rfl, rfl⟩
  have distinct : ∀ item ∈ items, item.DistinctKeys := by
    simp [items, first, second, nothing, Value.DistinctKeys, Value.DistinctKeysEntries]
  exact ⟨(orderless _ _ (.swap _ _ _) (by decide)).1 equal, rfl, places, occurrences, result,
    apart distinct⟩

end Stencil.Sequence
