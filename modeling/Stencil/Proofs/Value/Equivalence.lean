import Mathlib
import Stencil.Proofs.Value.Equality
import Stencil.Proofs.Value.Keys
/-!
# Chains of equal values

Strict equality carries over from one value to the next, at any depth, although a value that holds
the float that is no number does not even equal itself. It cannot tell objects apart that have the
same entries in different orders.
-/

namespace Stencil

namespace Value

section Parts

variable {items others last : List Value}

theorem itemsEq_trans (carried : ∀ item ∈ items, ∀ other final,
      item.strictEq other = true → other.strictEq final = true → item.strictEq final = true)
    (first : itemsEq items others = true) (second : itemsEq others last = true) :
    itemsEq items last = true := by
  induction items generalizing others last with
  | nil =>
      cases others with
      | nil => exact second
      | cons other otherRest => cases first
  | cons item rest ih =>
      rcases others with _ | ⟨other, otherRest⟩
      · cases first
      rcases last with _ | ⟨final, finalRest⟩
      · cases second
      rw [itemsEq, Bool.and_eq_true] at first second ⊢
      refine ⟨carried item List.mem_cons_self other final first.1 second.1,
        ih (fun item member => ?_) first.2 second.2⟩
      exact carried item (List.mem_cons_of_mem _ member)

end Parts

section Entries

variable {entries others last : Entries Value}

theorem entriesWithin_trans (carried : ∀ entry ∈ entries, ∀ other final,
      entry.2.strictEq other = true → other.strictEq final = true →
        entry.2.strictEq final = true)
    (first : entriesWithin entries others = true) (second : entriesWithin others last = true) :
    entriesWithin entries last = true := by
  rw [entriesWithin_iff] at first second ⊢
  intro entry member
  rcases first entry member with ⟨other, found, equal⟩
  rcases second _ (Entries.mem_of_find? found) with ⟨final, foundFinal, equalFinal⟩
  exact ⟨final, foundFinal, carried entry member other final equal equalFinal⟩

end Entries

/-- What is strictly equal to a value is strictly equal to all that this value is. -/
theorem strictEq_trans {a b c : Value} (first : a.strictEq b = true)
    (second : b.strictEq c = true) : a.strictEq c = true := by
  induction a using nestedInduction generalizing b c with
  | simple a simple =>
      cases a with
      | number x =>
          cases b with
          | number y =>
              cases c with
              | number z => exact floatBeq_trans first second
              | _ => cases second
          | _ => cases first
      | array items => cases simple
      | object entries => cases simple
      | undefined =>
          cases b with
          | undefined => exact second
          | _ => cases first
      | null =>
          cases b with
          | null => exact second
          | _ => cases first
      | bool p =>
          cases b with
          | bool q =>
              obtain rfl := beq_iff_eq.mp first
              exact second
          | _ => cases first
      | string s =>
          cases b with
          | string t =>
              obtain rfl := beq_iff_eq.mp first
              exact second
          | _ => cases first
  | array items ih =>
      cases b with
      | array others =>
          cases c with
          | array last =>
              exact itemsEq_trans (fun item member _ _ => ih item member) first second
          | _ => cases second
      | _ => cases first
  | object entries ih =>
      cases b with
      | object others =>
          cases c with
          | object last =>
              rw [strictEq, Bool.and_eq_true, beq_iff_eq] at first second ⊢
              exact ⟨first.1.trans second.1,
                entriesWithin_trans (fun entry member _ _ => ih entry member) first.2 second.2⟩
          | _ => cases second
      | _ => cases first

section Order

variable {entries others : Entries Value}

theorem strictEq_object_self (distinct : entries.keys.Nodup)
    (equal : ∀ entry ∈ entries, entry.2.strictEq entry.2 = true) :
    (object entries).strictEq (object entries) = true := by
  rw [strictEq, beq_self_eq_true, Bool.true_and, entriesWithin_iff]
  intro entry member
  exact ⟨entry.2, (Entries.find?_eq_some_iff distinct).mpr member, equal entry member⟩

/-- The order of the keys of an object is nothing that equality can tell. -/
theorem strictEq_object_of_perm (same : entries.Perm others) (distinct : entries.keys.Nodup)
    (value : Value) : (object entries).strictEq value = (object others).strictEq value ∧
      value.strictEq (object entries) = value.strictEq (object others) := by
  cases value with
  | object last =>
      have within : entriesWithin entries last = entriesWithin others last := by
        rw [Bool.eq_iff_iff, entriesWithin_iff, entriesWithin_iff]
        exact forall_congr' fun entry => imp_congr_left same.mem_iff
      have around : entriesWithin last entries = entriesWithin last others := by
        rw [Bool.eq_iff_iff, entriesWithin_iff, entriesWithin_iff]
        simp only [Entries.find?_eq_of_perm same distinct]
      simp only [strictEq, same.length_eq, within, around, and_self]
  | _ => exact ⟨rfl, rfl⟩

end Order

/-- The float that is no number equals nothing, itself included. -/
theorem strictEq_of_isNaN {x : Float} (none : x.isNaN = true) (value : Value) :
    (number x).strictEq value = false ∧ value.strictEq (number x) = false := by
  cases value with
  | number y =>
      have back : (y == x) = false := (floatBeq_comm y x).trans (floatBeq_of_isNaN none y)
      exact ⟨floatBeq_of_isNaN none y, back⟩
  | _ => exact ⟨rfl, rfl⟩

end Value

end Stencil
