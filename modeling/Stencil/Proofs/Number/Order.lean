import Mathlib
import Stencil.Proofs.Number.Floats
import Stencil.Value.Compare
/-!
# The order of floats

Every float that is a number has a place in a linear order, and two floats compare as their places
do. Both zeros have the same place, and the float that is no number has none.
-/

namespace Stencil

open Float.Model Float.Model.UnpackedFloat

namespace Binary

/-- The place of a number among the others: on which side of zero it is, and then its exponent and
its mantissa, which count downwards below zero. -/
def place : Binary → Option (ℤ ×ₗ ℤ ×ₗ ℤ)
  | notANumber => none
  | infinite negative => some (toLex (if negative then -2 else 2, toLex (0, 0)))
  | finite negative mantissa exponent =>
    if mantissa = 0 then some (toLex (0, toLex (0, 0)))
    else if negative then some (toLex (-1, toLex (-exponent, -(mantissa : ℤ))))
    else some (toLex (1, toLex (exponent, (mantissa : ℤ))))

theorem place_finite (negative : Bool) {mantissa : Nat} (positive : 0 < mantissa)
    (exponent : Int) : (finite negative mantissa exponent).place =
      some (if negative then toLex (-1, toLex (-exponent, -(mantissa : ℤ)))
        else toLex (1, toLex (exponent, (mantissa : ℤ)))) := by
  cases negative <;> simp [place, positive.ne']

theorem compare_lex {α β : Type} [Ord α] [Ord β] (a c : α) (b d : β) :
    compare (toLex (a, b)) (toLex (c, d)) = (compare a c).then (compare b d) := rfl

theorem compare_neg (a b : ℤ) : compare (-a) (-b) = (compare a b).swap := by
  rw [← cmp_eq_compare, ← cmp_eq_compare, StrictAnti.cmp_map_eq (fun _ _ => neg_lt_neg), cmp_swap]

theorem compare_natCast (a b : ℕ) : compare (a : ℤ) (b : ℤ) = compare a b := by
  rw [← cmp_eq_compare, ← cmp_eq_compare, Nat.strictMono_cast.cmp_map_eq]

/-- Unpacked floats compare as their places do. -/
theorem compare_unpacked (x y : UnpackedFloat) :
    x.compare y = Option.map₂ compare (ofUnpacked x).place (ofUnpacked y).place := by
  cases x with
  | notANumber => cases y <;> rfl
  | infinity sign =>
      cases y with
      | notANumber => cases sign <;> rfl
      | infinity other => cases sign <;> cases other <;> rfl
      | zero other => cases sign <;> rfl
      | finite other mantissa exponent positive =>
          rw [ofUnpacked, ofUnpacked, place_finite _ positive]
          cases sign <;> cases other <;> rfl
  | zero sign =>
      cases y with
      | notANumber => rfl
      | infinity other => cases other <;> rfl
      | zero other => rfl
      | finite other mantissa exponent positive =>
          rw [ofUnpacked, ofUnpacked, place_finite _ positive]
          cases other <;> rfl
  | finite sign mantissa exponent positive =>
      rw [ofUnpacked, place_finite _ positive]
      cases y with
      | notANumber => cases sign <;> rfl
      | infinity other => cases sign <;> cases other <;> rfl
      | zero other => cases sign <;> rfl
      | finite other mantissa' exponent' positive' =>
          rw [ofUnpacked, place_finite _ positive']
          cases sign <;> cases other
          · simp [UnpackedFloat.compare, ofSign, compare_lex, compare_neg, compare_natCast,
              Ordering.swap_then]
          · rfl
          · rfl
          · simp [UnpackedFloat.compare, ofSign, compare_lex, compare_natCast]

theorem lt_iff_compare (a b : Float) :
    a < b ↔ a.toModel.unpack.compare b.toModel.unpack = some .lt :=
  decide_eq_true_iff.trans beq_iff_eq

theorem beq_iff_compare (a b : Float) :
    (a == b) = true ↔ a.toModel.unpack.compare b.toModel.unpack = some .eq := by
  change (a.toModel.unpack.compare b.toModel.unpack == some .eq) = true ↔ _
  exact beq_iff_eq

theorem compareNumbers_eq (a b : Float) :
    Value.compareNumbers a b = Option.map₂ compare (ofFloat a).place (ofFloat b).place := by
  -- The second test of an order is the first one with the operands exchanged.
  have swapped : b.toModel.unpack.compare a.toModel.unpack =
      (a.toModel.unpack.compare b.toModel.unpack).map Ordering.swap := by
    rw [compare_unpacked, compare_unpacked, Option.map_map₂, Option.map₂_swap]
    congr 1
    funext x y
    exact Std.OrientedCmp.eq_swap
  rw [ofFloat_eq, ofFloat_eq, ← compare_unpacked, Value.compareNumbers]
  simp only [lt_iff_compare, beq_iff_compare, swapped]
  rcases a.toModel.unpack.compare b.toModel.unpack with _ | order
  · rfl
  · cases order <;> rfl

theorem place_eq_none_iff (x : Float) : (ofFloat x).place = none ↔ x.isNaN = true := by
  change _ ↔ x.toModel.unpack.isNaN = true
  rw [ofFloat_eq]
  cases x.toModel.unpack with
  | finite sign mantissa exponent positive =>
      simp [ofUnpacked, place_finite _ positive, UnpackedFloat.isNaN]
  | _ => simp [ofUnpacked, place, UnpackedFloat.isNaN]

end Binary

namespace Value

/-- Exchanging two floats reverses their order, and keeps it if there is none. -/
theorem compareNumbers_swap (a b : Float) :
    compareNumbers b a = (compareNumbers a b).map Ordering.swap := by
  rw [Binary.compareNumbers_eq, Binary.compareNumbers_eq, Option.map_map₂, Option.map₂_swap]
  congr 1
  funext x y
  exact Std.OrientedCmp.eq_swap

theorem beq_iff_compareNumbers (a b : Float) :
    (a == b) = true ↔ compareNumbers a b = some .eq := by
  rw [Binary.beq_iff_compare, Binary.compareNumbers_eq, Binary.compare_unpacked,
    Binary.ofFloat_eq, Binary.ofFloat_eq]

theorem floatBeq_comm (a b : Float) : (a == b) = (b == a) := by
  rw [Bool.eq_iff_iff, beq_iff_compareNumbers, beq_iff_compareNumbers, compareNumbers_swap a b]
  rcases compareNumbers a b with _ | order
  · simp
  · cases order <;> simp

theorem beq_iff_place (a b : Float) :
    (a == b) = true ↔ ∃ place, (Binary.ofFloat a).place = some place ∧
      (Binary.ofFloat b).place = some place := by
  rw [beq_iff_compareNumbers, Binary.compareNumbers_eq, Option.map₂_eq_some_iff]
  constructor
  · rintro ⟨place, other, here, there, same⟩
    obtain rfl := compare_eq_iff_eq.mp same
    exact ⟨place, here, there⟩
  · rintro ⟨place, here, there⟩
    exact ⟨place, place, here, there, Std.ReflCmp.compare_self⟩

theorem floatBeq_trans {a b c : Float} (first : (a == b) = true) (second : (b == c) = true) :
    (a == c) = true := by
  rw [beq_iff_place] at first second ⊢
  rcases first with ⟨place, here, between⟩
  rcases second with ⟨_, same, there⟩
  obtain rfl := Option.some.inj (between.symm.trans same)
  exact ⟨place, here, there⟩

/-- The float that is no number equals nothing. -/
theorem floatBeq_of_isNaN {x : Float} (none : x.isNaN = true) (y : Float) : (x == y) = false := by
  rw [Bool.eq_false_iff, Ne, beq_iff_place, (Binary.place_eq_none_iff x).mpr none]
  rintro ⟨_, here, _⟩
  cases here

end Value

end Stencil
