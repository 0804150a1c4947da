import Mathlib.Algebra.Order.Floor.Semifield
import Mathlib.Data.Rat.Floor
import Mathlib.Tactic.Linarith
import Mathlib.Tactic.Positivity
import Mathlib.Tactic.Ring
import Stencil.Number.Decimal
/-!
# Values of ratios

A ratio of naturals stands for a rational number, and what is computed with numerators and
denominators is what the rational number says: its integer part, its order among the naturals, and
the exponent of its leading decimal digit.
-/

namespace Stencil

/-- The text of a natural number has as many characters as its leading digit asks for. -/
theorem ten_pow_length_repr {n : Nat} (positive : 0 < n) :
    10 ^ (n.repr.length - 1) ≤ n ∧ n < 10 ^ n.repr.length := by
  have nonempty : 0 < n.repr.length := Nat.length_repr_pos
  constructor
  · by_contra small
    have leading : 0 < n.repr.length - 1 := by
      by_contra single
      have one : n.repr.length - 1 = 0 := by omega
      rw [one] at small
      omega
    have shorter := (Nat.length_repr_le_iff leading).mpr (not_le.mp small)
    omega
  · exact (Nat.length_repr_le_iff nonempty).mp le_rfl

namespace Ratio

/-- The rational number of a ratio. -/
def value (ratio : Ratio) : ℚ := ratio.numerator / ratio.denominator

theorem value_ofDyadic (mantissa : Nat) (exponent : Int) :
    (ofDyadic mantissa exponent).value = mantissa * 2 ^ exponent := by
  unfold ofDyadic value
  split
  · rename_i nonneg
    obtain ⟨power, rfl⟩ := Int.eq_ofNat_of_zero_le nonneg
    simp
  · rename_i neg
    obtain ⟨power, same⟩ := Int.eq_ofNat_of_zero_le (a := -exponent) (by omega)
    obtain rfl : exponent = -power := by omega
    simp [div_eq_mul_inv]

theorem denominator_ofDyadic (mantissa : Nat) (exponent : Int) :
    0 < (ofDyadic mantissa exponent).denominator := by
  unfold ofDyadic
  split
  · exact Nat.one_pos
  · simp

theorem numerator_ofDyadic {mantissa : Nat} (positive : 0 < mantissa) (exponent : Int) :
    0 < (ofDyadic mantissa exponent).numerator := by
  unfold ofDyadic
  split <;> simp [positive]

theorem value_scaleTen (ratio : Ratio) (exponent : Int) :
    (ratio.scaleTen exponent).value = ratio.value * 10 ^ exponent := by
  unfold scaleTen value
  split
  · rename_i nonneg
    obtain ⟨power, rfl⟩ := Int.eq_ofNat_of_zero_le nonneg
    simp [div_mul_eq_mul_div]
  · rename_i neg
    obtain ⟨power, same⟩ := Int.eq_ofNat_of_zero_le (a := -exponent) (by omega)
    obtain rfl : exponent = -power := by omega
    simp [div_eq_mul_inv, mul_comm, mul_assoc]

theorem denominator_scaleTen {ratio : Ratio} (positive : 0 < ratio.denominator) (exponent : Int) :
    0 < (ratio.scaleTen exponent).denominator := by
  unfold scaleTen
  split <;> simp [positive]

theorem floor_eq (ratio : Ratio) : ratio.floor = ⌊ratio.value⌋₊ :=
  (Nat.floor_div_eq_div ratio.numerator ratio.denominator).symm

theorem value_nonneg (ratio : Ratio) : 0 ≤ ratio.value := by
  unfold value
  positivity

section Order

variable {ratio : Ratio} (positive : 0 < ratio.denominator)
include positive

theorem compareNat_eq_lt (n : Nat) : ratio.compareNat n = .lt ↔ ratio.value < n := by
  have denominator : (0 : ℚ) < ratio.denominator := by exact_mod_cast positive
  rw [compareNat, compare_lt_iff_lt, value, div_lt_iff₀ denominator]
  norm_cast

theorem compareNat_eq_gt (n : Nat) : ratio.compareNat n = .gt ↔ n < ratio.value := by
  have denominator : (0 : ℚ) < ratio.denominator := by exact_mod_cast positive
  rw [compareNat, compare_gt_iff_gt, value, lt_div_iff₀ denominator]
  norm_cast

theorem compareNat_eq_eq (n : Nat) : ratio.compareNat n = .eq ↔ ratio.value = n := by
  have denominator : (0 : ℚ) < ratio.denominator := by exact_mod_cast positive
  rw [compareNat, compare_eq_iff_eq, value, div_eq_iff denominator.ne']
  norm_cast

end Order

/-- A ratio of at least one lies between the powers of ten that its integer part lies between. -/
theorem ten_pow_length_floor {ratio : Ratio} (positive : 0 < ratio.floor) :
    (10 : ℚ) ^ (ratio.floor.repr.length - 1) ≤ ratio.value ∧
      ratio.value < 10 ^ ratio.floor.repr.length := by
  rcases ten_pow_length_repr positive with ⟨lower, upper⟩
  have floor_le : (ratio.floor : ℚ) ≤ ratio.value := by
    rw [floor_eq]
    exact Nat.floor_le ratio.value_nonneg
  have lt_floor : ratio.value < ratio.floor + 1 := by
    rw [floor_eq]
    exact Nat.lt_floor_add_one ratio.value
  constructor
  · calc (10 : ℚ) ^ (ratio.floor.repr.length - 1) ≤ ratio.floor := by exact_mod_cast lower
      _ ≤ ratio.value := floor_le
  · calc ratio.value < ratio.floor + 1 := lt_floor
      _ ≤ 10 ^ ratio.floor.repr.length := by exact_mod_cast upper

section Leading

variable {ratio : Ratio} (numerator : 0 < ratio.numerator) (denominator : 0 < ratio.denominator)
include numerator denominator

theorem value_pos : 0 < ratio.value := by
  unfold value
  positivity

/-- Below one the integer part of the inverse counts the places. -/
theorem ten_pow_places (small : ratio.numerator < ratio.denominator) {places : Nat}
    (length : (Nat.repr (ratio.denominator / ratio.numerator)).length = places + 1) :
    (10 : ℚ) ^ (-(places + 1 : ℕ) : ℤ) < ratio.value ∧ ratio.value ≤ 10 ^ (-places : ℤ) := by
  let inverse : Ratio := ⟨ratio.denominator, ratio.numerator⟩
  have inverted : inverse.value = ratio.value⁻¹ := (inv_div _ _).symm
  have positive : 0 < inverse.floor := Nat.div_pos small.le numerator
  have digits : inverse.floor.repr.length = places + 1 := length
  rcases ten_pow_length_floor positive with ⟨lower, upper⟩
  rw [inverted, digits] at upper
  rw [inverted, digits, Nat.add_sub_cancel] at lower
  constructor
  · rw [zpow_neg, zpow_natCast]
    exact inv_lt_of_inv_lt₀ (value_pos numerator denominator) upper
  · rw [zpow_neg, zpow_natCast]
    exact le_inv_of_le_inv₀ (by positivity) lower

omit numerator in
theorem le_value_iff (places : Nat) :
    ratio.denominator ≤ ratio.numerator * Nat.pow 10 places ↔
      (10 : ℚ) ^ (-places : ℤ) ≤ ratio.value := by
  have divisor : (0 : ℚ) < ratio.denominator := by exact_mod_cast denominator
  rw [zpow_neg, zpow_natCast, value, inv_le_iff_one_le_mul₀ (by positivity),
    div_mul_eq_mul_div, one_le_div divisor]
  norm_cast

theorem leadingExponent_spec :
    (10 : ℚ) ^ ratio.leadingExponent ≤ ratio.value ∧
      ratio.value < 10 ^ (ratio.leadingExponent + 1) := by
  unfold leadingExponent
  split
  · rename_i large
    have positive : 0 < ratio.floor := Nat.div_pos large denominator
    obtain ⟨places, length⟩ : ∃ places, ratio.floor.repr.length = places + 1 :=
      Nat.exists_eq_succ_of_ne_zero (Nat.length_repr_pos).ne'
    have bounds := ten_pow_length_floor positive
    have leading : ((places + 1 : ℕ) : ℤ) - 1 = places := by omega
    rw [length, Nat.add_sub_cancel] at bounds
    rw [length, leading]
    exact_mod_cast bounds
  · rename_i small
    obtain ⟨places, length⟩ :
        ∃ places, (Nat.repr (ratio.denominator / ratio.numerator)).length = places + 1 :=
      Nat.exists_eq_succ_of_ne_zero (Nat.length_repr_pos).ne'
    rcases ten_pow_places numerator denominator (not_le.mp small) length with ⟨least, most⟩
    have leading : -(((places + 1 : ℕ) : ℤ) - 1) = -places := by omega
    have below : -((places + 1 : ℕ) : ℤ) + 1 = -places := by omega
    simp only [length, Nat.add_sub_cancel, le_value_iff denominator]
    split
    · rename_i above
      rw [leading]
      exact ⟨above, lt_of_le_of_lt most (zpow_lt_zpow_right₀ (by norm_num) (Int.lt_succ _))⟩
    · rename_i above
      rw [below]
      exact ⟨least.le, not_le.mp above⟩

end Leading

end Ratio

end Stencil
