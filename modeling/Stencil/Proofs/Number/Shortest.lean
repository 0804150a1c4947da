import Mathlib.Data.Nat.Cast.Field
import Stencil.Proofs.Number.Ratios
/-!
# Shortest decimals

The search for the shortest decimal of a float ends with a decimal in the interval of the reals that
round to the float. On the grid with seventeen digits a neighbour of the value always lies in the
interval, since a step of this grid is smaller than the interval.
-/

namespace Stencil

namespace Decimal

/-- The rational number of a decimal. -/
def value (decimal : Decimal) : ℚ := decimal.digits * 10 ^ decimal.exponent

/-- Trailing zeros are no part of the value. -/
theorem value_dropZeros (fuel : Nat) (decimal : Decimal) :
    (decimal.dropZeros fuel).value = decimal.value := by
  induction fuel generalizing decimal with
  | zero => rfl
  | succ fuel ih =>
      unfold dropZeros
      split
      · rename_i trailing
        have digits : decimal.digits = decimal.digits / 10 * 10 := by omega
        rw [ih]
        unfold value
        rw [zpow_add_one₀ (by norm_num)]
        conv_rhs => rw [digits]
        push_cast
        ring
      · rfl

end Decimal

namespace Shortest

namespace Interval

/-- Whether a rational number lies in an interval. -/
def Contains (interval : Interval) (x : ℚ) : Prop :=
  (interval.lower.value < x ∨ interval.closed = true ∧ interval.lower.value = x) ∧
    (x < interval.upper.value ∨ interval.closed = true ∧ interval.upper.value = x)

section Search

variable {interval : Interval} {exponent : Int}

theorem holds_iff (lower : 0 < interval.lower.denominator) (upper : 0 < interval.upper.denominator)
    (digits : Nat) :
    interval.holds digits exponent = true ↔ interval.Contains (digits * 10 ^ exponent) := by
  have scale : (0 : ℚ) < 10 ^ exponent := zpow_pos (by norm_num) exponent
  simp only [holds, Bool.and_eq_true, Bool.or_eq_true, beq_iff_eq, Contains]
  rw [Ratio.compareNat_eq_lt (Ratio.denominator_scaleTen lower _),
    Ratio.compareNat_eq_eq (Ratio.denominator_scaleTen lower _),
    Ratio.compareNat_eq_gt (Ratio.denominator_scaleTen upper _),
    Ratio.compareNat_eq_eq (Ratio.denominator_scaleTen upper _)]
  simp only [Ratio.value_scaleTen, zpow_neg, ← div_eq_mul_inv]
  rw [div_lt_iff₀ scale, lt_div_iff₀ scale, div_eq_iff scale.ne', div_eq_iff scale.ne']

theorem holds_of_neighbour? {decimal : Decimal}
    (found : interval.neighbour? exponent = some decimal) :
    interval.holds decimal.digits decimal.exponent = true := by
  simp only [neighbour?] at found
  split at found
  · cases found
  · rename_i low _
    cases found
    exact low
  · rename_i high
    cases found
    exact high
  · rename_i low high
    split at found
    · cases found
      exact low
    · cases found
      exact high

theorem not_holds_of_neighbour? (missing : interval.neighbour? exponent = none) :
    interval.holds (interval.value.scaleTen (-exponent)).floor exponent = false ∧
      interval.holds ((interval.value.scaleTen (-exponent)).floor + 1) exponent = false := by
  simp only [neighbour?] at missing
  split at missing
  · rename_i low high
    exact ⟨low, high⟩
  · cases missing
  · cases missing
  · split at missing <;> cases missing

end Search

section Dyadic

variable {mantissa : Nat} {exponent : Int}

theorem value_ofDyadic : (ofDyadic mantissa exponent).value.value = mantissa * 2 ^ exponent :=
  Ratio.value_ofDyadic mantissa exponent

/-- The part of a unit in the last place that an interval reaches below its value. -/
def reach (mantissa : Nat) (exponent : Int) : ℚ :=
  if mantissa = Nat.pow 2 52 ∧ exponent ≠ -1074 then 1 / 4 else 1 / 2

theorem reach_bounds (mantissa : Nat) (exponent : Int) :
    0 < reach mantissa exponent ∧ reach mantissa exponent ≤ 1 / 2 := by
  unfold reach
  split <;> norm_num

theorem quarter (exponent : Int) : (2 : ℚ) ^ (exponent - 2) = 2 ^ exponent / 4 := by
  rw [zpow_sub₀ (by norm_num)]
  norm_num

theorem upper_ofDyadic :
    (ofDyadic mantissa exponent).upper.value = (mantissa + 1 / 2) * 2 ^ exponent := by
  simp only [ofDyadic, Ratio.value_ofDyadic, quarter]
  push_cast
  ring

theorem lower_ofDyadic (positive : 0 < mantissa) :
    (ofDyadic mantissa exponent).lower.value =
      (mantissa - reach mantissa exponent) * 2 ^ exponent := by
  simp only [ofDyadic, Ratio.value_ofDyadic, quarter, reach]
  split
  · rw [Nat.cast_sub (by omega)]
    push_cast
    ring
  · rw [Nat.cast_sub (by omega)]
    push_cast
    ring

theorem holds_ofDyadic_iff (digits : Nat) (grid : Int) :
    (ofDyadic mantissa exponent).holds digits grid = true ↔
      (ofDyadic mantissa exponent).Contains (digits * 10 ^ grid) :=
  holds_iff (Ratio.denominator_ofDyadic _ _) (Ratio.denominator_ofDyadic _ _) digits

/-- What is closer to the value than either bound lies in the interval. -/
theorem contains_of_near (positive : 0 < mantissa) {x : ℚ}
    (lower : (mantissa - reach mantissa exponent) * 2 ^ exponent < x)
    (upper : x < (mantissa + 1 / 2) * 2 ^ exponent) : (ofDyadic mantissa exponent).Contains x := by
  constructor
  · exact Or.inl (by rwa [lower_ofDyadic positive])
  · exact Or.inl (by rwa [upper_ofDyadic])

/-- If the steps of a grid are smaller than the interval, a neighbour of the value lies in it. -/
theorem neighbour?_isSome (positive : 0 < mantissa) {grid : Int}
    (step : (10 : ℚ) ^ grid < (reach mantissa exponent + 1 / 2) * 2 ^ exponent) :
    ∃ decimal, (ofDyadic mantissa exponent).neighbour? grid = some decimal := by
  rw [← Option.isSome_iff_exists, Option.isSome_iff_ne_none]
  intro missing
  rcases not_holds_of_neighbour? missing with ⟨notBelow, notAbove⟩
  rw [Bool.eq_false_iff, Ne, holds_ofDyadic_iff] at notBelow notAbove
  generalize scaled : (ofDyadic mantissa exponent).value.scaleTen (-grid) = ratio
    at notBelow notAbove
  have scale : (0 : ℚ) < 10 ^ grid := zpow_pos (by norm_num) grid
  have value : ratio.value * 10 ^ grid = mantissa * 2 ^ exponent := by
    rw [← scaled, Ratio.value_scaleTen, value_ofDyadic, zpow_neg, inv_mul_cancel_right₀ scale.ne']
  have below : (ratio.floor : ℚ) * 10 ^ grid ≤ mantissa * 2 ^ exponent := by
    rw [← value, Ratio.floor_eq]
    exact mul_le_mul_of_nonneg_right (Nat.floor_le ratio.value_nonneg) scale.le
  have above : mantissa * 2 ^ exponent < ((ratio.floor + 1 : ℕ) : ℚ) * 10 ^ grid := by
    rw [← value, Ratio.floor_eq]
    push_cast
    exact mul_lt_mul_of_pos_right (Nat.lt_floor_add_one ratio.value) scale
  have unit : (0 : ℚ) < 2 ^ exponent := zpow_pos (by norm_num) exponent
  have reached : 0 < reach mantissa exponent * 2 ^ exponent := mul_pos (reach_bounds _ _).1 unit
  push_cast at notAbove above
  -- The two neighbours are one step apart, so not both are farther away than the bounds.
  by_cases near : (mantissa - reach mantissa exponent) * 2 ^ exponent < ratio.floor * 10 ^ grid
  · exact notBelow (contains_of_near positive near (by linarith))
  · exact notAbove (contains_of_near positive (by linarith) (by linarith))

end Dyadic

end Interval

section Search

variable {mantissa : Nat} (positive : 0 < mantissa) (small : mantissa < 2 ^ 53) (exponent : Int)
include positive small

/-- The grid of seventeen digits is finer than the interval. -/
theorem step_lt_interval :
    (10 : ℚ) ^ ((Interval.ofDyadic mantissa exponent).value.leadingExponent - 16) <
      (Interval.reach mantissa exponent + 1 / 2) * 2 ^ exponent := by
  have unit : (0 : ℚ) < 2 ^ exponent := zpow_pos (by norm_num) exponent
  have leading := (Ratio.leadingExponent_spec (Ratio.numerator_ofDyadic positive exponent)
    (Ratio.denominator_ofDyadic mantissa exponent)).1
  rw [Ratio.value_ofDyadic] at leading
  have digits : (mantissa : ℚ) / 10 ^ 16 < Interval.reach mantissa exponent + 1 / 2 := by
    rw [div_lt_iff₀ (by norm_num)]
    unfold Interval.reach
    split
    · rename_i power
      rw [power.1]
      norm_num
    · calc (mantissa : ℚ) < 2 ^ 53 := by exact_mod_cast small
        _ < (1 / 2 + 1 / 2) * 10 ^ 16 := by norm_num
  rw [zpow_sub₀ (by norm_num)]
  calc (10 : ℚ) ^ (Interval.ofDyadic mantissa exponent).value.leadingExponent / 10 ^ (16 : ℤ)
      ≤ mantissa * 2 ^ exponent / 10 ^ (16 : ℤ) :=
        div_le_div_of_nonneg_right leading (by norm_num)
    _ = mantissa / 10 ^ 16 * 2 ^ exponent := by
        rw [div_mul_eq_mul_div]
        norm_cast
    _ < (Interval.reach mantissa exponent + 1 / 2) * 2 ^ exponent :=
        mul_lt_mul_of_pos_right digits unit

/-- The shortest decimal of a positive float lies in the interval of the float. -/
theorem contains_ofDyadic :
    (Interval.ofDyadic mantissa exponent).Contains (ofDyadic mantissa exponent).value := by
  simp only [ofDyadic]
  split
  · rename_i decimal found
    rcases List.exists_of_findSome?_eq_some found with ⟨count, _, neighbour⟩
    rw [Decimal.value_dropZeros]
    exact (Interval.holds_ofDyadic_iff _ _).mp (Interval.holds_of_neighbour? neighbour)
  · -- The search has been through the grid of seventeen digits too.
    rename_i missing
    have last := List.findSome?_eq_none_iff.mp missing 16 (by simp)
    rcases Interval.neighbour?_isSome positive (step_lt_interval positive small exponent) with
      ⟨decimal, found⟩
    cases found.symm.trans last

/-- The shortest decimal is at most half a unit in the last place away from its float. -/
theorem value_ofDyadic_near :
    (mantissa - 1 / 2) * 2 ^ exponent ≤ (ofDyadic mantissa exponent).value ∧
      (ofDyadic mantissa exponent).value ≤ (mantissa + 1 / 2) * 2 ^ exponent := by
  have unit : (0 : ℚ) < 2 ^ exponent := zpow_pos (by norm_num) exponent
  rcases contains_ofDyadic positive small exponent with ⟨lower, upper⟩
  rw [Interval.lower_ofDyadic positive] at lower
  rw [Interval.upper_ofDyadic] at upper
  constructor
  · have half : (mantissa - 1 / 2 : ℚ) * 2 ^ exponent ≤
        (mantissa - Interval.reach mantissa exponent) * 2 ^ exponent := by
      have reached := (Interval.reach_bounds mantissa exponent).2
      exact mul_le_mul_of_nonneg_right (by linarith) unit.le
    exact half.trans (lower.elim le_of_lt fun same => same.2.le)
  · exact upper.elim le_of_lt fun same => same.2.ge

end Search

section Naturals

variable {mantissa : Nat} {exponent : Int}

/-- The integer part of an integer is all of it. -/
theorem cast_wholePart (whole : Binary.isWhole mantissa exponent = true) :
    (Binary.wholePart mantissa exponent : ℚ) = mantissa * 2 ^ exponent := by
  unfold Binary.wholePart
  split
  · rename_i nonneg
    obtain ⟨power, rfl⟩ := Int.eq_ofNat_of_zero_le nonneg
    simp
  · rename_i neg
    simp only [Binary.isWhole, neg, decide_false, Bool.false_or, beq_iff_eq] at whole
    obtain ⟨places, same⟩ := Int.eq_ofNat_of_zero_le (a := -exponent) (by omega)
    obtain rfl : exponent = -places := by omega
    have power : ((Nat.pow 2 places : ℕ) : ℚ) ≠ 0 := by simp
    rw [same, Int.toNat_natCast] at whole ⊢
    rw [Nat.cast_div (Nat.dvd_of_mod_eq_zero whole) power]
    simp [div_eq_mul_inv]

/-- Only the float itself is a natural number within half a unit in its last place. -/
theorem isWhole_of_near {n : Nat} (lower : (mantissa - 1 / 2 : ℚ) * 2 ^ exponent ≤ n)
    (upper : (n : ℚ) ≤ (mantissa + 1 / 2) * 2 ^ exponent) :
    Binary.isWhole mantissa exponent = true := by
  rcases lt_or_ge exponent 0 with neg | nonneg
  · obtain ⟨places, same⟩ := Int.eq_ofNat_of_zero_le (a := -exponent) (by omega)
    obtain rfl : exponent = -places := by omega
    have power : (0 : ℚ) < 2 ^ places := by positivity
    rw [zpow_neg, zpow_natCast, ← div_eq_mul_inv, div_le_iff₀ power] at lower
    rw [zpow_neg, zpow_natCast, ← div_eq_mul_inv, le_div_iff₀ power] at upper
    have most : 2 * mantissa ≤ 2 * (n * 2 ^ places) + 1 := by
      have doubled : (2 * mantissa : ℚ) ≤ 2 * (n * 2 ^ places) + 1 := by linarith
      exact_mod_cast doubled
    have least : 2 * (n * 2 ^ places) ≤ 2 * mantissa + 1 := by
      have doubled : (2 * (n * 2 ^ places) : ℚ) ≤ 2 * mantissa + 1 := by linarith
      exact_mod_cast doubled
    have multiple : mantissa = n * 2 ^ places := by omega
    simp [Binary.isWhole, multiple]
  · simp [Binary.isWhole, nonneg]

/-- A shortest decimal without a fraction is a natural number, and one of at least half the float,
which is an integer. -/
theorem natural_of_nonneg (positive : 0 < mantissa) (small : mantissa < 2 ^ 53) {places : Nat}
    (natural : (ofDyadic mantissa exponent).exponent = places) :
    Binary.isWhole mantissa exponent = true ∧ Binary.wholePart mantissa exponent ≤
      2 * ((ofDyadic mantissa exponent).digits * 10 ^ places) := by
  have value : (ofDyadic mantissa exponent).value =
      ((ofDyadic mantissa exponent).digits * 10 ^ places : ℕ) := by
    rw [Decimal.value, natural]
    push_cast
    rfl
  rcases value_ofDyadic_near positive small exponent with ⟨lower, upper⟩
  rw [value] at lower upper
  have whole := isWhole_of_near lower upper
  refine ⟨whole, ?_⟩
  have unit : (0 : ℚ) < 2 ^ exponent := zpow_pos (by norm_num) exponent
  have atLeastOne : (1 : ℚ) ≤ mantissa := by exact_mod_cast positive
  have unit_le : 1 * (2 : ℚ) ^ exponent ≤ mantissa * 2 ^ exponent :=
    mul_le_mul_of_nonneg_right atLeastOne unit.le
  have half : (Binary.wholePart mantissa exponent : ℚ) ≤
      2 * ((ofDyadic mantissa exponent).digits * 10 ^ places : ℕ) := by
    calc (Binary.wholePart mantissa exponent : ℚ) = mantissa * 2 ^ exponent := cast_wholePart whole
      _ ≤ 2 * ((mantissa - 1 / 2) * 2 ^ exponent) := by linarith
      _ ≤ 2 * ((ofDyadic mantissa exponent).digits * 10 ^ places : ℕ) := by linarith
  exact_mod_cast half

end Naturals

end Shortest

end Stencil
