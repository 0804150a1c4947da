import Mathlib
import Stencil.Number.Decimal
import Stencil.Proofs.Number.Integers
/-!
# Natural numbers as floats

A natural number of any length becomes the float whose mantissa holds its leading 53 bits, rounded
to the nearest, and a tie to the even one. Multiplication by a power of two and addition of a small
number are followed on the natural numbers themselves.
-/

namespace Stencil

open Float.Model Float.Model.UnpackedFloat

namespace Ratio

section Rounding

variable (n d : Nat)

theorem roundHalfEven_bounds :
    n / d ≤ (Ratio.mk n d).roundHalfEven ∧ (Ratio.mk n d).roundHalfEven ≤ n / d + 1 := by
  simp only [roundHalfEven]
  split
  · exact ⟨le_rfl, Nat.le_succ _⟩
  · exact ⟨Nat.le_succ _, le_rfl⟩
  · split
    · exact ⟨le_rfl, Nat.le_succ _⟩
    · exact ⟨Nat.le_succ _, le_rfl⟩

/-- A common factor of a ratio changes nothing. -/
theorem roundHalfEven_mul {c : Nat} (positive : 0 < c) :
    (Ratio.mk (n * c) (d * c)).roundHalfEven = (Ratio.mk n d).roundHalfEven := by
  have compared : compare (2 * (n % d) * c) (d * c) = compare (2 * (n % d)) d := by
    rw [← cmp_eq_compare, ← cmp_eq_compare]
    exact (strictMono_mul_right_of_pos positive).cmp_map_eq _ _
  simp only [roundHalfEven, Nat.mul_div_mul_right _ _ positive, Nat.mul_mod_mul_right,
    ← Nat.mul_assoc, compared]

theorem roundHalfEven_of_lt (less : 2 * (n % d) < d) : (Ratio.mk n d).roundHalfEven = n / d := by
  simp only [roundHalfEven, compare_lt_iff_lt.mpr less]

theorem roundHalfEven_of_gt (greater : d < 2 * (n % d)) :
    (Ratio.mk n d).roundHalfEven = n / d + 1 := by
  simp only [roundHalfEven, compare_gt_iff_gt.mpr greater]

theorem roundHalfEven_of_tie (tie : 2 * (n % d) = d) :
    (Ratio.mk n d).roundHalfEven = n / d + n / d % 2 := by
  simp only [roundHalfEven, compare_eq_iff_eq.mpr tie]
  split <;> omega

/-- Rounding is off by half of the denominator at most. -/
theorem roundHalfEven_near (positive : 0 < d) :
    2 * n ≤ 2 * (d * (Ratio.mk n d).roundHalfEven) + d ∧
      2 * (d * (Ratio.mk n d).roundHalfEven) ≤ 2 * n + d := by
  have parts := Nat.div_add_mod n d
  rcases lt_trichotomy (2 * (n % d)) d with less | tie | greater
  · rw [roundHalfEven_of_lt n d less]
    omega
  · rw [roundHalfEven_of_tie n d tie]
    rcases Nat.mod_two_eq_zero_or_one (n / d) with even | odd
    · rw [even, Nat.add_zero]
      omega
    · rw [odd, Nat.mul_add]
      omega
  · have rest := Nat.mod_lt n positive
    rw [roundHalfEven_of_gt n d greater, Nat.mul_add]
    omega

end Rounding

end Ratio

namespace Binary

/-! ## Shifting and rounding -/

theorem accuracy_eq_exact_iff (extended : ExtendedMantissa) :
    extended.accuracy = .exact ↔ (extended.roundBit || extended.stickyBit) = false := by
  rcases extended with ⟨mantissa, _ | _, _ | _⟩ <;> simp [ExtendedMantissa.accuracy]

/-- The bits that are shifted out are kept as far as their comparison with one half needs them. -/
theorem shiftRight_eq (n places : Nat) :
    (ExtendedMantissa.mk n false false >>> places).mantissa = n / 2 ^ places ∧
      (ExtendedMantissa.mk n false false >>> places).accuracy =
        accuracyOfFraction (n % 2 ^ places) (2 ^ places) := by
  induction places with
  | zero =>
      rw [pow_zero, Nat.div_one, Nat.mod_one]
      exact ⟨rfl, rfl⟩
  | succ places ih =>
      have next : ExtendedMantissa.mk n false false >>> (places + 1) =
        (ExtendedMantissa.mk n false false >>> places).shiftRightOne := rfl
      rw [next]
      revert ih
      generalize ExtendedMantissa.mk n false false >>> places = extended
      rintro ⟨mantissa, accuracy⟩
      have whole : n / 2 ^ (places + 1) = n / 2 ^ places / 2 := by
        rw [pow_succ, Nat.div_div_eq_div_mul]
      have rest : n % 2 ^ (places + 1) = n % 2 ^ places + 2 ^ places * (n / 2 ^ places % 2) :=
        Nat.mod_pow_succ
      have small : n % 2 ^ places < 2 ^ places := Nat.mod_lt _ (by positivity)
      have doubled : 2 ^ (places + 1) = 2 * 2 ^ places := pow_succ' 2 places
      have sticky : (extended.roundBit || extended.stickyBit) = decide (n % 2 ^ places ≠ 0) := by
        have exact_iff := accuracy_eq_exact_iff extended
        rw [accuracy, accuracyOfFraction] at exact_iff
        rw [Bool.eq_iff_iff, ← Bool.not_eq_false, ← exact_iff]
        split <;> simp_all
      refine ⟨by rw [whole, ← mantissa]; rfl, ?_⟩
      rw [accuracyOfFraction, rest, doubled]
      simp only [ExtendedMantissa.shiftRightOne, mantissa, sticky]
      -- The last bit of the mantissa and whether bits were lost before decide.
      rcases Nat.mod_two_eq_zero_or_one (n / 2 ^ places) with even | odd <;>
        by_cases zero : n % 2 ^ places = 0
      · simp [even, zero, ExtendedMantissa.accuracy]
      · have order : compare (2 * (n % 2 ^ places)) (2 * 2 ^ places) = .lt :=
          compare_lt_iff_lt.mpr (by omega)
        simp [even, zero, ExtendedMantissa.accuracy, order]
      · simp [odd, zero, ExtendedMantissa.accuracy]
      · have order : compare (2 * (n % 2 ^ places + 2 ^ places)) (2 * 2 ^ places) = .gt :=
          compare_gt_iff_gt.mpr (by omega)
        simp [odd, zero, ExtendedMantissa.accuracy, order]

theorem roundedMantissa_shiftRight (n places : Nat) :
    (ExtendedMantissa.mk n false false >>> places).roundedMantissa =
      (Ratio.mk n (2 ^ places)).roundHalfEven := by
  rcases shiftRight_eq n places with ⟨mantissa, accuracy⟩
  rw [ExtendedMantissa.roundedMantissa, mantissa, accuracy, accuracyOfFraction]
  rcases lt_trichotomy (2 * (n % 2 ^ places)) (2 ^ places) with less | tie | greater
  · rw [Ratio.roundHalfEven_of_lt _ _ less, compare_lt_iff_lt.mpr less]
    split <;> rfl
  · have nonzero : n % 2 ^ places ≠ 0 := by
      have positive : 0 < 2 ^ places := by positivity
      omega
    rw [Ratio.roundHalfEven_of_tie _ _ tie, compare_eq_iff_eq.mpr tie, if_neg nonzero]
    rfl
  · have nonzero : n % 2 ^ places ≠ 0 := by omega
    rw [Ratio.roundHalfEven_of_gt _ _ greater, compare_gt_iff_gt.mpr greater, if_neg nonzero]
    rfl

/-- A number with its leading bit in the fifty-third place, rounded. -/
@[irreducible] def significand (n : Nat) : Nat := (Ratio.mk (n * 2 ^ 52) (2 ^ n.log2)).roundHalfEven

/-- The mantissa of a natural number. Rounding may lead to one bit more, which is zero. -/
@[irreducible] def mantissaOf (n : Nat) : Nat :=
  if significand n = 2 ^ 53 then 2 ^ 52 else significand n

/-- The exponent that goes with the mantissa of a natural number. -/
@[irreducible] def exponentOf (n : Nat) : Int :=
  if significand n = 2 ^ 53 then n.log2 - 51 else n.log2 - 52

theorem targetExponent_eq (mantissa : Nat) (exponent : Int) :
    Format.binary64.targetExponent (totalExponent mantissa exponent) =
      max (mantissa.log2 + exponent - 52) (-1074) := by
  have least : Format.binary64.minExponent = -1074 := rfl
  have bits : Format.binary64.mantissaBits = 53 := rfl
  rw [Format.targetExponent, totalExponent, least, bits]
  congr 1
  omega

/-- A rounded mantissa stays in its place, or loses its last bit, a zero, to the carry. -/
theorem shiftToTargetExponent_rounded {rounded : Nat} {exponent : Int} (least : 2 ^ 52 ≤ rounded)
    (most : rounded ≤ 2 ^ 53) (lowest : -1074 ≤ exponent) :
    shiftToTargetExponent Format.binary64 rounded exponent .exact =
      if rounded = 2 ^ 53 then (⟨2 ^ 52, false, false⟩, exponent + 1)
      else (⟨rounded, false, false⟩, exponent) := by
  have nonzero : rounded ≠ 0 := by omega
  simp only [shiftToTargetExponent, shiftToExponent, targetExponent_eq]
  split
  · rename_i carry
    have log2 : rounded.log2 = 53 := by rw [carry, Nat.log2_two_pow]
    have amount : (max ((rounded.log2 : Int) + exponent - 52) (-1074) - exponent).toNat = 1 := by
      omega
    rw [amount, carry]
    rfl
  · have log2 : rounded.log2 = 52 := by
      rw [Nat.log2_eq_iff nonzero]
      omega
    have amount : (max ((rounded.log2 : Int) + exponent - 52) (-1074) - exponent).toNat = 0 := by
      omega
    rw [amount, Nat.cast_zero, add_zero]
    rfl

theorem exponentOf_bounds (n : Nat) :
    n.log2 - 52 ≤ exponentOf n ∧ exponentOf n ≤ n.log2 - 51 := by
  unfold exponentOf
  split <;> omega

section Naturals

variable {n : Nat} (positive : 0 < n)
include positive

theorem significand_bounds : 2 ^ 52 ≤ significand n ∧ significand n ≤ 2 ^ 53 := by
  have bounds := (Nat.log2_eq_iff positive.ne').mp rfl
  rcases Ratio.roundHalfEven_bounds (n * 2 ^ 52) (2 ^ n.log2) with ⟨below, above⟩
  have least : 2 ^ 52 ≤ n * 2 ^ 52 / 2 ^ n.log2 := by
    rw [Nat.le_div_iff_mul_le (by positivity), Nat.mul_comm]
    exact Nat.mul_le_mul_right _ bounds.1
  have most : n * 2 ^ 52 / 2 ^ n.log2 < 2 ^ 53 := by
    rw [Nat.div_lt_iff_lt_mul (by positivity)]
    calc n * 2 ^ 52 < 2 ^ (n.log2 + 1) * 2 ^ 52 := Nat.mul_lt_mul_of_pos_right bounds.2 (by decide)
      _ = 2 ^ 53 * 2 ^ n.log2 := by ring
  rw [significand]
  exact ⟨least.trans below, above.trans most⟩

theorem mantissaOf_bounds : 2 ^ 52 ≤ mantissaOf n ∧ mantissaOf n < 2 ^ 53 := by
  have bounds := significand_bounds positive
  unfold mantissaOf
  split <;> omega

theorem mantissaOf_pos : 0 < mantissaOf n := by
  have bounds := mantissaOf_bounds positive
  omega

/-- However a natural number is written as a mantissa and an exponent, it is rounded alike. -/
theorem roundWithAccuracy_natural (sign : Sign) {places : Nat} (room : 52 ≤ n.log2 + places)
    {exponent : Int} (lowest : -1074 ≤ n.log2 - 52 + exponent) :
    roundWithAccuracy Format.binary64 sign (n * 2 ^ places) (exponent - places) .exact =
      .finite sign (mantissaOf n) (exponentOf n + exponent) (mantissaOf_pos positive) := by
  have bounds := significand_bounds positive
  obtain ⟨shift, shift_eq⟩ := Nat.exists_eq_add_of_le room
  have amount : (max (((n * 2 ^ places).log2 : Int) + (exponent - places) - 52) (-1074) -
      (exponent - places)).toNat = shift := by
    rw [log2_mul_two_pow positive.ne']
    omega
  have first : shiftToTargetExponent Format.binary64 (n * 2 ^ places) (exponent - places) .exact =
      (ExtendedMantissa.mk (n * 2 ^ places) false false >>> shift, n.log2 - 52 + exponent) := by
    simp only [shiftToTargetExponent, shiftToExponent, Binary.targetExponent_eq, amount]
    exact congrArg (Prod.mk _) (by omega)
  have rounded : (Ratio.mk (n * 2 ^ places) (2 ^ shift)).roundHalfEven = significand n := by
    rw [significand, ← Ratio.roundHalfEven_mul _ _ (by positivity : 0 < 2 ^ 52),
      ← Ratio.roundHalfEven_mul (n * 2 ^ 52) _ (by positivity : 0 < 2 ^ places), ← pow_add,
      ← pow_add, shift_eq, Nat.add_comm shift, Nat.mul_right_comm]
  simp only [roundWithAccuracy, first, roundedMantissa_shiftRight, rounded,
    shiftToTargetExponent_rounded bounds.1 bounds.2 lowest]
  unfold mantissaOf exponentOf
  split
  · simp only [Nat.pow_eq_zero, OfNat.ofNat_ne_zero, false_and, dite_false]
    congr 1
    omega
  · have nonzero : significand n ≠ 0 := by omega
    simp only [nonzero, dite_false]

theorem toModel_ofNat : (Float.ofNat n).toModel =
    Float.Model.pack (.finite .positive (mantissaOf n) (exponentOf n)
      (mantissaOf_pos positive)) := by
  by_cases small : n < 2 ^ 53
  · have bits := log2_lt positive small
    -- A short natural number is multiplied by the zeroth power of ten.
    have scaled : Float.ofNat n = n.toUInt64.toFloat * Float.ofBits 0x3FF0000000000000 :=
      dif_pos ⟨small, by decide⟩
    have one : (Float.ofBits 0x3FF0000000000000).toModel.unpack =
        .finite .positive (2 ^ 52) (-52) (by positivity) := rfl
    have mantissa : n * 2 ^ (52 - n.log2) * 2 ^ 52 = n * 2 ^ (104 - n.log2) := by
      rw [Nat.mul_assoc, ← pow_add]
      congr 2
      omega
    have exponent : (n.log2 - 52 + -52 : Int) = 0 - (104 - n.log2 : Nat) := by omega
    have product := roundWithAccuracy_natural positive .positive
      (by omega : 52 ≤ n.log2 + (104 - n.log2)) (by omega : -1074 ≤ (n.log2 - 52 + 0 : Int))
    rw [add_zero] at product
    rw [scaled]
    change Float.Model.pack (UnpackedFloat.mul Format.binary64 _ _) = _
    rw [unpack_toFloat positive small, one, ← product, ← mantissa, ← exponent]
    rfl
  · have scaled : Float.ofNat n = .ofModel (Float.Model.ofScientific n (Int.ofNat 0)) :=
      dif_neg fun fast => small fast.1
    have product := roundWithAccuracy_natural positive .positive
      (by omega : 52 ≤ n.log2 + 53) (by omega : -1074 ≤ (n.log2 - 52 + 0 : Int))
    rw [add_zero] at product
    have scientific : UnpackedFloat.ofScientific Format.binary64 n 0 =
        roundWithAccuracy Format.binary64 .positive (n * 2 ^ 53) (0 - (53 : Nat)) .exact := by
      have long : ¬(0 : Int) < -(2 ^ Format.binary64.exponentBits + n.log2) := by
        have power : (0 : Int) < 2 ^ Format.binary64.exponentBits := by positivity
        omega
      rw [UnpackedFloat.ofScientific, dif_neg positive.ne', if_neg (by decide), if_neg long,
        if_pos le_rfl, ← Nat.shiftLeft_eq, ← Nat.mul_one (n <<< 53)]
      rfl
    rw [scaled, ← product, ← scientific]
    rfl

/-- However a natural number is written, it is brought into the form of a float alike. -/
theorem round_natural (places : Nat) {exponent : Int} (lowest : -1074 ≤ n.log2 - 52 + exponent) :
    UnpackedFloat.round Format.binary64 .positive (n * 2 ^ places) (exponent - places) =
      .finite .positive (mantissaOf n) (exponentOf n + exponent) (mantissaOf_pos positive) := by
  have log2 := log2_mul_two_pow positive.ne' places
  have amount : (exponent - places - max (((n * 2 ^ places).log2 : Int) + (exponent - places) - 52)
      (-1074)).toNat = 52 - n.log2 - places := by
    omega
  have rounded := roundWithAccuracy_natural positive .positive
    (by omega : 52 ≤ n.log2 + (places + (52 - n.log2 - places))) lowest
  rw [pow_add, ← Nat.mul_assoc, Nat.cast_add, ← sub_sub] at rounded
  simp only [UnpackedFloat.round, decreaseExponent, Binary.targetExponent_eq, amount,
    Nat.shiftLeft_eq, rounded]

section Finite

variable (finite : exponentOf n ≤ 971)
include finite

theorem isNormal_of_finite : IsNormal (mantissaOf n) (exponentOf n) := by
  have bounds := mantissaOf_bounds positive
  have lowest := exponentOf_bounds n
  exact ⟨bounds.1, bounds.2, by omega, finite⟩

theorem unpack_natural : (Float.ofNat n).toModel.unpack =
    .finite .positive (mantissaOf n) (exponentOf n) (mantissaOf_pos positive) := by
  rw [toModel_ofNat positive]
  exact (isNormal_of_finite positive finite).unpack_pack .positive

end Finite

section Overflow

variable (overflow : 971 < exponentOf n)
include overflow

theorem toModel_of_overflow :
    (Float.ofNat n).toModel = Float.Model.pack (.infinity .positive) := by
  have field : 2 ^ Format.binary64.exponentBits ≤
      (exponentOf n + Format.binary64.exponentBias + (52 : Nat)).toNat + 1 := by
    have bias : Format.binary64.exponentBias = 1023 := rfl
    have size : 2 ^ Format.binary64.exponentBits = 2048 := rfl
    omega
  rw [toModel_ofNat positive]
  simp only [Float.Model.pack, UnpackedFloat.pack, field, if_true]

theorem unpack_of_overflow : (Float.ofNat n).toModel.unpack = .infinity .positive := by
  rw [toModel_of_overflow positive overflow]
  rfl

end Overflow

end Naturals

/-! ## The number that is denoted -/

/-- The natural number that the float of `n` denotes. -/
@[irreducible] def rounded (n : Nat) : Nat := significand n * 2 ^ n.log2 / 2 ^ 52

theorem significand_mul_two_pow {n : Nat} (positive : 0 < n) (places : Nat) :
    significand (n * 2 ^ places) = significand n := by
  rw [significand, significand, log2_mul_two_pow positive.ne', pow_add, Nat.mul_right_comm]
  exact Ratio.roundHalfEven_mul _ _ (by positivity)

theorem mantissaOf_mul_two_pow {n : Nat} (positive : 0 < n) (places : Nat) :
    mantissaOf (n * 2 ^ places) = mantissaOf n := by
  rw [mantissaOf, mantissaOf, significand_mul_two_pow positive]

theorem exponentOf_mul_two_pow {n : Nat} (positive : 0 < n) (places : Nat) :
    exponentOf (n * 2 ^ places) = exponentOf n + places := by
  rw [exponentOf, exponentOf, significand_mul_two_pow positive, log2_mul_two_pow positive.ne']
  split <;> omega

/-- A number that is nearer to a mantissa of 53 bits than half of the last of them is rounded to
it. -/
theorem significand_of_near {mantissa places rest : Nat} (least : 2 ^ 52 ≤ mantissa)
    (most : mantissa < 2 ^ 53) (near : 2 * rest < 2 ^ places) :
    (mantissa * 2 ^ places + rest).log2 = 52 + places ∧
      significand (mantissa * 2 ^ places + rest) = mantissa := by
  have power : 0 < 2 ^ places := by positivity
  have log2 : (mantissa * 2 ^ places + rest).log2 = 52 + places := by
    rw [Nat.log2_eq_iff (by positivity), pow_add, add_right_comm, pow_add _ 53]
    have lower := Nat.mul_le_mul_right (2 ^ places) least
    have upper := Nat.mul_le_mul_right (2 ^ places) (Nat.succ_le_of_lt most)
    rw [Nat.succ_mul] at upper
    omega
  have quotient : (mantissa * 2 ^ places + rest) / 2 ^ places = mantissa := by
    rw [Nat.mul_comm, Nat.mul_add_div power, Nat.div_eq_of_lt (by omega), Nat.add_zero]
  have remainder : (mantissa * 2 ^ places + rest) % 2 ^ places = rest := by
    rw [Nat.mul_comm, Nat.mul_add_mod, Nat.mod_eq_of_lt (by omega)]
  refine ⟨log2, ?_⟩
  rw [significand, log2, pow_add, Nat.mul_comm (2 ^ 52),
    Ratio.roundHalfEven_mul _ _ (by positivity), Ratio.roundHalfEven_of_lt, quotient]
  rwa [remainder]

theorem mantissaOf_of_near {mantissa places rest : Nat} (least : 2 ^ 52 ≤ mantissa)
    (most : mantissa < 2 ^ 53) (near : 2 * rest < 2 ^ places) :
    mantissaOf (mantissa * 2 ^ places + rest) = mantissa ∧
      exponentOf (mantissa * 2 ^ places + rest) = places := by
  rcases significand_of_near least most near with ⟨log2, same⟩
  rw [mantissaOf, exponentOf, same, log2, if_neg (by omega), if_neg (by omega)]
  exact ⟨rfl, by omega⟩

/-- A number of 53 bits or fewer fills the places of the mantissa. -/
theorem significand_of_lt {n : Nat} (positive : 0 < n) (small : n < 2 ^ 53) :
    significand n = n * 2 ^ (52 - n.log2) := by
  have normal := isNormal_ofNat positive small
  have same := (significand_of_near normal.least normal.most (by decide : 2 * 0 < 2 ^ 0)).2
  rwa [pow_zero, Nat.mul_one, Nat.add_zero, significand_mul_two_pow positive] at same

theorem rounded_mul {n : Nat} (positive : 0 < n) :
    rounded n * 2 ^ 52 = significand n * 2 ^ n.log2 := by
  rw [rounded, Nat.div_mul_cancel]
  by_cases small : n < 2 ^ 53
  · have bits := log2_lt positive small
    rw [significand_of_lt positive small, Nat.mul_assoc, ← pow_add]
    exact Dvd.dvd.mul_left (pow_dvd_pow 2 (by omega)) n
  · have bits : 52 ≤ n.log2 := (Nat.le_log2 positive.ne').mpr (by omega)
    exact Dvd.dvd.mul_left (pow_dvd_pow 2 bits) _

/-- The mantissa and the exponent of a number denote what it is rounded to. -/
theorem rounded_mul_two_pow {n : Nat} (positive : 0 < n) {places : Nat} {shift : Nat}
    (exponent : exponentOf n + places = shift) :
    mantissaOf n * 2 ^ shift = rounded n * 2 ^ places := by
  have parts := rounded_mul positive
  have scaled : mantissaOf n * 2 ^ shift * 2 ^ 52 = significand n * 2 ^ n.log2 * 2 ^ places := by
    unfold mantissaOf
    unfold exponentOf at exponent
    split at exponent
    · rename_i carry
      rw [if_pos carry, carry, ← pow_add, ← pow_add, ← pow_add, ← pow_add]
      congr 1
      omega
    · rename_i regular
      rw [if_neg regular, Nat.mul_assoc, Nat.mul_assoc, ← pow_add, ← pow_add]
      congr 2
      omega
  rw [← parts] at scaled
  exact Nat.eq_of_mul_eq_mul_right (by positivity : 0 < 2 ^ 52)
    (scaled.trans (Nat.mul_right_comm _ _ _))

/-- Mantissas that are shifted to a common exponent are multiples of what they denote. -/
theorem shiftLeft_mantissaOf {n : Nat} (positive : 0 < n) {places : Nat}
    (room : 0 - (places : Int) ≤ exponentOf n) :
    mantissaOf n <<< (exponentOf n - (0 - (places : Int))).toNat = rounded n * 2 ^ places := by
  rw [Nat.shiftLeft_eq]
  exact rounded_mul_two_pow positive (by omega)

theorem rounded_of_lt {n : Nat} (small : n < 2 ^ 53) : rounded n = n := by
  rcases Nat.eq_zero_or_pos n with rfl | positive
  · cbv
  · have bits := log2_lt positive small
    have parts := rounded_mul positive
    have spare : 52 - n.log2 + n.log2 = 52 := by omega
    rw [significand_of_lt positive small, Nat.mul_assoc, ← pow_add, spare] at parts
    exact Nat.eq_of_mul_eq_mul_right (by positivity) parts

/-! ## Arithmetic -/

theorem eq_of_toModel {x y : Float} (same : x.toModel = y.toModel) : x = y := by
  cases x
  cases y
  exact congrArg Float.ofModel same

/-- Numbers with the same mantissa and exponent have the same float. -/
theorem ofNat_congr {m n : Nat} (positive : 0 < m) (positive' : 0 < n)
    (mantissa : mantissaOf m = mantissaOf n) (exponent : exponentOf m = exponentOf n) :
    Float.ofNat m = Float.ofNat n := by
  apply eq_of_toModel
  rw [toModel_ofNat positive, toModel_ofNat positive']
  congr

theorem significand_two_pow (places : Nat) : significand (2 ^ places) = 2 ^ 52 := by
  have one : significand 1 = 2 ^ 52 := by cbv
  rw [← one, ← significand_mul_two_pow Nat.one_pos places, Nat.one_mul]

/-- A float of a natural number is multiplied by a power of two without another rounding. -/
theorem ofNat_mul_two_pow (n : Nat) {places : Nat} (small : places < 53) :
    Float.ofNat n * Float.ofNat (2 ^ places) = Float.ofNat (n * 2 ^ places) := by
  have factor : (Float.ofNat (2 ^ places)).toModel.unpack =
      .finite .positive (2 ^ 52) (places - 52) (by positivity) := by
    have exponent : exponentOf (2 ^ places) = places - 52 := by
      rw [exponentOf, significand_two_pow, if_neg (by decide), Nat.log2_two_pow]
    have unpacked := unpack_natural (Nat.two_pow_pos places) (by omega)
    simp only [exponent, mantissaOf, significand_two_pow] at unpacked
    exact unpacked
  apply eq_of_toModel
  change Float.Model.pack (UnpackedFloat.mul Format.binary64 _ _) = _
  rw [factor]
  rcases Nat.eq_zero_or_pos n with rfl | positive
  · rw [Nat.zero_mul]
    rfl
  · have lowest := exponentOf_bounds n
    have mantissa := mantissaOf_mul_two_pow positive places
    have exponent := exponentOf_mul_two_pow positive places
    have nonzero : 0 < n * 2 ^ places := by positivity
    by_cases finite : exponentOf n ≤ 971
    · have bounds := mantissaOf_bounds positive
      have same := mantissaOf_of_near bounds.1 bounds.2 (by decide : 2 * 0 < 2 ^ 0)
      rw [pow_zero, Nat.mul_one, Nat.add_zero, Nat.cast_zero] at same
      have product := roundWithAccuracy_natural (mantissaOf_pos positive) .positive
        (by omega : 52 ≤ (mantissaOf n).log2 + 52)
        (by omega : -1074 ≤ ((mantissaOf n).log2 - 52 + (exponentOf n + places) : Int))
      have sum : exponentOf n + (places - 52 : Int) = exponentOf n + places - (52 : Nat) := by omega
      rw [unpack_natural positive finite, toModel_ofNat nonzero]
      simp only [UnpackedFloat.mul, sum, mantissa, exponent]
      simp only [same, zero_add] at product
      exact congrArg Float.Model.pack product
    · rw [unpack_of_overflow positive (by omega), toModel_of_overflow nonzero (by omega)]
      rfl

/-- A float absorbs what is smaller than half of the last place of its mantissa. -/
theorem ofNat_rounded_add {n places rest : Nat} (positive : 0 < n)
    (exponent : exponentOf n = places) (near : 2 * rest < 2 ^ places) :
    Float.ofNat (rounded n + rest) = Float.ofNat n := by
  have bounds := mantissaOf_bounds positive
  have scaled := rounded_mul_two_pow positive
    (by simpa using exponent : exponentOf n + (0 : Nat) = places)
  rw [pow_zero, Nat.mul_one] at scaled
  have parts := mantissaOf_of_near bounds.1 bounds.2 near
  rw [← scaled]
  refine ofNat_congr ?_ positive parts.1 (parts.2.trans exponent.symm)
  have mantissa := Nat.mul_pos (mantissaOf_pos positive) (by positivity : 0 < 2 ^ places)
  omega

theorem exponentOf_nonpos {n : Nat} (positive : 0 < n) (small : n < 2 ^ 53) :
    exponentOf n ≤ 0 := by
  have bits := log2_lt positive small
  have most := (isNormal_ofNat positive small).most
  rw [exponentOf, significand_of_lt positive small, if_neg most.ne]
  omega

/-- A number that needs no rounding is added exactly to what a float denotes, and then the sum is
rounded. -/
theorem ofNat_add {m n : Nat} (positive : 0 < m) (finite : exponentOf m ≤ 971) (positive' : 0 < n)
    (short : exponentOf n ≤ 0) (exact : rounded n = n) :
    Float.ofNat m + Float.ofNat n = Float.ofNat (rounded m + n) := by
  have lowest := (exponentOf_bounds m).1
  have lowest' := (exponentOf_bounds n).1
  obtain ⟨places, least⟩ :=
    Int.eq_ofNat_of_zero_le (a := -min (exponentOf m) (exponentOf n)) (by omega)
  have smaller : min (exponentOf m) (exponentOf n) = 0 - (places : Int) := by omega
  have left := shiftLeft_mantissaOf positive (by omega : 0 - (places : Int) ≤ exponentOf m)
  have right := shiftLeft_mantissaOf positive' (by omega : 0 - (places : Int) ≤ exponentOf n)
  rw [exact] at right
  have nonzero : 0 < rounded m + n := by omega
  have sum : Sign.positive.apply (rounded m * 2 ^ places : Nat) +
      Sign.positive.apply (n * 2 ^ places : Nat) = ((rounded m + n) * 2 ^ places : Nat) := by
    rw [Nat.add_mul, Nat.cast_add]
    rfl
  have order : compare (((rounded m + n) * 2 ^ places : Nat) : Int) 0 = .gt := by
    rw [compare_gt_iff_gt, Int.natCast_pos]
    exact Nat.mul_pos nonzero (Nat.two_pow_pos places)
  have result := round_natural nonzero places
    (by omega : -1074 ≤ ((rounded m + n).log2 - 52 + 0 : Int))
  rw [add_zero] at result
  apply eq_of_toModel
  change Float.Model.pack (UnpackedFloat.add Format.binary64 _ _) = _
  rw [unpack_natural positive finite, unpack_natural positive' (by omega), toModel_ofNat nonzero,
    ← result]
  apply congrArg Float.Model.pack
  simp only [UnpackedFloat.add, decreaseExponent, smaller, left, right]
  rw [sum, UnpackedFloat.normalize, order]
  exact congrArg (UnpackedFloat.round _ _ · _) (Int.toNat_natCast _)

theorem ofNat_zero_add (n : Nat) (small : n < 2 ^ 53) :
    Float.ofNat 0 + Float.ofNat n = Float.ofNat n := by
  have zero : (Float.ofNat 0).toModel.unpack = .zero .positive := rfl
  rcases Nat.eq_zero_or_pos n with rfl | positive
  · rfl
  · have bits := log2_lt positive small
    have bounds := exponentOf_bounds n
    apply eq_of_toModel
    change Float.Model.pack (UnpackedFloat.add Format.binary64 _ _) = _
    rw [zero, unpack_natural positive (by omega), toModel_ofNat positive]
    rfl

theorem ofNat_add_zero {n : Nat} (positive : 0 < n) :
    Float.ofNat n + Float.ofNat 0 = Float.ofNat n := by
  have zero : (Float.ofNat 0).toModel.unpack = .zero .positive := rfl
  apply eq_of_toModel
  change Float.Model.pack (UnpackedFloat.add Format.binary64 _ _) = _
  rw [zero]
  by_cases finite : exponentOf n ≤ 971
  · rw [unpack_natural positive finite, toModel_ofNat positive]
    rfl
  · rw [unpack_of_overflow positive (by omega), toModel_of_overflow positive (by omega)]
    rfl

theorem rounded_shifted {n : Nat} (positive : 0 < n) (places : Nat) :
    rounded (n * 2 ^ places) = rounded n * 2 ^ places := by
  have shifted := rounded_mul (by positivity : 0 < n * 2 ^ places)
  rw [significand_mul_two_pow positive, log2_mul_two_pow positive.ne', pow_add, ← Nat.mul_assoc,
    ← rounded_mul positive, Nat.mul_right_comm] at shifted
  exact Nat.eq_of_mul_eq_mul_right (by positivity) shifted

/-- One more digit behind a number: it is added exactly to a number of 53 bits or fewer, and is lost
behind a longer one. -/
theorem ofNat_digit (n : Nat) {places digit : Nat} (few : places < 53)
    (small : digit < 2 ^ places) :
    Float.ofNat n * Float.ofNat (2 ^ places) + Float.ofNat digit =
      Float.ofNat (n * 2 ^ places + if n < 2 ^ 53 then digit else 0) := by
  have short : digit < 2 ^ 53 := small.trans (Nat.pow_lt_pow_right (by decide) few)
  rw [ofNat_mul_two_pow n few]
  rcases Nat.eq_zero_or_pos n with rfl | positive
  · simpa using ofNat_zero_add digit short
  · have nonzero : 0 < n * 2 ^ places := by positivity
    have exponent := exponentOf_mul_two_pow positive places
    have bounds := exponentOf_bounds n
    rcases Nat.eq_zero_or_pos digit with rfl | positive'
    · simpa using ofNat_add_zero nonzero
    · have low := exponentOf_nonpos positive' short
      have same := rounded_of_lt short
      by_cases exact : n < 2 ^ 53
      · have bits := log2_lt positive exact
        rw [ofNat_add nonzero (by omega) positive' low same, rounded_shifted positive,
          rounded_of_lt exact, if_pos exact]
      · have bits : 53 ≤ n.log2 := (Nat.le_log2 positive.ne').mpr (by omega)
        rw [if_neg exact, Nat.add_zero]
        by_cases finite : exponentOf (n * 2 ^ places) ≤ 971
        · obtain ⟨shift, shift_eq⟩ :=
            Int.eq_ofNat_of_zero_le (a := exponentOf (n * 2 ^ places)) (by omega)
          have near : 2 * digit < 2 ^ shift := by
            have doubled : 2 ^ (places + 1) ≤ 2 ^ shift :=
              Nat.pow_le_pow_right (by decide) (by omega)
            rw [pow_succ] at doubled
            omega
          rw [ofNat_add nonzero finite positive' low same, ofNat_rounded_add nonzero shift_eq near]
        · have bits' := log2_lt positive' short
          have bounds' := exponentOf_bounds digit
          apply eq_of_toModel
          change Float.Model.pack (UnpackedFloat.add Format.binary64 _ _) = _
          rw [unpack_of_overflow nonzero (by omega), unpack_natural positive' (by omega),
            toModel_of_overflow nonzero (by omega)]
          rfl

end Binary

end Stencil
