import Mathlib
import Stencil.Proofs.Number.Naturals
/-!
# Nearest floats

The float that a natural number is converted to is the nearest of all finite floats, up to the
numbers that are nearer to the end of the range than half of the last place. Those are infinite.
-/

namespace Stencil

namespace Binary

/-- The number that a finite float denotes. -/
def value? : Binary → Option ℚ
  | finite negative mantissa exponent =>
    some ((if negative then -1 else 1) * mantissa * 2 ^ exponent)
  | _ => none

end Binary

/-- That a float is finite and no other finite float is nearer to a natural number. -/
def Number.IsNearest (x : Float) (n : Nat) : Prop :=
  ∃ value, (Binary.ofFloat x).value? = some value ∧
    ∀ other otherValue, (Binary.ofFloat other).value? = some otherValue →
      |value - n| ≤ |otherValue - n|

namespace Binary

theorem cast_mantissaOf (n : Nat) : (mantissaOf n * 2 ^ exponentOf n : ℚ) =
    significand n * 2 ^ (n.log2 - 52 : Int) := by
  rw [mantissaOf, exponentOf]
  split
  · rename_i carry
    have power : (n.log2 - 51 : Int) = 1 + (n.log2 - 52) := by omega
    rw [carry, power, zpow_add₀ two_ne_zero, zpow_one, ← mul_assoc]
    norm_num
  · rfl

section Grid

variable {n : Nat} (positive : 0 < n)
include positive

theorem value?_ofNat (finite : exponentOf n ≤ 971) :
    (ofFloat (Float.ofNat n)).value? = some (significand n * 2 ^ (n.log2 - 52 : Int) : ℚ) := by
  rw [ofFloat_eq, unpack_natural positive finite, ← cast_mantissaOf]
  simp [ofUnpacked, ofSign, value?]

omit positive in
/-- Rounding is off by half of the last place at most. -/
theorem significand_near (n : Nat) :
    |(significand n * 2 ^ (n.log2 - 52 : Int) - n : ℚ)| ≤ 2 ^ (n.log2 - 52 : Int) / 2 := by
  rcases Ratio.roundHalfEven_near (n * 2 ^ 52) (2 ^ n.log2) (by positivity) with ⟨above, below⟩
  rw [← significand] at above below
  have place : (2 ^ n.log2 : ℚ) = 2 ^ (n.log2 - 52 : Int) * 2 ^ 52 := by
    rw [← zpow_natCast, ← zpow_natCast, ← zpow_add₀ two_ne_zero]
    congr 1
    omega
  qify at above below
  rw [place] at above below
  rw [abs_le]
  constructor <;> linarith

omit positive in
/-- No multiple of the last place is nearer. -/
theorem significand_nearest (n : Nat) (multiple : ℤ) :
    |(significand n * 2 ^ (n.log2 - 52 : Int) - n : ℚ)| ≤
      |(multiple * 2 ^ (n.log2 - 52 : Int) - n : ℚ)| := by
  have near := significand_near n
  have place : (0 : ℚ) < 2 ^ (n.log2 - 52 : Int) := by positivity
  rcases eq_or_ne multiple (significand n) with rfl | other
  · exact le_rfl
  · have apart : (1 : ℚ) ≤ |(multiple - significand n : ℚ)| := by
      exact_mod_cast Int.one_le_abs (sub_ne_zero.mpr other)
    have distance : (2 ^ (n.log2 - 52 : Int) : ℚ) ≤
        |(multiple * 2 ^ (n.log2 - 52 : Int) - significand n * 2 ^ (n.log2 - 52 : Int) : ℚ)| := by
      rw [← sub_mul, abs_mul, abs_of_pos place]
      exact le_mul_of_one_le_left place.le apart
    have between := abs_sub_le (multiple * 2 ^ (n.log2 - 52 : Int) : ℚ) n
      (significand n * 2 ^ (n.log2 - 52 : Int))
    rw [abs_sub_comm (n : ℚ)] at between
    linarith

theorem isNearest_ofNat (finite : exponentOf n ≤ 971) : Number.IsNearest (Float.ofNat n) n := by
  refine ⟨_, value?_ofNat positive finite, ?_⟩
  intro other otherValue denoted
  cases found : ofFloat other with
  | notANumber => simp [found, value?] at denoted
  | infinite negative => simp [found, value?] at denoted
  | finite negative mantissa exponent =>
      have small := mantissa_lt found
      simp only [found, value?, Option.some.injEq] at denoted
      subst denoted
      by_cases coarse : (n.log2 - 52 : Int) ≤ exponent
      · -- The other float is a multiple of the last place as well.
        obtain ⟨shift, same⟩ := Int.eq_ofNat_of_zero_le (sub_nonneg.mpr coarse)
        have multiple := significand_nearest n ((if negative then -1 else 1) * mantissa * 2 ^ shift)
        have power : exponent = shift + (n.log2 - 52 : Int) := by omega
        rw [power, zpow_add₀ two_ne_zero, zpow_natCast, ← mul_assoc]
        push_cast at multiple
        exact multiple
      · -- A float with finer places is below the leading bit of the number.
        have leading : (2 ^ 52 * 2 ^ (n.log2 - 52 : Int) : ℚ) ≤ n := by
          have bit := (Nat.log2_eq_iff positive.ne').mp rfl
          have power : (2 ^ 52 * 2 ^ (n.log2 - 52 : Int) : ℚ) = (2 ^ n.log2 : Nat) := by
            rw [Nat.cast_pow, Nat.cast_two, ← zpow_natCast, ← zpow_natCast,
              ← zpow_add₀ two_ne_zero]
            congr 1
            omega
          rw [power]
          exact_mod_cast bit.1
        have below : ((if negative then -1 else 1) * mantissa * 2 ^ exponent : ℚ) ≤
            2 ^ 52 * 2 ^ (n.log2 - 52 : Int) := by
          have magnitude : (0 : ℚ) ≤ mantissa * 2 ^ exponent := by positivity
          have half : (n.log2 - 52 : Int) = 1 + (n.log2 - 53) := by omega
          calc ((if negative then -1 else 1) * mantissa * 2 ^ exponent : ℚ)
              ≤ mantissa * 2 ^ exponent := by
                rw [mul_assoc]
                split <;> linarith
            _ ≤ 2 ^ 53 * 2 ^ (n.log2 - 53 : Int) := by
                gcongr
                · exact_mod_cast small.le
                · exact one_le_two
                · omega
            _ = 2 ^ 52 * 2 ^ (n.log2 - 52 : Int) := by
                rw [half, zpow_add₀ two_ne_zero]
                ring
        have multiple := significand_nearest n (2 ^ 52)
        rw [Int.cast_pow, Int.cast_ofNat] at multiple
        rw [abs_of_nonpos (by linarith : (2 ^ 52 * 2 ^ (n.log2 - 52 : Int) - n : ℚ) ≤ 0)]
          at multiple
        rw [abs_of_nonpos (by linarith : ((if negative then -1 else 1) * mantissa * 2 ^ exponent -
          n : ℚ) ≤ 0)]
        linarith

/-- The last number of the range is reached from half of the last place below it. -/
theorem significand_eq_iff {unit : Nat} (log2 : 2 ^ n.log2 = unit * 2 ^ 53)
    (edge : significand ((2 ^ 54 - 1) * unit) = 2 ^ 53) :
    significand n = 2 ^ 53 ↔ (2 ^ 54 - 1) * unit ≤ n := by
  rcases Ratio.roundHalfEven_near (n * 2 ^ 52) (2 ^ n.log2) (by positivity) with ⟨above, below⟩
  rw [← significand, log2] at above below
  constructor
  · intro carry
    rw [carry] at below
    omega
  · intro large
    rcases large.eq_or_lt with rfl | larger
    · exact edge
    · by_contra regular
      have upper := Nat.le_sub_one_of_lt ((significand_bounds positive).2.lt_of_ne regular)
      have scaled := Nat.mul_le_mul_left (unit * 2 ^ 53) upper
      omega

/-- The numbers that are rounded to a finite float: those below the middle between the largest one
and the next power of two. -/
theorem exponentOf_le_iff {unit : Nat} (last : unit = 2 ^ 970) :
    exponentOf n ≤ 971 ↔ n < (2 ^ 54 - 1) * unit := by
  have bounds := exponentOf_bounds n
  have power : ∀ k, 2 ^ (970 + k) = unit * 2 ^ k := by
    intro k
    rw [last, pow_add]
  rcases lt_trichotomy n.log2 (970 + 53) with short | same | long
  · have small : ¬2 ^ (970 + 53) ≤ n := by
      rw [← Nat.le_log2 positive.ne']
      exact short.not_ge
    rw [power] at small
    exact iff_of_true (by omega) (by omega)
  · have edge : significand ((2 ^ 54 - 1) * unit) = 2 ^ 53 := by
      rw [last, significand_mul_two_pow (by decide)]
      decide +kernel
    have log2 : 2 ^ n.log2 = unit * 2 ^ 53 := by rw [same, power]
    rw [← not_le, ← significand_eq_iff positive log2 edge, exponentOf, same]
    split
    · rename_i carry
      exact iff_of_false (by omega) (not_not_intro carry)
    · rename_i regular
      exact iff_of_true (by omega) regular
  · have large : 2 ^ (970 + 54) ≤ n := by
      rw [← Nat.le_log2 positive.ne']
      exact long
    rw [power] at large
    exact iff_of_false (by omega) (by omega)

/-- Numbers beyond the largest float are rounded to infinity. -/
theorem ofNat_of_overflow (overflow : 971 < exponentOf n) : Float.ofNat n = Number.infinity := by
  apply eq_of_toModel
  rw [toModel_of_overflow positive overflow]
  rfl

end Grid

end Binary

end Stencil
