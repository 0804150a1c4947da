import Mathlib
import Stencil.Number.Grouping
import Stencil.Number.Text
import Stencil.Proofs.Number.Floats
/-!
# Lengths of numbers

A float has a largest magnitude, so the text of a number with a fixed number of places cannot be
longer than that takes.
-/

namespace Stencil

/-- A decimal has no more digits than the same number has in binary. -/
theorem length_toDigits_le_of_lt_two_pow {n bits : Nat} (some_bit : 0 < bits)
    (bounded : n < 2 ^ bits) : (Nat.toDigits 10 n).length ≤ bits :=
  (Nat.length_toDigits_le_iff (by decide) some_bit).mpr
    (bounded.trans_le (Nat.pow_le_pow_left (by decide) bits))

namespace Binary

/-- The lowest bit of the largest float. -/
def topExponent : Nat := 971

theorem exponent_le {x : Float} {negative : Bool} {mantissa : Nat} {exponent : Int}
    (denoted : ofFloat x = finite negative mantissa exponent) : exponent ≤ topExponent := by
  rcases isNormal_or_subnormal denoted with normal | ⟨_, rfl⟩
  · exact normal.highest
  · decide

end Binary

namespace Ratio

theorem roundHalfEven_le (ratio : Ratio) : ratio.roundHalfEven ≤ ratio.numerator + 1 := by
  have smaller : ratio.numerator / ratio.denominator ≤ ratio.numerator := Nat.div_le_self _ _
  rw [roundHalfEven]
  split
  · omega
  · omega
  · split <;> omega

theorem numerator_ofDyadic_le {mantissa top : Nat} {exponent : Int} (below : exponent ≤ top) :
    (ofDyadic mantissa exponent).numerator ≤ mantissa * 2 ^ top := by
  rw [ofDyadic]
  split
  · exact Nat.mul_le_mul_left _ (Nat.pow_le_pow_right (by decide) (by omega))
  · exact Nat.le_mul_of_pos_right _ (Nat.two_pow_pos top)

/-- Four bits are enough for one more decimal digit. -/
theorem numerator_scaleTen_le (ratio : Ratio) (places : Nat) :
    (ratio.scaleTen places).numerator ≤ ratio.numerator * 2 ^ (4 * places) := by
  have sixteen : 10 ^ places ≤ 2 ^ (4 * places) := by
    rw [Nat.pow_mul]
    exact Nat.pow_le_pow_left (by decide) places
  rw [scaleTen, if_pos (Int.natCast_nonneg places), Int.toNat_natCast]
  exact Nat.mul_le_mul_left _ sixteen

end Ratio

namespace Fixed

theorem digits_lt {mantissa bits top : Nat} {exponent : Int} (small : mantissa < 2 ^ bits)
    (below : exponent ≤ top) (places : Nat) :
    digits mantissa exponent places < 2 ^ (bits + top + 4 * places + 1) := by
  let ratio := Ratio.ofDyadic mantissa exponent
  have numerator : ratio.numerator < 2 ^ (bits + top) := by
    calc ratio.numerator ≤ mantissa * 2 ^ top := Ratio.numerator_ofDyadic_le below
      _ < 2 ^ bits * 2 ^ top := Nat.mul_lt_mul_of_pos_right small (Nat.two_pow_pos top)
      _ = 2 ^ (bits + top) := (Nat.pow_add 2 bits top).symm
  calc digits mantissa exponent places
      ≤ (ratio.scaleTen places).numerator + 1 := Ratio.roundHalfEven_le _
    _ ≤ ratio.numerator * 2 ^ (4 * places) + 1 :=
        Nat.add_le_add_right (ratio.numerator_scaleTen_le places) 1
    _ < 2 ^ (bits + top) * 2 ^ (4 * places) + 1 :=
        Nat.add_lt_add_right (Nat.mul_lt_mul_of_pos_right numerator (Nat.two_pow_pos _)) 1
    _ = 2 ^ (bits + top + 4 * places) + 1 := by rw [← Nat.pow_add]
    _ ≤ 2 ^ (bits + top + 4 * places + 1) := by
        have positive := Nat.two_pow_pos (bits + top + 4 * places)
        rw [Nat.pow_succ]
        omega

theorem length_pointed_pos (digits places : Nat) : 0 < (pointed digits places).length := by
  have longer := @List.length_leftpad _ (places + 1) '0' (Nat.toDigits 10 digits)
  rw [pointed]
  split
  · rw [String.length_ofList]
    omega
  · rw [String.length_ofList, List.length_append, List.length_cons]
    omega

theorem length_pointed_le (digits places : Nat) :
    (pointed digits places).length ≤ max (places + 1) (Nat.toDigits 10 digits).length + 1 := by
  rw [pointed, ← List.length_leftpad (n := places + 1) (a := '0')]
  generalize (Nat.toDigits 10 digits).leftpad (places + 1) '0' = text
  split
  · rw [String.length_ofList]
    exact Nat.le_succ _
  · simp only [String.length_ofList, List.length_append, List.length_cons, List.length_take,
      List.length_drop]
    omega

end Fixed

namespace Number

theorem length_signed_le (negative : Bool) (text : String) :
    (signed negative text).length ≤ text.length + 1 := by
  rw [signed]
  split
  · have minus : "-".length = 1 := rfl
    rw [String.length_append, minus]
    omega
  · exact Nat.le_succ _

/-- Every third digit from the right has a separator after it, the first digit apart. -/
theorem length_groupThousands (separator digits : List Char) :
    (groupThousands separator digits).length =
      digits.length + (digits.length - 1) / 3 * separator.length := by
  induction digits with
  | nil => simp [groupThousands]
  | cons digit rest ih =>
      cases rest with
      | nil => simp [groupThousands]
      | cons next later =>
          rw [groupThousands]
          split
          · rename_i grouped
            have one_more : (later.length + 1) / 3 = later.length / 3 + 1 := by omega
            simp only [List.length_append, List.length_cons, Nat.add_sub_cancel, ih, one_more,
              Nat.add_mul, Nat.one_mul]
            omega
          · have same : (later.length + 1) / 3 = later.length / 3 := by omega
            simp only [List.length_cons, Nat.add_sub_cancel, ih, same]
            omega

theorem length_text_pos (x : Float) : 0 < (text x).length := by
  have signed_pos {negative : Bool} {text : String} (shown : 0 < text.length) :
      0 < (signed negative text).length := by
    rw [signed]
    split
    · rw [String.length_append]
      omega
    · exact shown
  have repr_pos (n : Nat) : 0 < (Nat.repr n).length := Nat.length_repr_pos
  rw [text]
  split
  · decide
  · exact signed_pos (by decide)
  · split
    · decide
    · split
      · exact signed_pos (repr_pos _)
      · apply signed_pos
        rw [positional]
        split
        · exact repr_pos _
        · exact Fixed.length_pointed_pos _ _

/-- No number takes more than the digits of the largest float, the places, a point and a sign. -/
theorem length_fixed_le (x : Float) (places : Nat) :
    (fixed x places).length ≤ 1027 + 4 * places := by
  cases denoted : Binary.ofFloat x with
  | notANumber =>
      have shown : fixed x places = "NaN" := by rw [fixed, denoted, text, denoted]
      rw [shown]
      exact (by decide : 3 ≤ 1027).trans (Nat.le_add_right _ _)
  | infinite negative =>
      have shown : fixed x places = signed negative "Infinity" := by
        rw [fixed, denoted, text, denoted]
      rw [shown]
      exact (length_signed_le _ _).trans
        ((by decide : 9 ≤ 1027).trans (Nat.le_add_right _ _))
  | finite negative mantissa exponent =>
      have bounded := Fixed.digits_lt (Binary.mantissa_lt denoted) (Binary.exponent_le denoted)
        places
      have digits := length_toDigits_le_of_lt_two_pow (Nat.succ_pos _) bounded
      have pointed := Fixed.length_pointed_le (Fixed.digits mantissa exponent places) places
      have shown := length_signed_le negative
        (Fixed.pointed (Fixed.digits mantissa exponent places) places)
      rw [fixed, denoted]
      change (signed negative _).length ≤ _
      rw [Binary.topExponent] at digits
      generalize (Nat.toDigits 10 _).length = count at digits pointed
      generalize (Fixed.pointed _ _).length = length at pointed shown
      generalize (signed _ _).length = total at shown
      omega

end Number

end Stencil
