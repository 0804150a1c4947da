import Mathlib
import Stencil.Proofs.Number.Floats
import Stencil.Proofs.Number.Order
/-!
# Floats that are integers

An integer of fewer than 53 bits is denoted by one float only, zero apart, which is the float that
the integer is converted to.
-/

namespace Stencil

open Float.Model Float.Model.UnpackedFloat

namespace Binary

variable {x : Float} {negative : Bool} {mantissa : Nat} {exponent : Int}

theorem unpack_of_ofFloat (denoted : ofFloat x = finite negative mantissa exponent)
    (positive : 0 < mantissa) :
    ∃ sign, ofSign sign = negative ∧
      x.toModel.unpack = .finite sign mantissa exponent positive := by
  rw [ofFloat_eq] at denoted
  cases unpacked : x.toModel.unpack with
  | finite sign m e h =>
      rw [unpacked] at denoted
      cases denoted
      exact ⟨sign, rfl, rfl⟩
  | zero sign =>
      rw [unpacked] at denoted
      cases denoted
      exact absurd positive (lt_irrefl 0)
  | infinity sign =>
      rw [unpacked] at denoted
      cases denoted
  | notANumber =>
      rw [unpacked] at denoted
      cases denoted

/-- Fewer bits than a fraction has places are not an integer. -/
theorem isWhole_eq_false (positive : 0 < mantissa) (small : mantissa < 2 ^ 52) {places : Nat}
    (fraction : 52 ≤ places) : isWhole mantissa (-places) = false := by
  have fewer : mantissa < 2 ^ places :=
    small.trans_le (Nat.pow_le_pow_right (by decide) fraction)
  have neg : ¬(0 : Int) ≤ -places := by omega
  have rest : mantissa % 2 ^ places ≠ 0 := by
    rw [Nat.mod_eq_of_lt fewer]
    exact positive.ne'
  simp only [isWhole, neg, decide_false, Bool.false_or, neg_neg, Int.toNat_natCast, Nat.pow_eq]
  exact beq_false_of_ne rest

/-- Only normal floats are integers, zero apart. -/
theorem isNormal_of_isWhole (denoted : ofFloat x = finite negative mantissa exponent)
    (positive : 0 < mantissa) (whole : isWhole mantissa exponent = true) :
    IsNormal mantissa exponent := by
  rcases isNormal_or_subnormal denoted with normal | ⟨small, rfl⟩
  · exact normal
  · have fraction := isWhole_eq_false positive small (by decide : 52 ≤ 1074)
    exact absurd whole (Bool.eq_false_iff.mp fraction)

theorem log2_mul_two_pow {n : Nat} (nonzero : n ≠ 0) (places : Nat) :
    (n * 2 ^ places).log2 = n.log2 + places := by
  induction places with
  | zero => simp
  | succ places ih =>
      have doubled : n * 2 ^ (places + 1) = 2 * (n * 2 ^ places) := by ring
      rw [doubled, Nat.log2_two_mul (by positivity), ih, Nat.add_assoc]

/-- A multiple of a power of two is what an integer with a negative exponent is. -/
theorem exists_shifted {places : Nat} (whole : isWhole mantissa (-places) = true) :
    ∃ n, mantissa = n * 2 ^ places := by
  refine ⟨mantissa / 2 ^ places, (Nat.div_mul_cancel (Nat.dvd_of_mod_eq_zero ?_)).symm⟩
  rcases Nat.eq_zero_or_pos places with rfl | positive
  · exact Nat.mod_one _
  · have neg : ¬(0 : Int) ≤ -(places : Int) := by omega
    simp only [isWhole, neg, decide_false, Bool.false_or, beq_iff_eq] at whole
    simpa using whole

/-- An integer of fewer than 53 bits fixes the mantissa and the exponent of a normal float. -/
theorem IsNormal.eq_of_wholePart (normal : IsNormal mantissa exponent)
    (whole : isWhole mantissa exponent = true) (small : wholePart mantissa exponent < 2 ^ 53) :
    mantissa = wholePart mantissa exponent * 2 ^ (52 - (wholePart mantissa exponent).log2) ∧
      exponent = (wholePart mantissa exponent).log2 - 52 := by
  have log2 := normal.log2_eq
  have least := normal.least
  -- With a positive exponent the integer would have more than 53 bits.
  have nonpos : exponent ≤ 0 := by
    by_contra positive
    rw [wholePart, if_pos (by omega), Nat.pow_eq] at small
    have doubled : 2 ^ 1 ≤ 2 ^ exponent.toNat := Nat.pow_le_pow_right (by decide) (by omega)
    have product := Nat.mul_le_mul least doubled
    omega
  obtain ⟨places, same⟩ := Int.eq_ofNat_of_zero_le (a := -exponent) (by omega)
  obtain rfl : exponent = -places := by omega
  obtain ⟨n, rfl⟩ := exists_shifted whole
  rw [(wholePart_shifted n places).2]
  have nonzero : n ≠ 0 := by
    rintro rfl
    omega
  rw [log2_mul_two_pow nonzero] at log2
  have shift : 52 - n.log2 = places := by omega
  rw [shift]
  exact ⟨rfl, by omega⟩

/-- A natural number below `2 ^ 53` with a sign is converted without rounding. -/
theorem unpack_ofInt (sign : Sign) {n : Nat} (positive : 0 < n) (small : n < 2 ^ 53) :
    (Float.ofInt (sign.apply n)).toModel.unpack =
      .finite sign (n * 2 ^ (52 - n.log2)) (n.log2 - 52) (isNormal_ofNat positive small).pos := by
  cases sign with
  | positive => exact unpack_ofNat positive small
  | negative =>
      have normal := isNormal_ofNat positive small
      obtain ⟨m, rfl⟩ : ∃ m, n = m + 1 := ⟨n - 1, by omega⟩
      change (Float.Model.pack (Float.ofNat (m + 1)).toModel.unpack.neg).unpack = _
      rw [unpack_ofNat positive small]
      exact normal.unpack_pack .negative

theorem toInt_of_unpack {sign : Sign} {positive : 0 < mantissa}
    (unpacked : x.toModel.unpack = .finite sign mantissa exponent positive) :
    Number.toInt x = sign.apply (wholePart mantissa exponent) := by
  have denoted : ofFloat x = finite (ofSign sign) mantissa exponent := by
    rw [ofFloat_eq, unpacked]
    rfl
  simp only [Number.toInt, denoted]
  cases sign <;> rfl

theorem natAbs_apply (sign : Sign) (n : Nat) : (sign.apply n).natAbs = n := by
  cases sign with
  | positive => rfl
  | negative => exact Int.natAbs_neg n

/-- What a float that is an integer other than zero is made of. -/
theorem exists_unpacked (integral : Number.isIntegral x = true) (nonzero : Number.toInt x ≠ 0) :
    ∃ sign mantissa exponent, ∃ positive : 0 < mantissa,
      x.toModel.unpack = .finite sign mantissa exponent positive ∧ IsNormal mantissa exponent ∧
        isWhole mantissa exponent = true := by
  cases denoted : ofFloat x with
  | finite negative mantissa exponent =>
      simp only [Number.isIntegral, denoted] at integral
      have positive : 0 < mantissa := by
        refine Nat.pos_of_ne_zero fun zero => nonzero ?_
        simp [Number.toInt, denoted, zero]
      rcases unpack_of_ofFloat denoted positive with ⟨sign, _, unpacked⟩
      exact ⟨sign, mantissa, exponent, positive, unpacked,
        isNormal_of_isWhole denoted positive integral, integral⟩
  | notANumber => simp [Number.isIntegral, denoted] at integral
  | infinite negative => simp [Number.isIntegral, denoted] at integral

/-- An integer of fewer than 53 bits other than zero is converted back to the float that it comes
from. -/
theorem unpack_ofInt_toInt (integral : Number.isIntegral x = true) (nonzero : Number.toInt x ≠ 0)
    (small : (Number.toInt x).natAbs < 2 ^ 53) :
    (Float.ofInt (Number.toInt x)).toModel.unpack = x.toModel.unpack := by
  rcases exists_unpacked integral nonzero with
    ⟨sign, mantissa, exponent, positive, unpacked, normal, whole⟩
  have whole_eq := toInt_of_unpack unpacked
  rw [whole_eq, natAbs_apply] at small
  have part : 0 < wholePart mantissa exponent := by
    refine Nat.pos_of_ne_zero fun zero => nonzero ?_
    rw [whole_eq, zero]
    cases sign <;> rfl
  rw [whole_eq, unpacked, unpack_ofInt sign part small]
  rcases normal.eq_of_wholePart whole small with ⟨sameMantissa, sameExponent⟩
  congr 1
  · exact sameMantissa.symm
  · exact sameExponent.symm

theorem unpack_abs {sign : Sign} (normal : IsNormal mantissa exponent)
    (unpacked : x.toModel.unpack = .finite sign mantissa exponent normal.pos) :
    x.abs.toModel.unpack = .finite .positive mantissa exponent normal.pos := by
  change (Float.Model.pack x.toModel.unpack.abs).unpack = _
  rw [unpacked]
  exact normal.unpack_pack .positive

/-- A float at the bottom of the exponent range is kept as it is. -/
theorem unpack_pack_subnormal (sign : Sign) (positive : 0 < mantissa)
    (small : mantissa < 2 ^ 52) :
    (Float.Model.pack (.finite sign mantissa (-1074) positive)).unpack =
      .finite sign mantissa (-1074) positive := by
  have fewer : mantissa.log2 < 52 := (Nat.log2_lt positive.ne').mpr small
  have packed : UnpackedFloat.pack Format.binary64 (.finite sign mantissa (-1074) positive) =
      packComponents Format.binary64 sign (0#_) (BitVec.ofNat _ mantissa) := by
    have lowest : ¬ 2 ^ Format.binary64.exponentBits ≤
        ((-1074 : Int) + Format.binary64.exponentBias + (52 : Nat)).toNat + 1 := by decide
    have short : ¬ mantissa.log2 + 1 = Format.binary64.mantissaBits :=
      Nat.ne_of_lt (Nat.succ_lt_succ fewer)
    rw [UnpackedFloat.pack]
    exact (if_neg lowest).trans (if_neg short)
  have fits : (BitVec.ofNat 52 mantissa).toNat = mantissa := by
    rw [BitVec.toNat_ofNat, Nat.mod_eq_of_lt small]
  have nonzero : BitVec.ofNat 52 mantissa ≠ 0#_ := by
    intro zero
    have none : mantissa = 0 := fits.symm.trans (congrArg BitVec.toNat zero)
    exact positive.ne' none
  change UnpackedFloat.unpack Format.binary64 (UnpackedFloat.pack Format.binary64 _) = _
  rw [packed]
  simp only [UnpackedFloat.unpack, unpackMantissa_packComponents, unpackExponent_packComponents,
    unpackSign_packComponents, Sign.ofBitVec_toBitVec, nonzero, fits]
  rfl

/-- The magnitude of a finite float has its mantissa and its exponent. -/
theorem ofFloat_abs (denoted : ofFloat x = finite negative mantissa exponent) :
    ofFloat x.abs = finite false mantissa exponent := by
  rcases Nat.eq_zero_or_pos mantissa with rfl | positive
  · rw [ofFloat_eq] at denoted
    cases unpacked : x.toModel.unpack with
    | zero sign =>
        rw [unpacked] at denoted
        cases denoted
        have magnitude : x.abs = Float.ofModel (Float.Model.pack (.zero .positive)) :=
          congrArg (fun unpacked : UnpackedFloat =>
            Float.ofModel (Float.Model.pack unpacked.abs)) unpacked
        rw [magnitude]
        rfl
    | finite sign m e above =>
        rw [unpacked] at denoted
        cases denoted
        exact absurd above (lt_irrefl 0)
    | infinity sign =>
        rw [unpacked] at denoted
        cases denoted
    | notANumber =>
        rw [unpacked] at denoted
        cases denoted
  · obtain ⟨sign, -, unpacked⟩ := unpack_of_ofFloat denoted positive
    have magnitude : x.abs.toModel.unpack = .finite .positive mantissa exponent positive := by
      rcases isNormal_or_subnormal denoted with normal | ⟨small, rfl⟩
      · exact unpack_abs normal unpacked
      · change (Float.Model.pack x.toModel.unpack.abs).unpack = _
        rw [unpacked]
        exact unpack_pack_subnormal .positive positive small
    rw [ofFloat_eq, magnitude]
    rfl

theorem exists_finite (isFinite : x.isFinite = true) :
    ∃ negative mantissa exponent, ofFloat x = finite negative mantissa exponent := by
  change x.toModel.unpack.isFinite = true at isFinite
  rw [ofFloat_eq]
  cases unpacked : x.toModel.unpack with
  | zero sign => exact ⟨_, _, _, rfl⟩
  | finite sign mantissa exponent positive => exact ⟨_, _, _, rfl⟩
  | infinity sign =>
      rw [unpacked] at isFinite
      cases isFinite
  | notANumber =>
      rw [unpacked] at isFinite
      cases isFinite

/-- The integers in the range of documents have fewer than 53 bits. -/
theorem natAbs_toInt_lt (integral : Number.isIntegral x = true) (bounded : x.abs < 9.0e15) :
    (Number.toInt x).natAbs < 2 ^ 53 := by
  rcases eq_or_ne (Number.toInt x) 0 with zero | nonzero
  · rw [zero]
    decide
  · rcases exists_unpacked integral nonzero with
      ⟨sign, mantissa, exponent, positive, unpacked, normal, whole⟩
    have bound : (9.0e15 : Float).toModel.unpack =
      .finite .positive 9000000000000000 0 (by decide) := rfl
    rw [lt_iff_compare, unpack_abs normal unpacked, bound] at bounded
    have order : (compare exponent 0).then (compare mantissa 9000000000000000) = .lt :=
      Option.some.inj bounded
    have most := normal.most
    rw [toInt_of_unpack unpacked, natAbs_apply, wholePart]
    split
    · rename_i nonneg
      have zero : exponent = 0 := by
        rcases Ordering.then_eq_lt.mp order with less | ⟨same, _⟩
        · exact absurd (compare_lt_iff_lt.mp less) (by omega)
        · exact compare_eq_iff_eq.mp same
      simpa [zero] using most
    · exact (Nat.div_le_self _ _).trans_lt most

theorem beq_of_place {a b : Float} (number : (ofFloat a).place ≠ none)
    (same : (ofFloat b).place = (ofFloat a).place) : (a == b) = true := by
  rw [Value.beq_iff_compareNumbers, compareNumbers_eq, same]
  rcases found : (ofFloat a).place with _ | place
  · exact absurd found number
  · simp

theorem place_of_toInt_eq_zero (integral : Number.isIntegral x = true)
    (zero : Number.toInt x = 0) : (ofFloat x).place = (ofFloat 0.0).place := by
  cases denoted : ofFloat x with
  | finite negative mantissa exponent =>
      simp only [Number.isIntegral, denoted] at integral
      have part : wholePart mantissa exponent = 0 := by
        simp only [Number.toInt, denoted] at zero
        split at zero <;> omega
      obtain rfl := eq_zero_of_wholePart integral part
      rfl
  | notANumber => simp [Number.isIntegral, denoted] at integral
  | infinite negative => simp [Number.isIntegral, denoted] at integral

/-- An integer of fewer than 53 bits is converted back to an equal float. -/
theorem ofInt_toInt_beq (integral : Number.isIntegral x = true)
    (small : (Number.toInt x).natAbs < 2 ^ 53) : (Float.ofInt (Number.toInt x) == x) = true := by
  -- Negative zero is converted back to zero, which is another float in the same place.
  rcases eq_or_ne (Number.toInt x) 0 with zero | nonzero
  · rw [zero]
    exact beq_of_place (by decide) (place_of_toInt_eq_zero integral zero)
  · have same := unpack_ofInt_toInt integral nonzero small
    refine beq_of_place ?_ (by rw [ofFloat_eq, ofFloat_eq, same])
    rcases exists_unpacked integral nonzero with ⟨sign, mantissa, exponent, positive, unpacked, _⟩
    rw [ofFloat_eq, same, unpacked, ofUnpacked, place_finite _ positive]
    exact Option.some_ne_none _

end Binary

namespace Number

theorem isFinite_of_isIntegral {x : Float} (integral : isIntegral x = true) :
    x.isFinite = true := by
  change x.toModel.unpack.isFinite = true
  rw [isIntegral, Binary.ofFloat_eq] at integral
  cases unpacked : x.toModel.unpack <;> simp_all [Binary.ofUnpacked, UnpackedFloat.isFinite]

/-- An integer below `2 ^ 53` is denoted by its float. -/
theorem denotes_ofInt {n : Int} (small : n.natAbs < 2 ^ 53) : Denotes (Float.ofInt n) n := by
  rcases Nat.eq_zero_or_pos n.natAbs with zero | positive
  · rw [Int.natAbs_eq_zero.mp zero]
    exact denotes_ofNat (by decide : 0 < 2 ^ 53)
  · obtain ⟨sign, same⟩ : ∃ sign : Sign, n = sign.apply n.natAbs := by
      rcases Int.natAbs_eq n with same | same
      · exact ⟨.positive, same⟩
      · exact ⟨.negative, same⟩
    generalize n.natAbs = magnitude at small positive same
    subst same
    have bits := Binary.log2_lt positive small
    have exponent : (magnitude.log2 - 52 : Int) = -(52 - magnitude.log2 : Nat) := by omega
    have unpacked := Binary.unpack_ofInt sign positive small
    have denoted : Binary.ofFloat (Float.ofInt (sign.apply magnitude)) =
        .finite (Binary.ofSign sign) (magnitude * 2 ^ (52 - magnitude.log2))
          (-(52 - magnitude.log2 : Nat)) := by
      rw [Binary.ofFloat_eq, unpacked, ← exponent]
      rfl
    rcases Binary.wholePart_shifted magnitude (52 - magnitude.log2) with ⟨whole, part⟩
    refine ⟨by rw [isIntegral, denoted]; exact whole, ?_⟩
    rw [Binary.toInt_of_unpack unpacked, exponent, part]

theorem toInt64_of_denotes {x : Float} {n : Int} (denotes : Denotes x n)
    (least : minInt64 ≤ n) (most : n ≤ maxInt64) : toInt64 x = n := by
  rw [toInt64, denotes.2, min_eq_right most, max_eq_right least]

end Number

end Stencil
