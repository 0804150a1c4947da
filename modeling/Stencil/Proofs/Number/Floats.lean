import Mathlib
import Stencil.Number.Binary
/-!
# Floats and what they denote

The fields of a float's bits are the parts of its unpacked form, so the exact value that is read off
the bits and the arithmetic of floats speak of the same number. A natural number below `2 ^ 53` is
a float without rounding.
-/

namespace Stencil

open Float.Model Float.Model.UnpackedFloat

namespace Binary

section Fields

variable (bits : BitVec Format.binary64.numBits)

theorem toNat_unpackExponent :
    (unpackExponent bits).toNat = bits.toNat / Nat.pow 2 52 % Nat.pow 2 11 := by
  simp [unpackExponent, BitVec.extractLsb_toNat, Nat.shiftRight_eq_div_pow]

theorem toNat_unpackMantissa : (unpackMantissa bits).toNat = bits.toNat % Nat.pow 2 52 := by
  simp [unpackMantissa, BitVec.extractLsb_toNat, Nat.shiftRight_eq_div_pow]

theorem toNat_unpackSign : (unpackSign bits).toNat = bits.toNat / Nat.pow 2 63 := by
  have bound : bits.toNat < 2 ^ 64 := bits.isLt
  simp [unpackSign, BitVec.extractLsb_toNat, Nat.shiftRight_eq_div_pow]
  omega

/-- The mantissa of a normal float has a bit in front of its fraction that is not stored. -/
theorem toNat_implicit (fraction : BitVec 52) :
    (1#1 ++ fraction).toNat = Nat.pow 2 52 + fraction.toNat := by
  rw [BitVec.toNat_append, ← Nat.shiftLeft_add_eq_or_of_lt fraction.isLt]
  rfl

end Fields

/-- Whether a sign is a minus. -/
def ofSign : Sign → Bool
  | .negative => true
  | .positive => false

theorem ofSign_ofBitVec (bit : BitVec 1) : ofSign (Sign.ofBitVec bit) = (bit.toNat == 1) := by
  rcases BitVec.eq_zero_or_eq_one bit with rfl | rfl <;> rfl

/-- What an unpacked float denotes. -/
def ofUnpacked : UnpackedFloat → Binary
  | .notANumber => notANumber
  | .infinity sign => infinite (ofSign sign)
  | .zero sign => finite (ofSign sign) 0 (-1074)
  | .finite sign mantissa exponent _ => finite (ofSign sign) mantissa exponent

theorem ofFloat_eq (x : Float) : ofFloat x = ofUnpacked x.toModel.unpack := by
  let bits : BitVec Format.binary64.numBits := x.toModel.toBits.toBitVec
  have sign : ofSign (.ofBitVec (unpackSign bits)) = (x.toBits.toNat / Nat.pow 2 63 == 1) := by
    rw [ofSign_ofBitVec, toNat_unpackSign]
    rfl
  have biased : (unpackExponent bits).toNat = x.toBits.toNat / Nat.pow 2 52 % Nat.pow 2 11 :=
    toNat_unpackExponent bits
  have fraction : (unpackMantissa bits).toNat = x.toBits.toNat % Nat.pow 2 52 :=
    toNat_unpackMantissa bits
  have special : unpackExponent bits = -1#_ ↔ (unpackExponent bits).toNat = 2047 :=
    BitVec.toNat_eq
  have subnormal : unpackExponent bits = 0#_ ↔ (unpackExponent bits).toNat = 0 := BitVec.toNat_eq
  have empty : unpackMantissa bits = 0#_ ↔ (unpackMantissa bits).toNat = 0 := BitVec.toNat_eq
  change ofFloat x = ofUnpacked (UnpackedFloat.unpack Format.binary64 bits)
  simp only [ofFloat, UnpackedFloat.unpack, ← sign, ← biased, ← fraction, special, subnormal, empty]
  -- The exponent has only ones, only zeros, or both.
  split
  · split <;> rfl
  · split
    · split
      · rename_i zero
        simp [zero, ofUnpacked]
      · rename_i least _
        rw [least]
        rfl
    · simp only [ofUnpacked, toNat_implicit]
      rfl

/-- The parts of a normal float. -/
structure IsNormal (mantissa : Nat) (exponent : Int) : Prop where
  least : 2 ^ 52 ≤ mantissa
  most : mantissa < 2 ^ 53
  lowest : -1074 ≤ exponent
  highest : exponent ≤ 971

/-- A finite float is normal, or it lies at the bottom of the exponent range. -/
theorem isNormal_or_subnormal {x : Float} {negative : Bool} {mantissa : Nat} {exponent : Int}
    (denoted : ofFloat x = finite negative mantissa exponent) :
    IsNormal mantissa exponent ∨ mantissa < 2 ^ 52 ∧ exponent = -1074 := by
  have fraction : x.toBits.toNat % Nat.pow 2 52 < 2 ^ 52 :=
    Nat.mod_lt _ (Nat.pow_pos (by decide))
  have field : x.toBits.toNat / Nat.pow 2 52 % Nat.pow 2 11 < 2 ^ 11 :=
    Nat.mod_lt _ (Nat.pow_pos (by decide))
  simp only [ofFloat] at denoted
  split at denoted
  · split at denoted <;> cases denoted
  · split at denoted
    · cases denoted
      exact .inr ⟨fraction, rfl⟩
    · cases denoted
      refine .inl ⟨Nat.le_add_right _ _, ?_, ?_, ?_⟩
      · rw [Nat.pow_eq]
        omega
      · omega
      · omega

/-- A mantissa has at most 53 bits. -/
theorem mantissa_lt {x : Float} {negative : Bool} {mantissa : Nat} {exponent : Int}
    (denoted : ofFloat x = finite negative mantissa exponent) : mantissa < 2 ^ 53 := by
  rcases isNormal_or_subnormal denoted with normal | ⟨small, _⟩
  · exact normal.most
  · omega

/-- The floats from zero up. Both zeros are among them. -/
theorem zero_le_iff (x : Float) :
    0.0 ≤ x ↔ ofFloat x = infinite false ∨
      ∃ negative mantissa exponent, ofFloat x = finite negative mantissa exponent ∧
        (negative = false ∨ mantissa = 0) := by
  have zero : (0.0 : Float).toModel.unpack = .zero .positive := rfl
  have compared : 0.0 ≤ x ↔ ((UnpackedFloat.zero .positive).le x.toModel.unpack) = true := by
    rw [← zero]
    exact decide_eq_true_iff
  rw [compared, ofFloat_eq]
  cases x.toModel.unpack with
  | notANumber => simp [ofUnpacked, UnpackedFloat.le, UnpackedFloat.compare]
  | infinity sign =>
      cases sign <;> simp [ofUnpacked, UnpackedFloat.le, UnpackedFloat.compare, ofSign]
  | zero sign =>
      cases sign <;> simp [ofUnpacked, UnpackedFloat.le, UnpackedFloat.compare, ofSign]
  | finite sign mantissa exponent positive =>
      cases sign <;>
        simp [ofUnpacked, UnpackedFloat.le, UnpackedFloat.compare, ofSign, positive.ne']

/-! ## Floats of natural numbers -/

/-- Low bits that are zero are shifted out without a remainder. -/
theorem shiftRight_exact (places mantissa : Nat) :
    ExtendedMantissa.mk (mantissa * 2 ^ places) false false >>> places =
      ExtendedMantissa.mk mantissa false false := by
  induction places generalizing mantissa with
  | zero =>
      rw [pow_zero, mul_one]
      rfl
  | succ places ih =>
      have doubled : mantissa * 2 ^ (places + 1) = 2 * mantissa * 2 ^ places := by ring
      rw [doubled]
      change (ExtendedMantissa.mk (2 * mantissa * 2 ^ places) false false >>> places).shiftRightOne
        = _
      rw [ih]
      simp [ExtendedMantissa.shiftRightOne]

namespace IsNormal

variable {mantissa : Nat} {exponent : Int} (normal : IsNormal mantissa exponent)
include normal

theorem pos : 0 < mantissa := by
  have least := normal.least
  omega

theorem log2_eq : mantissa.log2 = 52 := by
  rw [Nat.log2_eq_iff normal.pos.ne']
  exact ⟨normal.least, normal.most⟩

/-- A normal float is kept as it is. -/
theorem unpack_pack (sign : Sign) :
    (Float.Model.pack (.finite sign mantissa exponent normal.pos)).unpack =
      .finite sign mantissa exponent normal.pos := by
  have log2 := normal.log2_eq
  rcases normal with ⟨least, most, lowest, highest⟩
  obtain ⟨biased, same⟩ := Int.eq_ofNat_of_zero_le (a := exponent + 1075) (by omega)
  obtain rfl : exponent = biased - 1075 := by omega
  have packed : UnpackedFloat.pack Format.binary64
      (.finite sign mantissa (biased - 1075) (by omega)) =
        packComponents Format.binary64 sign (BitVec.ofNat _ biased) (BitVec.ofNat _ mantissa) := by
    have field : ((biased - 1075 : Int) + Format.binary64.exponentBias + (52 : Nat)).toNat =
        biased := by
      have bias : Format.binary64.exponentBias = 1023 := rfl
      omega
    simp only [UnpackedFloat.pack, log2, field]
    exact (if_neg (by omega)).trans (if_pos rfl)
  have fits : (BitVec.ofNat 11 biased).toNat = biased := by
    rw [BitVec.toNat_ofNat, Nat.mod_eq_of_lt (by omega)]
  have notSpecial : BitVec.ofNat 11 biased ≠ -1#_ := by
    intro special
    have top : biased = 2047 := fits.symm.trans (congrArg BitVec.toNat special)
    omega
  have notSubnormal : BitVec.ofNat 11 biased ≠ 0#_ := by
    intro subnormal
    have bottom : biased = 0 := fits.symm.trans (congrArg BitVec.toNat subnormal)
    omega
  have implicit : (1#1 ++ BitVec.ofNat 52 mantissa).toNat = mantissa := by
    rw [toNat_implicit, BitVec.toNat_ofNat, Nat.pow_eq]
    omega
  change UnpackedFloat.unpack Format.binary64 (UnpackedFloat.pack Format.binary64 _) = _
  rw [packed]
  simp only [UnpackedFloat.unpack, unpackMantissa_packComponents, unpackExponent_packComponents,
    unpackSign_packComponents, Sign.ofBitVec_toBitVec, notSpecial, notSubnormal, implicit, fits]
  rfl

theorem targetExponent_eq (places : Nat) :
    Format.binary64.targetExponent (totalExponent (mantissa * 2 ^ places) (exponent - places)) =
      exponent := by
  have lowest := normal.lowest
  have nonzero : mantissa * 2 ^ places ≠ 0 := (Nat.mul_pos normal.pos (by positivity)).ne'
  have log2 : (mantissa * 2 ^ places).log2 = 52 + places := by
    rw [Nat.log2_eq_iff nonzero, pow_add, add_right_comm, pow_add _ 53]
    exact ⟨Nat.mul_le_mul_right _ normal.least,
      Nat.mul_lt_mul_of_pos_right normal.most (by positivity)⟩
  have least : Format.binary64.minExponent = -1074 := rfl
  have bits : Format.binary64.mantissaBits = 53 := rfl
  rw [Format.targetExponent, totalExponent, log2, least, bits]
  omega

theorem shiftToTargetExponent_eq (places : Nat) :
    shiftToTargetExponent Format.binary64 (mantissa * 2 ^ places) (exponent - places) .exact =
      (⟨mantissa, false, false⟩, exponent) := by
  have amount : (exponent - (exponent - places)).toNat = places := by omega
  have shifted := shiftRight_exact places mantissa
  simp only [shiftToTargetExponent, normal.targetExponent_eq, shiftToExponent, amount,
    ExtendedMantissa.ofMantissaAndAccuracy, shifted, sub_add_cancel]

/-- Nothing is rounded if the low bits are zero. -/
theorem roundWithAccuracy_eq (sign : Sign) (places : Nat) :
    roundWithAccuracy Format.binary64 sign (mantissa * 2 ^ places) (exponent - places) .exact =
      .finite sign mantissa exponent normal.pos := by
  have again := normal.shiftToTargetExponent_eq 0
  simp only [pow_zero, mul_one, Nat.cast_zero, sub_zero] at again
  have rounded : (ExtendedMantissa.mk mantissa false false).roundedMantissa = mantissa := rfl
  simp only [roundWithAccuracy, normal.shiftToTargetExponent_eq, rounded, again, normal.pos.ne',
    dite_false]

end IsNormal

section Naturals

variable {n : Nat} (positive : 0 < n) (small : n < 2 ^ 53)
include positive small

theorem log2_lt : n.log2 < 53 := (Nat.log2_lt positive.ne').mpr small

/-- The leading bit of a natural number moves to the front of the mantissa. -/
theorem isNormal_ofNat : IsNormal (n * 2 ^ (52 - n.log2)) (n.log2 - 52) := by
  have bits := log2_lt positive small
  have bounds := (Nat.log2_eq_iff positive.ne').mp rfl
  have spare : n.log2 + (52 - n.log2) = 52 := by omega
  constructor
  · calc 2 ^ 52 = 2 ^ n.log2 * 2 ^ (52 - n.log2) := by rw [← pow_add, spare]
      _ ≤ n * 2 ^ (52 - n.log2) := Nat.mul_le_mul_right _ bounds.1
  · calc n * 2 ^ (52 - n.log2) < 2 ^ (n.log2 + 1) * 2 ^ (52 - n.log2) :=
          Nat.mul_lt_mul_of_pos_right bounds.2 (by positivity)
      _ = 2 ^ 53 := by rw [← pow_add, add_right_comm, spare]
  · omega
  · omega

theorem unpack_toFloat :
    n.toUInt64.toFloat.toModel.unpack = .finite .positive (n * 2 ^ (52 - n.log2)) (n.log2 - 52)
      (isNormal_ofNat positive small).pos := by
  have normal := isNormal_ofNat positive small
  have bits := log2_lt positive small
  have whole : n.toUInt64.toNat = n := by
    refine UInt64.toNat_ofNat_of_lt ?_
    rw [UInt64.size]
    omega
  have target : Format.binary64.targetExponent (totalExponent n 0) = n.log2 - 52 := by
    have least : Format.binary64.minExponent = -1074 := rfl
    have precision : Format.binary64.mantissaBits = 53 := rfl
    rw [Format.targetExponent, totalExponent, least, precision]
    omega
  have order : compare (n : Int) 0 = .gt := compare_gt_iff_gt.mpr (by omega)
  have left : (0 - (n.log2 - 52 : Int)).toNat = 52 - n.log2 := by omega
  have down : (0 : Int) - (52 - n.log2 : Nat) = n.log2 - 52 := by omega
  have nearest : UnpackedFloat.ofUInt64 Format.binary64 n.toUInt64 =
      .finite .positive (n * 2 ^ (52 - n.log2)) (n.log2 - 52) normal.pos := by
    have rounded := normal.roundWithAccuracy_eq .positive 0
    simp only [UnpackedFloat.ofUInt64, UnpackedFloat.ofNat, UnpackedFloat.ofInt, whole,
      UnpackedFloat.normalize, order, UnpackedFloat.round, Int.toNat_natCast, target,
      decreaseExponent, left, down, Nat.shiftLeft_eq]
    simpa using rounded
  change (Float.Model.pack (UnpackedFloat.ofUInt64 Format.binary64 _)).unpack = _
  rw [nearest]
  exact normal.unpack_pack .positive

theorem unpack_ofNat :
    (Float.ofNat n).toModel.unpack = .finite .positive (n * 2 ^ (52 - n.log2)) (n.log2 - 52)
      (isNormal_ofNat positive small).pos := by
  have normal := isNormal_ofNat positive small
  -- A short natural number is multiplied by the zeroth power of ten.
  have scaled : Float.ofNat n = n.toUInt64.toFloat * Float.ofBits 0x3FF0000000000000 :=
    dif_pos ⟨small, by decide⟩
  have one : (Float.ofBits 0x3FF0000000000000).toModel.unpack =
      .finite .positive (2 ^ 52) (-52) (by positivity) := rfl
  have product : UnpackedFloat.mul Format.binary64 n.toUInt64.toFloat.toModel.unpack
      (Float.ofBits 0x3FF0000000000000).toModel.unpack =
        .finite .positive (n * 2 ^ (52 - n.log2)) (n.log2 - 52) normal.pos := by
    rw [unpack_toFloat positive small, one]
    exact normal.roundWithAccuracy_eq .positive 52
  rw [scaled]
  change (Float.Model.pack (UnpackedFloat.mul Format.binary64 _ _)).unpack = _
  rw [product]
  exact normal.unpack_pack .positive

end Naturals

end Binary

/-- A float denotes an integer exactly. -/
def Number.Denotes (x : Float) (n : Int) : Prop := Number.isIntegral x = true ∧ Number.toInt x = n

@[simp] theorem Binary.isWhole_zero (exponent : Int) : isWhole 0 exponent = true := by
  simp [isWhole]

@[simp] theorem Binary.wholePart_zero (exponent : Int) : wholePart 0 exponent = 0 := by
  simp [wholePart]

theorem Binary.wholePart_shifted (n places : Nat) :
    isWhole (n * 2 ^ places) (-places) = true ∧ wholePart (n * 2 ^ places) (-places) = n := by
  have amount : (- -(places : Int)).toNat = places := by omega
  constructor
  · simp [isWhole]
  · unfold wholePart
    split
    · obtain rfl : places = 0 := by omega
      simp
    · simp

/-- Only zero has no integer part and no fraction either. -/
theorem Binary.eq_zero_of_wholePart {mantissa : Nat} {exponent : Int}
    (whole : isWhole mantissa exponent = true) (zero : wholePart mantissa exponent = 0) :
    mantissa = 0 := by
  unfold wholePart at zero
  split at zero
  · simpa using zero
  · rename_i neg
    simp only [isWhole, neg, decide_false, Bool.false_or, beq_iff_eq] at whole
    have parts := Nat.div_add_mod mantissa (Nat.pow 2 (-exponent).toNat)
    rw [zero, whole] at parts
    simpa using parts.symm

/-- A float that denotes an integer has the sign of that integer. -/
theorem Number.Denotes.zero_le_iff {x : Float} {n : Int} (denotes : Denotes x n) :
    0.0 ≤ x ↔ 0 ≤ n := by
  rcases denotes with ⟨integral, rfl⟩
  rw [Binary.zero_le_iff]
  unfold isIntegral at integral
  unfold toInt
  split at integral
  · rename_i negative mantissa exponent denoted
    simp only [denoted]
    cases negative with
    | false => simp
    | true =>
        have zero : mantissa = 0 ↔ Binary.wholePart mantissa exponent = 0 :=
          ⟨fun zero => by simp [zero], Binary.eq_zero_of_wholePart integral⟩
        simp [zero]
  · cases integral

/-- A natural number below `2 ^ 53` is denoted by its float. -/
theorem Number.denotes_ofNat {n : Nat} (small : n < 2 ^ 53) : Denotes (Float.ofNat n) n := by
  rcases Nat.eq_zero_or_pos n with rfl | positive
  · have denoted : Binary.ofFloat (Float.ofNat 0) = .finite false 0 (-1074) := rfl
    simp [Denotes, Number.isIntegral, Number.toInt, denoted]
  · have bits := Binary.log2_lt positive small
    have exponent : (n.log2 - 52 : Int) = -(52 - n.log2 : Nat) := by omega
    have denoted : Binary.ofFloat (Float.ofNat n) =
        .finite false (n * 2 ^ (52 - n.log2)) (-(52 - n.log2 : Nat)) := by
      rw [Binary.ofFloat_eq, Binary.unpack_ofNat positive small, ← exponent]
      rfl
    rcases Binary.wholePart_shifted n (52 - n.log2) with ⟨whole, part⟩
    simp [Denotes, Number.isIntegral, Number.toInt, denoted, whole, part]

end Stencil
