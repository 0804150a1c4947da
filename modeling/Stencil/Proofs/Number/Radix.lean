import Mathlib
import Stencil.Proofs.Number.Nearest
import Stencil.Proofs.Number.Numeral
/-!
# Integers in other radices

An integer behind a mark of its radix is accumulated digit by digit in floating-point arithmetic.
That is exact up to 53 bits, and every digit behind them is lost. Such a literal is therefore read
as if zeros stood in the place of those digits, which gives the float nearest to the integer unless
the digits that count end half way between two floats.
-/

namespace Stencil

open Text

namespace Binary

/-- That a number lies half way between two floats, the lower one of which has an even mantissa. -/
def IsEvenTie (n : Nat) : Prop := n % 2 ^ (n.log2 - 51) = 2 ^ (n.log2 - 53)

section Lost

variable {m places rest : Nat} (long : 2 ^ 53 ≤ m) (small : rest < 2 ^ places)

theorem mantissaOf_of_eq {m n : Nat} (positive : 0 < m) (positive' : 0 < n)
    (finite : exponentOf m ≤ 971) (finite' : exponentOf n ≤ 971)
    (same : Float.ofNat m = Float.ofNat n) : mantissaOf m = mantissaOf n := by
  have unpacked := unpack_natural positive finite
  rw [same, unpack_natural positive' finite'] at unpacked
  exact (Float.Model.UnpackedFloat.finite.inj unpacked).2.1.symm

/-- Numbers with neighbouring significands have the same float only beyond the range of floats. The
upper one is odd and does not carry. -/
theorem ofNat_eq_ofNat_iff_of_next {m n : Nat} (positive : 0 < m) (positive' : 0 < n)
    (log2 : n.log2 = m.log2) (next : significand n = significand m + 1)
    (even : significand m % 2 = 0) : Float.ofNat n = Float.ofNat m ↔ 1024 ≤ n.log2 := by
  have most := (significand_bounds positive').2
  have regular : significand n ≠ 2 ^ 53 := by omega
  have regular' : significand m ≠ 2 ^ 53 := by omega
  have exponent : exponentOf n = n.log2 - 52 := by rw [exponentOf, if_neg regular]
  have exponent' : exponentOf m = n.log2 - 52 := by rw [exponentOf, if_neg regular', log2]
  constructor
  · intro same
    by_contra finite
    have mantissa := mantissaOf_of_eq positive' positive (by omega) (by omega) same
    rw [mantissaOf, mantissaOf, if_neg regular, if_neg regular'] at mantissa
    omega
  · intro infinite
    rw [ofNat_of_overflow positive' (by omega), ofNat_of_overflow positive (by omega)]

theorem significand_of_ge {n : Nat} (large : 52 ≤ n.log2) :
    significand n = (Ratio.mk n (2 ^ (n.log2 - 52))).roundHalfEven := by
  have power : 2 ^ n.log2 = 2 ^ (n.log2 - 52) * 2 ^ 52 := by
    rw [← pow_add, Nat.sub_add_cancel large]
  rw [significand, power, Ratio.roundHalfEven_mul _ _ (by positivity)]

include long small

theorem log2_add : (m * 2 ^ places + rest).log2 = m.log2 + places := by
  have positive : 0 < m := by omega
  have power := Nat.two_pow_pos places
  have bounds := (Nat.log2_eq_iff positive.ne').mp rfl
  have upper := Nat.mul_le_mul_right (2 ^ places) (Nat.succ_le_of_lt bounds.2)
  have lower := Nat.mul_le_mul_right (2 ^ places) bounds.1
  rw [Nat.succ_mul, ← pow_add] at upper
  rw [← pow_add] at lower
  rw [Nat.log2_eq_iff (Nat.add_pos_left (Nat.mul_pos positive power) rest).ne', Nat.add_right_comm]
  exact ⟨by omega, by omega⟩

/-- Digits behind the first 53 bits count only if the bits between are half of the last place. -/
theorem significand_add : significand (m * 2 ^ places + rest) = m / 2 ^ (m.log2 - 52) +
    if m % 2 ^ (m.log2 - 52) < 2 ^ (m.log2 - 53) then 0
    else if m % 2 ^ (m.log2 - 52) = 2 ^ (m.log2 - 53) ∧ rest = 0 then
      m / 2 ^ (m.log2 - 52) % 2
    else 1 := by
  have log2 := log2_add long small
  have bits : 53 ≤ m.log2 := (Nat.le_log2 (by omega)).mpr long
  have power := Nat.two_pow_pos places
  have scale : 2 ^ (m.log2 + places - 52) = 2 ^ places * 2 ^ (m.log2 - 52) := by
    rw [← pow_add]
    congr 1
    omega
  have double : 2 ^ places * 2 ^ (m.log2 - 52) = 2 * (2 ^ places * 2 ^ (m.log2 - 53)) := by
    rw [← Nat.mul_left_comm, ← pow_succ']
    congr 2
    omega
  have whole : (m * 2 ^ places + rest) / 2 ^ places = m := by
    rw [Nat.mul_comm, Nat.mul_add_div power, Nat.div_eq_of_lt small, Nat.add_zero]
  have below : (m * 2 ^ places + rest) % 2 ^ places = rest := by
    rw [Nat.mul_comm, Nat.mul_add_mod, Nat.mod_eq_of_lt small]
  have quotient : (m * 2 ^ places + rest) / (2 ^ places * 2 ^ (m.log2 - 52)) =
      m / 2 ^ (m.log2 - 52) := by
    rw [← Nat.div_div_eq_div_mul, whole]
  have remainder : (m * 2 ^ places + rest) % (2 ^ places * 2 ^ (m.log2 - 52)) =
      rest + 2 ^ places * (m % 2 ^ (m.log2 - 52)) := by
    rw [Nat.mod_mul, whole, below]
  rw [significand_of_ge (by omega), log2, scale]
  split
  · rename_i less
    have scaled := Nat.mul_le_mul_left (2 ^ places) (Nat.succ_le_of_lt less)
    rw [Nat.mul_succ] at scaled
    rw [Ratio.roundHalfEven_of_lt, quotient, Nat.add_zero]
    rw [remainder, double]
    omega
  · split
    · rename_i tie
      rw [Ratio.roundHalfEven_of_tie, quotient]
      rw [remainder, double, tie.1, tie.2, Nat.zero_add]
    · rename_i notLess notTie
      rw [Ratio.roundHalfEven_of_gt, quotient]
      rw [remainder, double]
      rcases (not_lt.mp notLess).eq_or_lt with half | greater
      · rw [← half]
        have lost : rest ≠ 0 := fun zero => notTie ⟨half.symm, zero⟩
        omega
      · have scaled := Nat.mul_le_mul_left (2 ^ places) (Nat.succ_le_of_lt greater)
        rw [Nat.mul_succ] at scaled
        omega

omit small in
theorem isEvenTie_iff : IsEvenTie (m * 2 ^ places) ↔
    m % 2 ^ (m.log2 - 52) = 2 ^ (m.log2 - 53) ∧ m / 2 ^ (m.log2 - 52) % 2 = 0 := by
  have power := Nat.two_pow_pos places
  have log2 := log2_add long power
  have bits : 53 ≤ m.log2 := (Nat.le_log2 (by omega)).mpr long
  have width : 2 ^ (m.log2 + places - 51) = 2 ^ (m.log2 - 52 + 1) * 2 ^ places := by
    rw [← pow_add]
    congr 1
    omega
  have middle : 2 ^ (m.log2 + places - 53) = 2 ^ (m.log2 - 53) * 2 ^ places := by
    rw [← pow_add]
    congr 1
    omega
  have double : 2 ^ (m.log2 - 52) = 2 * 2 ^ (m.log2 - 53) := by
    rw [← pow_succ']
    congr 1
    omega
  have positive := Nat.two_pow_pos (m.log2 - 53)
  rw [Nat.add_zero] at log2
  rw [IsEvenTie, log2, width, middle, Nat.mul_mod_mul_right,
    Nat.mul_right_cancel_iff power, Nat.mod_pow_succ]
  rcases Nat.mod_two_eq_zero_or_one (m / 2 ^ (m.log2 - 52)) with even | odd
  · simp [even]
  · rw [odd, Nat.mul_one]
    omega

/-- Digits behind the first 53 bits are missed where they decide a tie. -/
theorem ofNat_add_eq_iff : Float.ofNat (m * 2 ^ places + rest) = Float.ofNat (m * 2 ^ places) ↔
    ¬(0 < rest ∧ m * 2 ^ places + rest < 2 ^ 1024 ∧ IsEvenTie (m * 2 ^ places)) := by
  have power := Nat.two_pow_pos places
  have positive : 0 < m * 2 ^ places := Nat.mul_pos (by omega) power
  have positive' : 0 < m * 2 ^ places + rest := Nat.add_pos_left positive rest
  have log2 := log2_add long small
  have log2' := log2_add long power
  have whole := significand_add long small
  have whole' := significand_add long power
  rw [Nat.add_zero] at log2' whole'
  rw [isEvenTie_iff long, ← Nat.log2_lt positive'.ne', log2]
  revert positive positive' log2 log2' whole whole'
  generalize m * 2 ^ places + rest = n
  generalize m * 2 ^ places = k
  generalize m / 2 ^ (m.log2 - 52) = quotient
  generalize m % 2 ^ (m.log2 - 52) = remainder
  generalize 2 ^ (m.log2 - 53) = half
  intro positive positive' log2 log2' whole whole'
  by_cases tie : 0 < rest ∧ remainder = half ∧ quotient % 2 = 0
  · rcases tie with ⟨lost, rfl, even⟩
    have upper : significand n = quotient + 1 := by
      rw [whole, if_neg (lt_irrefl _), if_neg fun both => lost.ne' both.2]
    have lower : significand k = quotient := by
      rw [whole', if_neg (lt_irrefl _), if_pos ⟨rfl, rfl⟩, even, Nat.add_zero]
    have differ := ofNat_eq_ofNat_iff_of_next positive positive' (log2.trans log2'.symm)
      (by rw [upper, lower]) (by rw [lower, even])
    rw [differ, log2, ← not_lt]
    exact not_congr ⟨fun finite => ⟨lost, finite, rfl, even⟩, fun lost => lost.2.1⟩
  · have same : significand n = significand k := by
      rw [whole, whole']
      split
      · rfl
      · split <;> split <;> omega
    have equal : Float.ofNat n = Float.ofNat k := by
      apply ofNat_congr positive' positive
      · rw [mantissaOf, mantissaOf, same]
      · rw [exponentOf, exponentOf, same, log2, log2']
    exact iff_of_true equal fun lost => tie ⟨lost.1, lost.2.2⟩

end Lost

end Binary

namespace Number

/-- What is read of a number in a radix: digits behind the first 53 bits count as zeros. -/
def kept (radix n : Nat) : Nat :=
  if 1 < radix ∧ 2 ^ 53 ≤ n / radix then kept radix (n / radix) * radix else n
termination_by n
decreasing_by
  rename_i long
  exact Nat.div_lt_self (Nat.pos_of_ne_zero fun zero => by simp [zero] at long) long.1

theorem kept_of_short {radix n : Nat} (short : n / radix < 2 ^ 53) : kept radix n = n := by
  rw [kept, if_neg fun long => short.not_ge long.2]

theorem kept_of_long {radix n : Nat} (several : 1 < radix) (long : 2 ^ 53 ≤ n / radix) :
    kept radix n = kept radix (n / radix) * radix := by
  rw [kept, if_pos ⟨several, long⟩]

/-- What is lost is less than the place of the last digit that counts. -/
theorem kept_split (places n : Nat) : kept (2 ^ places) n = n ∨
    ∃ m shift rest, 2 ^ 53 ≤ m ∧ rest < 2 ^ shift ∧ kept (2 ^ places) n = m * 2 ^ shift ∧
      n = m * 2 ^ shift + rest := by
  induction n using Nat.strong_induction_on with
  | h n ih =>
      by_cases long : 1 < 2 ^ places ∧ 2 ^ 53 ≤ n / 2 ^ places
      · right
        have power := Nat.two_pow_pos places
        have last := Nat.mod_lt n power
        have parts := Nat.div_add_mod n (2 ^ places)
        have less : n / 2 ^ places < n :=
          Nat.div_lt_self (Nat.pos_of_ne_zero fun zero => by simp [zero] at long) long.1
        rw [kept_of_long long.1 long.2]
        rcases ih _ less with whole | ⟨m, shift, rest, leading, small, counted, split⟩
        · refine ⟨n / 2 ^ places, places, n % 2 ^ places, long.2, last, by rw [whole], ?_⟩
          rw [Nat.mul_comm]
          exact parts.symm
        · refine ⟨m, shift + places, rest * 2 ^ places + n % 2 ^ places, leading, ?_, ?_, ?_⟩
          · have scaled := Nat.mul_le_mul_right (2 ^ places) (Nat.succ_le_of_lt small)
            rw [Nat.succ_mul] at scaled
            rw [pow_add]
            omega
          · rw [counted, pow_add, Nat.mul_assoc]
          · calc n = 2 ^ places * (n / 2 ^ places) + n % 2 ^ places := parts.symm
              _ = 2 ^ places * (m * 2 ^ shift + rest) + n % 2 ^ places := by rw [← split]
              _ = m * 2 ^ (shift + places) + (rest * 2 ^ places + n % 2 ^ places) := by
                rw [pow_add]
                ring
      · left
        rw [kept, if_neg long]

theorem le_kept {places n : Nat} (long : 2 ^ 53 ≤ n) : 2 ^ 53 ≤ kept (2 ^ places) n := by
  rcases kept_split places n with whole | ⟨m, shift, rest, leading, _, counted, _⟩
  · rwa [whole]
  · rw [counted]
    exact leading.trans (Nat.le_mul_of_pos_right m (Nat.two_pow_pos shift))

/-- What is read of a number comes from what is read of it without its last digit. -/
theorem kept_next {places n : Nat} (several : 1 < 2 ^ places) :
    kept (2 ^ places) (n / 2 ^ places) * 2 ^ places +
      (if kept (2 ^ places) (n / 2 ^ places) < 2 ^ 53 then n % 2 ^ places else 0) =
        kept (2 ^ places) n := by
  rcases lt_or_ge (n / 2 ^ places) (2 ^ 53) with short | long
  · have shorter := (Nat.div_le_self (n / 2 ^ places) (2 ^ places)).trans_lt short
    rw [kept_of_short shorter, kept_of_short short, if_pos short]
    exact Nat.div_add_mod' n (2 ^ places)
  · rw [if_neg (le_kept long).not_gt, Nat.add_zero, kept_of_long several long]

/-- The float of what is read of a number differs from the float of the number where digits that are
lost decide a tie. -/
theorem ofNat_kept_eq_iff (places n : Nat) :
    Float.ofNat (kept (2 ^ places) n) = Float.ofNat n ↔
      ¬(kept (2 ^ places) n < n ∧ n < 2 ^ 1024 ∧ Binary.IsEvenTie (kept (2 ^ places) n)) := by
  rcases kept_split places n with whole | ⟨m, shift, rest, leading, small, counted, split⟩
  · rw [whole]
    exact iff_of_true rfl fun lost => lt_irrefl n lost.1
  · have lost : kept (2 ^ places) n < n ↔ 0 < rest := by
      rw [counted, split]
      exact Nat.lt_add_right_iff_pos
    rw [lost, counted, split, eq_comm]
    exact Binary.ofNat_add_eq_iff leading small

/-! ## Digits -/

theorem toNat_le_of_le {c d : Char} (below : c ≤ d) : c.toNat ≤ d.toNat :=
  UInt32.le_iff_toNat_le.mp below

/-- Characters beyond ASCII are no digits. -/
theorem digitIn?_of_not_ascii {c : Char} (other : 128 ≤ c.toNat) (radix : Nat) :
    digitIn? radix c = none := by
  have notDigit : c.isDigit = false := by
    rw [Bool.eq_false_iff]
    intro digit
    have bounds := Lexeme.toNat_of_isDigit digit
    omega
  have notSmall : ¬('a' ≤ c ∧ c ≤ 'f') := by
    rintro ⟨_, below⟩
    have bound : c.toNat ≤ 102 := toNat_le_of_le below
    omega
  have notLarge : ¬('A' ≤ c ∧ c ≤ 'F') := by
    rintro ⟨_, below⟩
    have bound : c.toNat ≤ 70 := toNat_le_of_le below
    omega
  simp [digitIn?, notDigit, notSmall, notLarge]

theorem toLower_of_not_ascii {c : Char} (other : 128 ≤ c.toNat) : c.toLower = c := by
  rw [Char.toLower, dif_neg]
  rintro ⟨_, below⟩
  have bound : c.toNat ≤ 90 := UInt32.le_iff_toNat_le.mp below
  omega

/-- The digits of a radix are the usual ones, in either case. -/
theorem digitIn?_eq_some_iff {radix : Nat} (few : radix ≤ 16) (c : Char) (d : Nat) :
    digitIn? radix c = some d ↔ d < radix ∧ c.toLower = Nat.digitChar d := by
  have limited : digitIn? radix c = (digitIn? 16 c).filter (· < radix) := by
    rw [digitIn?, digitIn?, Option.filter_filter]
    congr 1
    funext value
    simp only [Bool.and_eq_decide, decide_eq_true_eq, decide_eq_decide]
    omega
  have ascii : ∀ k < 128, ∀ d < 16,
      digitIn? 16 (Char.ofNat k) = some d ↔ (Char.ofNat k).toLower = Nat.digitChar d := by
    decide +kernel
  have ranged : ∀ d < 16, (Nat.digitChar d).toNat < 128 := by decide
  rw [limited, Option.filter_eq_some_iff, decide_eq_true_eq, and_comm]
  refine and_congr_right fun small => ?_
  rcases lt_or_ge c.toNat 128 with here | other
  · have found := ascii c.toNat here d (by omega)
    rwa [Char.ofNat_toNat] at found
  · rw [digitIn?_of_not_ascii other, toLower_of_not_ascii other]
    refine iff_of_false (Option.some_ne_none d).symm ?_
    rintro rfl
    have bound := ranged d (by omega)
    omega

theorem not_blank_of_digit {radix : Nat} (few : radix ≤ 16) {c : Char} {d : Nat}
    (found : digitIn? radix c = some d) : isBlank c = false := by
  have ascii : ∀ k < 128, digitIn? 16 (Char.ofNat k) ≠ none → isBlank (Char.ofNat k) = false := by
    decide +kernel
  rcases lt_or_ge c.toNat 128 with here | other
  · rcases (digitIn?_eq_some_iff few c d).mp found with ⟨small, spelled⟩
    have hexadecimal := (digitIn?_eq_some_iff le_rfl c d).mpr ⟨small.trans_le few, spelled⟩
    have ink := ascii c.toNat here
    rw [Char.ofNat_toNat, hexadecimal] at ink
    exact ink (Option.some_ne_none d)
  · rw [digitIn?_of_not_ascii other] at found
    cases found

/-- One more digit behind those that are read already. -/
def accumulate (radix : Nat) (value : Float) (digit : Char) : Option Float :=
  (digitIn? radix digit).map fun d => value * Float.ofNat radix + Float.ofNat d

theorem readRadix?_eq {digits : List Char} (nonempty : digits ≠ []) (radix : Nat) :
    readRadix? radix digits = digits.foldlM (accumulate radix) (Float.ofNat 0) := by
  rw [readRadix?, if_neg (by simpa using nonempty)]
  rfl

section Reading

variable {places : Nat} (few : places ≤ 4)
include few

theorem accumulate_eq {digit : Char} {d : Nat} (small : d < 2 ^ places)
    (spelled : digit.toLower = Nat.digitChar d) (n : Nat) :
    accumulate (2 ^ places) (Float.ofNat n) digit =
      some (Float.ofNat (n * 2 ^ places + if n < 2 ^ 53 then d else 0)) := by
  have radix : 2 ^ places ≤ 16 := Nat.pow_le_pow_right two_pos few
  rw [accumulate, (digitIn?_eq_some_iff radix digit d).mpr ⟨small, spelled⟩, Option.map_some,
    Binary.ofNat_digit n (by omega) small]

theorem foldlM_zeros {digits : List Char} {zeros : Nat}
    (spelled : digits.map Char.toLower = List.replicate zeros '0') :
    digits.foldlM (accumulate (2 ^ places)) (Float.ofNat 0) = some (Float.ofNat 0) := by
  induction digits generalizing zeros with
  | nil => rfl
  | cons digit digits ih =>
      cases zeros with
      | zero => cases spelled
      | succ zeros =>
          rw [List.map_cons, List.replicate_succ, List.cons.injEq] at spelled
          have first := accumulate_eq few (Nat.two_pow_pos places) spelled.1 0
          rw [List.foldlM_cons, first]
          simpa using ih spelled.2

/-- Digits are read as the number that they spell, as far as it is kept. -/
theorem foldlM_digits (positive : 0 < places) {digits : List Char} {zeros n : Nat}
    (spelled : digits.map Char.toLower =
      List.replicate zeros '0' ++ Nat.toDigits (2 ^ places) n) :
    digits.foldlM (accumulate (2 ^ places)) (Float.ofNat 0) =
      some (Float.ofNat (kept (2 ^ places) n)) := by
  have several : 1 < 2 ^ places := Nat.one_lt_two_pow positive.ne'
  induction n using Nat.strong_induction_on generalizing digits with
  | h n ih =>
      have last := Nat.mod_lt n (Nat.two_pow_pos places)
      by_cases single : n < 2 ^ places
      · rw [Nat.toDigits_of_lt_base single, List.map_eq_append_iff] at spelled
        rcases spelled with ⟨front, back, rfl, zeros, spelled⟩
        rcases List.map_eq_singleton_iff.mp spelled with ⟨digit, rfl, character⟩
        have short : n / 2 ^ places < 2 ^ 53 := by
          rw [Nat.div_eq_of_lt single]
          exact Nat.two_pow_pos 53
        rw [List.foldlM_append, foldlM_zeros few zeros, kept_of_short short]
        simp [accumulate_eq few single character 0]
      · have less : n / 2 ^ places < n :=
          Nat.div_lt_self ((Nat.two_pow_pos places).trans_le (not_lt.mp single)) several
        rw [Nat.toDigits_of_base_le several (not_lt.mp single), ← List.append_assoc,
          List.map_eq_append_iff] at spelled
        rcases spelled with ⟨front, back, rfl, leading, spelled⟩
        rcases List.map_eq_singleton_iff.mp spelled with ⟨digit, rfl, character⟩
        rw [List.foldlM_append, ih _ less leading]
        have next := accumulate_eq few last character (kept (2 ^ places) (n / 2 ^ places))
        rw [kept_next several] at next
        simp [next]

end Reading

/-- A character that is no digit of the radix spoils the whole reading. -/
theorem foldlM_eq_none {radix : Nat} {digits : List Char} {c : Char} (member : c ∈ digits)
    (foreign : digitIn? radix c = none) (value : Float) :
    digits.foldlM (accumulate radix) value = none := by
  induction digits generalizing value with
  | nil => cases member
  | cons digit digits ih =>
      rw [List.foldlM_cons]
      rcases List.mem_cons.mp member with rfl | member
      · rw [accumulate, foreign]
        rfl
      · rcases accumulate radix value digit with _ | next
        · rfl
        · exact ih member next

end Number

/-! ## Texts -/

namespace Text

/-- That a text is some core with white space around it. -/
def Padded (text : String) (core : List Char) : Prop :=
  ∃ before after, (∀ c ∈ before ++ after, isBlank c = true) ∧
    text.toList = before ++ (core ++ after)

theorem Padded.of_toList {text : String} {core : List Char} (same : text.toList = core) :
    Padded text core :=
  ⟨[], [], List.forall_mem_nil _, by simp [same]⟩

theorem Padded.trim_eq {text : String} {core : List Char} (padded : Padded text core)
    (first : Stops isBlank core) (last : EndsInInk core) : trim text.toList = core := by
  rcases padded with ⟨before, after, blank, same⟩
  rw [same]
  exact trim_between first last (fun c member => blank c (List.mem_append_left after member))
    fun c member => blank c (List.mem_append_right before member)

/-- White space at the end is taken off behind the last character that is none. -/
theorem exists_endsInInk {text : List Char} {c : Char} (member : c ∈ text)
    (ink : isBlank c = false) :
    ∃ core trailing, text = core ++ trailing ∧ EndsInInk core ∧ c ∈ core ∧
      ∀ d ∈ trailing, isBlank d = true := by
  induction text using List.reverseRecOn with
  | nil => cases member
  | append_singleton text last ih =>
      cases blank : isBlank last with
      | false =>
          have ends : EndsInInk (text ++ [last]) := ⟨text, last, rfl, blank⟩
          exact ⟨text ++ [last], [], (List.append_nil _).symm, ends, member,
            List.forall_mem_nil _⟩
      | true =>
          have inner : c ∈ text := by
            rcases List.mem_append.mp member with inner | outer
            · exact inner
            · rw [List.mem_singleton.mp outer, blank] at ink
              cases ink
          rcases ih inner with ⟨core, trailing, rfl, ends, found, blanks⟩
          refine ⟨core, trailing ++ [last], List.append_assoc _ _ _, ends, found, ?_⟩
          intro d member
          rcases List.mem_append.mp member with member | member
          · exact blanks d member
          · rwa [List.mem_singleton.mp member]

/-- Trimming keeps a character that is no white space, and what is in front of the core's rest. -/
theorem Padded.exists_trim {text : String} {front rest : List Char} {c : Char}
    (padded : Padded text (front ++ rest)) (first : Stops isBlank front) (some : front ≠ [])
    (member : c ∈ rest) (ink : isBlank c = false) :
    ∃ core, trim text.toList = front ++ core ∧ c ∈ core := by
  rcases exists_endsInInk member ink with ⟨core, trailing, rfl, ends, found, blanks⟩
  rcases padded with ⟨before, after, blank, same⟩
  refine ⟨core, ?_, found⟩
  have inner : Padded text (front ++ core) := by
    refine ⟨before, trailing ++ after, ?_, by simp [same]⟩
    intro d member
    simp only [List.mem_append] at member blank
    rcases member with member | member | member
    · exact blank d (.inl member)
    · exact blanks d member
    · exact blank d (.inr member)
  exact inner.trim_eq (first.append_right some core) (ends.append front)

end Text

namespace Number

/-- The marks of the radices, with the radix of each. -/
def radixMarks : List (Char × Nat) :=
  [('x', 16), ('X', 16), ('o', 8), ('O', 8), ('b', 2), ('B', 2)]

/-- What a float is to be if it stands for a natural number: the nearest one, or infinity from half
of a last place behind the largest float. -/
def IsRounded (x : Float) (n : Nat) : Prop :=
  (n < (2 ^ 54 - 1) * 2 ^ 970 → IsNearest x n) ∧ ((2 ^ 54 - 1) * 2 ^ 970 ≤ n → x = infinity)

theorem isRounded_ofNat (n : Nat) : IsRounded (Float.ofNat n) n := by
  have zero : Binary.ofFloat (Float.ofNat 0) = .finite false 0 (-1074) := rfl
  rcases Nat.eq_zero_or_pos n with rfl | positive
  · constructor
    · intro _
      refine ⟨0, by simp [zero, Binary.value?], ?_⟩
      intro other otherValue _
      simp
    · intro overflow
      have limit : 0 < (2 ^ 54 - 1) * 2 ^ 970 := Nat.mul_pos (by decide) (pow_pos two_pos 970)
      exact absurd overflow limit.not_ge
  · have range := Binary.exponentOf_le_iff positive (rfl : 2 ^ 970 = 2 ^ 970)
    constructor
    · intro finite
      exact Binary.isNearest_ofNat positive (range.mpr finite)
    · intro overflow
      exact Binary.ofNat_of_overflow positive (not_le.mp fun finite =>
        (range.mp finite).not_ge overflow)

/-- A coercion sees no white space around a text. -/
theorem ofText_congr {text other : String} (same : trim text.toList = trim other.toList) :
    ofText text = ofText other := by
  rw [ofText, ofText, same]

theorem ofText_decimal {text : String} {n : Nat} (padded : Padded text (Nat.toDigits 10 n)) :
    ofText text = Float.ofNat n := by
  let numeral : Numeral :=
    { sign := .none, whole := Digits.ofNat n, fraction := none, exponent := none }
  have spelled : numeral.text = Nat.toDigits 10 n := by
    simp [numeral, Numeral.text, Numeral.unsigned, Numeral.fractionText, Numeral.exponentText,
      NumeralSign.text, Digits.ofNat]
  have begins : Stops isBlank numeral.text := by simpa using numeral.text_stops []
  have trimmed := (spelled ▸ padded).trim_eq begins (numeral.unsigned_endsInInk.append _)
  have same : trim text.toList = trim (String.ofList numeral.text).toList := by
    rw [trimmed, String.toList_ofList, numeral.trim_text]
  have value : numeral.value = ofDecimal n 0 := by
    simp [numeral, Numeral.value, NumeralSign.isMinus, Numeral.magnitude, Numeral.fractionDigits,
      Numeral.exponentValue, Digits.ofNat]
  rw [ofText_congr same, numeral.ofText_text, value]
  rfl

section Marked

variable {mark : Char} {radix : Nat} (marked : (mark, radix) ∈ radixMarks)
include marked

/-- The marks are letters that stand in no decimal and in no name of an infinity. -/
theorem marked_letter : isForeignLetter mark = true ∧ isBlank mark = false ∧
    mark ∉ "+Infinity".toList ∧ mark ∉ "-Infinity".toList := by
  have all : ∀ pair ∈ radixMarks, isForeignLetter pair.1 = true ∧ isBlank pair.1 = false ∧
      pair.1 ∉ "+Infinity".toList ∧ pair.1 ∉ "-Infinity".toList := by
    decide
  exact all _ marked

/-- The radices are small powers of two. -/
theorem marked_radix : ∃ places, 0 < places ∧ places ≤ 4 ∧ radix = 2 ^ places := by
  have all : ∀ pair ∈ radixMarks, ∃ places ≤ 4, 0 < places ∧ pair.2 = 2 ^ places := by
    decide
  rcases all _ marked with ⟨places, few, positive, same⟩
  exact ⟨places, positive, few, same⟩

theorem radixMark?_of_marked (rest : List Char) :
    radixMark? ('0' :: mark :: rest) = some (radix, rest) := by
  simp only [radixMarks, List.mem_cons, Prod.mk.injEq, List.not_mem_nil, or_false] at marked
  rcases marked with ⟨rfl, rfl⟩ | ⟨rfl, rfl⟩ | ⟨rfl, rfl⟩ | ⟨rfl, rfl⟩ | ⟨rfl, rfl⟩ | ⟨rfl, rfl⟩ <;>
    rfl

theorem ofText_of_trim {text : String} {digits : List Char}
    (trimmed : trim text.toList = '0' :: mark :: digits) :
    ofText text = (readRadix? radix digits).getD notANumber := by
  rw [ofText, trimmed, radixMark?_of_marked marked]
  rfl

theorem ofText_literal {text : String} {digits : List Char} {zeros n : Nat}
    (spelled : digits.map Char.toLower = List.replicate zeros '0' ++ Nat.toDigits radix n)
    (padded : Padded text ('0' :: mark :: digits)) :
    ofText text = Float.ofNat (kept radix n) := by
  rcases marked_radix marked with ⟨places, positive, few, rfl⟩
  have nonempty : digits ≠ [] := by
    rintro rfl
    simp [Nat.toDigits_ne_nil] at spelled
  have read := foldlM_digits few positive spelled
  have ink : ∀ c ∈ digits, isBlank c = false := by
    intro c member
    rcases found : digitIn? (2 ^ places) c with _ | d
    · rw [foldlM_eq_none member found] at read
      cases read
    · exact not_blank_of_digit (Nat.pow_le_pow_right two_pos few) found
  have last := (endsInInk_of_forall nonempty ink).append ['0', mark]
  rw [ofText_of_trim marked (padded.trim_eq (stops_cons rfl) last), readRadix?_eq nonempty, read]
  rfl

theorem ofText_foreign {text : String} {digits : List Char} {c : Char} (member : c ∈ digits)
    (ink : isBlank c = false) (foreign : digitIn? radix c = none)
    (padded : Padded text ('0' :: mark :: digits)) : ofText text = notANumber := by
  have split : Padded text (['0', mark] ++ digits) := padded
  rcases split.exists_trim (stops_cons rfl) (List.cons_ne_nil _ _) member ink with
    ⟨core, trimmed, found⟩
  have same : trim text.toList = '0' :: mark :: core := trimmed
  rw [ofText_of_trim marked same, readRadix?_eq (List.ne_nil_of_mem found),
    foldlM_eq_none found foreign]
  rfl

theorem ofText_bare {text : String} (padded : Padded text ['0', mark]) :
    ofText text = notANumber := by
  have ends : EndsInInk ['0', mark] := ⟨['0'], mark, rfl, (marked_letter marked).2.1⟩
  rw [ofText_of_trim marked (padded.trim_eq (stops_cons rfl) ends)]
  rfl

theorem ofText_signed {text : String} {sign : Char} {digits : List Char}
    (signed : sign = '+' ∨ sign = '-') (padded : Padded text (sign :: '0' :: mark :: digits)) :
    ofText text = notANumber := by
  rcases marked_letter marked with ⟨letter, ink, notPlus, notMinus⟩
  have split : Padded text ([sign] ++ '0' :: mark :: digits) := padded
  have first : Stops isBlank [sign] := by
    rcases signed with rfl | rfl <;> exact stops_cons rfl
  rcases split.exists_trim first (List.cons_ne_nil _ _) (by simp : mark ∈ '0' :: mark :: digits)
    ink with ⟨core, trimmed, found⟩
  have member : mark ∈ [sign] ++ core := List.mem_append_right _ found
  have noMark : radixMark? ([sign] ++ core) = none := by
    rcases signed with rfl | rfl <;> rfl
  have noName : ∀ name : List Char, mark ∉ name → [sign] ++ core ≠ name := by
    rintro name absent rfl
    exact absent member
  have foreign : ([sign] ++ core).any isForeignLetter = true :=
    List.any_eq_true.mpr ⟨mark, member, letter⟩
  have bare : mark ∉ "Infinity".toList := fun here => notPlus (List.mem_cons_of_mem '+' here)
  have nonempty : ([sign] ++ core).isEmpty = false := rfl
  rw [ofText, trimmed, noMark]
  simp only [nonempty, Bool.false_eq_true, if_false, noName _ bare, noName _ notPlus,
    noName _ notMinus, or_self, foreign, if_true]

end Marked

/-- Radix literals and decimal literals denote the same number up to 53 bits. Of a longer literal
only the first digits with more than 53 bits count, so that it misses the nearest float where those
end half way between two floats and the others break the tie upwards. A literal without digits, with
a foreign character or with a sign is no number. -/
theorem radix_literals {mark : Char} {radix : Nat} (marked : (mark, radix) ∈ radixMarks) :
    (∀ n zeros digits decimal literal,
      digits.map Char.toLower = List.replicate zeros '0' ++ Nat.toDigits radix n →
      Padded decimal (Nat.toDigits 10 n) → Padded literal ('0' :: mark :: digits) →
        ofText decimal = Float.ofNat n ∧ IsRounded (ofText decimal) n ∧
        ofText literal = Float.ofNat (kept radix n) ∧
        (ofText literal = ofText decimal ↔
          ¬(kept radix n < n ∧ n < 2 ^ 1024 ∧ Binary.IsEvenTie (kept radix n)))) ∧
    (∀ text, Padded text ['0', mark] → ofText text = notANumber) ∧
    (∀ text digits c, Padded text ('0' :: mark :: digits) → c ∈ digits → isBlank c = false →
      (∀ d < radix, c.toLower ≠ Nat.digitChar d) → ofText text = notANumber) ∧
    (∀ text sign digits, sign = '+' ∨ sign = '-' → Padded text (sign :: '0' :: mark :: digits) →
      ofText text = notANumber) := by
  refine ⟨?_, fun text padded => ofText_bare marked padded, ?_,
    fun text sign digits signed padded => ofText_signed marked signed padded⟩
  · intro n zeros digits decimal literal spelled paddedDecimal paddedLiteral
    have read := ofText_decimal paddedDecimal
    have readLiteral := ofText_literal marked spelled paddedLiteral
    have rounded := isRounded_ofNat n
    rw [← read] at rounded
    refine ⟨read, rounded, readLiteral, ?_⟩
    rcases marked_radix marked with ⟨places, _, _, rfl⟩
    rw [readLiteral, read]
    exact ofNat_kept_eq_iff places n
  · intro text digits c padded member ink foreign
    rcases marked_radix marked with ⟨places, _, few, rfl⟩
    have small : 2 ^ places ≤ 16 := Nat.pow_le_pow_right two_pos few
    have none : digitIn? (2 ^ places) c = none := by
      rw [Option.eq_none_iff_forall_ne_some]
      intro d found
      rcases (digitIn?_eq_some_iff small c d).mp found with ⟨inside, spelled⟩
      exact foreign d inside spelled
    exact ofText_foreign marked member ink none padded

theorem radix_literals_hexadecimal :
    ofText "\t0X0fF " = ofText "255" ∧ ofText "0X" = notANumber ∧ ofText "0XfG" = notANumber ∧
      ofText "-0Xf" = notANumber := by
  rcases radix_literals (by decide : ('X', 16) ∈ radixMarks) with ⟨read, bare, foreign, signed⟩
  have decimal : Padded "255" (Nat.toDigits 10 255) := .of_toList (by decide +kernel)
  have literal : Padded "\t0X0fF " ['0', 'X', '0', 'f', 'F'] :=
    ⟨['\t'], [' '], List.all_eq_true.mp rfl, by decide +kernel⟩
  have short : kept 16 255 = 255 := kept_of_short (by decide)
  refine ⟨(read 255 1 _ _ _ (by decide) decimal literal).2.2.2.mpr ?_,
    bare "0X" (.of_toList (by decide +kernel)),
    foreign "0XfG" ['f', 'G'] 'G' (.of_toList (by decide +kernel)) (by decide) (by decide)
      (by decide),
    signed "-0Xf" '-' ['f'] (by decide) (.of_toList (by decide +kernel))⟩
  rw [short]
  exact fun lost => lt_irrefl 255 lost.1

/-- The last digit is lost although it breaks a tie. -/
theorem radix_literal_missed :
    Nat.toDigits 16 144115188075855889 = "200000000000011".toList ∧
      ofText "0x200000000000011" ≠ ofText "144115188075855889" := by
  decide +kernel

end Number

end Stencil
