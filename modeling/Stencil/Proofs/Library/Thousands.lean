import Mathlib
import Stencil.Proofs.Library.Generation
import Stencil.Proofs.Number.Integers
/-!
# Groups of thousands

The digits in front of the point are written in groups, of which all but the first have three. The
groups are counted from the right while the digits are gone through from the left: the length of the
first group is what a length leaves over three, and a digit in front of groups of three is a group
of its own.
-/

namespace Stencil

namespace Number

/-- That digits are cut into groups of three, counted from the right. The first group may have fewer
digits, but not none. -/
structure InThousands (digits first : List Char) (others : List (List Char)) : Prop where
  digits : first ++ others.flatten = digits
  some : 0 < first.length
  most : first.length ≤ 3
  others : ∀ group ∈ others, group.length = 3

theorem InThousands.length {digits first : List Char} {others : List (List Char)}
    (cut : InThousands digits first others) : digits.length = first.length + 3 * others.length := by
  rw [← cut.digits, List.length_append, List.length_flatten, List.map_congr_left cut.others,
    List.map_const', List.sum_replicate, smul_eq_mul, Nat.mul_comm]

/-- A separator is put in front of a digit exactly where a group of three begins. -/
theorem exists_inThousands (separator : List Char) {digits : List Char} (some : digits ≠ []) :
    ∃ first others, InThousands digits first others ∧
      groupThousands separator digits = separator.intercalate (first :: others) := by
  induction digits with
  | nil => exact absurd rfl some
  | cons digit rest ih =>
      cases rest with
      | nil =>
          have short : [digit].length ≤ 3 := Nat.le_add_left 1 2
          refine ⟨[digit], [], ⟨rfl, Nat.one_pos, short, List.forall_mem_nil _⟩, ?_⟩
          simp [groupThousands]
      | cons next later =>
          obtain ⟨first, others, cut, written⟩ := ih (List.cons_ne_nil _ _)
          have length := cut.length
          have atLeast := cut.some
          have most := cut.most
          rw [List.length_cons] at length
          rw [groupThousands, written]
          split
          · -- The groups behind the digit are all full, so it begins a group that ends with it.
            have full : first.length = 3 := by omega
            have short : [digit].length ≤ 3 := Nat.le_add_left 1 2
            refine ⟨[digit], first :: others, ⟨?_, Nat.one_pos, short, ?_⟩, ?_⟩
            · simp [cut.digits]
            · exact List.forall_mem_cons.mpr ⟨full, cut.others⟩
            · simp [List.intercalate_cons_cons]
          · have room : first.length < 3 := by omega
            refine ⟨digit :: first, others, ⟨?_, Nat.succ_pos _, room, cut.others⟩, ?_⟩
            · simp [cut.digits]
            · cases others with
              | nil => simp
              | cons group groups => simp [List.intercalate_cons_cons]

/-- That a text has digits with a point before the last `places` of them, and none without places. -/
structure Pointed (text : List Char) (places : Nat) (whole fraction : List Char) : Prop where
  text : text = whole ++ if places = 0 then [] else '.' :: fraction
  some : whole ≠ []
  length : fraction.length = places
  digits : ∀ digit ∈ whole ++ fraction, digit.isDigit = true

theorem exists_pointed (digits places : Nat) : ∃ whole fraction,
    Pointed (Fixed.pointed digits places).toList places whole fraction := by
  have written : Fixed.pointed digits places =
      String.ofList (let text := (Nat.toDigits 10 digits).leftpad (places + 1) '0'
        if places = 0 then text
        else text.take (text.length - places) ++ '.' :: text.drop (text.length - places)) := by
    rw [Fixed.pointed]
    dsimp only
    split <;> rfl
  have enough : places < ((Nat.toDigits 10 digits).leftpad (places + 1) '0').length := by
    rw [List.length_leftpad]
    omega
  have isDigit : ∀ digit ∈ (Nat.toDigits 10 digits).leftpad (places + 1) '0',
      digit.isDigit = true := by
    intro digit member
    rcases List.mem_append.mp member with padding | own
    · rw [List.eq_of_mem_replicate padding]
      rfl
    · exact Nat.isDigit_of_mem_toDigits (by decide) (by decide) own
  rw [written, String.toList_ofList]
  dsimp only
  generalize (Nat.toDigits 10 digits).leftpad (places + 1) '0' = text at enough isDigit
  refine ⟨text.take (text.length - places), text.drop (text.length - places), ?_, ?_, ?_, ?_⟩
  · split
    · rename_i none
      simp [none]
    · rfl
  · apply List.ne_nil_of_length_pos
    rw [List.length_take]
    omega
  · rw [List.length_drop]
    omega
  · rwa [List.take_append_drop]

/-- The magnitude of a finite float is written without a sign. -/
theorem exists_pointed_fixed {x : Float} (finite : x.isFinite = true) (places : Nat) :
    ∃ whole fraction, Pointed (fixed x.abs places).toList places whole fraction := by
  obtain ⟨negative, mantissa, exponent, denoted⟩ := Binary.exists_finite finite
  rw [fixed, Binary.ofFloat_abs denoted]
  exact exists_pointed _ _

namespace Pointed

variable {text whole fraction : List Char} {places : Nat}
  (pointed : Pointed text places whole fraction)
include pointed

theorem ne_point {digit : Char} (member : digit ∈ whole) : digit != '.' := by
  have isDigit := pointed.digits digit (List.mem_append_left _ member)
  by_contra point
  have same : digit = '.' := by simpa using point
  rw [same] at isDigit
  cases isDigit

theorem takeWhile_eq : text.takeWhile (· != '.') = whole := by
  rw [pointed.text, List.takeWhile_append_of_pos fun _ => pointed.ne_point]
  split <;> simp

theorem drop_dropWhile_eq : (text.dropWhile (· != '.')).drop 1 = fraction := by
  rw [pointed.text, List.dropWhile_append_of_pos fun _ => pointed.ne_point]
  split
  · rename_i none
    rw [List.eq_nil_of_length_eq_zero (pointed.length.trans none)]
    rfl
  · simp

theorem any_eq : (text.any fun digit => digit.isDigit && digit != '0') = true ↔
    ∃ digit ∈ whole ++ fraction, digit ≠ '0' := by
  have same : (text.any fun digit => digit.isDigit && digit != '0') =
      ((whole ++ fraction).any fun digit => digit.isDigit && digit != '0') := by
    rw [pointed.text]
    split
    · rename_i none
      rw [List.eq_nil_of_length_eq_zero (pointed.length.trans none)]
    · simp
  rw [same, List.any_eq_true]
  constructor
  · rintro ⟨digit, member, other⟩
    exact ⟨digit, member, by simpa using (Bool.and_eq_true_iff.mp other).2⟩
  · rintro ⟨digit, member, other⟩
    exact ⟨digit, member, by simp [pointed.digits digit member, other]⟩

theorem isEmpty_fraction : fraction.isEmpty = true ↔ places = 0 := by
  rw [List.isEmpty_iff_length_eq_zero, pointed.length]

end Pointed

end Number

namespace Rounding

open Number

theorem grouped_of_pointed {x : Float} {places : Nat} {whole fraction : List Char}
    (pointed : Pointed (fixed x.abs places).toList places whole fraction)
    (thousands point : String) : ∃ negative : Bool,
      (negative = true ↔ x < 0.0 ∧ ∃ digit ∈ whole ++ fraction, digit ≠ '0') ∧
      grouped x places thousands point = String.ofList
        ((if negative then ['-'] else []) ++ groupThousands thousands.toList whole ++
          if places = 0 then [] else point.toList ++ fraction) := by
  refine ⟨decide (x < 0.0) && (fixed x.abs places).toList.any fun digit =>
    digit.isDigit && digit != '0', ?_, ?_⟩
  · rw [Bool.and_eq_true, decide_eq_true_iff, pointed.any_eq]
  · rw [grouped]
    simp only [pointed.takeWhile_eq, pointed.drop_dropWhile_eq, pointed.isEmpty_fraction]
    rw [signed]
    split <;> split <;> simp

theorem formatNumber_eq {value : Value} {args : Arguments} {count : Nat}
    (finite : value.toNumber.isFinite = true)
    (counted : args.integerOr "formatNumber" 0 0 = .ok count) (few : count ≤ 20) :
    formatNumber value args = .ok (.string
      (grouped value.toNumber count (args.textOr 1 ",") (args.textOr 2 "."))) := by
  have inside : (0 : Int) ≤ count ∧ (count : Int) ≤ maxPlaces := by
    rw [maxPlaces]
    omega
  have read : places "formatNumber" args = .ok count := by
    rw [places, counted]
    exact if_pos inside
  simp only [formatNumber, finite, if_true, read]
  rfl

end Rounding

namespace Library

open Number

/-- A finite number is written with the places that are asked for and with a separator between the
groups of its whole part; a minus stands in front unless the number is not negative or nothing but
zeros is left of it. -/
theorem formatNumber_in_thousands {value : Value} {args : Arguments} {count : Nat}
    (finite : value.toNumber.isFinite = true)
    (counted : args.integerOr "formatNumber" 0 0 = .ok count) (few : count ≤ 20) :
    ∃ (negative : Bool) (whole fraction first : List Char) (others : List (List Char)),
      Pointed (fixed value.toNumber.abs count).toList count whole fraction ∧
      InThousands whole first others ∧
      (negative = true ↔ value.toNumber < 0.0 ∧ ∃ digit ∈ whole ++ fraction, digit ≠ '0') ∧
      standard.call "formatNumber" value args = .ok (.string (String.ofList
        ((if negative then ['-'] else []) ++
          (args.textOr 1 ",").toList.intercalate (first :: others) ++
          if count = 0 then [] else (args.textOr 2 ".").toList ++ fraction))) := by
  obtain ⟨whole, fraction, pointed⟩ := exists_pointed_fixed finite count
  obtain ⟨first, others, cut, written⟩ :=
    exists_inThousands (args.textOr 1 ",").toList pointed.some
  obtain ⟨negative, minus, made⟩ :=
    Rounding.grouped_of_pointed pointed (args.textOr 1 ",") (args.textOr 2 ".")
  rw [written] at made
  have registered : numbers.get ⟨16, by decide⟩ ∈ functions :=
    List.mem_append_left _ (List.mem_append_left _
      (List.mem_append_left _ (List.mem_append_right _ (List.get_mem _ _))))
  have result := Rounding.formatNumber_eq finite counted few
  rw [made] at result
  exact ⟨negative, whole, fraction, first, others, pointed, cut, minus,
    (call_of_mem registered _ _).trans (handler_entry_eq_ok.mpr result)⟩

theorem formatNumber_in_thousands_million :
    ∃ (negative : Bool) (whole fraction first : List Char) (others : List (List Char)),
      Pointed (fixed (-1234567.891 : Float).abs 2).toList 2 whole fraction ∧
      InThousands whole first others ∧
      (negative = true ↔ (-1234567.891 : Float) < 0.0 ∧ ∃ digit ∈ whole ++ fraction, digit ≠ '0') ∧
      standard.call "formatNumber" (.number (-1234567.891))
          [.number 2.0, .string ". ", .string ","] = .ok (.string (String.ofList
        ((if negative then ['-'] else []) ++ ". ".toList.intercalate (first :: others) ++
          (",".toList ++ fraction)))) := by
  have finite : (Value.number (-1234567.891)).toNumber.isFinite = true := rfl
  have counted : Arguments.integerOr [.number 2.0, .string ". ", .string ","] "formatNumber" 0 0 =
      .ok (2 : Nat) := rfl
  have two : 2 ≤ 20 := by decide
  have made := formatNumber_in_thousands finite counted two
  have thousands : Arguments.textOr [.number 2.0, .string ". ", .string ","] 1 "," = ". " := rfl
  have point : Arguments.textOr [.number 2.0, .string ". ", .string ","] 2 "." = "," := rfl
  rw [thousands, point] at made
  exact made

end Library

end Stencil
