import Stencil.Lookup
import Stencil.Proofs.Number.Floats
import Stencil.Proofs.Number.Numeral
import Stencil.Proofs.Number.Shortest
/-!
# Positions in arrays

A position in an array is written as a number or as a name. A number is read exactly and a name by
its digits, with the text of a number in between when a number stands for a name. All of them lead
to the same element, whatever the number and whatever the digits.
-/

namespace Stencil

open Number

namespace Lookup

/-- Digits as a name, with a plus sign in front of them or without. -/
def NamesPosition (name : String) (position : Nat) : Prop :=
  ∃ digits : Digits, (name.toList = digits.text ∨ name.toList = '+' :: digits.text) ∧
    digitsValue digits.text = position

/-- The element at a position, as far as a machine can count. -/
def elementAt (items : List Value) (position : Nat) : Value :=
  if position < positionLimit then (items[position]?).getD .undefined else .undefined

/-- A position, if a machine can count that far. -/
def counted (position : Nat) : Option Nat :=
  if position < positionLimit then some position else none

theorem counted_eq_none {position : Nat} (large : positionLimit ≤ position) :
    counted position = none :=
  if_neg (not_lt.mpr large)

theorem element_counted (items : List Value) (position : Nat) :
    element items (counted position) = elementAt items position := by
  unfold element elementAt counted
  split <;> rfl

theorem elementAt_of_length_le {items : List Value} {position : Nat}
    (beyond : items.length ≤ position) : elementAt items position = .undefined := by
  simp [elementAt, List.getElem?_eq_none beyond]

section Names

variable {name : String} {position : Nat}

theorem digitsPosition?_text (digits : Digits) :
    digitsPosition? digits.text = counted (digitsValue digits.text) := by
  have all : digits.text.all Char.isDigit = true := List.all_eq_true.mpr digits.digits
  simp [digitsPosition?, digits.isEmpty_text, all, counted]

theorem NamesPosition.position?_eq (names : NamesPosition name position) :
    position? name = counted position := by
  rcases names with ⟨digits, text | text, rfl⟩
  · rcases digits.text_cons with ⟨first, others, front, digit⟩
    rw [← digitsPosition?_text, position?, text, front]
    split
    · rename_i plus
      cases plus
      cases digit
    · rfl
  · rw [← digitsPosition?_text, position?, text]
    rfl

theorem NamesPosition.ne_length (names : NamesPosition name position) : name ≠ "length" := by
  rintro rfl
  rcases names with ⟨digits, text | text, -⟩
  · have letter : 'l' ∈ digits.text := text ▸ List.mem_cons_self
    exact absurd (digits.digits _ letter) (by decide)
  · cases text

theorem digitsPosition?_eq_none {digits : List Char}
    (none : ∀ run : Digits, digits ≠ run.text) : digitsPosition? digits = .none := by
  unfold digitsPosition?
  split
  · rfl
  · rename_i all
    simp only [Bool.or_eq_true, Bool.not_eq_true', not_or, Bool.not_eq_false, List.all_eq_true,
      List.isEmpty_iff] at all
    exact absurd rfl (none ⟨digits, all.1, all.2⟩)

theorem position?_of_unnamed (unnamed : ∀ position, ¬NamesPosition name position) :
    position? name = none := by
  unfold position?
  split
  · rename_i text
    exact digitsPosition?_eq_none fun run same =>
      unnamed _ ⟨run, Or.inr (same ▸ text), rfl⟩
  · exact digitsPosition?_eq_none fun run same => unnamed _ ⟨run, Or.inl same, rfl⟩

/-- A character that is neither a digit nor a plus sign keeps a name from being a position. -/
theorem position?_of_mem {c : Char} (member : c ∈ name.toList) (noDigit : c.isDigit = false)
    (noPlus : c ≠ '+') : position? name = none := by
  refine position?_of_unnamed ?_
  rintro position ⟨digits, text | text, -⟩
  · rw [text] at member
    simp [digits.digits c member] at noDigit
  · rw [text, List.mem_cons] at member
    rcases member with same | member
    · exact noPlus same
    · simp [digits.digits c member] at noDigit

theorem namesPosition_repr (n : Nat) : NamesPosition n.repr n :=
  ⟨Digits.ofNat n, Or.inl Nat.toList_repr, digitsValue_toDigits n⟩

end Names

section Numbers

variable {x : Float} {n : Int}

theorem wholePosition?_of_denotes (denotes : Denotes x n) (nonneg : 0 ≤ n) :
    wholePosition? x = counted n.toNat := by
  have least := denotes.zero_le_iff.mpr nonneg
  simp [wholePosition?, least, denotes.1, denotes.2, counted]

theorem wholePosition?_of_neg (denotes : Denotes x n) (neg : n < 0) : wholePosition? x = none := by
  have below : ¬0.0 ≤ x := fun least => not_le.mpr neg (denotes.zero_le_iff.mp least)
  simp [wholePosition?, below]

theorem wholePosition?_of_not_integral (fraction : isIntegral x = false) :
    wholePosition? x = none := by
  simp [wholePosition?, fraction]

theorem wholePosition?_of_minus {mantissa : Nat} {exponent : Int}
    (denoted : Binary.ofFloat x = .finite true mantissa exponent) (positive : 0 < mantissa) :
    wholePosition? x = none := by
  simp [wholePosition?, Binary.zero_le_iff, denoted, positive.ne']

end Numbers

section Texts

/-- Whether a name is looked up in arrays like a position, or finds nothing there. -/
def ReadsAs (name : String) (position : Option Nat) : Prop :=
  name ≠ "length" ∧ position? name = position

theorem NamesPosition.readsAs {name : String} {position : Nat}
    (names : NamesPosition name position) : ReadsAs name (counted position) :=
  ⟨names.ne_length, names.position?_eq⟩

theorem readsAs_none {name : String} {c : Char} (member : c ∈ name.toList)
    (outside : (c.isDigit || c == '+' || "length".toList.contains c) = false) :
    ReadsAs name none := by
  simp only [Bool.or_eq_false_iff, beq_eq_false_iff_ne] at outside
  rcases outside with ⟨⟨noDigit, noPlus⟩, noLetter⟩
  refine ⟨?_, position?_of_mem member noDigit noPlus⟩
  rintro rfl
  rw [List.contains_iff_mem.mpr member] at noLetter
  cases noLetter

/-- Negative numbers are not written as positions. -/
theorem readsAs_minus (text : String) : ReadsAs (signed true text) none := by
  refine readsAs_none (c := '-') ?_ rfl
  simp [signed]

theorem point_mem_positional {decimal : Decimal} (neg : decimal.exponent < 0) :
    '.' ∈ (positional decimal).toList := by
  have places : (-decimal.exponent).toNat ≠ 0 := by omega
  simp [positional, not_le.mpr neg, Fixed.pointed, places]

variable {mantissa : Nat} {exponent : Int}

/-- A float that is written with its shortest digits is no position: either there is a point among
the digits or they are too many. -/
theorem readsAs_shortest (positive : 0 < mantissa) (small : mantissa < 2 ^ 53)
    (large : Binary.isWhole mantissa exponent = true →
      Nat.pow 10 21 ≤ Binary.wholePart mantissa exponent) :
    ReadsAs (positional (Shortest.ofDyadic mantissa exponent)) none := by
  rcases lt_or_ge (Shortest.ofDyadic mantissa exponent).exponent 0 with neg | nonneg
  · exact readsAs_none (point_mem_positional neg) rfl
  · obtain ⟨places, natural⟩ := Int.eq_ofNat_of_zero_le nonneg
    rcases Shortest.natural_of_nonneg positive small natural with ⟨whole, half⟩
    have beyond : positionLimit ≤ (Shortest.ofDyadic mantissa exponent).digits * 10 ^ places := by
      have least := large whole
      have most : 2 * positionLimit ≤ Nat.pow 10 21 := by decide
      omega
    have text : positional (Shortest.ofDyadic mantissa exponent) =
        Nat.repr ((Shortest.ofDyadic mantissa exponent).digits * 10 ^ places) := by
      simp [positional, natural]
    rw [text, ← counted_eq_none beyond]
    exact (namesPosition_repr _).readsAs

variable {x : Float}

theorem readsAs_positive (denoted : Binary.ofFloat x = .finite false mantissa exponent)
    (positive : 0 < mantissa) :
    ReadsAs
      (if Binary.isWhole mantissa exponent && Binary.wholePart mantissa exponent < Nat.pow 10 21
        then Nat.repr (Binary.wholePart mantissa exponent)
        else positional (Shortest.ofDyadic mantissa exponent))
      (wholePosition? x) := by
  have integral : isIntegral x = Binary.isWhole mantissa exponent := by
    simp [isIntegral, denoted]
  have value : toInt x = Binary.wholePart mantissa exponent := by simp [toInt, denoted]
  have denotes (whole : Binary.isWhole mantissa exponent = true) :
      wholePosition? x = counted (Binary.wholePart mantissa exponent) :=
    wholePosition?_of_denotes ⟨integral.trans whole, value⟩ (Int.natCast_nonneg _)
  split
  · rename_i short
    rw [Bool.and_eq_true] at short
    rw [denotes short.1]
    exact (namesPosition_repr _).readsAs
  · rename_i long
    have large (whole : Binary.isWhole mantissa exponent = true) :
        Nat.pow 10 21 ≤ Binary.wholePart mantissa exponent := by
      simpa [whole] using long
    have none : wholePosition? x = none := by
      cases whole : Binary.isWhole mantissa exponent with
      | false => exact wholePosition?_of_not_integral (integral.trans whole)
      | true =>
          have most : positionLimit ≤ Nat.pow 10 21 := by decide
          exact (denotes whole).trans (counted_eq_none (most.trans (large whole)))
    rw [none]
    exact readsAs_shortest positive (Binary.mantissa_lt denoted) large

/-- The text of a number names the position that the number denotes. -/
theorem readsAs_text (x : Float) : ReadsAs (Number.text x) (wholePosition? x) := by
  unfold Number.text
  split
  · rename_i denoted
    rw [wholePosition?_of_not_integral (by simp [isIntegral, denoted])]
    exact readsAs_none (List.mem_cons_self : 'N' ∈ "NaN".toList) rfl
  · rename_i negative denoted
    rw [wholePosition?_of_not_integral (by simp [isIntegral, denoted])]
    cases negative with
    | false => exact readsAs_none (List.mem_cons_self : 'I' ∈ "Infinity".toList) rfl
    | true => exact readsAs_minus "Infinity"
  · rename_i negative mantissa exponent denoted
    -- Both zeros have one text; every other float with a minus sign is written with it.
    split
    · rename_i zero
      have denotes : Denotes x 0 := by
        simp [Denotes, isIntegral, toInt, denoted, zero]
      rw [wholePosition?_of_denotes denotes le_rfl]
      exact (namesPosition_repr 0).readsAs
    · rename_i nonzero
      have positive : 0 < mantissa := Nat.pos_of_ne_zero nonzero
      cases negative with
      | true =>
          rw [wholePosition?_of_minus denoted positive]
          split <;> exact readsAs_minus _
      | false => exact readsAs_positive denoted positive

end Texts

section Arrays

variable (items : List Value)

theorem property_of_ne_length {name : String} (other : name ≠ "length") :
    property (.array items) name = element items (position? name) := by
  simp [property, other]

theorem property_named {name : String} {position : Nat} (names : NamesPosition name position) :
    property (.array items) name = elementAt items position := by
  rw [property_of_ne_length items names.ne_length, names.position?_eq, element_counted]

theorem index_denoted {x : Float} {position : Nat} (denotes : Denotes x position) :
    index (.array items) (.number x) = elementAt items position := by
  have counted := wholePosition?_of_denotes denotes (Int.natCast_nonneg position)
  rw [index, counted, Int.toNat_natCast, element_counted]

theorem index_eq_property_text (x : Float) :
    index (.array items) (.number x) = property (.array items) (Number.text x) := by
  rcases readsAs_text x with ⟨other, same⟩
  rw [property_of_ne_length items other, same, index]

theorem index_outside {x : Float} (outside : isIntegral x = false ∨
      ∃ n, Denotes x n ∧ (n < 0 ∨ (items.length : Int) ≤ n)) :
    index (.array items) (.number x) = .undefined := by
  have nothing (none : wholePosition? x = none) :
      index (.array items) (.number x) = .undefined := by
    rw [index, none]
    rfl
  rcases outside with fraction | ⟨n, denotes, neg | beyond⟩
  · exact nothing (wholePosition?_of_not_integral fraction)
  · exact nothing (wholePosition?_of_neg denotes neg)
  · obtain ⟨position, rfl⟩ := Int.eq_ofNat_of_zero_le ((Int.natCast_nonneg _).trans beyond)
    rw [index_denoted items denotes]
    exact elementAt_of_length_le (Int.ofNat_le.mp beyond)

end Arrays

/-- Looking up a position by its digits and by its number gives the same, and a number is looked up
like its text. The other names of an array are `length` and those that name nothing. -/
theorem lookups_agree (items : List Value) (entries : Entries Value) :
    (∀ name, index (.array items) (.string name) = property (.array items) name) ∧
    property (.array items) "length" = .ofNat items.length ∧
    (∀ name position, NamesPosition name position →
      property (.array items) name = elementAt items position ∧
      (∀ x, Denotes x position →
        property (.array items) name = index (.array items) (.number x)) ∧
      (position < 2 ^ 53 → property (.array items) name =
        index (.array items) (.number (Float.ofNat position)))) ∧
    (∀ name, name ≠ "length" → (∀ position, ¬NamesPosition name position) →
      property (.array items) name = .undefined) ∧
    (∀ x, index (.array items) (.number x) = property (.array items) (Number.text x)) ∧
    (∀ x, index (.object entries) (.number x) = property (.object entries) (Number.text x)) ∧
    ∀ x, isIntegral x = false ∨ (∃ n, Denotes x n ∧ (n < 0 ∨ (items.length : Int) ≤ n)) →
      index (.array items) (.number x) = .undefined := by
  have byNumber {name : String} {position : Nat} (names : NamesPosition name position) {x : Float}
      (denotes : Denotes x position) :
      property (.array items) name = index (.array items) (.number x) :=
    (property_named items names).trans (index_denoted items denotes).symm
  refine ⟨fun _ => rfl, rfl, ?_, ?_, index_eq_property_text items, fun _ => rfl,
    fun _ => index_outside items⟩
  · intro name position names
    exact ⟨property_named items names, fun _ => byNumber names,
      fun small => byNumber names (denotes_ofNat small)⟩
  · intro name other unnamed
    rw [property_of_ne_length items other, position?_of_unnamed unnamed]
    rfl

theorem lookups_agree_pair :
    property (.array [.null, .bool true]) "1" = .bool true ∧
      index (.array [.null, .bool true]) (.number 1.0) = .bool true ∧
      index (.array [.null, .bool true]) (.number (Float.ofNat 1)) = .bool true ∧
      property (.array [.null, .bool true]) "first" = .undefined ∧
      index (.array [.null, .bool true]) (.number (-1.0)) = .undefined := by
  rcases lookups_agree [.null, .bool true] [] with ⟨-, -, named, unnamed, -, -, outside⟩
  have names : NamesPosition "1" 1 :=
    ⟨⟨['1'], List.cons_ne_nil _ _, List.all_eq_true.mp rfl⟩, Or.inl rfl, rfl⟩
  have none : ∀ position, ¬NamesPosition "first" position := by
    rintro position ⟨digits, text | text, -⟩
    · have letter : 'f' ∈ digits.text := text ▸ List.mem_cons_self
      exact absurd (digits.digits _ letter) (by decide)
    · cases text
  have one : Denotes 1.0 1 := by
    have denoted : Binary.ofFloat 1.0 = .finite false (2 ^ 52) (-52) := rfl
    simp [Denotes, isIntegral, toInt, denoted, Binary.isWhole, Binary.wholePart]
  have minusOne : Denotes (-1.0) (-1) := by
    have denoted : Binary.ofFloat (-1.0) = .finite true (2 ^ 52) (-52) := rfl
    simp [Denotes, isIntegral, toInt, denoted, Binary.isWhole, Binary.wholePart]
  rcases named "1" 1 names with ⟨element, denoted, short⟩
  refine ⟨element, ?_, ?_, unnamed "first" (by decide) none, outside _ (Or.inr ⟨-1, minusOne, ?_⟩)⟩
  · rw [← denoted 1.0 one]
    exact element
  · rw [← short (by decide)]
    exact element
  · exact Or.inl (by decide)

/-- A name with a plus sign is not made of digits only, but names a position. -/
theorem plus_sign_read :
    ¬∀ (items : List Value) (name : String), name ≠ "length" →
      (∀ digits : Digits, name.toList ≠ digits.text) →
        property (.array items) name = .undefined := by
  intro claimed
  have found : property (.array [.null, .bool true]) "+1" = .bool true := rfl
  have undefined := claimed [.null, .bool true] "+1" (by decide) (by
    intro digits text
    have sign : '+' ∈ digits.text := text ▸ List.mem_cons_self
    exact absurd (digits.digits _ sign) (by decide))
  rw [found] at undefined
  cases undefined

end Lookup

end Stencil
