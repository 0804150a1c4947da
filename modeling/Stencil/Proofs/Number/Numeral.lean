import Stencil.Number.Reading
import Stencil.Proofs.Text.Runs
/-!
# Numerals

A numeral is a number in decimal notation taken apart: a sign, digits, a fraction and an exponent.
Every reader of numbers takes the text of a numeral to the same float, which the parts give.
-/

namespace Stencil

open Text Number

/-- The digits of a number have its value. -/
@[simp] theorem Number.digitsValue_toDigits (n : Nat) : digitsValue (Nat.toDigits 10 n) = n :=
  Nat.ofDigitChars_ten_toDigits

/-- Decimal digits. -/
structure Digits where
  text : List Char
  nonempty : text ≠ []
  digits : ∀ c ∈ text, c.isDigit = true

/-- A sign in front of digits. -/
inductive NumeralSign where
  | none
  | plus
  | minus

namespace NumeralSign

def text : NumeralSign → List Char
  | none => []
  | plus => ['+']
  | minus => ['-']

def isMinus : NumeralSign → Bool
  | minus => true
  | _ => false

end NumeralSign

/-- The exponent of a number. -/
structure Exponent where
  mark : Char
  sign : NumeralSign
  digits : Digits
  isMark : mark = 'e' ∨ mark = 'E'

namespace Exponent

def text (exponent : Exponent) : List Char :=
  exponent.mark :: (exponent.sign.text ++ exponent.digits.text)

def value (exponent : Exponent) : Int :=
  if exponent.sign.isMinus then -(Number.digitsValue exponent.digits.text : Int)
  else Number.digitsValue exponent.digits.text

end Exponent

/-- Whether a character may begin a number. -/
def beginsNumber (c : Char) : Bool := c.isDigit || c == '+' || c == '-'

/-- A number in decimal notation. -/
structure Numeral where
  sign : NumeralSign
  whole : Digits
  fraction : Option Digits
  exponent : Option Exponent

namespace Numeral

def fractionDigits (numeral : Numeral) : List Char :=
  match numeral.fraction with
  | none => []
  | some digits => digits.text

def fractionText (numeral : Numeral) : List Char :=
  match numeral.fraction with
  | none => []
  | some digits => '.' :: digits.text

def exponentText (numeral : Numeral) : List Char :=
  match numeral.exponent with
  | none => []
  | some exponent => exponent.text

def exponentValue (numeral : Numeral) : Int :=
  match numeral.exponent with
  | none => 0
  | some exponent => exponent.value

/-- A number without its sign. -/
def unsigned (numeral : Numeral) : List Char :=
  numeral.whole.text ++ (numeral.fractionText ++ numeral.exponentText)

def text (numeral : Numeral) : List Char := numeral.sign.text ++ numeral.unsigned

def magnitude (numeral : Numeral) : Float :=
  Number.ofDecimal (Number.digitsValue (numeral.whole.text ++ numeral.fractionDigits))
    (numeral.exponentValue - numeral.fractionDigits.length)

def value (numeral : Numeral) : Float :=
  if numeral.sign.isMinus then -numeral.magnitude else numeral.magnitude

end Numeral

/-- Digits without a point behind them are the whole part of a number. -/
theorem readUnsigned?_of_noPoint {text whole rest : List Char}
    (split : splitDigits text = (whole, rest)) (noPoint : Stops (· == '.') rest)
    (nonempty : whole.isEmpty = false) :
    readUnsigned? text = (readExponent? rest).map (ofDecimal (digitsValue whole)) := by
  have skipped : readUnsigned? text =
      (readExponent? rest).map fun exponent =>
        ofDecimal (digitsValue (whole ++ [])) (exponent - 0) := by
    simp only [readUnsigned?, split]
    split
    · exact absurd noPoint.head (by decide)
    · simp [nonempty]
  simpa using skipped

/-- Digits behind a point are the fraction of a number. -/
theorem readUnsigned?_of_point {text whole afterPoint fraction rest : List Char}
    (split : splitDigits text = (whole, '.' :: afterPoint))
    (splitFraction : splitDigits afterPoint = (fraction, rest))
    (nonempty : whole.isEmpty = false) :
    readUnsigned? text = (readExponent? rest).map fun exponent =>
      ofDecimal (digitsValue (whole ++ fraction)) (exponent - fraction.length) := by
  simp [readUnsigned?, split, splitFraction, nonempty]

namespace Digits

variable (digits : Digits)

theorem text_cons : ∃ first others, digits.text = first :: others ∧ first.isDigit = true := by
  rcases text : digits.text with _ | ⟨first, others⟩
  · exact absurd text digits.nonempty
  · refine ⟨first, others, rfl, digits.digits first ?_⟩
    rw [text]
    exact List.mem_cons_self

theorem isEmpty_text : digits.text.isEmpty = false := by
  simpa using digits.nonempty

theorem noForeignLetter : ∀ c ∈ digits.text, isForeignLetter c = false := by
  intro c member
  have digit := digits.digits c member
  have noLetter : c.isAlpha = false := by
    rw [Bool.eq_false_iff]
    intro letter
    have noDigit := Lexeme.not_digit_of_beginsName (by simp [Lexeme.beginsName, letter] :
      Lexeme.beginsName c = true)
    rw [digit] at noDigit
    cases noDigit
  simp [isForeignLetter, noLetter]

theorem endsInInk : EndsInInk digits.text :=
  endsInInk_of_forall digits.nonempty fun c member =>
    Lexeme.not_blank_of_isDigit (digits.digits c member)

/-- Digits are split off where no digit follows. -/
theorem splitDigits_append {rest : List Char} (stops : Stops Char.isDigit rest) :
    splitDigits (digits.text ++ rest) = (digits.text, rest) := by
  rw [splitDigits, takeWhile_run digits.digits stops, dropWhile_run digits.digits stops]

/-- The digits of a natural number. -/
def ofNat (n : Nat) : Digits where
  text := Nat.toDigits 10 n
  nonempty := Nat.toDigits_ne_nil
  digits := fun _ member => Nat.isDigit_of_mem_toDigits (by decide) (by decide) member

end Digits

/-- A sign is split off in front of a character that is none. -/
theorem NumeralSign.splitSign_cons (sign : NumeralSign) {c : Char} (noMinus : c ≠ '-')
    (noPlus : c ≠ '+') (rest : List Char) :
    splitSign (sign.text ++ c :: rest) = (sign.isMinus, c :: rest) := by
  cases sign with
  | none => simp [NumeralSign.text, NumeralSign.isMinus, splitSign, noMinus, noPlus]
  | plus => rfl
  | minus => rfl

theorem NumeralSign.splitSign_append (sign : NumeralSign) (digits : Digits) (rest : List Char) :
    splitSign (sign.text ++ (digits.text ++ rest)) = (sign.isMinus, digits.text ++ rest) := by
  rcases digits.text_cons with ⟨first, others, text, digit⟩
  rw [text]
  exact sign.splitSign_cons (ne_of_inClass digit rfl) (ne_of_inClass digit rfl) _

theorem NumeralSign.noForeignLetter (sign : NumeralSign) :
    ∀ c ∈ sign.text, isForeignLetter c = false := by
  intro c member
  cases sign with
  | none => cases member
  | plus =>
      rw [List.mem_singleton.mp member]
      rfl
  | minus =>
      rw [List.mem_singleton.mp member]
      rfl

theorem Exponent.noForeignLetter (exponent : Exponent) :
    ∀ c ∈ exponent.text, isForeignLetter c = false := by
  intro c member
  rcases List.mem_cons.mp member with rfl | member
  · rcases exponent.isMark with mark | mark <;> rw [mark] <;> rfl
  · rcases List.mem_append.mp member with member | member
    · exact exponent.sign.noForeignLetter c member
    · exact exponent.digits.noForeignLetter c member

theorem Exponent.readExponent?_text (exponent : Exponent) :
    readExponent? exponent.text = some exponent.value := by
  have sign := exponent.sign.splitSign_append exponent.digits []
  rw [List.append_nil] at sign
  have digits : exponent.digits.text.all Char.isDigit = true :=
    List.all_eq_true.mpr exponent.digits.digits
  rw [Exponent.text, readExponent?, if_pos exponent.isMark, sign]
  simp [exponent.digits.isEmpty_text, digits, Exponent.value]
  split <;> rfl

namespace Numeral

variable (numeral : Numeral) {inClass : Char → Bool} {rest : List Char}

theorem exponentText_stops (small : inClass 'e' = false) (large : inClass 'E' = false)
    (behind : Stops inClass rest) : Stops inClass (numeral.exponentText ++ rest) := by
  unfold exponentText
  split
  · exact behind
  · rename_i exponent _
    refine stops_cons ?_
    rcases exponent.isMark with mark | mark <;> rwa [mark]

theorem fractionText_stops (point : inClass '.' = false) (behind : Stops inClass rest) :
    Stops inClass (numeral.fractionText ++ rest) := by
  unfold fractionText
  split
  · exact behind
  · exact stops_cons point

theorem readExponent?_exponentText :
    readExponent? numeral.exponentText = some numeral.exponentValue := by
  unfold exponentText exponentValue
  split
  · rfl
  · rename_i exponent _
    exact exponent.readExponent?_text

/-- The whole part of a number is split off in front of its fraction. -/
theorem splitDigits_unsigned (behind : Stops Char.isDigit rest) :
    splitDigits (numeral.unsigned ++ rest) =
      (numeral.whole.text, numeral.fractionText ++ (numeral.exponentText ++ rest)) := by
  have noDigit : Stops Char.isDigit (numeral.exponentText ++ rest) :=
    numeral.exponentText_stops rfl rfl behind
  have split := numeral.whole.splitDigits_append (numeral.fractionText_stops rfl noDigit)
  simpa [unsigned] using split

theorem exponentText_stops_nil (small : inClass 'e' = false) (large : inClass 'E' = false) :
    Stops inClass numeral.exponentText := by
  rw [← List.append_nil numeral.exponentText]
  exact numeral.exponentText_stops small large stops_nil

theorem readUnsigned?_unsigned : readUnsigned? numeral.unsigned = some numeral.magnitude := by
  have noDigit : Stops Char.isDigit numeral.exponentText := numeral.exponentText_stops_nil rfl rfl
  have noPoint : Stops (· == '.') numeral.exponentText := numeral.exponentText_stops_nil rfl rfl
  have whole : splitDigits numeral.unsigned =
      (numeral.whole.text, numeral.fractionText ++ numeral.exponentText) := by
    simpa using numeral.splitDigits_unsigned stops_nil
  have exponent := numeral.readExponent?_exponentText
  rcases fraction : numeral.fraction with _ | digits
  · have bare : numeral.fractionText = [] := by rw [fractionText, fraction]
    have noDigits : numeral.fractionDigits = [] := by rw [fractionDigits, fraction]
    rw [bare, List.nil_append] at whole
    rw [readUnsigned?_of_noPoint whole noPoint numeral.whole.isEmpty_text, exponent]
    simp [magnitude, noDigits]
  · have pointed : numeral.fractionText = '.' :: digits.text := by rw [fractionText, fraction]
    have withDigits : numeral.fractionDigits = digits.text := by rw [fractionDigits, fraction]
    have split := digits.splitDigits_append noDigit
    rw [pointed, List.cons_append] at whole
    rw [readUnsigned?_of_point whole split numeral.whole.isEmpty_text, exponent]
    simp [magnitude, withDigits]

theorem noForeignLetter_unsigned : ∀ c ∈ numeral.unsigned, isForeignLetter c = false := by
  intro c member
  simp only [unsigned, fractionText, exponentText, List.mem_append] at member
  rcases member with member | member | member
  · exact numeral.whole.noForeignLetter c member
  · split at member
    · cases member
    · rename_i digits _
      rcases List.mem_cons.mp member with rfl | member
      · rfl
      · exact digits.noForeignLetter c member
  · split at member
    · cases member
    · rename_i exponent _
      exact exponent.noForeignLetter c member

theorem noForeignLetter : ∀ c ∈ numeral.text, isForeignLetter c = false := by
  intro c member
  rcases List.mem_append.mp member with member | member
  · exact numeral.sign.noForeignLetter c member
  · exact numeral.noForeignLetter_unsigned c member

theorem unsigned_endsInInk : EndsInInk numeral.unsigned := by
  unfold unsigned fractionText exponentText
  split <;> split
  · simpa using numeral.whole.endsInInk
  · rename_i exponent _
    exact ((exponent.digits.endsInInk.append exponent.sign.text).append [exponent.mark]).append _
  · rename_i digits _ _ _
    simpa using (digits.endsInInk.append ['.']).append numeral.whole.text
  · rename_i exponent _
    exact (((exponent.digits.endsInInk.append exponent.sign.text).append [exponent.mark]).append
      _).append _

theorem text_begins :
    ∃ first others, numeral.text = first :: others ∧ beginsNumber first = true := by
  rcases numeral.whole.text_cons with ⟨first, others, whole, digit⟩
  unfold text unsigned
  rw [whole]
  cases numeral.sign with
  | none => exact ⟨first, _, rfl, by simp [beginsNumber, digit]⟩
  | plus => exact ⟨'+', _, rfl, rfl⟩
  | minus => exact ⟨'-', _, rfl, rfl⟩

theorem text_stops (rest : List Char) : Stops isBlank (numeral.text ++ rest) := by
  rcases numeral.text_begins with ⟨first, others, text, begins⟩
  rw [text]
  refine stops_cons ?_
  simp only [beginsNumber, Bool.or_eq_true, beq_iff_eq, or_assoc] at begins
  rcases begins with digit | rfl | rfl
  · exact Lexeme.not_blank_of_isDigit digit
  · rfl
  · rfl

theorem trim_text : trim numeral.text = numeral.text := by
  have begins : Stops isBlank numeral.text := by simpa using numeral.text_stops []
  have trimmed := trim_between begins (numeral.unsigned_endsInInk.append _)
    (List.forall_mem_nil _) (List.forall_mem_nil _)
  simpa using trimmed

theorem readDecimal?_text : readDecimal? numeral.text = some numeral.value := by
  have sign : splitSign numeral.text = (numeral.sign.isMinus, numeral.unsigned) :=
    numeral.sign.splitSign_append numeral.whole _
  simp [readDecimal?, sign, numeral.readUnsigned?_unsigned, value]

end Numeral

/-- Whether a character might go on with a number. -/
def continuesNumber (c : Char) : Bool := c.isDigit || c == '.' || c == 'e' || c == 'E'

/-- Where no number goes on, none of its parts does. -/
theorem stops_of_continuesNumber {rest : List Char} (stops : Stops continuesNumber rest) :
    Stops Char.isDigit rest ∧ Stops (· == '.') rest ∧
      Stops (fun c => c == 'e' || c == 'E') rest := by
  refine ⟨stops.mono ?_, stops.mono ?_, stops.mono ?_⟩
  · intro c digit
    simp [continuesNumber, digit]
  · intro c point
    simp [continuesNumber, point]
  · intro c mark
    rw [Bool.or_eq_true] at mark
    rcases mark with small | large
    · simp [continuesNumber, small]
    · simp [continuesNumber, large]

/-- Every mark of a radix is a letter that no decimal contains. -/
theorem radixMark?_of_noForeignLetter {text : List Char}
    (noLetter : ∀ c ∈ text, isForeignLetter c = false) : radixMark? text = none := by
  have marks : ∀ c ∈ text, c ∉ ['x', 'X', 'o', 'O', 'b', 'B'] := by
    intro c member mark
    have letters : ∀ d ∈ ['x', 'X', 'o', 'O', 'b', 'B'], isForeignLetter d = true :=
      List.all_eq_true.mp rfl
    have none := noLetter c member
    rw [letters c mark] at none
    cases none
  unfold radixMark?
  split
  · rename_i mark digits
    have here := marks mark (by simp)
    simp only [List.mem_cons, List.not_mem_nil, or_false, not_or] at here
    simp [here]
  · rfl

/-- Coercion takes the text of a numeral to its value. -/
theorem Numeral.ofText_text (numeral : Numeral) :
    ofText (String.ofList numeral.text) = numeral.value := by
  have noLetter := numeral.noForeignLetter
  have noName : ∀ name : List Char, name.any isForeignLetter = true → numeral.text ≠ name := by
    intro name letter same
    rcases List.any_eq_true.mp letter with ⟨c, member, foreign⟩
    rw [← same] at member
    rw [noLetter c member] at foreign
    cases foreign
  have noneForeign : numeral.text.any isForeignLetter = false := by
    simpa using noLetter
  have nonempty : numeral.text.isEmpty = false := by
    rcases numeral.unsigned_endsInInk.append numeral.sign.text with ⟨before, last, text, _⟩
    rw [Numeral.text, text]
    simp
  rw [ofText, String.toList_ofList, numeral.trim_text]
  rw [nonempty, radixMark?_of_noForeignLetter noLetter, noneForeign, numeral.readDecimal?_text]
  rw [if_neg (by decide : ¬(false = true)), if_neg, if_neg]
  · rfl
  · exact noName _ rfl
  · rintro (same | same)
    · exact noName _ rfl same
    · exact noName _ rfl same

end Stencil
