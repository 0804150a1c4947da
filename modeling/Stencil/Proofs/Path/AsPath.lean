import Stencil.Proofs.Path.Filtering
/-!
# Shared paths read as paths

The text of a shared path spells the segments that it stands for, so the reader of paths takes it to
them.
-/

namespace Stencil

open Text Stencil.Path

/-- Characters of names in expressions are characters of names in paths. -/
theorem Path.Parser.isNameChar_of_continuesName {c : Char}
    (continues : Lexeme.continuesName c = true) : Parser.isNameChar c = true := by
  have ink := Lexeme.not_blank_of_continuesName continues
  have punctuation : ∀ d ∈ ".[]|(),'\"".toList, ¬Lexeme.continuesName d = true :=
    List.any_eq_false.mp rfl
  simp only [Parser.isNameChar, ink, Bool.not_false, Bool.true_and, Bool.not_eq_true']
  rw [List.contains_eq_mem, decide_eq_false_iff_not]
  intro member
  exact punctuation c member continues

/-- A name as a path has it. -/
def Identifier.inPath (identifier : Identifier) : PathName where
  text := identifier.text
  nonempty := List.cons_ne_nil _ _
  inside := fun c member => Parser.isNameChar_of_continuesName (identifier.continues_all c member)

@[simp] theorem Identifier.inPath_text (identifier : Identifier) :
    identifier.inPath.text = identifier.text := rfl

@[simp] theorem Identifier.inPath_name (identifier : Identifier) :
    identifier.inPath.name = identifier.name := rfl

/-- A quoted text as a path has it. -/
def QuotedText.inPath (quoted : QuotedText) : PathQuoted where
  quote := quoted.quote
  inside := quoted.inside
  isQuote := quoted.isQuote
  noQuote := fun c member => (quoted.plain c member).1

/-- A path that begins with a root has no position in front. -/
theorem RootName.noPosition (root : RootName) (rest : List Char) :
    ¬BeginsWithPosition (root.text ++ rest) := by
  have noDigit : root.first.isDigit = false := Lexeme.not_digit_of_beginsName root.begins
  simp [BeginsWithPosition, Identifier.text, noDigit]

mutual

theorem SharedKey.spells (key : SharedKey) (before after : Gap) {later : List PathSegment}
    {text : List Char} (others : Spells later text) :
    Spells (key.segment :: later)
      ('[' :: (before.text ++ (key.text ++ (after.text ++ ']' :: text)))) := by
  cases key with
  | position digits => exact .position before after digits others
  | quoted quoted => exact .quoted before after quoted.inPath others
  | path root steps =>
      have inner := Spells.name root.inPath (SharedStep.spells steps)
      exact .computed before after inner (List.cons_ne_nil _ _) (root.noPosition _) others

theorem SharedStep.spells (steps : List SharedStep) :
    Spells (SharedStep.segments steps) (SharedStep.texts steps) := by
  cases steps with
  | nil => exact .nil
  | cons step others =>
      have later := SharedStep.spells others
      cases step with
      | property name => exact .name name.inPath later
      | bracket before key after =>
          simpa [SharedStep.segments, SharedStep.texts, SharedStep.segment, SharedStep.text]
            using SharedKey.spells key before after later

end

/-- A number as a path has it. -/
def Numeral.inPath (numeral : Numeral) : DecimalText where
  sign := numeral.sign
  mantissa := numeral.whole.text ++ numeral.fractionText
  exponent := numeral.exponent
  isMantissa := by
    unfold Numeral.fractionText
    split
    · simpa using IsMantissa.whole numeral.whole
    · rename_i digits _
      exact .pointed numeral.whole digits.digits

theorem Numeral.inPath_text (numeral : Numeral) : numeral.inPath.text = numeral.text := by
  simp [DecimalText.text, inPath, Numeral.text, unsigned]
  rfl

theorem Numeral.inPath_value (numeral : Numeral) : numeral.inPath.value = numeral.value := by
  rw [DecimalText.value, numeral.inPath_text, numeral.ofText_text]

theorem SharedLiteral.spells (constant : SharedLiteral) :
    SpellsConstant constant.value constant.text := by
  cases constant with
  | quoted quoted => exact .quoted quoted.inPath
  | number numeral =>
      rw [SharedLiteral.value, SharedLiteral.text, ← numeral.inPath_value, ← numeral.inPath_text]
      exact .number numeral.inPath
  | bool b =>
      cases b with
      | true => exact .true
      | false => exact .false
  | null => exact .null

theorem SharedArgument.spells (others : List SharedArgument) :
    SpellsArguments (others.map fun argument => argument.literal.value)
      (SharedArgument.texts others) := by
  induction others with
  | nil => exact .nil
  | cons argument others ih =>
      simpa [SharedArgument.texts, SharedArgument.text] using
        SpellsArguments.cons argument.before argument.after argument.literal.spells ih

theorem SharedArguments.spells (given : SharedArguments) :
    SpellsGiven (given.literals.map SharedLiteral.value) given.text := by
  cases given with
  | absent => exact .absent
  | empty before inside => exact .empty before inside
  | listed before first others =>
      simpa [SharedArguments.literals, SharedArguments.text, SharedArgument.text,
        Function.comp_def] using
        SpellsGiven.listed before first.before first.after first.literal.spells
          (SharedArgument.spells others)

theorem SharedFilter.spells (filters : List SharedFilter) :
    SpellsFilters (filters.map SharedFilter.inPath) (SharedFilter.texts filters) := by
  induction filters with
  | nil => exact .nil
  | cons filter others ih =>
      simpa [SharedFilter.texts, SharedFilter.text, SharedFilter.inPath] using
        SpellsFilters.cons filter.beforeBar filter.afterBar filter.name filter.arguments.spells ih

/-- The text of a query is read as its steps and its filters. -/
theorem Path.Parser.parse_shared (query : SharedQuery) :
    parse query.text.toList = .ok ⟨query.segments, query.filters.map SharedFilter.inPath⟩ := by
  have path := Spells.name query.root.inPath (SharedStep.spells query.steps)
  have read := parse_of_spells path (SharedFilter.spells query.filters) query.leading query.trailing
  simpa [SharedQuery.text, SharedQuery.core, SharedQuery.segments, withoutPoint] using read

end Stencil
