import Stencil.Proofs.Text.Runs
/-!
# Gaps and boundaries

A gap is white space that the readers of paths and of expressions both pass over. Behind a path or a
constant both languages expect the same few characters, so one notion of a boundary tells where
either reader stops.
-/

namespace Stencil

/-- White space that both grammars pass over. -/
structure Gap where
  text : List Char
  plain : ∀ c ∈ text, Lexeme.isPlainSpace c = true

namespace Gap

open Text

theorem plain_nil : ∀ c ∈ ([] : List Char), Lexeme.isPlainSpace c = true :=
  List.forall_mem_nil _

theorem plain_space : ∀ c ∈ [' '], Lexeme.isPlainSpace c = true :=
  List.forall_mem_singleton.mpr rfl

/-- No white space at all. -/
def empty : Gap := ⟨[], plain_nil⟩

@[simp] theorem empty_text : empty.text = [] := rfl

/-- One space. -/
def space : Gap := ⟨[' '], plain_space⟩

theorem blank (gap : Gap) : ∀ c ∈ gap.text, isBlank c = true := fun c member =>
  Lexeme.isBlank_of_isPlainSpace (gap.plain c member)

/-- A class without white space stops at a gap if it stops behind it. -/
theorem stops (gap : Gap) {inClass : Char → Bool} {rest : List Char}
    (spaces : inClass ' ' = false ∧ inClass '\t' = false ∧ inClass '\r' = false ∧
      inClass '\n' = false) (behind : Stops inClass rest) : Stops inClass (gap.text ++ rest) := by
  refine behind.append ?_
  intro c member
  rcases spaces with ⟨blank, tab, carriage, feed⟩
  rcases Lexeme.isPlainSpace_cases (gap.plain c member) with rfl | rfl | rfl | rfl <;> assumption

/-- Readers of plain white space pass over a gap and no further. -/
theorem dropWhile_append (gap : Gap) {rest : List Char} (ink : Stops isBlank rest) :
    (gap.text ++ rest).dropWhile Lexeme.isPlainSpace = rest :=
  dropWhile_run gap.plain fun c head => Lexeme.not_plainSpace_of_not_blank (ink c head)

theorem trimStart_append (gap : Gap) (rest : List Char) :
    trimStart (gap.text ++ rest) = trimStart rest :=
  Text.trimStart_append gap.blank

end Gap

/-- The characters that stand where a shared expression ends. -/
def boundaryCharacters : List Char := [' ', '\t', '\r', '\n', ']', ')', ',', '|']

/-- What may follow an expression: white space, then nothing, a closing bracket, a comma, or the bar
of a filter. -/
inductive Boundary : List Char → Prop where
  | blank (gap : Gap) : Boundary gap.text
  | closing (gap : Gap) {c : Char} (rest : List Char) (isClosing : c = ']' ∨ c = ')' ∨ c = ',') :
    Boundary (gap.text ++ c :: rest)
  | bar (gap : Gap) {rest : List Char} (single : Text.Stops (· == '|') rest) :
    Boundary (gap.text ++ '|' :: rest)

theorem Boundary.nil : Boundary [] := .blank .empty

/-- A class stops at a boundary if it has none of the characters that stand there. -/
theorem Boundary.stops {inClass : Char → Bool} {rest : List Char} (boundary : Boundary rest)
    (outside : boundaryCharacters.any inClass = false) : Text.Stops inClass rest := by
  simp only [boundaryCharacters, List.any_cons, List.any_nil, Bool.or_false,
    Bool.or_eq_false_iff] at outside
  rcases outside with ⟨blank, tab, carriage, feed, bracket, parenthesis, comma, bar⟩
  have spaces := And.intro blank (And.intro tab (And.intro carriage feed))
  cases boundary with
  | blank gap =>
      rw [← List.append_nil gap.text]
      exact gap.stops spaces Text.stops_nil
  | closing gap rest isClosing =>
      refine gap.stops spaces (Text.stops_cons ?_)
      rcases isClosing with rfl | rfl | rfl <;> assumption
  | bar gap single => exact gap.stops spaces (Text.stops_cons bar)

end Stencil
