import Stencil.Proofs.Token.Reference
/-!
# Places of a text

Places of a text are in the order of its indices, since every character moves a place forward.
-/

namespace Stencil

namespace Position

instance : LT Position := ⟨fun first second => first.before second = true⟩

instance : LE Position := ⟨fun first second => second.before first = false⟩

instance (first second : Position) : Decidable (first < second) :=
  inferInstanceAs (Decidable (first.before second = true))

instance (first second : Position) : Decidable (first ≤ second) :=
  inferInstanceAs (Decidable (second.before first = false))

theorem lt_iff {first second : Position} :
    first < second ↔
      first.line < second.line ∨ first.line = second.line ∧ first.column < second.column := by
  change first.before second = true ↔ _
  simp [before]

theorem le_iff {first second : Position} :
    first ≤ second ↔
      first.line < second.line ∨ first.line = second.line ∧ first.column ≤ second.column := by
  change second.before first = false ↔ _
  simp only [before, Bool.or_eq_false_iff, Bool.and_eq_false_iff, decide_eq_false_iff_not,
    beq_eq_false_iff_ne]
  omega

/-- Characters move a place to a later line, or along its line by as many columns. -/
theorem advanced_later (position : Position) (text : List Char) :
    position.line < (position.advanced text).line ∨
      (position.advanced text).line = position.line ∧
        (position.advanced text).column = position.column + text.length := by
  induction text generalizing position with
  | nil => simp
  | cons c rest ih =>
      have step := ih (position.advance c)
      rw [advanced_cons, List.length_cons]
      unfold advance at step ⊢
      split at step
      · rename_i newline
        simp only [newline, if_true] at step ⊢
        omega
      · rename_i inLine
        simp only [inLine, if_false] at step ⊢
        omega

theorem le_trans {first second third : Position} (ahead : first ≤ second)
    (behind : second ≤ third) : first ≤ third := by
  rw [le_iff] at ahead behind ⊢
  omega

theorem le_advanced (position : Position) (text : List Char) :
    position ≤ position.advanced text := by
  have later := position.advanced_later text
  rw [le_iff]
  omega

end Position

namespace Reference

variable {text : List Char} {first last : Nat}

theorem place_lt (inside : last ≤ text.length) (ahead : first < last) :
    place text first < place text last := by
  have later := (place text first).advanced_later (text.extract first last)
  rw [place_advanced text (Nat.le_of_lt ahead), Text.length_extract inside] at later
  rw [Position.lt_iff]
  omega

theorem place_le (ordered : first ≤ last) : place text first ≤ place text last := by
  have later := (place text first).advanced_later (text.extract first last)
  rw [place_advanced text ordered] at later
  rw [Position.le_iff]
  omega

/-- No two indices of a text have the same place. -/
theorem place_injective (firstInside : first ≤ text.length) (lastInside : last ≤ text.length)
    (same : place text first = place text last) : first = last := by
  rcases Nat.lt_trichotomy first last with less | equal | more
  · have ahead := Position.lt_iff.mp (place_lt lastInside less)
    rw [same] at ahead
    omega
  · exact equal
  · have ahead := Position.lt_iff.mp (place_lt firstInside more)
    rw [same] at ahead
    omega

end Reference

end Stencil
