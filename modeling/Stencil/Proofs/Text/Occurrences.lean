import Stencil.Token
/-!
# Occurrences by index

Where one text stands in another is told by indices of the outer text, without the search that
finds the place. A search answers with the first such index, or with none if there is no such index.
-/

namespace Stencil

namespace Text

/-- Whether `needle` stands at an index of a text. -/
def StandsAt (needle text : List Char) (index : Nat) : Prop := needle <+: text.drop index

variable {needle text : List Char} {first last index : Nat}

theorem StandsAt.le_length (stands : StandsAt needle text index) (nonempty : needle ≠ []) :
    index + needle.length ≤ text.length := by
  have shorter := stands.length_le
  have some : 0 < needle.length := List.length_pos_iff.mpr nonempty
  rw [List.length_drop] at shorter
  omega

/-- What stands in a part of a text stands in the text. -/
theorem standsAt_drop {distance : Nat} :
    StandsAt needle (text.drop index) distance ↔ StandsAt needle text (index + distance) := by
  rw [StandsAt, StandsAt, List.drop_drop]

theorem StandsAt.extract_eq (stands : StandsAt needle text index) :
    text.extract index (index + needle.length) = needle := by
  rw [List.extract_eq_take_drop, Nat.add_sub_cancel_left]
  exact (List.prefix_iff_eq_take.mp stands).symm

theorem take_append_extract (text : List Char) (ordered : first ≤ last) :
    text.take first ++ text.extract first last = text.take last := by
  rw [List.extract_eq_take_drop, ← List.take_add, Nat.add_sub_cancel' ordered]

theorem extract_append_extract (text : List Char) {middle : Nat} (before : first ≤ middle)
    (after : middle ≤ last) :
    text.extract first middle ++ text.extract middle last = text.extract first last := by
  have whole := take_append_extract text (Nat.le_trans before after)
  rw [← take_append_extract text after, ← take_append_extract text before,
    List.append_assoc] at whole
  exact (List.append_cancel_left whole).symm

theorem length_extract (inside : last ≤ text.length) :
    (text.extract first last).length = last - first := by
  rw [List.extract_eq_take_drop, List.length_take, List.length_drop]
  omega

/-- A search in a text finds the first index at which the needle stands. -/
theorem occurrenceFrom?_eq_some {found : Nat}
    (search : occurrenceFrom? needle index text = some found) :
    ∃ distance, found = index + distance ∧ StandsAt needle text distance ∧
      ∀ earlier < distance, ¬StandsAt needle text earlier := by
  induction text generalizing index with
  | nil =>
      simp only [occurrenceFrom?, Option.ite_none_right_eq_some, Option.some.injEq] at search
      rcases search with ⟨empty, rfl⟩
      rw [List.isEmpty_iff] at empty
      subst empty
      exact ⟨0, rfl, List.nil_prefix, fun _ earlier => absurd earlier (Nat.not_lt_zero _)⟩
  | cons c rest ih =>
      rw [occurrenceFrom?] at search
      split at search
      · rename_i here
        cases search
        exact ⟨0, rfl, List.isPrefixOf_iff_prefix.mp here,
          fun _ earlier => absurd earlier (Nat.not_lt_zero _)⟩
      · rename_i notHere
        rcases ih search with ⟨distance, rfl, stands, first⟩
        refine ⟨distance + 1, by omega, stands, ?_⟩
        intro earlier before
        cases earlier with
        | zero => exact fun here => notHere (List.isPrefixOf_iff_prefix.mpr here)
        | succ earlier => exact first earlier (by omega)

theorem occurrenceFrom?_eq_none (nonempty : needle ≠ [])
    (search : occurrenceFrom? needle index text = none) (distance : Nat) :
    ¬StandsAt needle text distance := by
  induction text generalizing index distance with
  | nil =>
      intro stands
      rw [StandsAt, List.drop_nil, List.prefix_nil] at stands
      exact nonempty stands
  | cons c rest ih =>
      rw [occurrenceFrom?] at search
      split at search
      · cases search
      · rename_i notHere
        cases distance with
        | zero => exact fun here => notHere (List.isPrefixOf_iff_prefix.mpr here)
        | succ distance => exact ih search distance

/-- The first index at or after another at which a needle stands. -/
structure StandsFirst (needle text : List Char) (start index : Nat) : Prop where
  after : start ≤ index
  stands : StandsAt needle text index
  first : ∀ earlier, start ≤ earlier → earlier < index → ¬StandsAt needle text earlier

/-- That a needle stands nowhere in a text from an index on. -/
def StandsNowhere (needle text : List Char) (start : Nat) : Prop :=
  ∀ later, start ≤ later → ¬StandsAt needle text later

variable {start : Nat}

theorem StandsFirst.index_eq {other : Nat} (one : StandsFirst needle text start index)
    (two : StandsFirst needle text start other) : index = other := by
  rcases Nat.lt_trichotomy index other with less | same | more
  · exact absurd one.stands (two.first index one.after less)
  · exact same
  · exact absurd two.stands (one.first other two.after more)

theorem StandsFirst.not_nowhere (here : StandsFirst needle text start index) :
    ¬StandsNowhere needle text start := fun nowhere => nowhere index here.after here.stands

/-- A search in the rest of a text finds the first index from there on. -/
theorem firstOccurrence?_drop_eq_some {distance : Nat}
    (search : firstOccurrence? needle (text.drop start) = some distance) :
    StandsFirst needle text start (start + distance) := by
  rcases occurrenceFrom?_eq_some search with ⟨found, same, stands, first⟩
  rw [Nat.zero_add] at same
  subst same
  refine ⟨Nat.le_add_right .., standsAt_drop.mp stands, ?_⟩
  intro earlier after before here
  refine first (earlier - start) (by omega) (standsAt_drop.mpr ?_)
  rwa [Nat.add_sub_cancel' after]

theorem firstOccurrence?_drop_eq_none (nonempty : needle ≠ [])
    (search : firstOccurrence? needle (text.drop start) = none) :
    StandsNowhere needle text start := by
  intro later after here
  refine occurrenceFrom?_eq_none nonempty search (later - start) (standsAt_drop.mpr ?_)
  rwa [Nat.add_sub_cancel' after]

end Text

end Stencil
