import Stencil.Proofs.Path.Filtering
import Stencil.Query
/-!
# Paths in brackets

A text that is a path is the key of a step when it is put in brackets, with one exception. Digits at
its beginning are taken for a position and then have to fill the brackets, so a path whose first
name begins with digits and goes on stands for nothing there.
-/

namespace Stencil

open Text Stencil.Path

namespace Path.Parser

theorem eq_of_filters {fuel : Nat} {text rest : List Char}
    (read : filters fuel text = .ok ([], rest)) : rest = text := by
  cases fuel with
  | zero => simpa [filters, eq_comm] using read
  | succ fuel =>
      unfold filters at read
      split at read
      · simpa [eq_comm] using read
      · cases read
      · rename_i left _
        cases later : filters fuel left with
        | error rest => simp [later, Bind.bind, Except.bind] at read
        | ok result => simp [later, Bind.bind, Except.bind, pure, Except.pure] at read

/-- A path without filters takes the whole text. -/
theorem segments?_of_parse {text : List Char} {segments : List PathSegment}
    (read : parse text = .ok ⟨segments, []⟩) :
    (segments? (2 * (trim text).length + 2) (trim text)).getD ([], trim text) = (segments, []) := by
  simp only [parse] at read
  generalize (segments? (2 * (trim text).length + 2) (trim text)).getD ([], trim text) = taken
    at read ⊢
  rcases taken with ⟨path, left⟩
  split at read
  · cases read
  · rename_i filtered
    cases read
    simp [eq_of_filters filtered]
  · cases read

/-- A text that is read as a path without filters spells the path. -/
theorem spells_of_parse {text : List Char} {segments : List PathSegment}
    (trimmed : trim text = text) (nonempty : text ≠ [])
    (read : parse text = .ok ⟨segments, []⟩) : segments ≠ [] ∧
      ∃ steps, withoutPoint steps = text ∧ Spells segments steps := by
  have whole := segments?_of_parse read
  rw [trimmed] at whole
  rcases path : segments? (2 * text.length + 2) text with _ | ⟨found, left⟩
  · simp [path, nonempty] at whole
  · simp only [path, Option.getD_some, Prod.mk.injEq] at whole
    rcases whole with ⟨rfl, rfl⟩
    rcases moreSegments_of_segments? path with ⟨some, steps, same, more⟩
    rcases spells_of_moreSegments _ more with ⟨taken, rfl, spells⟩
    rw [List.append_nil] at same
    exact ⟨some, taken, same, spells⟩

/-- Whether a character may stand between a position and its closing bracket, or is that bracket. -/
def closesPosition (c : Char) : Bool := isBlank c || c == ']'

/-- Digits at the beginning of a path are part of a name, and what follows them goes on with the
name or with the path. -/
theorem closesPosition_stops {segments : List PathSegment} {steps : List Char}
    (spells : Spells segments steps) (nonempty : segments ≠ [])
    (begins : BeginsWithPosition (withoutPoint steps)) :
    Stops closesPosition ((withoutPoint steps).dropWhile Char.isDigit) := by
  cases spells with
  | nil => exact absurd rfl nonempty
  | name plain others =>
      apply Stops.dropWhile_append
      · intro c member
        have isName := plain.inside c member
        have noBracket : c ≠ ']' := ne_of_inClass isName rfl
        simp [closesPosition, PathName.not_blank isName, noBracket]
      · simpa using others.stops rfl rfl stops_nil
      · simpa using others.stops rfl rfl stops_nil
  | position before after digits others => exact absurd rfl begins.1
  | quoted before after quoted others => exact absurd rfl begins.1
  | computed before after inner filled noPosition others => exact absurd rfl begins.1

/-- A position has to fill its brackets. -/
theorem bracketed?_of_stops (fuel : Nat) (digits : PositionDigits) {rest : List Char}
    (noDigit : Stops Char.isDigit rest) (goesOn : Stops closesPosition rest)
    (nonempty : rest ≠ []) :
    bracketed? fuel (digits.text ++ rest) = none := by
  cases fuel with
  | zero => simp [bracketed?]
  | succ fuel =>
      have read := position?_digits digits noDigit
      have unclosed : punctuation? ']' rest = none := by
        rcases List.exists_cons_of_ne_nil nonempty with ⟨c, others, rfl⟩
        have outside := goesOn.head
        simp only [closesPosition, Bool.or_eq_false_iff, beq_eq_false_iff_ne] at outside
        exact punctuation?_other .empty outside.1 outside.2
      rcases digits.text_cons with ⟨first, others, text, digit⟩
      have ink : Stops isBlank (digits.text ++ rest) := by
        rw [text]
        exact stops_cons (Lexeme.not_blank_of_isDigit digit)
      have skipped : skipSpace (digits.text ++ rest) = digits.text ++ rest :=
        skipSpace_gap .empty ink
      simp [bracketed?, skipped, read, unclosed]

theorem moreSegments_of_unread {fuel : Nat} {inside : List Char}
    (unread : bracketed? fuel inside = none) :
    moreSegments (fuel + 1) ('[' :: inside) = ([], '[' :: inside) := by
  simp [moreSegments, unread]

/-- What does not go on with a path and is no filter is left over. -/
theorem parse_of_unread (root : PathName) {inside : List Char} (ends : EndsInInk inside)
    (unread : ∀ fuel, bracketed? fuel inside = none) :
    parse (root.text ++ '[' :: inside) =
      .error (.unexpectedInput (String.ofList ('[' :: inside))) := by
  have trimmed : trim (root.text ++ '[' :: inside) = root.text ++ '[' :: inside := by
    have begins : Stops isBlank (root.text ++ '[' :: inside) := by
      rcases root.text_cons with ⟨first, others, text, isName⟩
      rw [text]
      exact stops_cons (PathName.not_blank isName)
    have whole := ends.append (root.text ++ ['['])
    have same := trim_between begins (by simpa using whole) (List.forall_mem_nil _)
      (List.forall_mem_nil _)
    simpa using same
  have steps (fuel : Nat) : segments? (fuel + 2) (root.text ++ '[' :: inside) =
      some ([.property root.name], '[' :: inside) := by
    have more := moreSegments_of_unread (unread fuel)
    have name : name? (root.text ++ '[' :: inside) = some (root.name, '[' :: inside) :=
      name?_plain root (stops_cons rfl)
    simpa [more] using segments?_of_name (fuel + 1) name
  have noFilter (fuel : Nat) : filters fuel ('[' :: inside) = .ok ([], '[' :: inside) := by
    cases fuel with
    | zero => rfl
    | succ fuel => rfl
  simp only [parse, trimmed, steps, Option.getD_some, noFilter]

/-- What the brackets make of a path that is put in them. -/
theorem parse_bracketed (root : PathName) {text : List Char} {segments : List PathSegment}
    (trimmed : trim text = text) (nonempty : text ≠ [])
    (accepted : parse text = .ok ⟨segments, []⟩) :
    parse (root.text ++ '[' :: (text ++ [']'])) =
      if ¬BeginsWithPosition text then .ok ⟨[.property root.name, .computed segments], []⟩
      else if text.all Char.isDigit then
        .ok ⟨[.property root.name, .index (Number.digitsValue text)], []⟩
      else .error (.unexpectedInput (String.ofList ('[' :: (text ++ [']'])))) := by
  rcases spells_of_parse trimmed nonempty accepted with ⟨filled, steps, rfl, spells⟩
  have accepts {step : PathSegment} {inside : List Char}
      (spelled : Spells [step] ('[' :: (inside ++ [']']))) :
      parse (root.text ++ '[' :: (inside ++ [']'])) = .ok ⟨[.property root.name, step], []⟩ := by
    simpa [withoutPoint] using parse_of_spells (.name root spelled) .nil .empty .empty
  rcases Decidable.em (BeginsWithPosition (withoutPoint steps)) with begins | noPosition
  · rw [if_neg (not_not_intro begins)]
    let digits : PositionDigits :=
      ⟨⟨_, begins.1, List.all_eq_true.mp List.all_takeWhile⟩, begins.2⟩
    have whole : digits.text ++ (withoutPoint steps).dropWhile Char.isDigit = withoutPoint steps :=
      List.takeWhile_append_dropWhile
    split
    · rename_i all
      have same : digits.text = withoutPoint steps := by
        have whole := takeWhile_run (List.all_eq_true.mp all) stops_nil
        rwa [List.append_nil] at whole
      have spelled := Spells.position .empty .empty digits .nil
      simp only [same] at spelled
      exact accepts spelled
    · rename_i notAll
      have more : (withoutPoint steps).dropWhile Char.isDigit ≠ [] := by
        intro none
        rw [none, List.append_nil] at whole
        exact notAll (List.all_eq_true.mpr (whole ▸ digits.digits))
      apply parse_of_unread root ⟨_, ']', rfl, rfl⟩
      intro fuel
      have goesOn := closesPosition_stops spells filled begins
      rw [← whole, List.append_assoc]
      apply bracketed?_of_stops
      · exact (stops_dropWhile _ _).append_right more _
      · exact goesOn.append_right more _
      · simp
  · rw [if_pos noPosition]
    exact accepts (.computed .empty .empty spells filled noPosition .nil)

end Path.Parser

namespace Query

variable {text : String} {segments : List PathSegment}

theorem readPath_eq_ok {path : Path} :
    readPath text = .ok path ↔ Path.Parser.parse text.toList = .ok path := by
  rw [readPath]
  rcases Path.Parser.parse text.toList with problem | found
  · exact ⟨nofun, nofun⟩
  · constructor
    · intro read
      cases read
      rfl
    · intro read
      cases read
      rfl

/-- A path in brackets is the key of the step, unless it begins with the digits of a position. Then
the digits have to be all of it and are the position; otherwise the brackets are left over. -/
theorem readPath_bracketed (root : PathName) (trimmed : trim text.toList = text.toList)
    (nonempty : text ≠ "") (accepted : readPath text = .ok ⟨segments, []⟩) :
    readPath (root.name ++ "[" ++ text ++ "]") =
      if ¬BeginsWithPosition text.toList then
        .ok ⟨[.property root.name, .computed segments], []⟩
      else if text.toList.all Char.isDigit then
        .ok ⟨[.property root.name, .index (Number.digitsValue text.toList)], []⟩
      else
        .error (.invalidPath (root.name ++ "[" ++ text ++ "]")
          (.unexpectedInput ("[" ++ text ++ "]"))) := by
  have filled : text.toList ≠ [] := by simpa using nonempty
  have read := Parser.parse_bracketed root trimmed filled (readPath_eq_ok.mp accepted)
  have whole : (root.name ++ "[" ++ text ++ "]").toList =
      root.text ++ '[' :: (text.toList ++ [']']) := by
    simp [PathName.name]
  have rest : String.ofList ('[' :: (text.toList ++ [']'])) = "[" ++ text ++ "]" := by
    apply String.toList_injective
    simp
  rw [readPath, whole, read, rest]
  split
  · rfl
  · split
    · rfl
    · rfl

theorem readPath_bracketed_leadingDigit :
    readPath "1a" = .ok ⟨[.property "1a"], []⟩ ∧
      readPath "r[1a]" = .error (.invalidPath "r[1a]" (.unexpectedInput "[1a]")) := by
  have accepted : readPath "1a" = .ok ⟨[.property "1a"], []⟩ := by rfl
  have told := readPath_bracketed ⟨['r'], List.cons_ne_nil _ _, List.all_eq_true.mp rfl⟩
    (by decide) (by decide) accepted
  rw [if_neg (by decide), if_neg (by decide)] at told
  exact ⟨accepted, told⟩

/-- A name may begin with a digit, but not behind an opening bracket. -/
theorem name_refused_in_brackets :
    trim "1a".toList = "1a".toList ∧ "1a".toList.all Char.isDigit = false ∧
      readPath "1a" = .ok ⟨[.property "1a"], []⟩ ∧
      ¬readPath "r[1a]" = .ok ⟨[.property "r", .computed [.property "1a"]], []⟩ := by
  refine ⟨by decide, by decide, by rfl, ?_⟩
  have refused : readPath "r[1a]" = .error (.invalidPath "r[1a]" (.unexpectedInput "[1a]")) := by
    rfl
  intro read
  rw [refused] at read
  cases read

end Query

end Stencil
