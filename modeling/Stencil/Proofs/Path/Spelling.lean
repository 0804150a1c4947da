import Stencil.Proofs.Path.Shared
/-!
# The spellings of paths

`Spells` tells which texts are the steps of a path, without the reader: a name behind a point, or a
position, a quoted key or another path in brackets. A path that stands alone or in brackets has no
point in front of its first name. Brackets that begin with the digits of a position hold nothing
else, so a path that begins with such digits has no spelling in brackets.

The reader takes exactly the spellings. It is given fuel; two units for each character are enough,
because a bracket takes two and every other step one.
-/

namespace Stencil

open Text

/-- A name in a path. -/
structure PathName where
  text : List Char
  nonempty : text ≠ []
  inside : ∀ c ∈ text, Path.Parser.isNameChar c = true

namespace PathName

def name (plain : PathName) : String := String.ofList plain.text

theorem text_cons (plain : PathName) : ∃ first others, plain.text = first :: others ∧
    Path.Parser.isNameChar first = true := by
  rcases text : plain.text with _ | ⟨first, others⟩
  · exact absurd text plain.nonempty
  · refine ⟨first, others, rfl, ?_⟩
    apply plain.inside
    simp [text]

theorem not_blank {c : Char} (inside : Path.Parser.isNameChar c = true) : isBlank c = false := by
  simp only [Path.Parser.isNameChar, Bool.and_eq_true, Bool.not_eq_true'] at inside
  exact inside.1

theorem endsInInk (plain : PathName) : EndsInInk plain.text := by
  apply endsInInk_of_forall plain.nonempty
  intro c member
  exact not_blank (plain.inside c member)

end PathName

/-- A text in quotes of either kind, with anything but that quote in it. -/
structure PathQuoted where
  quote : Char
  inside : List Char
  isQuote : quote = '\'' ∨ quote = '"'
  noQuote : ∀ c ∈ inside, c ≠ quote

namespace PathQuoted

def text (quoted : PathQuoted) : List Char := quoted.quote :: (quoted.inside ++ [quoted.quote])

def string (quoted : PathQuoted) : String := String.ofList quoted.inside

theorem text_stops (quoted : PathQuoted) (rest : List Char) :
    Stops isBlank (quoted.text ++ rest) := by
  apply stops_cons
  rcases quoted.isQuote with quote | quote <;> simp [quote] <;> rfl

end PathQuoted

namespace Path

open Stencil.Path.Parser

/-- Whether a text begins with the digits of a position that a path can hold. -/
def BeginsWithPosition (text : List Char) : Prop :=
  text.takeWhile Char.isDigit ≠ [] ∧
    Number.digitsValue (text.takeWhile Char.isDigit) ≤ maxPosition

instance (text : List Char) : Decidable (BeginsWithPosition text) :=
  inferInstanceAs (Decidable (_ ∧ _))

theorem endsInInk_bracket (before : List Char) : EndsInInk (before ++ [']']) :=
  ⟨before, ']', rfl, rfl⟩

/-- Steps as they stand at the beginning of a path. -/
def withoutPoint : List Char → List Char
  | '.' :: text => text
  | text => text

/-- That steps can be written as a text behind something else. -/
inductive Spells : List PathSegment → List Char → Prop where
  | nil : Spells [] []
  | name {later : List PathSegment} {text : List Char} (plain : PathName)
      (others : Spells later text) :
      Spells (.property plain.name :: later) ('.' :: (plain.text ++ text))
  | position {later : List PathSegment} {text : List Char} (before after : Gap)
      (digits : PositionDigits) (others : Spells later text) :
      Spells (.index (Number.digitsValue digits.text) :: later)
        ('[' :: (before.text ++ (digits.text ++ (after.text ++ ']' :: text))))
  | quoted {later : List PathSegment} {text : List Char} (before after : Gap) (quoted : PathQuoted)
      (others : Spells later text) :
      Spells (.property quoted.string :: later)
        ('[' :: (before.text ++ (quoted.text ++ (after.text ++ ']' :: text))))
  | computed {later path : List PathSegment} {text inside : List Char} (before after : Gap)
      (inner : Spells path inside) (nonempty : path ≠ [])
      (noPosition : ¬BeginsWithPosition (withoutPoint inside)) (others : Spells later text) :
      Spells (.computed path :: later)
        ('[' :: (before.text ++ (withoutPoint inside ++ (after.text ++ ']' :: text))))

/-- The first step of a path loses its point, if it has one. -/
theorem Spells.begins {path : List PathSegment} {text : List Char} (spells : Spells path text)
    (nonempty : path ≠ []) :
    (∃ (plain : PathName) (others : List Char), text = '.' :: (plain.text ++ others) ∧
        withoutPoint text = plain.text ++ others) ∨
      ∃ inside, text = '[' :: inside ∧ withoutPoint text = '[' :: inside := by
  cases spells with
  | nil => exact absurd rfl nonempty
  | name plain others => exact .inl ⟨plain, _, rfl, rfl⟩
  | position before after digits others => exact .inr ⟨_, rfl, rfl⟩
  | quoted before after quoted others => exact .inr ⟨_, rfl, rfl⟩
  | computed before after inner nonempty noPosition others => exact .inr ⟨_, rfl, rfl⟩

theorem withoutPoint_append {path : List PathSegment} {text : List Char}
    (spells : Spells path text) (nonempty : path ≠ []) (rest : List Char) :
    withoutPoint (text ++ rest) = withoutPoint text ++ rest := by
  rcases spells.begins nonempty with ⟨plain, others, rfl, _⟩ | ⟨inside, rfl, _⟩
  · rfl
  · rfl

theorem length_withoutPoint (text : List Char) : text.length ≤ (withoutPoint text).length + 1 := by
  unfold withoutPoint
  split
  · exact Nat.le_refl _
  · exact Nat.le_succ _

theorem withoutPoint_stops {path : List PathSegment} {text : List Char}
    (spells : Spells path text) (nonempty : path ≠ []) (rest : List Char) :
    Stops isBlank (withoutPoint text ++ rest) := by
  rcases spells.begins nonempty with ⟨plain, others, _, same⟩ | ⟨inside, _, same⟩
  · rcases plain.text_cons with ⟨first, more, text, isName⟩
    rw [same, text]
    exact stops_cons (PathName.not_blank isName)
  · rw [same]
    exact stops_cons rfl

/-- What is written behind a text that ends in ink ends in ink with it. -/
theorem Spells.endsInInk_append {path : List PathSegment} {text before : List Char}
    (spells : Spells path text) (ends : EndsInInk before) : EndsInInk (before ++ text) := by
  induction spells generalizing before with
  | nil => simpa using ends
  | name plain others ih => simpa using ih (plain.endsInInk.append (before ++ ['.']))
  | position gap after digits others ih =>
      simpa using
        ih (endsInInk_bracket (before ++ '[' :: (gap.text ++ (digits.text ++ after.text))))
  | quoted gap after quoted others ih =>
      simpa using
        ih (endsInInk_bracket (before ++ '[' :: (gap.text ++ (quoted.text ++ after.text))))
  | computed gap after inner nonempty noPosition others ihInner ih =>
      rename_i inside
      simpa using ih (endsInInk_bracket
        (before ++ '[' :: (gap.text ++ (withoutPoint inside ++ after.text))))

theorem Spells.endsInInk {path : List PathSegment} {text : List Char} (spells : Spells path text)
    (nonempty : path ≠ []) : EndsInInk (withoutPoint text) := by
  cases spells with
  | nil => exact absurd rfl nonempty
  | name plain others => exact others.endsInInk_append plain.endsInInk
  | position gap after digits others =>
      simpa [withoutPoint] using others.endsInInk_append
        (endsInInk_bracket ('[' :: (gap.text ++ (digits.text ++ after.text))))
  | quoted gap after quoted others =>
      simpa [withoutPoint] using others.endsInInk_append
        (endsInInk_bracket ('[' :: (gap.text ++ (quoted.text ++ after.text))))
  | computed gap after inner filled noPosition others =>
      rename_i inside
      simpa [withoutPoint] using others.endsInInk_append
        (endsInInk_bracket ('[' :: (gap.text ++ (withoutPoint inside ++ after.text))))

/-- Where a class without points and brackets stops, it stops also with steps put in front. -/
theorem Spells.stops {segments : List PathSegment} {text rest : List Char}
    (spells : Spells segments text) {inClass : Char → Bool} (point : inClass '.' = false)
    (bracket : inClass '[' = false) (behind : Stops inClass rest) :
    Stops inClass (text ++ rest) := by
  cases spells with
  | nil => exact behind
  | name plain others => exact stops_cons point
  | position before after digits others => exact stops_cons bracket
  | quoted before after quoted others => exact stops_cons bracket
  | computed before after inner nonempty noPosition others => exact stops_cons bracket

namespace Parser

theorem name?_plain (plain : PathName) {rest : List Char} (stops : Stops isNameChar rest) :
    name? (plain.text ++ rest) = some (plain.name, rest) := by
  rcases plain.text_cons with ⟨first, others, text, _⟩
  rw [name?, takeWhile_run plain.inside stops, dropWhile_run plain.inside stops, text]
  simp [PathName.name, text]

theorem position?_digits (digits : PositionDigits) {rest : List Char}
    (stops : Stops Char.isDigit rest) :
    position? (digits.text ++ rest) = some (Number.digitsValue digits.text, rest) := by
  have fits := digits.fits
  rcases digits.text_cons with ⟨first, others, text, _⟩
  rw [position?, digits.splitDigits_append stops]
  rw [text] at fits ⊢
  simp [fits]

theorem quoted?_pathQuoted (quoted : PathQuoted) (rest : List Char) :
    quoted? (quoted.text ++ rest) = some (quoted.string, rest) := by
  have inside : ∀ c ∈ quoted.inside, (c != quoted.quote) = true := by
    intro c member
    simpa using quoted.noQuote c member
  have stops : Stops (· != quoted.quote) (quoted.quote :: rest) := stops_cons (by simp)
  have taken := takeWhile_run inside stops
  have left := dropWhile_run inside stops
  simp [PathQuoted.text, PathQuoted.string, quoted?, quoted.isQuote, taken, left]

theorem punctuation?_gap (gap : Gap) {expected : Char} {rest : List Char}
    (ink : isBlank expected = false) :
    punctuation? expected (gap.text ++ expected :: rest) = some rest := by
  have skipped : skipSpace (gap.text ++ expected :: rest) = expected :: rest :=
    gap.dropWhile_append (stops_cons ink)
  simp [punctuation?, skipped]

/-- No other character is taken. -/
theorem punctuation?_other (gap : Gap) {expected c : Char} {rest : List Char}
    (ink : isBlank c = false) (differs : c ≠ expected) :
    punctuation? expected (gap.text ++ c :: rest) = none := by
  have skipped : skipSpace (gap.text ++ c :: rest) = c :: rest :=
    gap.dropWhile_append (stops_cons ink)
  simp [punctuation?, skipped, differs]

theorem position?_of_not_digit {c : Char} {rest : List Char} (outside : c.isDigit = false) :
    position? (c :: rest) = none := by
  simp [position?, Number.splitDigits, outside]

theorem quoted?_of_not_quote {c : Char} {rest : List Char} (outside : ¬(c = '\'' ∨ c = '"')) :
    quoted? (c :: rest) = none := by
  simp [quoted?, outside]

theorem not_digit_of_quote {c : Char} (quote : c = '\'' ∨ c = '"') : c.isDigit = false := by
  rcases quote with rfl | rfl <;> rfl

theorem position?_eq_none {text : List Char} :
    position? text = none ↔ ¬BeginsWithPosition text := by
  unfold position? Number.splitDigits BeginsWithPosition
  rcases text.takeWhile Char.isDigit with _ | ⟨first, others⟩
  · simp
  · simp

theorem beginsWithPosition_append {text rest : List Char} (stops : Stops Char.isDigit rest) :
    BeginsWithPosition (text ++ rest) ↔ BeginsWithPosition text := by
  have same : (text ++ rest).takeWhile Char.isDigit = text.takeWhile Char.isDigit := by
    rw [List.takeWhile_append, stops.takeWhile_eq_nil, List.append_nil]
    split
    · rename_i all
      exact ((List.takeWhile_prefix _).eq_of_length all).symm
    · rfl
  simp only [BeginsWithPosition, same]

theorem segments?_of_name (fuel : Nat) {name : String} {text rest : List Char}
    (read : name? text = some (name, rest)) :
    segments? (fuel + 1) text =
      some (.property name :: (moreSegments fuel rest).1, (moreSegments fuel rest).2) := by
  rw [segments?]
  · simp [read]
  · rintro inside rfl
    simp [name?, isNameChar] at read

/-- A path begins with the first of some steps, without its point. -/
theorem segments?_of_moreSegments {fuel : Nat} {text rest : List Char} {first : PathSegment}
    {later : List PathSegment} (read : moreSegments fuel text = (first :: later, rest)) :
    segments? fuel (withoutPoint text) = some (first :: later, rest) := by
  cases fuel with
  | zero => simp [moreSegments] at read
  | succ fuel =>
      unfold moreSegments at read
      split at read
      · split at read
        · rename_i name afterName found
          simp [withoutPoint, segments?_of_name fuel found, ← read]
        · simp at read
      · split at read
        · rename_i found
          simp [withoutPoint, segments?, found, ← read]
        · simp at read
      · simp at read

theorem moreSegments_of_stops (fuel : Nat) {rest : List Char} (stops : Stops beginsStep rest) :
    moreSegments fuel rest = ([], rest) := by
  cases fuel with
  | zero => simp [moreSegments]
  | succ fuel =>
      unfold moreSegments
      split
      · exact absurd stops.head (by decide)
      · exact absurd stops.head (by decide)
      · rfl

theorem moreSegments_bracket {fuel : Nat} {segment : PathSegment} {inside rest : List Char}
    (read : bracketed? fuel inside = some (segment, rest)) :
    moreSegments (fuel + 1) ('[' :: inside) =
      (segment :: (moreSegments fuel rest).1, (moreSegments fuel rest).2) := by
  simp [moreSegments, read]

theorem closing (after : Gap) (rest : List Char) : Boundary (after.text ++ ']' :: rest) :=
  .closing after rest (.inl rfl)

section Brackets

variable (before after : Gap) (fuel : Nat) (rest : List Char)

theorem bracketed?_position (digits : PositionDigits) :
    bracketed? (fuel + 1) (before.text ++ (digits.text ++ (after.text ++ ']' :: rest))) =
      some (.index (Number.digitsValue digits.text), rest) := by
  have read := position?_digits digits ((closing after rest).stops (by decide))
  have closed : punctuation? ']' (after.text ++ ']' :: rest) = some rest :=
    punctuation?_gap after rfl
  rcases digits.text_cons with ⟨first, others, text, digit⟩
  have ink : Stops isBlank (digits.text ++ (after.text ++ ']' :: rest)) := by
    rw [text]
    exact stops_cons (Lexeme.not_blank_of_isDigit digit)
  have skipped : skipSpace _ = _ := before.dropWhile_append ink
  simp [bracketed?, skipped, read, closed]

theorem bracketed?_quoted (quoted : PathQuoted) :
    bracketed? (fuel + 1) (before.text ++ (quoted.text ++ (after.text ++ ']' :: rest))) =
      some (.property quoted.string, rest) := by
  have read := quoted?_pathQuoted quoted (after.text ++ ']' :: rest)
  have noPosition : position? (quoted.text ++ (after.text ++ ']' :: rest)) = none :=
    position?_of_not_digit (not_digit_of_quote quoted.isQuote)
  have closed : punctuation? ']' (after.text ++ ']' :: rest) = some rest :=
    punctuation?_gap after rfl
  have skipped : skipSpace _ = _ :=
    before.dropWhile_append (quoted.text_stops (after.text ++ ']' :: rest))
  simp [bracketed?, skipped, noPosition, read, closed]

theorem bracketed?_computed {path : List PathSegment} {inside : List Char}
    (spells : Spells path inside) (nonempty : path ≠ [])
    (noPosition : ¬BeginsWithPosition (withoutPoint inside))
    (read : moreSegments fuel (inside ++ (after.text ++ ']' :: rest)) =
      (path, after.text ++ ']' :: rest)) :
    bracketed? (fuel + 1) (before.text ++ (withoutPoint inside ++ (after.text ++ ']' :: rest))) =
      some (.computed path, rest) := by
  have stops : Stops Char.isDigit _ := (closing after rest).stops (by decide)
  have position : position? (withoutPoint inside ++ (after.text ++ ']' :: rest)) = none := by
    rwa [position?_eq_none, beginsWithPosition_append stops]
  have quote : quoted? (withoutPoint inside ++ (after.text ++ ']' :: rest)) = none := by
    rcases spells.begins nonempty with ⟨plain, others, _, same⟩ | ⟨others, _, same⟩
    · rcases plain.text_cons with ⟨first, more, text, isName⟩
      rw [same, text]
      exact quoted?_of_not_quote (not_quote_of_inClass isName rfl rfl)
    · rw [same]
      exact quoted?_of_not_quote (by decide)
  have path? : segments? fuel (withoutPoint inside ++ (after.text ++ ']' :: rest)) =
      some (path, after.text ++ ']' :: rest) := by
    rcases List.exists_cons_of_ne_nil nonempty with ⟨first, later, rfl⟩
    rw [← withoutPoint_append spells nonempty]
    exact segments?_of_moreSegments read
  have closed : punctuation? ']' (after.text ++ ']' :: rest) = some rest :=
    punctuation?_gap after rfl
  have skipped : skipSpace _ = _ :=
    before.dropWhile_append (withoutPoint_stops spells nonempty (after.text ++ ']' :: rest))
  simp [bracketed?, skipped, position, quote, path?, closed]

end Brackets

/-- What spells some steps is read as those steps. -/
theorem moreSegments_of_spells {segments : List PathSegment} {text : List Char}
    (spells : Spells segments text) {rest : List Char} (names : Stops isNameChar rest)
    (steps : Stops beginsStep rest) (fuel : Nat) (room : 2 * text.length ≤ fuel) :
    moreSegments fuel (text ++ rest) = (segments, rest) := by
  induction spells generalizing fuel rest with
  | nil => exact moreSegments_of_stops fuel steps
  | name plain others ih =>
      simp only [List.length_cons, List.length_append] at room
      rcases Nat.exists_eq_add_one.mpr (by omega : 0 < fuel) with ⟨fuel, rfl⟩
      have later := ih names steps fuel (by omega)
      have read := name?_plain plain (others.stops rfl rfl names)
      simp [moreSegments, read, later]
  | position before after digits others ih =>
      rename_i text
      simp only [List.length_cons, List.length_append] at room
      rcases Nat.exists_eq_add_of_le' (by omega : 2 ≤ fuel) with ⟨fuel, rfl⟩
      have later := ih names steps (fuel + 1) (by omega)
      have read := bracketed?_position before after fuel (text ++ rest) digits
      simpa [later] using moreSegments_bracket read
  | quoted before after quoted others ih =>
      rename_i text
      simp only [List.length_cons, List.length_append] at room
      rcases Nat.exists_eq_add_of_le' (by omega : 2 ≤ fuel) with ⟨fuel, rfl⟩
      have later := ih names steps (fuel + 1) (by omega)
      have read := bracketed?_quoted before after fuel (text ++ rest) quoted
      simpa [later] using moreSegments_bracket read
  | computed before after inner nonempty noPosition others ihInner ih =>
      rename_i text inside
      have point := length_withoutPoint inside
      simp only [List.length_cons, List.length_append] at room
      rcases Nat.exists_eq_add_of_le' (by omega : 2 ≤ fuel) with ⟨fuel, rfl⟩
      have later := ih names steps (fuel + 1) (by omega)
      have boundary := closing after (text ++ rest)
      have inside := ihInner (boundary.stops (by decide)) (boundary.stops (by decide)) fuel
        (by omega)
      have read := bracketed?_computed before after fuel (text ++ rest) inner nonempty noPosition
        inside
      simpa [later] using moreSegments_bracket read

section Soundness

variable {text rest : List Char}

theorem exists_gap (text : List Char) : ∃ gap : Gap, text = gap.text ++ skipSpace text :=
  ⟨⟨_, List.all_eq_true.mp List.all_takeWhile⟩, List.takeWhile_append_dropWhile.symm⟩

theorem punctuation?_eq_some {expected : Char} (taken : punctuation? expected text = some rest) :
    ∃ gap : Gap, text = gap.text ++ expected :: rest := by
  rcases exists_gap text with ⟨gap, whole⟩
  refine ⟨gap, ?_⟩
  unfold punctuation? at taken
  split at taken
  · rename_i c others skipped
    simp only [Option.ite_none_right_eq_some, Option.some.injEq] at taken
    rwa [skipped, taken.1, taken.2] at whole
  · cases taken

theorem name?_eq_some {name : String} (read : name? text = some (name, rest)) :
    ∃ plain : PathName, plain.name = name ∧ text = plain.text ++ rest := by
  unfold name? at read
  split at read
  · cases read
  · rename_i nonempty
    cases read
    refine ⟨⟨_, nonempty, List.all_eq_true.mp List.all_takeWhile⟩, rfl, ?_⟩
    exact List.takeWhile_append_dropWhile.symm

theorem position?_eq_some {position : Nat} (read : position? text = some (position, rest)) :
    ∃ digits : PositionDigits, Number.digitsValue digits.text = position ∧
      text = digits.text ++ rest := by
  unfold position? Number.splitDigits at read
  split at read
  · cases read
  · rename_i digits left nonempty split
    simp only [Option.ite_none_right_eq_some, Option.some.injEq, Prod.mk.injEq] at read split
    rcases split with ⟨rfl, rfl⟩
    rcases read with ⟨fits, rfl, rfl⟩
    refine ⟨⟨⟨_, ?_, List.all_eq_true.mp List.all_takeWhile⟩, fits⟩, rfl, ?_⟩
    · exact nonempty
    · exact List.takeWhile_append_dropWhile.symm

theorem quoted?_eq_some {key : String} (read : quoted? text = some (key, rest)) :
    ∃ quoted : PathQuoted, quoted.string = key ∧ text = quoted.text ++ rest := by
  cases text with
  | nil => cases read
  | cons quote others =>
      simp only [quoted?, Option.ite_none_right_eq_some] at read
      rcases read with ⟨isQuote, read⟩
      split at read
      · rename_i last after left
        cases read
        have closing : last = quote := by
          have stops := stops_dropWhile (· != quote) others
          rw [left] at stops
          simpa using stops.head
        have whole : others.takeWhile (· != quote) ++ others.dropWhile (· != quote) = others :=
          List.takeWhile_append_dropWhile
        refine ⟨⟨quote, _, isQuote, fun c member => ?_⟩, rfl, ?_⟩
        · simpa using List.all_eq_true.mp List.all_takeWhile c member
        · simp only [left, closing] at whole
          simp [PathQuoted.text, whole]
      · cases read

/-- The first step of a path is a step that has lost its point. -/
theorem moreSegments_of_segments? {fuel : Nat} {path : List PathSegment}
    (read : segments? fuel text = some (path, rest)) : path ≠ [] ∧
      ∃ steps, withoutPoint steps = text ∧ moreSegments fuel steps = (path, rest) := by
  cases fuel with
  | zero => simp [segments?] at read
  | succ fuel =>
      unfold segments? at read
      split at read
      · rename_i inside
        simp only [Option.map_eq_some_iff, Prod.mk.injEq] at read
        rcases read with ⟨⟨first, left⟩, found, rfl, rfl⟩
        exact ⟨nofun, '[' :: inside, rfl, moreSegments_bracket found⟩
      · simp only [Option.map_eq_some_iff, Prod.mk.injEq] at read
        rcases read with ⟨⟨first, left⟩, found, rfl, rfl⟩
        exact ⟨nofun, '.' :: text, rfl, by simp [moreSegments, found]⟩

/-- That a text up to a closing bracket makes a step. -/
def SpellsInside (segment : PathSegment) (inside : List Char) : Prop :=
  ∀ later text, Spells later text → Spells (segment :: later) ('[' :: (inside ++ text))

theorem spellsInside_of_bracketed? {fuel : Nat} {segment : PathSegment}
    (spelled : ∀ {text rest segments}, moreSegments fuel text = (segments, rest) →
      ∃ taken, text = taken ++ rest ∧ Spells segments taken)
    (read : bracketed? (fuel + 1) text = some (segment, rest)) :
    ∃ taken, text = taken ++ rest ∧ SpellsInside segment taken := by
  rcases exists_gap text with ⟨before, whole⟩
  unfold bracketed? at read
  generalize skipSpace text = inside at whole read
  subst whole
  simp only [bind] at read
  split at read
  · rename_i position left found
    simp only [Option.bind_some, Option.bind_eq_some_iff, Option.pure_def, Option.some.injEq,
      Prod.mk.injEq] at read
    rcases read with ⟨left, closed, rfl, rfl⟩
    rcases punctuation?_eq_some closed with ⟨after, rfl⟩
    rcases position?_eq_some found with ⟨digits, rfl, rfl⟩
    refine ⟨before.text ++ (digits.text ++ (after.text ++ [']'])), by simp, ?_⟩
    intro later text others
    simpa using Spells.position before after digits others
  · rename_i key left _ found
    simp only [Option.bind_some, Option.bind_eq_some_iff, Option.pure_def, Option.some.injEq,
      Prod.mk.injEq] at read
    rcases read with ⟨left, closed, rfl, rfl⟩
    rcases punctuation?_eq_some closed with ⟨after, rfl⟩
    rcases quoted?_eq_some found with ⟨quoted, rfl, rfl⟩
    refine ⟨before.text ++ (quoted.text ++ (after.text ++ [']'])), by simp, ?_⟩
    intro later text others
    simpa using Spells.quoted before after quoted others
  · rename_i noPosition _
    simp only [Option.bind_eq_some_iff, Option.map_eq_some_iff, Option.pure_def,
      Option.some.injEq, Prod.mk.injEq] at read
    rcases read with ⟨_, ⟨⟨path, left⟩, found, rfl⟩, rest, closed, rfl, rfl⟩
    rcases punctuation?_eq_some closed with ⟨after, rfl⟩
    rcases moreSegments_of_segments? found with ⟨nonempty, steps, rfl, more⟩
    rcases spelled more with ⟨taken, rfl, spells⟩
    have stops : Stops Char.isDigit _ := (closing after rest).stops (by decide)
    rw [withoutPoint_append spells nonempty, position?_eq_none,
      beginsWithPosition_append stops] at noPosition
    rw [withoutPoint_append spells nonempty]
    refine ⟨before.text ++ (withoutPoint taken ++ (after.text ++ [']'])), by simp, ?_⟩
    intro later text others
    simpa using Spells.computed before after spells nonempty noPosition others

/-- What is read of a text spells the steps that are read. -/
theorem spells_of_moreSegments (fuel : Nat) {segments : List PathSegment}
    (read : moreSegments fuel text = (segments, rest)) :
    ∃ taken, text = taken ++ rest ∧ Spells segments taken := by
  induction fuel using Nat.strongRecOn generalizing text rest segments with
  | ind fuel ih =>
      have nothing : ([], text) = (segments, rest) →
          ∃ taken, text = taken ++ rest ∧ Spells segments taken := by
        rintro ⟨⟩
        exact ⟨[], rfl, .nil⟩
      cases fuel with
      | zero => exact nothing (by simpa [moreSegments] using read)
      | succ fuel =>
          unfold moreSegments at read
          split at read
          · split at read
            · rename_i name left found
              rcases name?_eq_some found with ⟨plain, rfl, rfl⟩
              rcases more : moreSegments fuel left with ⟨later, behind⟩
              simp only [more, Prod.mk.injEq] at read
              rcases read with ⟨rfl, rfl⟩
              rcases ih fuel (Nat.lt_succ_self fuel) more with ⟨taken, rfl, others⟩
              exact ⟨'.' :: (plain.text ++ taken), by simp, .name plain others⟩
            · exact nothing read
          · split at read
            · rename_i inside _ segment left found
              rcases more : moreSegments fuel left with ⟨later, behind⟩
              simp only [more, Prod.mk.injEq] at read
              rcases read with ⟨rfl, rfl⟩
              rcases ih fuel (Nat.lt_succ_self fuel) more with ⟨taken, rfl, others⟩
              cases fuel with
              | zero => simp [bracketed?] at found
              | succ fuel =>
                  rcases spellsInside_of_bracketed? (ih fuel (by omega)) found with
                    ⟨step, rfl, spelled⟩
                  exact ⟨'[' :: (step ++ taken), by simp, spelled _ _ others⟩
            · exact nothing read
          · exact nothing read

end Soundness

end Parser

end Path

end Stencil
