import Stencil.Text.Bytes
/-!
# Positions in a source text

Lines count from one and columns from zero. Columns count characters, and only a line feed
starts a new line. A `Span` is a half-open region between two positions, and a `LineTable`
answers positions for offsets into one text without walking all of it again: it searches for the
line of an offset and counts the characters from there.
-/

namespace Stencil

/-- A place in a source text. -/
structure Position where
  line : Nat
  column : Nat
deriving DecidableEq, Inhabited

namespace Position

/-- The place before the first character of a text. -/
def start : Position := ⟨1, 0⟩

/-- The place after one more character. -/
def advance (position : Position) (character : Char) : Position :=
  if character = '\n' then ⟨position.line + 1, 0⟩ else ⟨position.line, position.column + 1⟩

/-- The place after all of `text`. -/
def advanced (position : Position) (text : List Char) : Position :=
  text.foldl advance position

@[simp]
theorem advanced_nil (position : Position) : position.advanced [] = position := rfl

@[simp]
theorem advanced_cons (position : Position) (character : Char) (text : List Char) :
    position.advanced (character :: text) = (position.advance character).advanced text := rfl

@[simp]
theorem advanced_append (position : Position) (first second : List Char) :
    position.advanced (first ++ second) = (position.advanced first).advanced second := by
  simp [advanced]

/-- Earlier line first, then smaller column. -/
def before (first second : Position) : Bool :=
  first.line < second.line || (first.line == second.line && first.column < second.column)

/-- The earlier of two places. -/
def earlier (first second : Position) : Position :=
  if second.before first then second else first

/-- The later of two places. -/
def later (first second : Position) : Position :=
  if second.before first then first else second

/-- Line and column with a colon between them. -/
def text (position : Position) : String :=
  toString position.line ++ ":" ++ toString position.column

end Position

/-- A region of a source text, from `start` up to but not including `stop`. -/
structure Span where
  start : Position
  stop : Position
deriving DecidableEq, Inhabited

namespace Span

/-- The region of a text that holds nothing. -/
def empty : Span := ⟨Position.start, Position.start⟩

/-- The smallest region that covers both. -/
def cover (first second : Span) : Span :=
  ⟨first.start.earlier second.start, first.stop.later second.stop⟩

/-- Both ends with a dash between them. -/
def text (span : Span) : String :=
  span.start.text ++ "-" ++ span.stop.text

end Span

/-- The offsets at which the lines of a text begin, and the place of its first character. -/
structure LineTable where
  text : List Char
  origin : Position
  /-- Offsets of line beginnings, in increasing order. -/
  lineStarts : Array Nat

namespace LineTable

/-- Offsets just after each line feed of `text`, whose first character has offset `offset`. -/
def startsFrom : Nat → List Char → List Nat
  | _, [] => []
  | offset, character :: text =>
    let next := offset + character.utf8Size
    if character = '\n' then next :: startsFrom next text else startsFrom next text

/-- The table of a text whose first character stands at `origin`. -/
def ofText (origin : Position) (text : List Char) : LineTable :=
  ⟨text, origin, (0 :: startsFrom 0 text).toArray⟩

/-- How many lines begin at or before an offset, when at least `low` and at most `high` do. Halves
what is between the two, and fails where the table has no line. -/
def linesUpTo? (table : LineTable) (offset low high : Nat) : Option Nat :=
  if low < high then
    let middle := (low + high) / 2
    match table.lineStarts[middle]? with
    | none => none
    | some lineStart =>
      if lineStart ≤ offset then table.linesUpTo? offset (middle + 1) high
      else table.linesUpTo? offset low middle
  else some low
termination_by high - low

/-- The last line that begins at or before an offset, and where it begins. -/
def lineAt? (table : LineTable) (offset : Nat) : Option (Nat × Nat) := do
  match ← table.linesUpTo? offset 0 table.lineStarts.size with
  | 0 => none
  | line + 1 =>
    let lineStart ← table.lineStarts[line]?
    some (line, lineStart)

/-- The place of an offset: its line, and how many characters are between the beginning of the line
and the offset. Columns of the first line are counted from the origin's. -/
def positionAt? (table : LineTable) (offset : Nat) : Option Position := do
  let (line, lineStart) ← table.lineAt? offset
  let passed ← Text.slice? lineStart offset table.text
  if line = 0 then some ⟨table.origin.line, table.origin.column + passed.length⟩
  else some ⟨table.origin.line + line, passed.length⟩

/-- The place of an offset. An offset inside of a character has none, and the origin stands for
it. -/
def positionAt (table : LineTable) (offset : Nat) : Position :=
  (table.positionAt? offset).getD table.origin

/-- The region between two offsets. -/
def spanBetween (table : LineTable) (first last : Nat) : Span :=
  ⟨table.positionAt first, table.positionAt last⟩

end LineTable

end Stencil
