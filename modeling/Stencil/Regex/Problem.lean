/-!
# Mistakes in patterns

A mistake is reported with the pattern and with marks under the characters that it concerns.
-/

namespace Stencil.Regex

/-- What is wrong with a pattern. -/
inductive Cause where
  | classEscapeInvalid
  | classRangeInvalid
  | classRangeLiteral
  | classUnclosed
  | decimalInvalid
  | hexEmpty
  | hexInvalid
  | hexInvalidDigit
  | escapeUnfinished
  | escapeUnrecognized
  | flagDanglingNegation
  | flagDuplicate
  | flagRepeatedNegation
  | flagUnfinished
  | flagUnrecognized
  | groupNameDuplicate
  | groupNameEmpty
  | groupNameInvalid
  | groupNameUnfinished
  | groupUnclosed
  | groupUnopened
  | countRangeInvalid
  | countEmpty
  | countUnclosed
  | repetitionMissing
  | boundaryUnclosed
  | boundaryUnrecognized
  | boundaryUnfinished
  | unicodeClassInvalid
  | backreference
  | lookAround
  | unicodeNotAllowed
  | invalidText
  | propertyNotFound
  | propertyValueNotFound
deriving DecidableEq

/-- What is said about a mistake. -/
def Cause.message : Cause → String
  | classEscapeInvalid => "invalid escape sequence found in character class"
  | classRangeInvalid => "invalid character class range, the start must be <= the end"
  | classRangeLiteral => "invalid range boundary, must be a literal"
  | classUnclosed => "unclosed character class"
  | decimalInvalid => "decimal literal invalid"
  | hexEmpty => "hexadecimal literal empty"
  | hexInvalid => "hexadecimal literal is not a Unicode scalar value"
  | hexInvalidDigit => "invalid hexadecimal digit"
  | escapeUnfinished => "incomplete escape sequence, reached end of pattern prematurely"
  | escapeUnrecognized => "unrecognized escape sequence"
  | flagDanglingNegation => "dangling flag negation operator"
  | flagDuplicate => "duplicate flag"
  | flagRepeatedNegation => "flag negation operator repeated"
  | flagUnfinished => "expected flag but got end of regex"
  | flagUnrecognized => "unrecognized flag"
  | groupNameDuplicate => "duplicate capture group name"
  | groupNameEmpty => "empty capture group name"
  | groupNameInvalid => "invalid capture group character"
  | groupNameUnfinished => "unclosed capture group name"
  | groupUnclosed => "unclosed group"
  | groupUnopened => "unopened group"
  | countRangeInvalid => "invalid repetition count range, the start must be <= the end"
  | countEmpty => "repetition quantifier expects a valid decimal"
  | countUnclosed => "unclosed counted repetition"
  | repetitionMissing => "repetition operator missing expression"
  | boundaryUnclosed =>
    "special word boundary assertion is either unclosed or contains an invalid character"
  | boundaryUnrecognized =>
    "unrecognized special word boundary assertion, valid choices are: start, end, start-half or " ++
      "end-half"
  | boundaryUnfinished =>
    "found either the beginning of a special word boundary or a bounded repetition on a \\b with" ++
      " an opening brace, but no closing brace"
  | unicodeClassInvalid => "invalid Unicode character class"
  | backreference => "backreferences are not supported"
  | lookAround => "look-around, including look-ahead and look-behind, is not supported"
  | unicodeNotAllowed => "Unicode not allowed here"
  | invalidText => "pattern can match invalid UTF-8"
  | propertyNotFound => "Unicode property not found"
  | propertyValueNotFound => "Unicode property value not found"

/-- A piece of a pattern, from the number of its first character up to that of the first one
behind it. -/
structure Piece where
  start : Nat
  stop : Nat
deriving DecidableEq

/-- A mistake with the piece of the pattern that it concerns. -/
structure Mistake where
  piece : Piece
  cause : Cause
  /-- Another piece that has to do with the mistake. -/
  other : Option Piece := none

/-- The line and the column of a character, both counted from zero. -/
def placeOf (pattern : List Char) (index : Nat) : Nat × Nat :=
  let before := pattern.take index
  (before.count '\n', (before.reverse.takeWhile (· != '\n')).length)

/-- The lines of a text. A line break at the very end does not begin another line, and a carriage
return before a line break belongs to it. -/
def linesOf (pattern : List Char) : List (List Char) :=
  let lines := pattern.foldr
    (fun c lines =>
      match lines with
      | [] => if c = '\n' then [[], []] else [[c]]
      | line :: rest => if c = '\n' then [] :: line :: rest else (c :: line) :: rest) []
  let lines := if pattern.getLast? = some '\n' then lines.dropLast else lines
  let unreturned := fun (line : List Char) =>
    if line.getLast? = some '\r' then line.dropLast else line
  lines.map unreturned

/-- Marks for pieces of one line, given by their first and last columns from left to right. -/
def marks (column : Nat) : List (Nat × Nat) → List Char
  | [] => []
  | (start, stop) :: rest =>
    let blanks := start - column
    let width := max 1 (stop - start)
    List.replicate blanks ' ' ++ List.replicate width '^' ++ marks (column + blanks + width) rest

/-- The number of a line with blanks before it. -/
def lineLabel (width number : Nat) : List Char := (Nat.repr number).toList.leftpad width ' ' ++ [':', ' ']

/-- The lines of a pattern, each with marks under it for the pieces that are on it. -/
def notated (lines : List (List Char)) (labelWidth : Nat)
    (pieces : List (Nat × Nat × Nat)) : List Char :=
  let margin := if labelWidth = 0 then 4 else 2 + labelWidth
  lines.zipIdx.flatMap fun (line, index) =>
    let label := if labelWidth = 0 then List.replicate 4 ' ' else lineLabel labelWidth (index + 1)
    let here := (pieces.filter fun piece => piece.1 == index).map Prod.snd
    let note :=
      if here.isEmpty then [] else List.replicate margin ' ' ++ marks 0 here ++ ['\n']
    label ++ line ++ '\n' :: note

/-- What is said about a piece that goes over several lines. -/
def spreadNote (first last : Nat × Nat) : String :=
  "on line " ++ toString (first.1 + 1) ++ " (column " ++ toString (first.2 + 1) ++
    ") through line " ++ toString (last.1 + 1) ++ " (column " ++ toString last.2 ++ ")"

/-- The report of a mistake in a pattern. A pattern of several lines is shown between dividers and
with the numbers of its lines. -/
def report (pattern : List Char) (mistake : Mistake) : String :=
  let lines := linesOf pattern
  let count := lines.length + if pattern.getLast? = some '\n' then 1 else 0
  let labelWidth := if count ≤ 1 then 0 else (Nat.repr count).length
  let pieces := (mistake.piece :: mistake.other.toList).mergeSort fun a b => a.start ≤ b.start
  let places := pieces.map fun piece => (placeOf pattern piece.start, placeOf pattern piece.stop)
  let (single, spread) := places.partition fun place => place.1.1 == place.2.1
  let shown := String.ofList
    (notated lines labelWidth (single.map fun place => (place.1.1, place.1.2, place.2.2)))
  let message := "error: " ++ mistake.cause.message
  if pattern.contains '\n' then
    let divider := "".pushn '~' 79 ++ "\n"
    let notes :=
      if spread.isEmpty then ""
      else "\n".intercalate (spread.map fun place => spreadNote place.1 place.2) ++ "\n"
    "regex parse error:\n" ++ divider ++ shown ++ divider ++ notes ++ message
  else "regex parse error:\n" ++ shown ++ message

end Stencil.Regex
