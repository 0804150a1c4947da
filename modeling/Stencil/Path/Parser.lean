import Stencil.Path.Basic
import Stencil.Text.Escape
/-!
# Reading paths

A name is a run of characters that are neither white space nor punctuation of paths. Brackets hold
a position, a quoted name or another path. Filters are a name with constants in brackets, if
anything. A part that cannot be read to its end is left over, with one exception: an exponent
without digits makes the whole path unreadable.
-/

namespace Stencil

/-- Why a text is no path. -/
inductive PathProblem where
  /-- Something follows the path. -/
  | unexpectedInput (rest : String)
  /-- An exponent has no digits where `rest` begins. -/
  | missingExponent (rest : String)
  /-- A path that may not have filters has one. -/
  | filterRefused (name : String)
deriving DecidableEq, Inhabited

/-- What is said about a text that is no path. -/
def PathProblem.message : PathProblem → String
  | unexpectedInput rest => "unexpected input near '" ++ rest ++ "'"
  | missingExponent rest =>
    "Parsing Failure: Error \x7b input: " ++ Text.shownQuoted rest ++ ", code: Digit \x7d"
  | filterRefused name => "filter '" ++ name ++ "' needs a QueryEngine to run"

namespace Path.Parser

/-- The largest position that a path can hold. -/
def maxPosition : Nat := Nat.pow 2 64 - 1

/-- White space between the parts of a path. -/
def isSpace (c : Char) : Bool := c == ' ' || c == '\t' || c == '\r' || c == '\n'

/-- Drops white space between parts. -/
def skipSpace (text : List Char) : List Char := text.dropWhile isSpace

/-- Whether a character may stand in a plain name. -/
def isNameChar (c : Char) : Bool := !Text.isBlank c && !".[]|(),'\"".toList.contains c

/-- Reads a plain name. -/
def name? (text : List Char) : Option (String × List Char) :=
  match text.takeWhile isNameChar with
  | [] => none
  | taken => some (String.ofList taken, text.dropWhile isNameChar)

/-- Reads a text in single or double quotes; nothing is escaped in it. -/
def quoted? : List Char → Option (String × List Char)
  | [] => none
  | quote :: rest =>
    if quote = '\'' ∨ quote = '"' then
      match rest.dropWhile (· != quote) with
      | _ :: after => some (String.ofList (rest.takeWhile (· != quote)), after)
      | [] => none
    else none

def position? (text : List Char) : Option (Nat × List Char) :=
  match Number.splitDigits text with
  | ([], _) => none
  | (digits, rest) =>
    if Number.digitsValue digits ≤ maxPosition then some (Number.digitsValue digits, rest) else none

/-- Takes a character after white space. -/
def punctuation? (expected : Char) (text : List Char) : Option (List Char) :=
  match skipSpace text with
  | c :: rest => if c = expected then some rest else none
  | [] => none

mutual

/-- Reads a step in brackets, after the opening one. -/
def bracketed? : Nat → List Char → Option (PathSegment × List Char)
  | 0, _ => none
  | fuel + 1, text => do
    let inside := skipSpace text
    let (segment, afterKey) ←
      match position? inside, quoted? inside with
      | some (position, rest), _ => some (.index position, rest)
      | none, some (name, rest) => some (.property name, rest)
      | none, none => (segments? fuel inside).map fun (path, rest) => (.computed path, rest)
    let rest ← punctuation? ']' afterKey
    pure (segment, rest)

/-- Reads the first step of a path and those after it. -/
def segments? : Nat → List Char → Option (List PathSegment × List Char)
  | 0, _ => none
  | fuel + 1, text =>
    match text with
    | '[' :: inside =>
      (bracketed? fuel inside).map fun (first, afterFirst) =>
        let (later, rest) := moreSegments fuel afterFirst
        (first :: later, rest)
    | _ =>
      (name? text).map fun (name, afterFirst) =>
        let (later, rest) := moreSegments fuel afterFirst
        (.property name :: later, rest)

/-- Reads further steps for as long as there are any. -/
def moreSegments : Nat → List Char → List PathSegment × List Char
  | 0, text => ([], text)
  | fuel + 1, text =>
    match text with
    | '.' :: afterPoint =>
      match name? afterPoint with
      | some (name, afterName) =>
        let (later, rest) := moreSegments fuel afterName
        (.property name :: later, rest)
      | none => ([], text)
    | '[' :: inside =>
      match bracketed? fuel inside with
      | some (segment, afterSegment) =>
        let (later, rest) := moreSegments fuel afterSegment
        (segment :: later, rest)
      | none => ([], text)
    | _ => ([], text)

end

/-- What the reading of a part of a filter gives. -/
inductive Attempt (α : Type) where
  | read (result : α) (rest : List Char)
  /-- The part is not there. -/
  | absent
  /-- The whole path is unreadable from here on. -/
  | refused (rest : List Char)

/-- The number of characters that an exponent takes at the front of a text: none if there is no
exponent mark, and no answer if its digits are missing where the returned rest begins. -/
def exponentRest (text : List Char) : Except (List Char) (List Char) :=
  match text with
  | mark :: afterMark =>
    if mark = 'e' ∨ mark = 'E' then
      let digits := (Number.splitSign afterMark).2
      match Number.splitDigits digits with
      | ([], _) => .error digits
      | (_, rest) => .ok rest
    else .ok text
  | [] => .ok text

/-- The rest after the digits and the point of a number: digits with a point and any digits, or a
point with digits. -/
def mantissaRest? (text : List Char) : Option (List Char) :=
  match Number.splitDigits text with
  | ([], '.' :: afterPoint) =>
    match Number.splitDigits afterPoint with
    | ([], _) => none
    | (_, rest) => some rest
  | ([], _) => none
  | (_, '.' :: afterPoint) => some (Number.splitDigits afterPoint).2
  | (_, rest) => some rest

/-- Reads a number with an optional sign. -/
def number (text : List Char) : Attempt Value :=
  match mantissaRest? (Number.splitSign text).2 with
  | none => .absent
  | some afterMantissa =>
    match exponentRest afterMantissa with
    | .error rest => .refused rest
    | .ok rest =>
      .read (.number (Number.ofText (String.ofList (text.take (text.length - rest.length))))) rest

/-- Reads a constant. -/
def literal (text : List Char) : Attempt Value :=
  match quoted? text, text with
  | some (s, rest), _ => .read (.string s) rest
  | none, 't' :: 'r' :: 'u' :: 'e' :: rest => .read (.bool true) rest
  | none, 'f' :: 'a' :: 'l' :: 's' :: 'e' :: rest => .read (.bool false) rest
  | none, 'n' :: 'u' :: 'l' :: 'l' :: rest => .read .null rest
  | none, _ => number text

/-- Reads constants, each after a comma, and leaves a comma that no constant follows. -/
def moreLiterals : Nat → List Char → Attempt (List Value)
  | 0, text => .read [] text
  | fuel + 1, text =>
    match punctuation? ',' text with
    | none => .read [] text
    | some afterComma =>
      match literal (skipSpace afterComma) with
      | .absent => .read [] text
      | .refused rest => .refused rest
      | .read first afterFirst =>
        match moreLiterals fuel afterFirst with
        | .read others rest => .read (first :: others) rest
        | .absent => .absent
        | .refused rest => .refused rest

/-- Reads constants with commas between them, perhaps none. -/
def literals (text : List Char) : Attempt (List Value) :=
  match literal text with
  | .absent => .read [] text
  | .refused rest => .refused rest
  | .read first afterFirst =>
    match moreLiterals afterFirst.length afterFirst with
    | .read others rest => .read (first :: others) rest
    | .absent => .absent
    | .refused rest => .refused rest

/-- Reads arguments in brackets. -/
def arguments (text : List Char) : Attempt (List Value) :=
  match punctuation? '(' text with
  | none => .absent
  | some inside =>
    match literals (skipSpace inside) with
    | .absent => .absent
    | .refused rest => .refused rest
    | .read args afterArgs =>
      match punctuation? ')' afterArgs with
      | none => .absent
      | some rest => .read args (skipSpace rest)

/-- Reads the name of a filter: ASCII letters, digits and underscores, no digit first. -/
def filterName? (text : List Char) : Option (String × List Char) :=
  match text with
  | c :: _ =>
    if c.isAlpha || c == '_' then
      let inName (c : Char) : Bool := c.isAlphanum || c == '_'
      some (String.ofList (text.takeWhile inName), text.dropWhile inName)
    else none
  | [] => none

/-- Reads one filter with its bar. -/
def filter (text : List Char) : Attempt PathFilter :=
  match (punctuation? '|' text).bind fun rest => filterName? (skipSpace rest) with
  | none => .absent
  | some (name, afterName) =>
    match arguments afterName with
    | .read args rest => .read ⟨name, args⟩ rest
    | .absent => .read ⟨name, []⟩ afterName
    | .refused rest => .refused rest

/-- Reads filters for as long as there are any; an error is where a path becomes unreadable. -/
def filters : Nat → List Char → Except (List Char) (List PathFilter × List Char)
  | 0, text => .ok ([], text)
  | fuel + 1, text =>
    match filter text with
    | .absent => .ok ([], text)
    | .refused rest => .error rest
    | .read first afterFirst => do
      let (others, rest) ← filters fuel afterFirst
      pure (first :: others, rest)

/-- Reads a text that is one path with its filters. -/
def parse (text : List Char) : Except PathProblem Path :=
  let trimmed := Text.trim text
  let (segments, afterSegments) := (segments? (2 * trimmed.length + 2) trimmed).getD ([], trimmed)
  match filters afterSegments.length afterSegments with
  | .error rest => .error (.missingExponent (String.ofList rest))
  | .ok (filters, []) => .ok ⟨segments, filters⟩
  | .ok (_, rest) => .error (.unexpectedInput (String.ofList rest))

end Path.Parser

end Stencil
