import Stencil.Regex.Problem
import Stencil.Regex.Property
import Stencil.Regex.Syntax
/-!
# Reading patterns

A pattern is read from left to right in one pass. Groups and bracketed classes nest, and each is
read by a function that takes fuel; a pattern's length is enough of it, for every nested call follows
at least one character.
-/

namespace Stencil.Regex

/-- Where reading stands. -/
structure Cursor where
  rest : List Char
  /-- How many characters have been read. -/
  index : Nat := 0
  flags : Flags := {}
  /-- The names of captures with their pieces and numbers, the last one first. -/
  names : List (String × Piece × Nat) := []
  captures : Nat := 0
  /-- The first mistake that counts only if the whole pattern can be read. -/
  late : Option Mistake := none

/-- Steps of reading. -/
abbrev Reader := StateT Cursor (Except Mistake)

namespace Reader

/-- The next character. -/
def peek? : Reader (Option Char) := do return (← get).rest.head?

/-- The next character; none is like a character that no syntax uses. -/
def peek : Reader Char := do return (← peek?).getD '\x00'

/-- The character after the next one. -/
def peekSecond? : Reader (Option Char) := do return (← get).rest[1]?

def atEnd : Reader Bool := do return (← get).rest.isEmpty

/-- The number of the next character. -/
def position : Reader Nat := do return (← get).index

/-- Reads `count` characters. -/
def advance (count : Nat) : Reader Unit :=
  modify fun cursor =>
    { cursor with rest := cursor.rest.drop count, index := cursor.index + min count cursor.rest.length }

/-- Reads a character and says whether there is another one. -/
def bump : Reader Bool := do
  advance 1
  return !(← atEnd)

/-- Reads a given text if it comes next. -/
def bumpIf (text : String) : Reader Bool := do
  if text.toList.isPrefixOf (← get).rest then
    advance text.length
    return true
  else return false

/-- Reads the first of some texts that comes next, if there is one. -/
def bumpAny : List String → Reader Bool
  | [] => return false
  | text :: rest => do
    if ← bumpIf text then return true
    else bumpAny rest

/-- How many characters at the front are white space or belong to comments, which run from a number
sign to the end of the line. -/
def ignoredLength (inComment : Bool) : List Char → Nat
  | [] => 0
  | c :: rest =>
    if inComment then ignoredLength (c ≠ '\n') rest + 1
    else if Text.isBlank c then ignoredLength false rest + 1
    else if c = '#' then ignoredLength true rest + 1
    else 0

/-- Reads white space and comments where they count for nothing. -/
def skipIgnored : Reader Unit := do
  let cursor ← get
  if cursor.flags.verbose then advance (ignoredLength false cursor.rest)

/-- Reads a character and what counts for nothing after it, and says whether there is more. -/
def bumpAndSkip : Reader Bool := do
  advance 1
  skipIgnored
  return !(← atEnd)

/-- The character after the next one and after what counts for nothing. -/
def peekBehind? : Reader (Option Char) := do
  let cursor ← get
  let behind := cursor.rest.drop 1
  return (if cursor.flags.verbose then behind.drop (ignoredLength false behind) else behind).head?

/-- Gives up with a mistake in a piece. -/
def failIn {α : Type} (start stop : Nat) (cause : Cause) : Reader α :=
  throw { piece := ⟨start, stop⟩, cause }

/-- Gives up with a mistake in what has been read from a place on. -/
def failSince {α : Type} (start : Nat) (cause : Cause) : Reader α := do
  failIn start (← position) cause

/-- Gives up with a mistake at the next character. -/
def failAtNext {α : Type} (cause : Cause) : Reader α := do
  let here ← position
  failIn here (here + if (← atEnd) then 0 else 1) cause

/-- Gives up with a mistake between two characters. -/
def failHere {α : Type} (cause : Cause) : Reader α := do
  let here ← position
  failIn here here cause

/-- Remembers a mistake that counts only if the whole pattern can be read. -/
def objectLater (start stop : Nat) (cause : Cause) : Reader Unit :=
  modify fun cursor =>
    { cursor with late := cursor.late <|> some { piece := ⟨start, stop⟩, cause } }

/-- Reads the characters of a kind with what counts for nothing after each of them, at most `fuel`
of them. -/
def takeSkipping (accepts : Char → Bool) : Nat → Reader (List Char)
  | 0 => return []
  | fuel + 1 => do
    match ← peek? with
    | some c =>
      if accepts c then
        let _ ← bumpAndSkip
        return c :: (← takeSkipping accepts fuel)
      else return []
    | none => return []

/-- Reads all characters of a kind with what counts for nothing after each of them. -/
def takeAll (accepts : Char → Bool) : Reader (List Char) := do
  takeSkipping accepts (← get).rest.length

end Reader

open Reader

/-- What an escape sequence stands for. -/
inductive Escape where
  | literal (c : Char)
  | set (set : Charset)
  | look (condition : Look)

/-- Something read, with its piece of the pattern. -/
structure Located (α : Type) where
  value : α
  piece : Piece

/-- The characters with a meaning of their own. -/
def metaCharacters : List Char := "\\.+*?()|[]\x7b\x7d^$#&-~".toList

/-- Whether a backslash before a character only takes its meaning away. -/
def isEscapable (c : Char) : Bool :=
  metaCharacters.contains c || (c.toNat < 128 && !c.isAlphanum && c != '<' && c != '>')

/-- The character of a code point. -/
def charOf? (n : Nat) : Option Char := if n.isValidChar then some (Char.ofNat n) else none

/-- Whether a character is a hexadecimal digit. -/
def isHexDigit (c : Char) : Bool := (Number.digitIn? 16 c).isSome

/-- Reads `count` hexadecimal digits. -/
def readHexDigits : Nat → Reader (List Char)
  | 0 => return []
  | count + 1 => do
    let c ← peek
    if !isHexDigit c then failAtNext .hexInvalidDigit
    else if count = 0 then
      let _ ← bumpAndSkip
      return [c]
    else if !(← bumpAndSkip) then failHere .escapeUnfinished
    else return c :: (← readHexDigits count)

/-- The character of hexadecimal digits in a piece. -/
def charOfHex (digits : List Char) (start stop : Nat) : Reader Char :=
  match charOf? (hexValue digits) with
  | some c => return c
  | none => failIn start stop .hexInvalid

/-- Reads hexadecimal digits in braces. -/
def readHexBraces : Reader Char := do
  let brace ← position
  let digits ← do
    let _ ← bumpAndSkip
    takeAll isHexDigit
  if ← atEnd then failSince brace .escapeUnfinished
  else if (← peek) ≠ '\x7d' then failAtNext .hexInvalidDigit
  else
    let stop ← position
    let _ ← bumpAndSkip
    if digits.isEmpty then failSince brace .hexEmpty
    else charOfHex digits (brace + 1) stop

/-- Reads a code point after the letter that announces it. -/
def readHex (letter : Char) : Reader Char := do
  if !(← bumpAndSkip) then failHere .escapeUnfinished
  else if (← peek) = '\x7b' then readHexBraces
  else
    let start ← position
    let digits ← readHexDigits (if letter = 'x' then 2 else if letter = 'u' then 4 else 8)
    charOfHex digits start (← position)

/-- The set that a property's name stands for, or why there is none. -/
def propertySet (name : List Char) : Except Cause Charset :=
  let valued := fun (name value : List Char) =>
    match valuedProperty? name with
    | none => Except.error Cause.propertyNotFound
    | some property =>
      match propertyValue? property value with
      | some set => .ok set
      | none => .error .propertyValueNotFound
  let splitAt := fun (separator : String) =>
    (Text.firstOccurrence? separator.toList name).map fun index =>
      (name.take index, name.drop (index + separator.length))
  match splitAt "!=" with
  | some (property, value) => (valued property value).map .negation
  | none =>
    match splitAt ":" <|> splitAt "=" with
    | some (property, value) => valued property value
    | none =>
      match property? name with
      | some set => .ok set
      | none => .error .propertyNotFound

/-- A set as it counts under the flags. -/
def cased (set : Charset) : Reader Charset := do
  return if (← get).flags.ignoreCase then .ignoringCase set else set

/-- A set or its negation. -/
def negatedIf (negated : Bool) (set : Charset) : Charset := if negated then .negation set else set

/-- The set of a property. An unknown one is reported only if the pattern is readable otherwise. -/
def propertyClass (start : Nat) (negated : Bool) (name : List Char) : Reader Charset := do
  let stop ← position
  if !(← get).flags.unicode then
    objectLater start stop .unicodeNotAllowed
    return .empty
  else
    match propertySet name with
    | .ok set => return negatedIf negated (← cased set)
    | .error cause =>
      objectLater start stop cause
      return .empty

def readPropertyName : Reader (List Char) := do
  if !(← bumpAndSkip) then failHere .escapeUnfinished
  else if (← peek) = '\x7b' then
    let _ ← bumpAndSkip
    let name ← takeAll (· != '\x7d')
    if ← atEnd then failHere .escapeUnfinished
    else
      let _ ← bump
      return name
  else if (← peek) = '\\' then failAtNext .unicodeClassInvalid
  else
    let c ← peek
    let _ ← bumpAndSkip
    return [c]

def letterClass? : Char → Option LetterClass
  | 'd' => some .digit
  | 's' => some .space
  | 'w' => some .word
  | _ => none

/-- Reads what may stand in braces after a boundary: the name of a special boundary. Anything that
does not begin like a name is left for a counted repetition. -/
def readSpecialBoundary (start : Nat) : Reader (Option Look) := do
  let before ← get
  let isNameChar := fun (c : Char) => c.isAlpha || c == '-'
  let unicode := before.flags.unicode
  if !(← bumpAndSkip) then failSince start .boundaryUnfinished
  else if !isNameChar (← peek) then
    set before
    return none
  else
    let nameStart ← position
    let name ← takeAll isNameChar
    if (← peek?) ≠ some '\x7d' then failSince before.index .boundaryUnclosed
    else
      let nameStop ← position
      let _ ← bump
      match String.ofList name with
      | "start" => return some (.wordStart unicode)
      | "end" => return some (.wordEnd unicode)
      | "start-half" => return some (.wordStartHalf unicode)
      | "end-half" => return some (.wordEndHalf unicode)
      | _ => failIn nameStart nameStop .boundaryUnrecognized

/-- The character or the condition that a letter stands for. -/
def readLetterEscape (start : Nat) (letter : Char) : Reader Escape := do
  let unicode := (← get).flags.unicode
  match letter with
  | 'a' => return .literal '\x07'
  | 'f' => return .literal '\x0c'
  | 't' => return .literal '\t'
  | 'n' => return .literal '\n'
  | 'r' => return .literal '\r'
  | 'v' => return .literal '\x0b'
  | 'A' => return .look .startText
  | 'z' => return .look .endText
  | 'B' => return .look (.noBoundary unicode)
  | '<' => return .look (.wordStart unicode)
  | '>' => return .look (.wordEnd unicode)
  | 'b' =>
    if (← peek?) = some '\x7b' then
      match ← readSpecialBoundary start with
      | some condition => return .look condition
      | none => return .look (.boundary unicode)
    else return .look (.boundary unicode)
  | _ => failSince start .escapeUnrecognized

/-- Reads a code point by its number. Without Unicode, two digits stand for a byte, which alone is no
text beyond ASCII. -/
def readNumbered (start : Nat) (letter : Char) : Reader Char := do
  let braced := (← peekSecond?) = some '\x7b'
  let c ← readHex letter
  if !(← get).flags.unicode && letter = 'x' && !braced && 127 < c.toNat then
    objectLater start (← position) .invalidText
  return c

/-- Reads what a backslash stands for together with what follows it. -/
def readEscapeFrom (start : Nat) : Reader Escape := do
  if !(← bump) then failSince start .escapeUnfinished
  else
    let c ← peek
    if c.isDigit then failIn start ((← position) + 1) .backreference
    else if c = 'x' ∨ c = 'u' ∨ c = 'U' then return .literal (← readNumbered start c)
    else if c = 'p' ∨ c = 'P' then
      let name ← readPropertyName
      return .set (← propertyClass start (c = 'P') name)
    else
      match letterClass? c.toLower with
      | some name =>
        let _ ← bump
        let unicode := (← get).flags.unicode
        if !unicode && c.isUpper then objectLater start (← position) .invalidText
        return .set (negatedIf c.isUpper (.letterClass name unicode))
      | none =>
        let _ ← bump
        if isEscapable c then return .literal c else readLetterEscape start c

def readEscape : Reader (Located Escape) := do
  let start ← position
  let escape ← readEscapeFrom start
  return ⟨escape, ⟨start, ← position⟩⟩

/-- The runs of the classes of ASCII characters. -/
def asciiClasses : List (String × List (Nat × Nat)) :=
  [("alnum", [(0x30, 0x39), (0x41, 0x5A), (0x61, 0x7A)]),
    ("alpha", [(0x41, 0x5A), (0x61, 0x7A)]),
    ("ascii", [(0, 0x7F)]),
    ("blank", [(9, 9), (0x20, 0x20)]),
    ("cntrl", [(0, 0x1F), (0x7F, 0x7F)]),
    ("digit", [(0x30, 0x39)]),
    ("graph", [(0x21, 0x7E)]),
    ("lower", [(0x61, 0x7A)]),
    ("print", [(0x20, 0x7E)]),
    ("punct", [(0x21, 0x2F), (0x3A, 0x40), (0x5B, 0x60), (0x7B, 0x7E)]),
    ("space", [(9, 13), (0x20, 0x20)]),
    ("upper", [(0x41, 0x5A)]),
    ("word", [(0x30, 0x39), (0x41, 0x5A), (0x5F, 0x5F), (0x61, 0x7A)]),
    ("xdigit", [(0x30, 0x39), (0x41, 0x46), (0x61, 0x66)])]

/-- Reads a class of ASCII characters by name, if there is one. -/
def readAsciiClass? : Reader (Option Charset) := do
  let rest := (← get).rest
  match rest with
  | '[' :: ':' :: inner =>
    let (negated, inner) := match inner with
      | '^' :: behind => (true, behind)
      | _ => (false, inner)
    let name := inner.takeWhile (· != ':')
    match asciiClasses.lookup (String.ofList name) with
    | none => return none
    | some runs =>
      if [':', ']'].isPrefixOf (inner.drop name.length) then
        advance (name.length + (if negated then 5 else 4))
        return some (negatedIf negated (← cased (.ranges runs)))
      else return none
  | _ => return none

def readClassElement : Reader (Located Escape) := do
  if (← peek) = '\\' then readEscape
  else
    let start ← position
    let c ← peek
    let _ ← bump
    return ⟨.literal c, ⟨start, start + 1⟩⟩

/-- A character in a bracketed class. Without Unicode it must be in ASCII. -/
def literalElement (c : Char) (piece : Piece) : Reader Char := do
  if !(← get).flags.unicode && 127 < c.toNat then
    objectLater piece.start piece.stop .unicodeNotAllowed
  return c

def elementSet (element : Located Escape) : Reader Charset :=
  match element.value with
  | .literal c => do cased (.single (← literalElement c element.piece))
  | .set set => return set
  | .look _ => failIn element.piece.start element.piece.stop .classEscapeInvalid

/-- The character of an element that is the end of a range. -/
def elementChar (element : Located Escape) : Reader Char :=
  match element.value with
  | .literal c => literalElement c element.piece
  | _ => failIn element.piece.start element.piece.stop .classRangeLiteral

/-- Reads an element of a bracketed class, or two that are the ends of a range. `opening` is the
beginning of the class. -/
def readClassRange (opening : Piece) : Reader Charset := do
  let first ← readClassElement
  skipIgnored
  if ← atEnd then failIn opening.start opening.stop .classUnclosed
  else
    let behind ← peekBehind?
    if (← peek) ≠ '-' ∨ behind = some ']' ∨ behind = some '-' then elementSet first
    else if !(← bumpAndSkip) then failIn opening.start opening.stop .classUnclosed
    else
      let last ← readClassElement
      let low ← elementChar first
      let high ← elementChar last
      if high < low then failIn first.piece.start last.piece.stop .classRangeInvalid
      else cased (.between low high)

/-- How many dashes stand at the beginning of a bracketed class. -/
def readDashes (start : Nat) : Nat → Reader Nat
  | 0 => return 0
  | fuel + 1 => do
    if (← peek) ≠ '-' then return 0
    else if !(← bumpAndSkip) then failIn start start .classUnclosed
    else return (← readDashes start fuel) + 1

/-- What the beginning of a bracketed class says. -/
structure ClassOpening where
  piece : Piece
  negated : Bool
  items : Charset

/-- Reads a sign of negation at the beginning of a bracketed class, which something must follow. -/
def readNegation (start : Nat) : Reader Bool := do
  if (← peek) ≠ '^' then return false
  else if !(← bumpAndSkip) then failSince start .classUnclosed
  else return true

/-- Reads the beginning of a bracketed class: the bracket, a sign of negation, and the dashes or the
closing bracket that stand for themselves there. -/
def readClassOpening : Reader ClassOpening := do
  let start ← position
  if !(← bumpAndSkip) then failSince start .classUnclosed
  else
    let negated ← readNegation start
    let dashes ← readDashes start (← get).rest.length
    let dash := if dashes = 0 then Charset.empty else Charset.single '-'
    if dashes = 0 ∧ (← peek) = ']' then
      if !(← bumpAndSkip) then failSince start .classUnclosed
      else return ⟨⟨start, ← position⟩, negated, .single ']'⟩
    else return ⟨⟨start, ← position⟩, negated, dash⟩

/-- Reads the sign of an operation between sets. -/
def readSetOperation? : Reader (Option (Charset → Charset → Charset)) := do
  if ← bumpIf "&&" then return some .intersection
  else if ← bumpIf "--" then return some .difference
  else if ← bumpIf "~~" then return some .symmetricDifference
  else return none

mutual

def readClass : Nat → Reader Charset
  | 0 => failHere .classUnclosed
  | fuel + 1 => do
    let start ← position
    let opening ← readClassOpening
    let set ← readClassItems fuel opening.piece id opening.items
    if opening.negated && !(← get).flags.unicode then
      objectLater start (← position) .invalidText
    return negatedIf opening.negated set

/-- Reads the rest of a bracketed class. `combine` joins what stands before the last operation with
the set of the items after it. -/
def readClassItems : Nat → Piece → (Charset → Charset) → Charset → Reader Charset
  | 0, opening, _, _ => failIn opening.start opening.stop .classUnclosed
  | fuel + 1, opening, combine, items => do
    skipIgnored
    match ← peek? with
    | none => failIn opening.start opening.stop .classUnclosed
    | some ']' =>
      let _ ← bump
      return combine items
    | some '[' =>
      match ← readAsciiClass? with
      | some set => readClassItems fuel opening combine (.union items set)
      | none =>
        let nested ← readClass fuel
        readClassItems fuel opening combine (.union items nested)
    | some _ =>
      match ← readSetOperation? with
      | some operation => readClassItems fuel opening (operation (combine items)) .empty
      | none =>
        let set ← readClassRange opening
        readClassItems fuel opening combine (.union items set)

end

/-- Reads an unsigned number that may have white space around it. A number that is missing or too
large is a mistake for the caller to report. -/
def readCount : Reader (Except Mistake Nat) := do
  let rest := (← get).rest
  advance (rest.takeWhile Text.isBlank).length
  let start ← position
  let digits ← takeAll Char.isDigit
  let stop ← position
  let _ ← takeAll Text.isBlank
  let value := Number.digitsValue digits
  if digits.isEmpty then return .error { piece := ⟨start, stop⟩, cause := .countEmpty }
  else if Nat.pow 2 32 ≤ value then return .error { piece := ⟨start, stop⟩, cause := .decimalInvalid }
  else return .ok value

/-- Reads the numbers of a counted repetition, after the opening brace up to the closing one. -/
def readCountRange (start : Nat) : Reader (Nat × Option Nat) := do
  let first ← readCount
  if ← atEnd then failSince start .countUnclosed
  else if (← peek) ≠ ',' then
    let count ← first
    return (count, some count)
  else if !(← bumpAndSkip) then failSince start .countUnclosed
  else if (← peek) = '\x7d' then return (← first, none)
  else
    let least ← first
    let most ← (← readCount)
    return (least, some most)

/-- Reads the mark that turns the preference of a repetition around. -/
def readGreed : Reader Bool := do
  let swap := (← get).flags.swapGreed
  if (← peek?) = some '?' then
    let _ ← bump
    return swap
  else return !swap

/-- What is repeated: the last of the items, which must not be a change of flags. -/
def repeated (items : List (Option Node)) : Reader (Node × List (Option Node)) :=
  match items with
  | some node :: rest => return (node, rest)
  | _ => failHere .repetitionMissing

/-- Reads a repetition without numbers and applies it to the last item. -/
def readRepetition (least : Nat) (most : Option Nat) (items : List (Option Node)) :
    Reader (List (Option Node)) := do
  let (node, others) ← repeated items
  let _ ← bump
  let greedy ← readGreed
  return some (Node.repeated least most greedy node) :: others

/-- Reads a repetition with numbers and applies it to the last item. -/
def readCountedRepetition (items : List (Option Node)) : Reader (List (Option Node)) := do
  let start ← position
  let (node, others) ← repeated items
  if !(← bumpAndSkip) then failSince start .countUnclosed
  else
    let (least, most) ← readCountRange start
    if (← peek?) ≠ some '\x7d' then failSince start .countUnclosed
    else
      let _ ← bumpAndSkip
      let greedy ← readGreed
      if most.any (· < least) then failSince start .countRangeInvalid
      else return some (Node.repeated least most greedy node) :: others

def lineStart (flags : Flags) : Look :=
  if !flags.multiLine then .startText else if flags.returns then .startLineReturn else .startLine

def lineEnd (flags : Flags) : Look :=
  if !flags.multiLine then .endText else if flags.returns then .endLineReturn else .endLine

def dotSet (flags : Flags) : Charset :=
  if flags.dotAll then .full
  else if flags.returns then .allBut ['\r', '\n']
  else .allBut ['\n']

/-- Reads a character with or without a meaning of its own, or an escape sequence. -/
def readPrimitive : Reader Node := do
  let flags := (← get).flags
  let start ← position
  match ← peek with
  | '\\' =>
    match (← readEscape).value with
    | .literal c => return .chars (← cased (.single c))
    | .set set => return .chars set
    | .look condition => return .look condition
  | c =>
    let _ ← bump
    match c with
    | '.' =>
      if !flags.unicode then objectLater start (start + 1) .invalidText
      return .chars (dotSet flags)
    | '^' => return .look (lineStart flags)
    | '$' => return .look (lineEnd flags)
    | c => return .chars (← cased (.single c))

/-- The flag of a letter, as what it changes. -/
def flagOf? : Char → Option (Bool → Flags → Flags)
  | 'i' => some fun on flags => { flags with ignoreCase := on }
  | 'm' => some fun on flags => { flags with multiLine := on }
  | 's' => some fun on flags => { flags with dotAll := on }
  | 'U' => some fun on flags => { flags with swapGreed := on }
  | 'u' => some fun on flags => { flags with unicode := on }
  | 'R' => some fun on flags => { flags with returns := on }
  | 'x' => some fun on flags => { flags with verbose := on }
  | _ => none

/-- The signs of a change of flags with their places, the last one first. -/
abbrev FlagSigns := List (Char × Nat)

/-- Reads the signs of a change of flags up to a colon or a closing parenthesis. -/
def readFlagSigns : Nat → FlagSigns → Reader FlagSigns
  | 0, signs => return signs
  | fuel + 1, signs => do
    let c ← peek
    let here ← position
    if c = ':' ∨ c = ')' then return signs
    else if c ≠ '-' ∧ (flagOf? c).isNone then failAtNext .flagUnrecognized
    else
      match signs.lookup c with
      | some earlier =>
        let cause := if c = '-' then Cause.flagRepeatedNegation else .flagDuplicate
        throw { piece := ⟨here, here + 1⟩, cause, other := some ⟨earlier, earlier + 1⟩ }
      | none =>
        if !(← bump) then failHere .flagUnfinished
        else readFlagSigns fuel ((c, here) :: signs)

/-- The flags after a change by signs, which are given from the first one on. A dash switches off
what comes after it. -/
def applySigns (on : Bool) (flags : Flags) : List Char → Flags
  | [] => flags
  | c :: rest =>
    if c = '-' then applySigns false flags rest
    else applySigns on (((flagOf? c).map fun change => change on flags).getD flags) rest

/-- Reads a change of flags, and gives the flags after it and whether there was any sign. -/
def readFlags : Reader (Flags × Bool) := do
  let signs ← readFlagSigns (← get).rest.length []
  match signs with
  | ('-', place) :: _ => failIn place (place + 1) .flagDanglingNegation
  | signs =>
    return (applySigns true (← get).flags (signs.reverse.map Prod.fst), !signs.isEmpty)

/-- Whether a character may stand in the name of a capture. -/
def isNameChar (isFirst : Bool) (c : Char) : Bool :=
  if isFirst then c == '_' || (Text.isAlphanumeric c && !isDecimal c)
  else c == '_' || c == '.' || c == '[' || c == ']' || Text.isAlphanumeric c

/-- Reads the name of a capture up to the mark behind it. -/
def readNameChars : Nat → Bool → Reader (List Char)
  | 0, _ => return []
  | fuel + 1, isFirst => do
    match ← peek? with
    | none => return []
    | some c =>
      if c = '>' then return []
      else if !isNameChar isFirst c then failAtNext .groupNameInvalid
      else
        let _ ← bump
        return c :: (← readNameChars fuel false)

/-- Reads the name of the capture with the given number. -/
def readName (number : Nat) : Reader Unit := do
  let start ← position
  let name ← readNameChars (← get).rest.length true
  let stop ← position
  if ← atEnd then failHere .groupNameUnfinished
  else
    let _ ← bump
    let text := String.ofList name
    if name.isEmpty then failIn start start .groupNameEmpty
    else
      match (← get).names.lookup text with
      | some (earlier, _) =>
        throw { piece := ⟨start, stop⟩, cause := .groupNameDuplicate, other := some earlier }
      | none =>
        modify fun cursor =>
          { cursor with names := (text, ⟨start, stop⟩, number) :: cursor.names }

/-- What an opening parenthesis begins. -/
inductive GroupOpening where
  /-- A change of flags for the rest of the group around it. -/
  | change (flags : Flags)
  /-- A group with the flags inside it, captured under a number or not at all. -/
  | group (piece : Piece) (number : Option Nat) (flags : Flags)

def nextCapture : Reader Nat := do
  modify fun cursor => { cursor with captures := cursor.captures + 1 }
  return (← get).captures

/-- Reads the beginning of a group, or a change of flags. -/
def readGroupOpening : Reader GroupOpening := do
  let start ← position
  let piece : Piece := ⟨start, start + 1⟩
  let _ ← bump
  skipIgnored
  let inner ← position
  if ← bumpAny ["?=", "?!", "?<=", "?<!"] then failSince start .lookAround
  else if ← bumpAny ["?P<", "?<"] then
    let number ← nextCapture
    if ← atEnd then failHere .groupNameUnfinished
    else
      readName number
      return .group piece (some number) (← get).flags
  else if ← bumpIf "?" then
    if ← atEnd then failIn piece.start piece.stop .groupUnclosed
    else
      let (flags, changed) ← readFlags
      let behind ← peek
      let _ ← bump
      if behind = ':' then return .group piece none flags
      else if !changed then failIn inner inner .repetitionMissing
      else return .change flags
  else return .group piece (some (← nextCapture)) (← get).flags

/-- The items of a branch, given from the last one on. -/
def branchOf (items : List (Option Node)) : Node :=
  match items.reverse.filterMap id with
  | [node] => node
  | nodes => .sequence nodes

/-- The alternatives of a group, given from the last one on. -/
def groupOf (branches : List Node) (items : List (Option Node)) : Node :=
  if branches.isEmpty then branchOf items
  else .alternatives (branchOf items :: branches).reverse

/-- A group with or without a capture. A group is one item even if there is nothing in it. -/
def closed (number : Option Nat) (inner : Node) : Node :=
  match number with
  | some index => .capture index inner
  | none => inner

/-- Reads a group up to its end, or the whole pattern if no group is open. `branches` are the
alternatives read so far and `items` what the current one consists of, both from the last one on;
an item that is missing is a change of flags. -/
def readGroup : Nat → Option Piece → List Node → List (Option Node) → Reader Node
  | 0, _, branches, items => return groupOf branches items
  | fuel + 1, opening, branches, items => do
    skipIgnored
    match ← peek? with
    | none =>
      match opening with
      | some piece => failIn piece.start piece.stop .groupUnclosed
      | none => return groupOf branches items
    | some '(' =>
      match ← readGroupOpening with
      | .change flags =>
        modify fun cursor => { cursor with flags }
        readGroup fuel opening branches (none :: items)
      | .group piece number flags =>
        let outer := (← get).flags
        modify fun cursor => { cursor with flags }
        let inner ← readGroup fuel (some piece) [] []
        modify fun cursor => { cursor with flags := outer }
        readGroup fuel opening branches (some (closed number inner) :: items)
    | some ')' =>
      if opening.isNone then failAtNext .groupUnopened
      else
        let _ ← bump
        return groupOf branches items
    | some '|' =>
      let _ ← bump
      readGroup fuel opening (branchOf items :: branches) []
    | some '[' =>
      let set ← readClass (← get).rest.length
      readGroup fuel opening branches (some (.chars set) :: items)
    | some '?' => readGroup fuel opening branches (← readRepetition 0 (some 1) items)
    | some '*' => readGroup fuel opening branches (← readRepetition 0 none items)
    | some '+' => readGroup fuel opening branches (← readRepetition 1 none items)
    | some '\x7b' => readGroup fuel opening branches (← readCountedRepetition items)
    | some _ => readGroup fuel opening branches (some (← readPrimitive) :: items)

def readPattern (text : List Char) : Except Mistake Pattern := do
  let (node, cursor) ← readGroup (text.length + 1) none [] [] |>.run { rest := text }
  match cursor.late with
  | some mistake => throw mistake
  | none =>
    return { node, names := cursor.names.map fun (name, _, index) => (name, index)
             captures := cursor.captures }

end Stencil.Regex
