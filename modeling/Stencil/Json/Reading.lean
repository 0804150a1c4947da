import Stencil.Json.Basic
import Stencil.Number.Reading
/-!
# Reading JSON documents

A text is first read as a `Draft`, which keeps strings with their escapes and objects with repeated
keys. Decoding the strings of a draft is a second step and fails on escapes that name half of a
surrogate pair, so a reader of settings can pass over the parts that it does not use.
-/

namespace Stencil.Json

/-- A document as it is written. -/
inductive Draft where
  | null
  | bool (b : Bool)
  | integer (n : Int)
  | float (x : Float)
  /-- A string with its escapes, without its quotes. -/
  | string (written : List Char)
  | array (items : List Draft)
  | object (entries : List (List Char × Draft))
deriving Inhabited

/-- White space between the parts of a document. -/
def isSpace (c : Char) : Bool := c == ' ' || c == '\n' || c == '\t' || c == '\r'

/-- Drops white space from the front. -/
def skipSpace (text : List Char) : List Char := text.dropWhile isSpace

/-- The value of four hexadecimal digits. -/
def hexValue? (a b c d : Char) : Option Nat := do
  let first ← Number.digitIn? 16 a
  let second ← Number.digitIn? 16 b
  let third ← Number.digitIn? 16 c
  let fourth ← Number.digitIn? 16 d
  pure (((first * 16 + second) * 16 + third) * 16 + fourth)

/-- What a backslash and one letter stand for. -/
def simpleEscape? (c : Char) : Option Char :=
  if c = '"' ∨ c = '\\' ∨ c = '/' then some c
  else if c = 'b' then some (Char.ofNat 8)
  else if c = 'f' then some (Char.ofNat 12)
  else if c = 'n' then some '\n'
  else if c = 'r' then some '\r'
  else if c = 't' then some '\t'
  else none

/-- Splits a text after an opening quote at the closing one. Control characters and malformed
escapes are refused. -/
def splitString? : List Char → Option (List Char × List Char)
  | [] => none
  | '"' :: rest => some ([], rest)
  | '\\' :: 'u' :: a :: b :: c :: d :: rest => do
    let _ ← hexValue? a b c d
    let (written, after) ← splitString? rest
    pure ('\\' :: 'u' :: a :: b :: c :: d :: written, after)
  | '\\' :: c :: rest => do
    let _ ← simpleEscape? c
    let (written, after) ← splitString? rest
    pure ('\\' :: c :: written, after)
  | c :: rest =>
    if c.toNat < 32 ∨ c = '\\' then none
    else (splitString? rest).map fun (written, after) => (c :: written, after)

/-- Replaces escapes by what they stand for. Two halves of a surrogate pair make one character. -/
def unescape? : List Char → Option (List Char)
  | [] => some []
  | '\\' :: 'u' :: a :: b :: c :: d :: rest => do
    let unit ← hexValue? a b c d
    if 0xDC00 ≤ unit ∧ unit < 0xE000 then none
    else if 0xD800 ≤ unit ∧ unit < 0xDC00 then
      match rest with
      | '\\' :: 'u' :: e :: f :: g :: h :: after => do
        let low ← hexValue? e f g h
        if 0xDC00 ≤ low ∧ low < 0xE000 then
          let decoded ← unescape? after
          pure (Char.ofNat (0x10000 + (unit - 0xD800) * 0x400 + (low - 0xDC00)) :: decoded)
        else none
      | _ => none
    else do
      let decoded ← unescape? rest
      pure (Char.ofNat unit :: decoded)
  | '\\' :: c :: rest => do
    let meant ← simpleEscape? c
    let decoded ← unescape? rest
    pure (meant :: decoded)
  | c :: rest => (unescape? rest).map (c :: ·)

/-- The characters at the front that a number may hold, and what follows them. -/
def splitNumber (text : List Char) : List Char × List Char :=
  let inNumber (c : Char) : Bool := c.isDigit || c == '-' || c == '+' || c == '.' || c == 'e' || c == 'E'
  (text.takeWhile inNumber, text.dropWhile inNumber)

/-- Whether digits make a whole part: no zero in front of other digits. -/
def isWholePart (digits : List Char) : Bool :=
  match digits with
  | [] => false
  | ['0'] => true
  | '0' :: _ => false
  | _ => true

/-- Whether a text is a point with digits, if anything, followed by an exponent, if anything. -/
def isFractionAndExponent (text : List Char) : Bool :=
  match text with
  | '.' :: rest =>
    let (digits, after) := Number.splitDigits rest
    !digits.isEmpty && (Number.readExponent? after).isSome
  | _ => (Number.readExponent? text).isSome

/-- Reads a number. It is an integer if it is written as one and fits 64 bits. -/
def readNumber? (written : List Char) : Option Draft :=
  let (negative, unsigned) := match written with
    | '-' :: rest => (true, rest)
    | _ => (false, written)
  let (whole, rest) := Number.splitDigits unsigned
  if !isWholePart whole || !isFractionAndExponent rest then none
  else
    let magnitude : Int := Number.digitsValue whole
    let asFloat := (Number.readDecimal? written).map Draft.float
    if !rest.isEmpty then asFloat
    else if negative then
      if magnitude ≠ 0 ∧ magnitude ≤ Nat.pow 2 63 then some (.integer (-magnitude)) else asFloat
    else if magnitude < Nat.pow 2 64 then some (.integer magnitude)
    else asFloat

mutual

/-- Reads one document, with at most `fuel` steps of nesting and repetition. -/
def readDraft? : Nat → List Char → Option (Draft × List Char)
  | 0, _ => none
  | fuel + 1, text =>
    match skipSpace text with
    | 'n' :: 'u' :: 'l' :: 'l' :: rest => some (.null, rest)
    | 't' :: 'r' :: 'u' :: 'e' :: rest => some (.bool true, rest)
    | 'f' :: 'a' :: 'l' :: 's' :: 'e' :: rest => some (.bool false, rest)
    | '"' :: rest => (splitString? rest).map fun (written, after) => (.string written, after)
    | '[' :: rest =>
      match skipSpace rest with
      | ']' :: after => some (.array [], after)
      | items => (readItems? fuel items).map fun (read, after) => (.array read, after)
    | '\x7b' :: rest =>
      match skipSpace rest with
      | '\x7d' :: after => some (.object [], after)
      | members => (readMembers? fuel members).map fun (read, after) => (.object read, after)
    | number =>
      let (written, after) := splitNumber number
      (readNumber? written).map fun draft => (draft, after)

/-- Reads the elements of an array through its closing bracket. -/
def readItems? : Nat → List Char → Option (List Draft × List Char)
  | 0, _ => none
  | fuel + 1, text => do
    let (item, afterItem) ← readDraft? fuel text
    match skipSpace afterItem with
    | ']' :: after => pure ([item], after)
    | ',' :: rest =>
      let (items, after) ← readItems? fuel rest
      pure (item :: items, after)
    | _ => none

/-- Reads the members of an object through its closing brace. -/
def readMembers? : Nat → List Char → Option (List (List Char × Draft) × List Char)
  | 0, _ => none
  | fuel + 1, text =>
    match skipSpace text with
    | '"' :: afterQuote => do
      let (key, afterKey) ← splitString? afterQuote
      match skipSpace afterKey with
      | ':' :: afterColon =>
        let (value, afterValue) ← readDraft? fuel afterColon
        match skipSpace afterValue with
        | '\x7d' :: after => pure ([(key, value)], after)
        | ',' :: rest =>
          let (members, after) ← readMembers? fuel rest
          pure ((key, value) :: members, after)
        | _ => none
      | _ => none
    | _ => none

end

/-- Reads a text that holds one document and nothing else. -/
def draftOfText? (text : String) : Option Draft :=
  let characters := text.toList
  (readDraft? (characters.length + 1) characters).bind fun (draft, after) =>
    if (skipSpace after).isEmpty then some draft else none

mutual

/-- Decodes all strings of a draft. -/
def ofDraft? : Draft → Option Json
  | .null => some .null
  | .bool b => some (.bool b)
  | .integer n => some (.integer n)
  | .float x => some (.float x)
  | .string written => (unescape? written).map fun s => .string (String.ofList s)
  | .array items => (ofDrafts? items).map .array
  | .object entries => (ofMembers? entries).map .object

/-- Decodes the elements of an array. -/
def ofDrafts? : List Draft → Option (List Json)
  | [] => some []
  | item :: rest => do
    let decoded ← ofDraft? item
    let others ← ofDrafts? rest
    pure (decoded :: others)

/-- Decodes the members of an object. -/
def ofMembers? : List (List Char × Draft) → Option (List (String × Json))
  | [] => some []
  | (key, value) :: rest => do
    let name ← unescape? key
    let decoded ← ofDraft? value
    let others ← ofMembers? rest
    pure ((String.ofList name, decoded) :: others)

end

/-- Reads a JSON document. -/
def read? (text : String) : Option Json := (draftOfText? text).bind ofDraft?

end Stencil.Json
