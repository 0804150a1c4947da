import Stencil.Delimiters
import Stencil.Text.Search
/-!
# Tokens of a template

A template text is cut into tags and the text between them. At every boundary the leftmost opening
marker begins the next tag, and a tag ends at the first closing marker after its opening one.
Quotes mean nothing here: a marker inside a quoted text or a comment counts like any other.

The scan remembers for each kind of tag where its opening marker comes next and searches again
only once it has moved past that place, so no part of the text is searched twice for one marker.
-/

namespace Stencil

/-- A piece of a template text. -/
structure Token where
  /-- The kind of tag, or none for text between tags. -/
  tag? : Option Tag
  /-- The source of the piece with its markers. -/
  content : String
  /-- The source between the markers; all of it for text. -/
  body : String
  /-- How many bytes of source come before it. -/
  offset : Nat
  /-- Where the body begins. -/
  bodyStart : Position
  start : Position
  stop : Position
deriving DecidableEq, Inhabited

namespace Token

/-- The region that a token covers. -/
def span (token : Token) : Span := ⟨token.start, token.stop⟩

/-- The name of a token's kind. -/
def kindName (token : Token) : String := token.tag?.elim "text" Tag.name

end Token

/-- What is known about the next opening marker of one kind. -/
inductive Sighting where
  | unknown
  /-- It begins at this index of the text. -/
  | at (index : Nat)
  | never
deriving DecidableEq, Inhabited

/-- A scan part way through a text. -/
structure Scan where
  /-- What is left of the text. -/
  rest : List Char
  /-- How many characters were taken. -/
  index : Nat
  /-- How many bytes were taken. -/
  offset : Nat
  /-- Where the rest begins. -/
  position : Position
  statement : Sighting
  expression : Sighting
  comment : Sighting

namespace Scan

/-- The scan before the first character of a text. -/
def ofText (text : String) : Scan :=
  { rest := text.toList, index := 0, offset := 0, position := Position.start,
    statement := .unknown, expression := .unknown, comment := .unknown }

/-- What is known about the next opening marker of a kind. -/
def sighting (scan : Scan) : Tag → Sighting
  | .statement => scan.statement
  | .expression => scan.expression
  | .comment => scan.comment

/-- Searches the rest of the text for the next opening marker of a kind. -/
def search (scan : Scan) (delimiters : Delimiters) (tag : Tag) : Sighting :=
  match Text.firstOccurrence? (delimiters.opening tag) scan.rest with
  | some distance => .at (scan.index + distance)
  | none => .never

/-- Keeps a sighting that is not behind the scan, and searches the rest of the text otherwise. -/
def sightingNow (scan : Scan) (delimiters : Delimiters) (tag : Tag) : Sighting :=
  match scan.sighting tag with
  | .never => .never
  | .at index => if scan.index ≤ index then .at index else scan.search delimiters tag
  | .unknown => scan.search delimiters tag

/-- Brings all three sightings up to date. -/
def lookAhead (scan : Scan) (delimiters : Delimiters) : Scan :=
  { scan with
    statement := scan.sightingNow delimiters .statement
    expression := scan.sightingNow delimiters .expression
    comment := scan.sightingNow delimiters .comment }

/-- The leftmost marker seen, the earlier kind at the same place. -/
def leftmost? (scan : Scan) : Option (Nat × Tag) :=
  Tag.all.foldl (fun best tag =>
    match scan.sighting tag, best with
    | .at index, some (bestIndex, bestTag) =>
      if index < bestIndex then some (index, tag) else some (bestIndex, bestTag)
    | .at index, none => some (index, tag)
    | _, _ => best) none

/-- The scan after the next `count` characters. -/
def skip (scan : Scan) (count : Nat) : Scan :=
  let taken := scan.rest.take count
  { scan with
    rest := scan.rest.drop count
    index := scan.index + taken.length
    offset := scan.offset + Text.byteLength taken
    position := scan.position.advanced taken }

/-- The next `count` characters as text between tags; nothing for none. -/
def takeText (scan : Scan) (count : Nat) : List Token :=
  let taken := scan.rest.take count
  if taken.isEmpty then []
  else
    [{ tag? := none
       content := String.ofList taken
       body := String.ofList taken
       offset := scan.offset
       bodyStart := scan.position
       start := scan.position
       stop := scan.position.advanced taken }]

/-- How long the body of a tag is that begins here, if it is closed. -/
def bodyLength? (scan : Scan) (delimiters : Delimiters) (tag : Tag) : Option Nat :=
  Text.firstOccurrence? (delimiters.closing tag) (scan.rest.drop (delimiters.opening tag).length)

/-- The tag that begins here and has a body of `length` characters. -/
def takeTag (scan : Scan) (delimiters : Delimiters) (tag : Tag) (length : Nat) : Token :=
  let opening := delimiters.opening tag
  let body := (scan.rest.drop opening.length).take length
  let bodyStart := scan.position.advanced opening
  { tag? := some tag
    content := String.ofList (opening ++ body ++ delimiters.closing tag)
    body := String.ofList body
    offset := scan.offset
    bodyStart := bodyStart
    start := scan.position
    stop := (bodyStart.advanced body).advanced (delimiters.closing tag) }

/-- The scan after the tag that begins here and has a body of `length` characters. -/
def skipTag (scan : Scan) (delimiters : Delimiters) (tag : Tag) (length : Nat) : Scan :=
  scan.skip ((delimiters.opening tag).length + length + (delimiters.closing tag).length)

/-- The tokens of the rest of the text. Every step takes a character, so as many steps as there
are characters are enough. -/
def tokens (delimiters : Delimiters) : Nat → Scan → Except ScanError (List Token)
  | 0, _ => .ok []
  | steps + 1, scan =>
    if scan.rest.isEmpty then .ok []
    else
      let scan := scan.lookAhead delimiters
      match scan.leftmost? with
      | none => .ok (scan.takeText scan.rest.length)
      | some (index, tag) =>
        let texts := scan.takeText (index - scan.index)
        let scan := scan.skip (index - scan.index)
        match scan.bodyLength? delimiters tag with
        | none => .error (.unclosed tag scan.position)
        | some length =>
          (tokens delimiters steps (scan.skipTag delimiters tag length)).map fun later =>
            texts ++ scan.takeTag delimiters tag length :: later

end Scan

/-- The tokens of a template text. -/
def tokenize (delimiters : Delimiters) (text : String) : Except ScanError (List Token) := do
  delimiters.check
  Scan.tokens delimiters (text.length + 1) (Scan.ofText text)

end Stencil
