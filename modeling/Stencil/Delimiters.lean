import Stencil.Position
/-!
# Tags and their markers

Three kinds of tags stand in a template, each between two markers of its own. The markers can be
chosen freely, but none may be empty.
-/

namespace Stencil

/-- The kinds of tags, in the order that decides between markers at the same place. -/
inductive Tag where
  | statement
  | expression
  | comment
deriving DecidableEq, Inhabited

namespace Tag

/-- The name of a kind of tag in messages. -/
def name : Tag → String
  | statement => "statement"
  | expression => "expression"
  | comment => "comment"

/-- All kinds, the one that wins a tie first. -/
def all : List Tag := [statement, expression, comment]

end Tag

/-- The texts that open and close a tag. -/
structure Markers where
  opening : String
  closing : String
deriving DecidableEq, Inhabited

/-- The markers of all kinds of tags. -/
structure Delimiters where
  statement : Markers := ⟨"\x7b%", "%\x7d"⟩
  expression : Markers := ⟨"\x7b\x7b", "\x7d\x7d"⟩
  comment : Markers := ⟨"\x7b#", "#\x7d"⟩
deriving DecidableEq, Inhabited

/-- Why a text has no tokens. -/
inductive ScanError where
  /-- A tag begins at a place and nothing closes it. -/
  | unclosed (tag : Tag) (position : Position)
  /-- A marker of a kind of tag is empty. -/
  | emptyMarker (tag : Tag)
deriving DecidableEq, Inhabited

/-- What is said about a text that has no tokens. -/
def ScanError.message : ScanError → String
  | unclosed tag position =>
    "Unclosed " ++ tag.name ++ " delimiter opened at " ++ position.text
  | emptyMarker tag =>
    "Invalid delimiter configuration: " ++ tag.name ++ " delimiters must not be empty"

namespace Delimiters

/-- The markers of one kind of tag. -/
def markers (delimiters : Delimiters) : Tag → Markers
  | .statement => delimiters.statement
  | .expression => delimiters.expression
  | .comment => delimiters.comment

/-- The characters that open a kind of tag. -/
def opening (delimiters : Delimiters) (tag : Tag) : List Char :=
  (delimiters.markers tag).opening.toList

/-- The characters that close a kind of tag. -/
def closing (delimiters : Delimiters) (tag : Tag) : List Char :=
  (delimiters.markers tag).closing.toList

/-- Refuses empty markers, which would occur everywhere. -/
def check (delimiters : Delimiters) : Except ScanError Unit :=
  match Tag.all.find? fun tag =>
    (delimiters.opening tag).isEmpty || (delimiters.closing tag).isEmpty with
  | some tag => .error (.emptyMarker tag)
  | none => .ok ()

end Delimiters

end Stencil
