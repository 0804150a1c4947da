/-!
# Searching in texts

Occurrences of one text in another, found from the left and never overlapping.
-/

namespace Stencil.Text

/-- The index of the first occurrence of `needle` in a text whose first character has the index
`index`. -/
def occurrenceFrom? (needle : List Char) (index : Nat) : List Char → Option Nat
  | [] => if needle.isEmpty then some index else none
  | c :: rest =>
    if needle.isPrefixOf (c :: rest) then some index else occurrenceFrom? needle (index + 1) rest

/-- The index of the first occurrence of `needle` in `text`. -/
def firstOccurrence? (needle text : List Char) : Option Nat := occurrenceFrom? needle 0 text

/-- Whether `needle` occurs in `text`. -/
def occursIn (needle text : List Char) : Bool := (firstOccurrence? needle text).isSome

/-- The pieces of a text between occurrences of a separator that is not empty. `pieces` holds the
pieces found so far and `piece` the characters of the current one, both in reverse, and `skip`
counts characters of a separator already found. -/
def splitLoop (separator : List Char) :
    Nat → List (List Char) → List Char → List Char → List (List Char)
  | _, pieces, piece, [] => (piece.reverse :: pieces).reverse
  | skip + 1, pieces, piece, _ :: rest => splitLoop separator skip pieces piece rest
  | 0, pieces, piece, c :: rest =>
    if separator.isPrefixOf (c :: rest) then
      splitLoop separator (separator.length - 1) (piece.reverse :: pieces) [] rest
    else splitLoop separator 0 pieces (c :: piece) rest

/-- The pieces of a text between the occurrences of a separator that is not empty. -/
def splitOn (separator text : List Char) : List (List Char) := splitLoop separator 0 [] [] text

/-- Puts `replacement` in the place of every occurrence of a text that is not empty. -/
def replaceAll (needle replacement text : List Char) : List Char :=
  (splitOn needle text).intersperse replacement |>.flatten

end Stencil.Text
