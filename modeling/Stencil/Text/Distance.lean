/-!
# Edit distance

The least number of insertions, deletions and replacements of single characters that turn one text
into another, computed row by row.
-/

namespace Stencil.Text

/-- The distances of a text extended by `c` from all beginnings of `other`. `row` holds those of the
text itself, `corner` the one before its head, and `left` the one just computed. -/
def nextDistances (c : Char) (corner left : Nat) : List Char → List Nat → List Nat
  | o :: other, above :: row =>
    let replaced := if c = o then corner else corner + 1
    let here := min (min (left + 1) (above + 1)) replaced
    here :: nextDistances c above here other row
  | _, _ => []

/-- The distances of a text from all beginnings of `other`, given those of a beginning of the text. -/
def distances (other : List Char) : List Nat → List Char → List Nat
  | row, [] => row
  | [], _ :: _ => []
  | corner :: row, c :: rest =>
    distances other ((corner + 1) :: nextDistances c corner (corner + 1) other row) rest

/-- The edit distance of two texts. -/
def editDistance (first second : String) : Nat :=
  let other := second.toList
  ((distances other (List.range (other.length + 1)) first.toList).getLast?).getD 0

end Stencil.Text
