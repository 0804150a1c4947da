import Stencil.Regex.FoldTable
import Stencil.Regex.WordTable
import Stencil.Text.Alphanumeric
import Stencil.Text.Blank
import Stencil.Text.Case
/-!
# Sets of characters

What one place of a pattern can match. Membership is decided by looking at how the set was written.
-/

namespace Stencil.Regex

/-- The form that stands for all forms of a letter that differ in case only. -/
def folded (c : Char) : Char :=
  if c.toNat < 128 then c.toLower
  else
    match foldRuns.find? fun run => run.holds c.toNat with
    | some run => Char.ofNat (run.moved c.toNat)
    | none => c

/-- The code point that a run moves to a given one. -/
def sourceIn? (run : Text.CaseRun) (n : Nat) : Option Nat :=
  let source := (n - run.shift).toNat
  if run.holds source then some source else none

/-- All forms of a letter that differ from it in case only, itself included. -/
def variants (c : Char) : List Char :=
  let representative := folded c
  representative :: representative.toUpper ::
    (foldRuns.filterMap fun run => sourceIn? run representative.toNat).map Char.ofNat

/-- Whether a character belongs to a word. -/
def isWordChar (c : Char) : Bool :=
  if c.toNat < 128 then c.isAlphanum || c == '_' else Text.inRanges wordRanges c.toNat

/-- Whether a character is a decimal digit. -/
def isDecimal (c : Char) : Bool := Text.inRanges digitRanges c.toNat

/-- Whether an ASCII character belongs to a word. -/
def isAsciiWordChar (c : Char) : Bool := c.isAlphanum || c == '_'

/-- Whether an ASCII character is white space. -/
def isAsciiBlank (c : Char) : Bool := c.toNat < 128 && Text.isBlank c

/-- The classes that have a letter of their own. -/
inductive LetterClass where
  | digit
  | space
  | word
deriving DecidableEq

/-- Whether a character is in a class, among all characters or among those of ASCII. -/
def LetterClass.holds (unicode : Bool) (c : Char) : LetterClass → Bool
  | digit => if unicode then isDecimal c else c.isDigit
  | space => if unicode then Text.isBlank c else isAsciiBlank c
  | word => if unicode then isWordChar c else isAsciiWordChar c

/-- Sets of characters as patterns write them. -/
inductive Charset where
  | ranges (runs : List (Nat × Nat))
  | letterClass (name : LetterClass) (unicode : Bool)
  | negation (set : Charset)
  | union (left right : Charset)
  | intersection (left right : Charset)
  | difference (left right : Charset)
  | symmetricDifference (left right : Charset)
  /-- The characters with a form in the set that differs in case only. -/
  | ignoringCase (set : Charset)
deriving Inhabited

namespace Charset

/-- Whether a character is in a set. -/
def holds (c : Char) : Charset → Bool
  | ranges runs => Text.inRanges runs c.toNat
  | letterClass name unicode => name.holds unicode c
  | negation set => !set.holds c
  | union left right => left.holds c || right.holds c
  | intersection left right => left.holds c && right.holds c
  | difference left right => left.holds c && !right.holds c
  | symmetricDifference left right => left.holds c != right.holds c
  | ignoringCase set => (variants c).any fun variant => set.holds variant

/-- The set without any character. -/
def empty : Charset := ranges []

/-- The set of all characters. -/
def full : Charset := ranges [(0, 0x10FFFF)]

/-- The set of one character. -/
def single (c : Char) : Charset := ranges [(c.toNat, c.toNat)]

/-- The set of the characters from one to another. -/
def between (first last : Char) : Charset := ranges [(first.toNat, last.toNat)]

/-- All characters but the given ones. -/
def allBut (chars : List Char) : Charset :=
  negation (ranges (chars.map fun c => (c.toNat, c.toNat)))

end Charset

end Stencil.Regex
