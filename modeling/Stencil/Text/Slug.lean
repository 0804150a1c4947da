import Stencil.Text.HanTable
import Stencil.Text.LatinTable
import Stencil.Text.Search
/-!
# Slugs

A slug is a form of a text for addresses: small Latin letters and digits, with single dashes where
anything else has been, and none at the ends.
-/

namespace Stencil.Text

/-- The form at a place of a list that is separated by blanks. -/
def formAt (forms : String) (index : Nat) : List Char :=
  let form := (splitOn [' '] forms.toList).getD index ['-']
  if form = ['~'] then [] else form

/-- The first Korean syllable that is written as one character. -/
def firstSyllable : Nat := 0xAC00

/-- The last Korean syllable that is written as one character. -/
def lastSyllable : Nat := 0xD7A3

/-- The Latin letters of a Korean syllable, which is numbered by its sounds. -/
def latinSyllable (number : Nat) : List Char :=
  let (first, middle, last) := koreanSounds
  formAt first (number / 588) ++ formAt middle (number / 28 % 21) ++ formAt last (number % 28)

/-- The Latin letters and digits for a character beyond ASCII. -/
def latinForm (c : Char) : List Char :=
  let n := c.toNat
  if firstSyllable ≤ n ∧ n ≤ lastSyllable then latinSyllable (n - firstSyllable)
  else
    match hanReadings.find? fun reading => reading.2.toList.contains c with
    | some (reading, _) => reading.toList ++ ['-']
    | none =>
      match latinRuns.find? fun run => run.1 ≤ n && n ≤ run.2.1 with
      | some (first, _, forms) => formAt forms (n - first)
      | none => ['-']

/-- What a character becomes in a slug, as long as several dashes in a row are allowed. -/
def slugForm (c : Char) : List Char :=
  if c.isAlphanum then [c.toLower]
  else if c.toNat < 128 then ['-']
  else latinForm c

/-- Adds a character to a slug, which is given in reverse. A dash is left out at the beginning and
after another dash. -/
def addToSlug (slug : List Char) (c : Char) : List Char :=
  if c = '-' ∧ (slug.isEmpty ∨ slug.head? = some '-') then slug else c :: slug

def slug (text : List Char) : List Char :=
  let reversed := (text.flatMap slugForm).foldl addToSlug []
  (if reversed.head? = some '-' then reversed.tail else reversed).reverse

end Stencil.Text
