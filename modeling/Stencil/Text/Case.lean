import Stencil.Text.Alphanumeric
import Stencil.Text.CaseTable
import Stencil.Text.CasedTable
/-!
# Letter case

The capital and the small form of a character may be several characters. In a whole text the sigma
at the end of a word has a small form of its own.
-/

namespace Stencil.Text

namespace CaseRun

/-- Whether a code point is in a run. -/
def holds (run : CaseRun) (n : Nat) : Bool :=
  run.first ≤ n && n ≤ run.last && (n - run.first) % run.step == 0

/-- The code point that the run makes of one in it. -/
def moved (run : CaseRun) (n : Nat) : Nat := (n + run.shift).toNat

end CaseRun

/-- The form of a character by a table of sequences and one of runs. A character in neither table
keeps its form. -/
def formOf (sequences : List (Nat × List Nat)) (runs : List CaseRun) (c : Char) : List Char :=
  match sequences.lookup c.toNat with
  | some codes => codes.map Char.ofNat
  | none =>
    match runs.find? fun run => run.holds c.toNat with
    | some run => [Char.ofNat (run.moved c.toNat)]
    | none => [c]

def capitalForm (c : Char) : List Char :=
  if c.toNat < 128 then [c.toUpper] else formOf capitalSequences capitalRuns c

/-- The small form of a character by itself. -/
def smallForm (c : Char) : List Char :=
  if c.toNat < 128 then [c.toLower] else formOf smallSequences smallRuns c

/-- Whether a character has case. -/
def isCased (c : Char) : Bool := inRanges casedRanges c.toNat

/-- Whether a character is passed over when the end of a word is looked for. -/
def isCaseIgnorable (c : Char) : Bool := inRanges caseIgnorableRanges c.toNat

/-- Whether the next character that counts has case. -/
def startsCased (text : List Char) : Bool := (text.dropWhile isCaseIgnorable).head?.any isCased

/-- Whether a position is the end of a word. `before` is the text before it, in reverse. -/
def endsWord (before after : List Char) : Bool := startsCased before && !startsCased after

/-- The small form of a character inside a text. -/
def smallFormWithin (before : List Char) (c : Char) (after : List Char) : List Char :=
  if c = 'Σ' then if endsWord before after then ['ς'] else ['σ'] else smallForm c

/-- Small forms from a position on. What is before it, and what has been made of that, is given in
reverse. -/
def smallFrom (before done : List Char) : List Char → List Char
  | [] => done.reverse
  | c :: rest => smallFrom (c :: before) ((smallFormWithin before c rest).reverse ++ done) rest

def capitals (text : List Char) : List Char := text.flatMap capitalForm

def smallLetters (text : List Char) : List Char := smallFrom [] [] text

/-- A text whose first character is a capital and whose others are small. -/
def capitalized : List Char → List Char
  | [] => []
  | c :: rest => capitalForm c ++ rest.flatMap smallForm

end Stencil.Text
