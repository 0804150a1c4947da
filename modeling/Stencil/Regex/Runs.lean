import Stencil.Regex.Charset
/-!
# Sets of characters as runs

A set of characters can also be given by its runs of code points, in increasing order and with a gap
between any two of them.
-/

namespace Stencil.Regex

/-- A run of code points: the first and the last. -/
abbrev Run := Nat × Nat

/-- The white space of Unicode. -/
def blankRuns : List Run :=
  [(0x9, 0xD), (0x20, 0x20), (0x85, 0x85), (0xA0, 0xA0), (0x1680, 0x1680), (0x2000, 0x200A),
    (0x2028, 0x2029), (0x202F, 0x202F), (0x205F, 0x205F), (0x3000, 0x3000)]

/-- The runs of a class that has a letter of its own. -/
def LetterClass.runs (unicode : Bool) : LetterClass → List Run
  | digit => if unicode then digitRanges else [(0x30, 0x39)]
  | space => if unicode then blankRuns else [(0x9, 0xD), (0x20, 0x20)]
  | word => if unicode then wordRanges else [(0x30, 0x39), (0x41, 0x5A), (0x5F, 0x5F), (0x61, 0x7A)]

namespace Run

/-- Puts a run in front of runs of which none begins before it, and joins it with those it touches. -/
def cons (run : Run) : List Run → List Run
  | [] => [run]
  | next :: rest =>
    if next.1 ≤ run.2 + 1 then cons (run.1, max run.2 next.2) rest else run :: next :: rest

/-- Runs in any order as runs in order that do not touch. -/
def joined (runs : List Run) : List Run :=
  (runs.mergeSort fun first second => first.1 ≤ second.1).foldr cons []

/-- The runs between given ones, from a code point on. -/
def gapsFrom (first : Nat) : List Run → List Run
  | [] => if first ≤ 0x10FFFF then [(first, 0x10FFFF)] else []
  | run :: rest =>
    (if first < run.1 then [(first, run.1 - 1)] else []) ++ gapsFrom (run.2 + 1) rest

/-- The runs between given ones. -/
def gaps (runs : List Run) : List Run := gapsFrom 0 runs

/-- What two sets have in common. -/
def shared (first second : List Run) : List Run := gaps (joined (gaps first ++ gaps second))

/-- How many code points there are in runs. -/
def count (runs : List Run) : Nat := runs.foldl (fun sum run => sum + (run.2 + 1 - run.1)) 0

/-- The code points of runs one by one. -/
def points (runs : List Run) : List Nat :=
  runs.flatMap fun run => List.range' run.1 (run.2 + 1 - run.1)

/-- Adds the letters that differ from those of a set in case only. A set of more than 4096 characters
is left as it is. -/
def withVariants (runs : List Run) : List Run :=
  if 4096 < count runs then runs
  else
    joined ((points runs).flatMap fun n =>
      (variants (Char.ofNat n)).map fun c => (c.toNat, c.toNat))

end Run

def Charset.runs : Charset → List Run
  | ranges runs => Run.joined runs
  | letterClass name unicode => name.runs unicode
  | negation set => Run.gaps set.runs
  | union left right => Run.joined (left.runs ++ right.runs)
  | intersection left right => Run.shared left.runs right.runs
  | difference left right => Run.shared left.runs (Run.gaps right.runs)
  | symmetricDifference left right =>
    Run.joined (Run.shared left.runs (Run.gaps right.runs) ++
      Run.shared right.runs (Run.gaps left.runs))
  | ignoringCase set => Run.withVariants set.runs

end Stencil.Regex
