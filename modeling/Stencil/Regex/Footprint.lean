import Stencil.Regex.Runs
import Stencil.Regex.Syntax
/-!
# How large patterns are

The size of a pattern is the memory of a machine that reads the bytes of a text, and is told before
the machine is built. A state counts 32 bytes, a run of bytes that it accepts 8, and a way on from a
fork 4. Beyond ASCII a set of characters becomes a tree of byte runs, in which sequences of bytes
that begin alike share their beginnings.
-/

namespace Stencil.Regex

def stateBytes : Nat := 32

/-- The bytes that a run of accepted bytes takes in a state. -/
def runBytes : Nat := 8

/-- The bytes that a way on from a fork takes. -/
def wayBytes : Nat := 4

namespace Run

/-- The sequences of byte runs that make the numbers from `low` to `high`. The first byte counts from
`mark`, and `later` bytes of six bits each follow. -/
def byteRuns (mark : Nat) : Nat → Nat → Nat → List (List Run)
  | 0, low, high => [[(mark + low, mark + high)]]
  | later + 1, low, high =>
    let block := Nat.pow 64 (later + 1)
    let single (lead low high : Nat) : List (List Run) :=
      (byteRuns 0x80 later low high).map ((mark + lead, mark + lead) :: ·)
    if low / block = high / block then single (low / block) (low % block) (high % block)
    else
      let first := if low % block = 0 then low / block else low / block + 1
      let afterLast := if high % block = block - 1 then high / block + 1 else high / block
      let whole : List Run :=
        (mark + first, mark + afterLast - 1) :: List.replicate (later + 1) (0x80, 0xBF)
      (if low % block = 0 then [] else single (low / block) (low % block) (block - 1)) ++
        (if first < afterLast then [whole] else []) ++
        (if high % block = block - 1 then [] else single (high / block) 0 (high % block))

/-- The code points whose encodings have the same number of bytes: the mark of the first byte, the
number of later bytes, the first and the last code point. Surrogates have no encoding. -/
def encodings : List (Nat × Nat × Run) :=
  [(0, 0, 0, 0x7F), (0xC0, 1, 0x80, 0x7FF), (0xE0, 2, 0x800, 0xD7FF), (0xE0, 2, 0xE000, 0xFFFF),
    (0xF0, 3, 0x10000, 0x10FFFF)]

/-- The sequences of byte runs that encode the characters of a run, in increasing order. -/
def encoded (run : Run) : List (List Run) :=
  encodings.flatMap fun (mark, later, first, last) =>
    let low := max first run.1
    let high := min last run.2
    if low ≤ high then byteRuns mark later low high else []

end Run

/-- How many items two lists have in common at their beginnings. -/
def sharedLength {α : Type} [DecidableEq α] : List α → List α → Nat
  | first :: firsts, second :: seconds =>
    if first = second then sharedLength firsts seconds + 1 else 0
  | _, _ => 0

/-- How many nodes a tree has whose branches are given in order. `previous` is the branch before. -/
def treeNodes {α : Type} [DecidableEq α] (previous : List α) : List (List α) → Nat
  | [] => 0
  | branch :: rest => branch.length - sharedLength previous branch + treeNodes branch rest

/-- The bytes for one of several characters. -/
def Run.classFootprint (runs : List Run) : Nat :=
  if runs.all fun run => run.2 < 0x80 then 2 * stateBytes + runBytes * runs.length
  else
    let branches := runs.flatMap Run.encoded
    2 * stateBytes + wayBytes * branches.length + stateBytes * treeNodes [] branches

/-- The bytes for a character out of runs. If there is only one, its bytes are read one by one. -/
def Run.footprint (runs : List Run) : Nat :=
  match runs with
  | [(first, last)] =>
    if first = last then stateBytes * (Char.ofNat first).utf8Size
    else Run.classFootprint runs
  | _ => Run.classFootprint runs

namespace Node

/-- The bytes for a repetition of a part with the given size. -/
def repeatedFootprint (least : Nat) (most : Option Nat) (nullable : Bool) (inner : Nat) : Nat :=
  let fork := stateBytes + 2 * wayBytes
  match least, most with
  | 0, none => if nullable then inner + 2 * fork + stateBytes else inner + fork
  | 0, some most => stateBytes + (if most = 1 then 0 else stateBytes) + most * (fork + inner)
  | least, none => least * inner + fork
  | least, some most =>
    least * inner +
      if least = most then 0 else stateBytes + (most - least) * (fork + inner)

/-- The set of a pattern that is nothing but a set. -/
def set? : Node → Option Charset
  | chars set => some set
  | _ => none

/-- The union of the sets of alternatives that are nothing but sets. -/
def commonSet? (nodes : List Node) : Option Charset :=
  (nodes.mapM set?).map fun sets => sets.foldl Charset.union Charset.empty

mutual

/-- The bytes for a pattern. -/
def footprint : Node → Nat
  | chars set => Run.footprint set.runs
  | look _ => stateBytes
  | capture _ inner => footprint inner + 2 * stateBytes
  | repetition least most _ inner =>
    repeatedFootprint least most inner.nullable (footprint inner)
  | sequence nodes => if nodes.isEmpty then stateBytes else totalFootprint nodes
  | alternatives nodes =>
    match commonSet? nodes with
    | some set => Run.footprint set.runs
    | none => 2 * stateBytes + wayBytes * nodes.length + totalFootprint nodes

/-- The bytes for several patterns together. -/
def totalFootprint : List Node → Nat
  | [] => 0
  | node :: rest => footprint node + totalFootprint rest

end

end Node

/-- The bytes for what comes around a pattern: the loop that looks for the place of a match, the notes
of its beginning and its end, and the end of the machine. -/
def frameBytes : Nat := 3 * stateBytes + runBytes + 2 * wayBytes + 2 * stateBytes + stateBytes

/-- The bytes for a whole pattern. -/
def Pattern.footprint (pattern : Pattern) : Nat := frameBytes + pattern.node.footprint

end Stencil.Regex
