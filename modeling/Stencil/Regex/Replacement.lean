import Stencil.Regex.Matching
/-!
# Replacing matches

A replacement is text in which a dollar sign refers to a capture, by its number or its name, with or
without braces around it. Two dollar signs stand for one.
-/

namespace Stencil.Regex

/-- The parts of a replacement. -/
inductive Insertion where
  | text (chars : List Char)
  /-- What the capture with a number or a name has matched. -/
  | capture (name : List Char)

/-- Whether a character may stand in a reference without braces. -/
def isReferenceChar (c : Char) : Bool := c.isAlphanum || c == '_'

/-- A reference to a capture after a dollar sign, and how many characters it takes. -/
def referenceAt? : List Char → Option (List Char × Nat)
  | '\x7b' :: rest =>
    let name := rest.takeWhile (· != '\x7d')
    if name.length < rest.length then some (name, name.length + 2) else none
  | text =>
    let name := text.takeWhile isReferenceChar
    if name.isEmpty then none else some (name, name.length)

def readReplacement : List Char → List Insertion
  | [] => []
  | c :: rest =>
    if c ≠ '$' then .text [c] :: readReplacement rest
    else if rest.head? = some '$' then .text ['$'] :: readReplacement (rest.drop 1)
    else
      match referenceAt? rest with
      | some (name, length) => .capture name :: readReplacement (rest.drop length)
      | none => .text ['$'] :: readReplacement rest
termination_by text => text.length
decreasing_by
  all_goals simp only [List.length_drop, List.length_cons]
  all_goals omega

/-- The number of the capture that a reference names. -/
def captureNumber? (matcher : Matcher) (name : List Char) : Option Nat :=
  let digits := match name with
    | '+' :: rest => rest
    | _ => name
  if digits.isEmpty || !digits.all Char.isDigit then matcher.names.lookup (String.ofList name)
  else some (Number.digitsValue digits)

/-- What a capture has matched; nothing if it has not taken part in the match. -/
def captured (text : Array Char) (found : Match) (number : Nat) : List Char :=
  match found.slots.getD (2 * number) none, found.slots.getD (2 * number + 1) none with
  | some start, some stop => (text.extract start stop).toList
  | _, _ => []

/-- What is put in the place of a match. -/
def inserted (matcher : Matcher) (text : Array Char) (found : Match) (parts : List Insertion) :
    List Char :=
  parts.flatMap fun part =>
    match part with
    | .text chars => chars
    | .capture name => ((captureNumber? matcher name).map (captured text found)).getD []

/-- A text under replacement: the new text so far, in reverse, and the end of the last match. -/
structure Replaced where
  reversed : List Char := []
  place : Nat := 0

/-- Puts a text in the place of every match. -/
def replaceAll (matcher : Matcher) (replacement text : List Char) : List Char :=
  let parts := readReplacement replacement
  let chars := text.toArray
  let replaced := (matcher.matches text).foldl
    (fun (replaced : Replaced) found =>
      let kept := (chars.extract replaced.place found.start).toList
      { reversed := (inserted matcher chars found parts).reverse ++ (kept.reverse ++ replaced.reversed)
        place := found.stop }) {}
  replaced.reversed.reverse ++ (chars.extract replaced.place chars.size).toList

end Stencil.Regex
