import Stencil.Library.Arguments
import Stencil.Text.Search
import Stencil.Value.Compare
/-!
# Functions on sequences

Arrays are sequences of elements, and most of these functions take a text as the sequence of its
characters too.
-/

namespace Stencil.Sequence

/-- The number of elements, characters or keys; absences have none. -/
def length : Body := fun value _ =>
  match value with
  | .array items => .ok (.ofNat items.length)
  | .string s => .ok (.ofNat s.length)
  | .object entries => .ok (.ofNat entries.length)
  | .undefined => .ok (.ofNat 0)
  | .null => .ok (.ofNat 0)
  | other => .error ⟨"length", .noLength other.kind⟩

/-- A body that works alike on elements and on characters. -/
def onParts (function : String) (ofChars : List Char → Value) (ofItems : List Value → Value) :
    Body := fun value _ =>
  match value with
  | .string s => .ok (ofChars s.toList)
  | .array items => .ok (ofItems items)
  | other => .error ⟨function, .notArray other.kind⟩

/-- The first element or character. -/
def first : Body :=
  onParts "first" (fun chars => chars.head?.elim .undefined .ofChar)
    fun items => items.head?.getD .undefined

/-- The last element or character. -/
def last : Body :=
  onParts "last" (fun chars => chars.getLast?.elim .undefined .ofChar)
    fun items => items.getLast?.getD .undefined

/-- The elements or characters in reverse order. -/
def reverse : Body :=
  onParts "reverse" (fun chars => .string (String.ofList chars.reverse))
    fun items => .array items.reverse

/-- The texts of the elements with a separator between them. -/
def join : Body := .totalOnArray "join" fun items args =>
  .string ((args.textOr 0 ",").intercalate (items.map Value.text))

/-- Brings a position into `0 … length`. A negative one counts from the end. -/
def bounded (position : Int) (length : Nat) : Nat :=
  if position < 0 then (length + position).toNat else min position.toNat length

/-- The start and the end that the arguments name in a sequence. The end is never before the
start. -/
def bounds (args : Arguments) (length : Nat) : Except FunctionError (Nat × Nat) := do
  let start ← args.integerOr "slice" 0 0
  let stop ← args.integerOr "slice" 1 length
  .ok (bounded start length, max (bounded start length) (bounded stop length))

/-- The parts of a sequence from a start up to an end. -/
def between {α : Type} (parts : List α) (range : Nat × Nat) : List α :=
  (parts.drop range.1).take (range.2 - range.1)

/-- The elements or characters from a start up to an end. -/
def slice : Body := fun value args =>
  match value with
  | .string s =>
    (bounds args s.length).map fun range => .string (String.ofList (between s.toList range))
  | .array items => (bounds args items.length).map fun range => .array (between items range)
  | other => .error ⟨"slice", .notArray other.kind⟩

/-- The first elements. -/
def take : Body := .onArray "take" fun items args =>
  (args.integerOr "take" 0 0).map fun count => .array (items.take count.toNat)

/-- The elements of an element that is an array, and any other element by itself. -/
def unnested : Value → List Value
  | .array items => items
  | other => [other]

/-- Removes one level of nesting. -/
def flatten : Body := .totalOnArray "flatten" fun items _ => .array (items.flatMap unnested)

/-- Drops the elements that count as false. -/
def compact : Body := .totalOnArray "compact" fun items _ => .array (items.filter Value.truthy)

def containsText (s : String) (args : Arguments) : Bool :=
  args.given 0 && Text.occursIn (args.get 0).text.toList s.toList

/-- Whether an array has an element that is strictly equal to the first argument. -/
def hasItem (items : List Value) (args : Arguments) : Bool :=
  items.any fun item => item.strictEq (args.get 0)

/-- Whether an array has an element, or a text a part. -/
def includes : Body := fun value args =>
  match value with
  | .string s => .ok (.bool (containsText s args))
  | .array items => .ok (.bool (hasItem items args))
  | other => .error ⟨"includes", .notArray other.kind⟩

/-- The elements without those that are strictly equal to an earlier one. `kept` holds the elements
kept so far in reverse. -/
def uniqueFrom (kept : List Value) : List Value → List Value
  | [] => kept.reverse
  | item :: rest =>
    if kept.any fun earlier => earlier.strictEq item then uniqueFrom kept rest
    else uniqueFrom (item :: kept) rest

/-- Drops every element that is strictly equal to one before it. -/
def unique : Body := .totalOnArray "unique" fun items _ => .array (uniqueFrom [] items)

/-- The numbers from the value up to the first argument, or from zero up to the value if no
argument is given; the second argument is the distance between them. -/
def range : Body := fun value args => do
  let (start, stop) :=
    if args.given 0 then (value.toNumber, args.numberOr 0 0.0) else (0.0, value.toNumber)
  let step := args.numberOr 1 1.0
  if !start.isFinite || !stop.isFinite || !step.isFinite || step == 0.0 then
    .error ⟨"range", .badRange⟩
  else
    let steps := Number.ceil ((stop - start) / step)
    let count := if steps.isFinite then (Number.toInt steps).toNat
      else if 0.0 < steps then maxCount else 0
    checkGenerated "range" (min count maxCount)
    .ok (.array ((List.range count).map fun i => .number (start + Float.ofNat i * step)))

end Stencil.Sequence
