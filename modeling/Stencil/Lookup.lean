import Stencil.Value.Basic
/-!
# Single steps into values

Paths in queries and variables in templates move through data by these two steps only, so they
find the same things. What is not there is `undefined`.
-/

namespace Stencil.Lookup

/-- The number of positions a machine can count. -/
def positionLimit : Nat := Nat.pow 2 64

/-- The position that decimal digits denote, if a machine can count that far. -/
def digitsPosition? (digits : List Char) : Option Nat :=
  if digits.isEmpty || !digits.all Char.isDigit then none
  else if Number.digitsValue digits < positionLimit then some (Number.digitsValue digits)
  else none

/-- A position written as a name: decimal digits with an optional plus sign. -/
def position? (name : String) : Option Nat :=
  match name.toList with
  | '+' :: digits => digitsPosition? digits
  | digits => digitsPosition? digits

def element (items : List Value) (position : Option Nat) : Value :=
  (position.bind fun i => items[i]?).getD .undefined

/-- Reads a named property. Objects answer by key, arrays and texts answer `length`, and arrays
also take a position written as a name. -/
def property (value : Value) (name : String) : Value :=
  match value with
  | .object entries => (Entries.find? entries name).getD .undefined
  | .array items => if name = "length" then .ofNat items.length else element items (position? name)
  | .string s => if name = "length" then .ofNat s.length else .undefined
  | _ => .undefined

/-- A number that denotes a position: an integer from zero up. -/
def wholePosition? (x : Float) : Option Nat :=
  if 0.0 ≤ x ∧ Number.isIntegral x ∧ (Number.toInt x).toNat < positionLimit then
    some (Number.toInt x).toNat
  else none

/-- Reads a computed key. Numbers address elements and characters, and are names for objects. -/
def index (value key : Value) : Value :=
  match key with
  | .number x =>
    match value with
    | .array items => element items (wholePosition? x)
    | .string s => ((wholePosition? x).bind fun i => s.toList[i]?).elim .undefined .ofChar
    | _ => property value (Number.text x)
  | .string name => property value name
  | .bool b => property value (Value.bool b).text
  | _ => .undefined

end Stencil.Lookup
