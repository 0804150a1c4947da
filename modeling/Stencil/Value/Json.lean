import Stencil.Value.Basic
import Stencil.Json.Basic
/-!
# Values as JSON documents

Whatever JSON cannot hold becomes `null`: absences and numbers that are not finite.
-/

namespace Stencil.Value

/-- A number as a document. Integers of magnitude below nine quadrillions are kept as integers. -/
def numberToJson (x : Float) : Json :=
  if !x.isFinite then .null
  else if Number.isIntegral x && x.abs < 9.0e15 then .integer (Number.toInt x)
  else .float x

mutual

/-- The document of a value. -/
def toJson : Value → Json
  | undefined => .null
  | null => .null
  | bool b => .bool b
  | number x => numberToJson x
  | string s => .string s
  | array items => .array (itemsToJson items)
  | object entries => .object (entriesToJson entries)

/-- The documents of the elements of an array. -/
def itemsToJson : List Value → List Json
  | [] => []
  | item :: rest => toJson item :: itemsToJson rest

/-- The documents of the entries of an object. -/
def entriesToJson : List (String × Value) → List (String × Json)
  | [] => []
  | (key, value) :: rest => (key, toJson value) :: entriesToJson rest

end

mutual

/-- The value of a document. Of entries with the same key the last one counts. -/
def ofJson : Json → Value
  | .null => null
  | .bool b => bool b
  | .integer n => number (Float.ofInt n)
  | .float x => number x
  | .string s => string s
  | .array items => array (itemsOfJson items)
  | .object entries => object (Entries.ofList (entriesOfJson entries))

/-- The values of the elements of an array. -/
def itemsOfJson : List Json → List Value
  | [] => []
  | item :: rest => ofJson item :: itemsOfJson rest

/-- The values of the entries of an object. -/
def entriesOfJson : List (String × Json) → List (String × Value)
  | [] => []
  | (key, value) :: rest => (key, ofJson value) :: entriesOfJson rest

end

end Stencil.Value
