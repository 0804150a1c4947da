import Stencil.Entries
import Stencil.Number.Reading
import Stencil.Number.Text
/-!
# Values

Template data has no fixed shape, so every evaluation step works on one closed type of values. The
coercions to truth, number and text are given here, once for the whole language.
-/

namespace Stencil

/-- A value of the template language. -/
inductive Value where
  /-- What the lookup of something absent gives. -/
  | undefined
  | null
  | bool (b : Bool)
  | number (x : Float)
  | string (s : String)
  | array (items : List Value)
  | object (entries : List (String × Value))
deriving Inhabited

namespace Value

/-- The name of a value's kind in messages. -/
def kind : Value → String
  | undefined => "undefined"
  | null => "null"
  | bool _ => "boolean"
  | number _ => "number"
  | string _ => "string"
  | array _ => "array"
  | object _ => "object"

/-- Whether a value stands for an absence. -/
def isNullish : Value → Bool
  | undefined => true
  | null => true
  | _ => false

def isNumber : Value → Bool
  | number _ => true
  | _ => false

/-- Truth in conditions. Absences, `false`, zero, the float that is no number, and whatever is
empty are false. -/
def truthy : Value → Bool
  | undefined => false
  | null => false
  | bool b => b
  | number x => !(x == 0.0) && !x.isNaN
  | string s => !s.isEmpty
  | array items => !items.isEmpty
  | object entries => !entries.isEmpty

/-- The number that a boolean stands for. -/
def ofBoolean (b : Bool) : Float := if b then 1.0 else 0.0

mutual

/-- The coercion to a number. An array of one element counts as that element. -/
def toNumber : Value → Float
  | undefined => Number.notANumber
  | null => 0.0
  | bool b => ofBoolean b
  | number x => x
  | string s => Number.ofText s
  | array items => toNumberOfItems items
  | object _ => Number.notANumber

/-- The coercion of an array with the given elements. -/
def toNumberOfItems : List Value → Float
  | [] => 0.0
  | [item] => toNumber item
  | _ :: _ :: _ => Number.notANumber

end

def objectText : String := "[object Object]"

mutual

/-- The text of a value. Absences have none, and arrays show their elements with commas between
them. -/
def text : Value → String
  | undefined => ""
  | null => ""
  | bool b => if b then "true" else "false"
  | number x => Number.text x
  | string s => s
  | array items => ",".intercalate (texts items)
  | object _ => objectText

/-- The texts of the elements of an array. -/
def texts : List Value → List String
  | [] => []
  | item :: rest => text item :: texts rest

end

theorem texts_eq_map (items : List Value) : texts items = items.map text := by
  induction items with
  | nil => rfl
  | cons item rest ih => simp [texts, ih]

/-- The text inside a string. -/
def string? : Value → Option String
  | string s => some s
  | _ => none

def number? : Value → Option Float
  | number x => some x
  | _ => none

def array? : Value → Option (List Value)
  | array items => some items
  | _ => none

def object? : Value → Option (Entries Value)
  | object entries => some entries
  | _ => none

/-- A count as a value. -/
def ofNat (n : Nat) : Value := number (Float.ofNat n)

/-- A text of one character as a value. -/
def ofChar (c : Char) : Value := string (String.singleton c)

end Value

end Stencil
