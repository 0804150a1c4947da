import Stencil.Value.Basic
/-!
# Equality and order of values

Strict equality compares like with like. Loose equality first brings its operands to numbers or
texts. The order compares texts with texts by their characters and everything else as numbers.
-/

namespace Stencil.Value

mutual

/-- Equal kind and equal contents. Objects are equal whatever the order of their keys, and the
float that is no number equals nothing. -/
def strictEq : Value → Value → Bool
  | undefined, undefined => true
  | null, null => true
  | bool a, bool b => a == b
  | number a, number b => a == b
  | string a, string b => a == b
  | array a, array b => itemsEq a b
  | object a, object b => a.length == b.length && entriesWithin a b
  | _, _ => false

/-- Strict equality element by element. -/
def itemsEq : List Value → List Value → Bool
  | [], [] => true
  | a :: as, b :: bs => strictEq a b && itemsEq as bs
  | _, _ => false

/-- Whether every entry has an equal one under its key in `others`. -/
def entriesWithin : List (String × Value) → List (String × Value) → Bool
  | [], _ => true
  | (key, value) :: rest, others =>
    (match Entries.find? others key with
      | some other => strictEq value other
      | none => false) && entriesWithin rest others

end

/-- How many steps a value is from a number or a text, which loose equality compares. -/
def coercions : Value → Nat
  | bool _ => 1
  | array _ => 1
  | object _ => 1
  | _ => 0

/-- Loose equality. Absences equal only each other, and two values with parts compare strictly.
Otherwise one operand at a time is coerced, truth values to numbers and values with parts to their
texts, and a text that meets a number is read as one. -/
def looseEq (a b : Value) : Bool :=
  if a.isNullish || b.isNullish then a.isNullish && b.isNullish
  else match a, b with
    | number x, number y => x == y
    | string s, string t => s == t
    | bool p, bool q => p == q
    | array items, array others => strictEq (array items) (array others)
    | array items, object others => strictEq (array items) (object others)
    | object entries, array others => strictEq (object entries) (array others)
    | object entries, object others => strictEq (object entries) (object others)
    | number x, string t => x == (string t).toNumber
    | string s, number y => (string s).toNumber == y
    | bool p, other => looseEq (number (bool p).toNumber) other
    | value, bool q => looseEq value (number (bool q).toNumber)
    | array items, other => looseEq (string (array items).text) other
    | object entries, other => looseEq (string (object entries).text) other
    | value, array others => looseEq value (string (array others).text)
    | value, object others => looseEq value (string (object others).text)
    | _, _ => false
termination_by a.coercions + b.coercions
decreasing_by all_goals simp only [coercions]; omega

/-- The order of two floats; none if one of them is no number. -/
def compareNumbers (a b : Float) : Option Ordering :=
  if a < b then some .lt
  else if a == b then some .eq
  else if b < a then some .gt
  else none

/-- The order used by relational operators and by sorting. -/
def compare? : Value → Value → Option Ordering
  | string a, string b => some (compare a b)
  | a, b => compareNumbers a.toNumber b.toNumber

end Stencil.Value
