import Stencil.Library.Arguments
/-!
# Arithmetic functions

The value and the arguments are read as numbers, so numeric texts can be calculated with.
-/

namespace Stencil.Arithmetic

/-- A body that calculates with the number of the value alone. -/
def onNumber (f : Float → Float) : Body := .total fun value _ => .number (f value.toNumber)

/-- A body that joins the numbers of the value and of the first argument. -/
def joining (f : Float → Float → Float) : Body := .total fun value args =>
  .number (f value.toNumber (args.get 0).toNumber)

def number : Body := onNumber id

/-- The absolute value. -/
def abs : Body := onNumber Float.abs

/-- The sum of the value and the argument. -/
def add : Body := joining (· + ·)

/-- The difference of the value and the argument. -/
def subtract : Body := joining (· - ·)

/-- The product of the value and the argument. -/
def multiply : Body := joining (· * ·)

/-- The power of the value with the argument as the exponent. -/
def power : Body := .total fun value args => .number (value.toNumber.pow (args.numberOr 0 1.0))

/-- The first argument as a divisor, which must be a number other than zero. -/
def divisor (function : String) (args : Arguments) : Except FunctionError Float :=
  let x := (args.get 0).toNumber
  if x == 0.0 || x.isNaN then .error ⟨function, .badDivisor (args.get 0).text⟩ else .ok x

/-- The quotient of the value and the argument. -/
def divide : Body := fun value args => do
  let d ← divisor "divide" args
  .ok (.number (value.toNumber / d))

/-- The remainder of the value divided by the argument, with the sign of the value. -/
def modulo : Body := fun value args => do
  let d ← divisor "mod" args
  .ok (.number (Number.remainder value.toNumber d))

/-- The smaller of two numbers. What is no number loses, and of equal ones the first is kept. -/
def smaller (a b : Float) : Float := if a.isNaN || b < a then b else a

/-- The larger of two numbers. What is no number loses, and of equal ones the first is kept. -/
def larger (a b : Float) : Float := if a.isNaN || a < b then b else a

/-- What an extremum is taken of: the elements of an array, or else the value and the arguments. -/
def candidates (value : Value) (args : Arguments) : List Float :=
  match value with
  | .array items => items.map Value.toNumber
  | other => (other :: args).map Value.toNumber

/-- A body that chooses one of several numbers. -/
def extremum (function : String) (choose : Float → Float → Float) : Body := fun value args =>
  match candidates value args with
  | [] => .error ⟨function, .nothingToCompare⟩
  | x :: rest => .ok (.number (rest.foldl choose x))

/-- The smallest number. -/
def min : Body := extremum "min" smaller

/-- The largest number. -/
def max : Body := extremum "max" larger

/-- The number nearest to `x` between two bounds. -/
def clamped (low high x : Float) : Float :=
  if x < low then low else if high < x then high else x

/-- Limits the value to the interval between the arguments. -/
def clamp : Body := fun value args =>
  let low := args.numberOr 0 (-Number.infinity)
  let high := args.numberOr 1 Number.infinity
  if low.isNaN || high.isNaN || high < low then
    .error ⟨"clamp", .emptyInterval low high⟩
  else .ok (.number (clamped low high value.toNumber))

end Stencil.Arithmetic
