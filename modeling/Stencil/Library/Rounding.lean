import Stencil.Library.Arguments
import Stencil.Number.Grouping
/-!
# Rounding and fixed places

Rounding gives a number, and the functions for fixed places a text.
-/

namespace Stencil.Rounding

/-- The largest integer at or below the value. -/
def floor : Body := .total fun value _ => .number (Number.floor value.toNumber)

/-- The smallest integer at or above the value. -/
def ceil : Body := .total fun value _ => .number (Number.ceil value.toNumber)

/-- The nearest integer; halves go up. -/
def nearest (x : Float) : Float := Number.floor (x + 0.5)

/-- The furthest place from the point that a number is rounded to. -/
def furthestPlace : Int := 15

def powerOfTen (exponent : Nat) : Float := Float.ofNat (Nat.pow 10 exponent)

/-- Rounds to a place after the point, or before it if `place` is negative. -/
def toPlace (place : Int) (x : Float) : Float :=
  let scale := powerOfTen place.natAbs
  if 0 ≤ place then nearest (x * scale) / scale else nearest (x / scale) * scale

/-- Rounds to the place that the argument names. -/
def round : Body := fun value args => do
  let place ← args.integerOr "round" 0 0
  .ok (.number (toPlace (max (-furthestPlace) (min furthestPlace place)) value.toNumber))

/-- The largest number of places that can be asked for. -/
def maxPlaces : Int := 20

/-- The number of places that the first argument names. -/
def places (function : String) (args : Arguments) : Except FunctionError Nat := do
  let count ← args.integerOr function 0 0
  if 0 ≤ count ∧ count ≤ maxPlaces then .ok count.toNat else .error ⟨function, .badPlaces⟩

/-- The value with a fixed number of places. -/
def toFixed : Body := fun value args => do
  let count ← places "toFixed" args
  .ok (.string (Number.fixed value.toNumber count))

/-- The value as a percentage with a fixed number of places. -/
def percent : Body := fun value args => do
  let count ← places "percent" args
  .ok (.string (Number.fixed (value.toNumber * 100.0) count ++ "%"))

/-- The text of a number with a fixed number of places, with groups in its whole part. The sign is
left out if nothing but zeros is left. -/
def grouped (x : Float) (count : Nat) (thousands point : String) : String :=
  let digits := (Number.fixed x.abs count).toList
  let whole := digits.takeWhile (· != '.')
  let fraction := (digits.dropWhile (· != '.')).drop 1
  let negative := x < 0.0 && digits.any fun digit => digit.isDigit && digit != '0'
  Number.signed negative
    (String.ofList (Number.groupThousands thousands.toList whole) ++
      if fraction.isEmpty then "" else point ++ String.ofList fraction)

/-- The value with groups of three digits and a fixed number of places. -/
def formatNumber : Body := fun value args =>
  let x := value.toNumber
  if x.isFinite then do
    let count ← places "formatNumber" args
    .ok (.string (grouped x count (args.textOr 1 ",") (args.textOr 2 ".")))
  else .ok (.string (Number.text x))

end Stencil.Rounding
