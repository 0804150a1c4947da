/-!
# Exact values of floating-point numbers

A `Float` is read as a sign, a natural mantissa and a power of two, so that truncation, rounding
and remainders are exact integer arithmetic. Results that are numbers again are built from
integers and powers of ten or two, each of which rounds to the nearest float.
-/

namespace Stencil

/-- What a float denotes. A finite one is `± mantissa · 2 ^ exponent`. -/
inductive Binary where
  | notANumber
  | infinite (negative : Bool)
  | finite (negative : Bool) (mantissa : Nat) (exponent : Int)
deriving DecidableEq, Inhabited

namespace Binary

/-- Reads the sign, exponent and fraction fields of a float's 64 bits. -/
def ofFloat (x : Float) : Binary :=
  let bits : Nat := x.toBits.toNat
  let negative := bits / Nat.pow 2 63 == 1
  let biased : Nat := bits / Nat.pow 2 52 % Nat.pow 2 11
  let fraction : Nat := bits % Nat.pow 2 52
  if biased = 2047 then
    if fraction = 0 then infinite negative else notANumber
  else if biased = 0 then finite negative fraction (-1074)
  else finite negative (Nat.pow 2 52 + fraction) (biased - 1075)

/-- The integer part of `mantissa · 2 ^ exponent`. -/
def wholePart (mantissa : Nat) (exponent : Int) : Nat :=
  if 0 ≤ exponent then mantissa * Nat.pow 2 exponent.toNat else mantissa / Nat.pow 2 (-exponent).toNat

/-- Whether `mantissa · 2 ^ exponent` is an integer. -/
def isWhole (mantissa : Nat) (exponent : Int) : Bool :=
  0 ≤ exponent || mantissa % Nat.pow 2 (-exponent).toNat == 0

end Binary

namespace Number

/-- The float that stands for no number. -/
def notANumber : Float := 0.0 / 0.0

def infinity : Float := 1.0 / 0.0

/-- Whether the sign bit is set; true for negative zero. -/
def isNegative (x : Float) : Bool :=
  match Binary.ofFloat x with
  | .notANumber => false
  | .infinite negative => negative
  | .finite negative _ _ => negative

/-- Whether a float is a finite integer. -/
def isIntegral (x : Float) : Bool :=
  match Binary.ofFloat x with
  | .finite _ mantissa exponent => Binary.isWhole mantissa exponent
  | _ => false

/-- The integer nearest to zero among those between zero and a finite float, both included;
zero for the other floats. -/
def toInt (x : Float) : Int :=
  match Binary.ofFloat x with
  | .finite negative mantissa exponent =>
    let whole : Int := Binary.wholePart mantissa exponent
    if negative then -whole else whole
  | _ => 0

/-- Gives a magnitude the sign of `x`, so that zero keeps the sign too. -/
private def withSignOf (x magnitude : Float) : Float :=
  if isNegative x then -magnitude else magnitude

/-- Drops the fraction. -/
def truncate (x : Float) : Float :=
  match Binary.ofFloat x with
  | .finite _ mantissa exponent => withSignOf x (Float.ofNat (Binary.wholePart mantissa exponent))
  | _ => x

/-- The largest integer at or below a float. -/
def floor (x : Float) : Float :=
  match Binary.ofFloat x with
  | .finite negative mantissa exponent =>
    let whole := Binary.wholePart mantissa exponent
    if Binary.isWhole mantissa exponent then x
    else if negative then -Float.ofNat (whole + 1)
    else Float.ofNat whole
  | _ => x

/-- The smallest integer at or above a float; negative zero just below zero. -/
def ceil (x : Float) : Float :=
  match Binary.ofFloat x with
  | .finite negative mantissa exponent =>
    let whole := Binary.wholePart mantissa exponent
    if Binary.isWhole mantissa exponent then x
    else if negative then -Float.ofNat whole
    else Float.ofNat (whole + 1)
  | _ => x

/-- The float nearest to `mantissa · 2 ^ exponent`. A negative power of two is written as a power
of ten: `2 ^ -k = 5 ^ k · 10 ^ -k`. -/
def ofDyadic (mantissa : Nat) (exponent : Int) : Float :=
  if 0 ≤ exponent then Float.ofNat (mantissa * Nat.pow 2 exponent.toNat)
  else
    let places := (-exponent).toNat
    Float.ofScientific (mantissa * Nat.pow 5 places) true places

/-- The remainder of a division whose quotient is truncated. It has the sign of the dividend and
is always exact; there is none for an infinite dividend or a zero divisor. -/
def remainder (x y : Float) : Float :=
  match Binary.ofFloat x, Binary.ofFloat y with
  | .finite _ xMantissa xExponent, .finite _ yMantissa yExponent =>
    if yMantissa = 0 then notANumber
    else
      let exponent := min xExponent yExponent
      let dividend := xMantissa * Nat.pow 2 (xExponent - exponent).toNat
      let divisor := yMantissa * Nat.pow 2 (yExponent - exponent).toNat
      withSignOf x (ofDyadic (dividend % divisor) exponent)
  | .finite .., .infinite _ => x
  | _, _ => notANumber

/-- The largest 64-bit signed integer. -/
def maxInt64 : Int := Nat.pow 2 63 - 1

/-- The smallest 64-bit signed integer. -/
def minInt64 : Int := -(Nat.pow 2 63 : Nat)

/-- The integer part of a finite float, brought into the 64-bit signed range. -/
def toInt64 (x : Float) : Int :=
  max minInt64 (min maxInt64 (toInt x))

end Number

end Stencil
