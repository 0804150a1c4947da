import Stencil.Number.Decimal
/-!
# Texts of numbers

The three written forms of a float: the natural one, which never has an exponent, the one with a
fixed number of places, and the one of JSON documents.
-/

namespace Stencil.Number

/-- Writes `digits · 10 ^ exponent` without an exponent. -/
def positional (decimal : Decimal) : String :=
  if 0 ≤ decimal.exponent then Nat.repr (decimal.digits * Nat.pow 10 decimal.exponent.toNat)
  else Fixed.pointed decimal.digits (-decimal.exponent).toNat

/-- A minus in front of the texts of negative numbers. -/
def signed (negative : Bool) (text : String) : String :=
  if negative then "-" ++ text else text

/-- The natural text of a number. Integers below `10 ^ 21` are written exactly, other numbers with
the fewest digits that read back, and zero without its sign. -/
def text (x : Float) : String :=
  match Binary.ofFloat x with
  | .notANumber => "NaN"
  | .infinite negative => signed negative "Infinity"
  | .finite negative mantissa exponent =>
    if mantissa = 0 then "0"
    else if Binary.isWhole mantissa exponent && Binary.wholePart mantissa exponent < Nat.pow 10 21 then
      signed negative (Nat.repr (Binary.wholePart mantissa exponent))
    else signed negative (positional (Shortest.ofDyadic mantissa exponent))

/-- A finite number with exactly `places` places, and a minus whenever its sign bit is set.
A number that is not finite has its natural text. -/
def fixed (x : Float) (places : Nat) : String :=
  match Binary.ofFloat x with
  | .finite negative mantissa exponent =>
    signed negative (Fixed.pointed (Fixed.digits mantissa exponent places) places)
  | _ => text x

/-- How JSON documents write a finite number that is not kept as an integer: the shortest digits,
with at least one place, in positional notation for leading exponents from -5 to 15. -/
def jsonText (x : Float) : String :=
  match Binary.ofFloat x with
  | .finite negative mantissa exponent =>
    if mantissa = 0 then signed negative "0.0"
    else
      let decimal := Shortest.ofDyadic mantissa exponent
      let digits := Nat.repr decimal.digits
      let leading : Int := decimal.exponent + (digits.length - 1)
      if -5 ≤ leading ∧ leading ≤ 15 then
        if 0 ≤ decimal.exponent then signed negative (positional decimal ++ ".0")
        else signed negative (positional decimal)
      else
        let mantissaText :=
          if digits.length = 1 then digits
          else String.ofList (digits.toList.take 1 ++ '.' :: digits.toList.drop 1)
        let exponentText := (if leading < 0 then "e-" else "e+") ++ Nat.repr leading.natAbs
        signed negative (mantissaText ++ exponentText)
  | _ => "null"

end Stencil.Number
