import Stencil.Number.Binary
import Stencil.Text.Blank
/-!
# Reading numbers

The decimal grammar has an optional sign, digits with an optional point among or around them, and
an optional exponent. A coercion from text also takes surrounding white space, nothing at all,
infinities by name, and unsigned hexadecimal, octal and binary integers.
-/

namespace Stencil.Number

/-- The value of a run of decimal digits. -/
def digitsValue (digits : List Char) : Nat :=
  digits.foldl (fun value digit => 10 * value + (digit.toNat - '0'.toNat)) 0

/-- The digits at the front and what follows them. -/
def splitDigits (text : List Char) : List Char × List Char :=
  (text.takeWhile Char.isDigit, text.dropWhile Char.isDigit)

/-- An optional sign at the front: whether it is a minus, and what follows it. -/
def splitSign : List Char → Bool × List Char
  | '-' :: rest => (true, rest)
  | '+' :: rest => (false, rest)
  | text => (false, text)

/-- The float nearest to `digits · 10 ^ exponent`. -/
def ofDecimal (digits : Nat) (exponent : Int) : Float :=
  Float.ofScientific digits (exponent < 0) exponent.natAbs

/-- Reads an exponent mark with its digits, or nothing. -/
def readExponent? : List Char → Option Int
  | [] => some 0
  | mark :: rest =>
    if mark = 'e' ∨ mark = 'E' then
      let (negative, digits) := splitSign rest
      if digits.isEmpty || !digits.all Char.isDigit then none
      else if negative then some (-(digitsValue digits : Int))
      else some (digitsValue digits)
    else none

/-- Reads a decimal without its sign. There must be a digit before or after the point. -/
def readUnsigned? (text : List Char) : Option Float :=
  let (whole, afterWhole) := splitDigits text
  let (fraction, afterFraction) :=
    match afterWhole with
    | '.' :: rest => splitDigits rest
    | _ => ([], afterWhole)
  if whole.isEmpty && fraction.isEmpty then none
  else
    (readExponent? afterFraction).map fun exponent =>
      ofDecimal (digitsValue (whole ++ fraction)) (exponent - fraction.length)

/-- Reads a whole text as a decimal. -/
def readDecimal? (text : List Char) : Option Float :=
  let (negative, rest) := splitSign text
  (readUnsigned? rest).map fun x => if negative then -x else x

/-- The value of a digit in a radix of at most sixteen, in either case. -/
def digitIn? (radix : Nat) (digit : Char) : Option Nat :=
  let value :=
    if digit.isDigit then some (digit.toNat - '0'.toNat)
    else if 'a' ≤ digit ∧ digit ≤ 'f' then some (digit.toNat - 'a'.toNat + 10)
    else if 'A' ≤ digit ∧ digit ≤ 'F' then some (digit.toNat - 'A'.toNat + 10)
    else none
  value.filter (· < radix)

/-- Reads digits of a radix from the left in floating-point arithmetic. -/
def readRadix? (radix : Nat) (digits : List Char) : Option Float :=
  if digits.isEmpty then none
  else
    digits.foldlM (fun value digit =>
      (digitIn? radix digit).map fun d => value * Float.ofNat radix + Float.ofNat d) 0.0

/-- The radix that a two-character mark announces, and the digits after it. -/
def radixMark? : List Char → Option (Nat × List Char)
  | '0' :: mark :: digits =>
    if mark = 'x' ∨ mark = 'X' then some (16, digits)
    else if mark = 'o' ∨ mark = 'O' then some (8, digits)
    else if mark = 'b' ∨ mark = 'B' then some (2, digits)
    else none
  | _ => none

/-- An ASCII letter that no decimal contains. -/
def isForeignLetter (c : Char) : Bool := c.isAlpha && c != 'e' && c != 'E'

/-- The number that a text denotes under coercion, or no number. -/
def ofText (text : String) : Float :=
  let trimmed := Text.trim text.toList
  if trimmed.isEmpty then 0.0
  else
    match radixMark? trimmed with
    | some (radix, digits) => (readRadix? radix digits).getD notANumber
    | none =>
      if trimmed = "Infinity".toList ∨ trimmed = "+Infinity".toList then infinity
      else if trimmed = "-Infinity".toList then -infinity
      else if trimmed.any isForeignLetter then notANumber
      else (readDecimal? trimmed).getD notANumber

end Stencil.Number
