import Stencil.Number.Binary
/-!
# Decimal digits of exact values

Two ways to write a dyadic value `mantissa · 2 ^ exponent` in decimal. `Shortest` picks the fewest
digits that still read back as the same float. `Fixed` rounds to a given number of places, and a
tie goes to the even neighbour.
-/

namespace Stencil

/-- A positive ratio of naturals. -/
structure Ratio where
  numerator : Nat
  denominator : Nat

namespace Ratio

/-- The ratio `mantissa · 2 ^ exponent`. -/
def ofDyadic (mantissa : Nat) (exponent : Int) : Ratio :=
  if 0 ≤ exponent then ⟨mantissa * Nat.pow 2 exponent.toNat, 1⟩ else ⟨mantissa, Nat.pow 2 (-exponent).toNat⟩

/-- The ratio times `10 ^ exponent`. -/
def scaleTen (ratio : Ratio) (exponent : Int) : Ratio :=
  if 0 ≤ exponent then ⟨ratio.numerator * Nat.pow 10 exponent.toNat, ratio.denominator⟩
  else ⟨ratio.numerator, ratio.denominator * Nat.pow 10 (-exponent).toNat⟩

/-- The integer part. -/
def floor (ratio : Ratio) : Nat := ratio.numerator / ratio.denominator

/-- Comparison with a natural number. -/
def compareNat (ratio : Ratio) (n : Nat) : Ordering :=
  compare ratio.numerator (n * ratio.denominator)

/-- The nearest natural number, the even one of two equally near. -/
def roundHalfEven (ratio : Ratio) : Nat :=
  let quotient := ratio.numerator / ratio.denominator
  let rest := ratio.numerator % ratio.denominator
  match compare (2 * rest) ratio.denominator with
  | .lt => quotient
  | .gt => quotient + 1
  | .eq => if quotient % 2 = 0 then quotient else quotient + 1

/-- The exponent of the leading decimal digit: the `e` with `10 ^ e ≤ ratio < 10 ^ (e + 1)`. -/
def leadingExponent (ratio : Ratio) : Int :=
  if ratio.denominator ≤ ratio.numerator then
    (Nat.repr ratio.floor).length - 1
  else
    let places := (Nat.repr (ratio.denominator / ratio.numerator)).length
    if ratio.denominator ≤ ratio.numerator * Nat.pow 10 (places - 1) then -(places - 1 : Int)
    else -(places : Int)

end Ratio

/-- A decimal `digits · 10 ^ exponent`. -/
structure Decimal where
  digits : Nat
  exponent : Int
deriving DecidableEq

namespace Decimal

/-- Moves trailing zeros of the digits into the exponent, at most `fuel` of them. -/
def dropZeros : Nat → Decimal → Decimal
  | 0, decimal => decimal
  | fuel + 1, decimal =>
    if decimal.digits ≠ 0 ∧ decimal.digits % 10 = 0 then
      dropZeros fuel ⟨decimal.digits / 10, decimal.exponent + 1⟩
    else decimal

end Decimal

namespace Shortest

/-- The reals that round to one float: those between two bounds, which belong to it exactly when
its mantissa is even. -/
structure Interval where
  value : Ratio
  lower : Ratio
  upper : Ratio
  closed : Bool

/-- The interval of `mantissa · 2 ^ exponent`. The gap below a power of two is half the gap above
it, except at the bottom of the exponent range. -/
def Interval.ofDyadic (mantissa : Nat) (exponent : Int) : Interval :=
  let below := if mantissa = Nat.pow 2 52 ∧ exponent ≠ -1074 then 1 else 2
  { value := Ratio.ofDyadic mantissa exponent
    lower := Ratio.ofDyadic (4 * mantissa - below) (exponent - 2)
    upper := Ratio.ofDyadic (4 * mantissa + 2) (exponent - 2)
    closed := mantissa % 2 == 0 }

/-- Whether `digits · 10 ^ exponent` lies in the interval. -/
def Interval.holds (interval : Interval) (digits : Nat) (exponent : Int) : Bool :=
  let low := (interval.lower.scaleTen (-exponent)).compareNat digits
  let high := (interval.upper.scaleTen (-exponent)).compareNat digits
  (low == .lt || (interval.closed && low == .eq)) && (high == .gt || (interval.closed && high == .eq))

/-- Of the two neighbours of the value on the grid of multiples of `10 ^ exponent`, one that lies
in the interval: the nearer if both do, the upper one on a tie. -/
def Interval.neighbour? (interval : Interval) (exponent : Int) : Option Decimal :=
  let scaled := interval.value.scaleTen (-exponent)
  let digits := scaled.floor
  match interval.holds digits exponent, interval.holds (digits + 1) exponent with
  | false, false => none
  | true, false => some ⟨digits, exponent⟩
  | false, true => some ⟨digits + 1, exponent⟩
  | true, true =>
    if 2 * (scaled.numerator % scaled.denominator) < scaled.denominator then some ⟨digits, exponent⟩
    else some ⟨digits + 1, exponent⟩

/-- The shortest decimal that reads back as the positive float `mantissa · 2 ^ exponent`. Seventeen
digits always suffice. -/
def ofDyadic (mantissa : Nat) (exponent : Int) : Decimal :=
  let interval := Interval.ofDyadic mantissa exponent
  let leading := interval.value.leadingExponent
  match (List.range 17).findSome? (fun (count : Nat) => interval.neighbour? (leading - count)) with
  | some decimal => decimal.dropZeros 18
  | none => ⟨0, 0⟩

end Shortest

namespace Fixed

/-- Digits with a point before the last `places` of them, at least one digit before the point. -/
def pointed (digits : Nat) (places : Nat) : String :=
  let text := (Nat.toDigits 10 digits).leftpad (places + 1) '0'
  if places = 0 then String.ofList text
  else
    let whole := text.length - places
    String.ofList (text.take whole ++ '.' :: text.drop whole)

/-- The digits of `mantissa · 2 ^ exponent` rounded to `places` places, as a multiple of
`10 ^ -places`. -/
def digits (mantissa : Nat) (exponent : Int) (places : Nat) : Nat :=
  ((Ratio.ofDyadic mantissa exponent).scaleTen places).roundHalfEven

end Fixed

end Stencil
