import Stencil.Calendar.Instant
import Stencil.Number.Reading
import Stencil.Text.Blank
/-!
# Reading instants

An instant is written as a count of milliseconds, in the form with an offset that the Internet uses,
or as a date with or without a time of day. Each step reads from the front of a text and gives what
it has read with what is left.
-/

namespace Stencil.Calendar

/-- Reads one given character. -/
def readChar? (expected : Char) : List Char → Option (List Char)
  | [] => none
  | c :: rest => if c = expected then some rest else none

/-- Reads as many digits as there are, at least `least` and at most `most`. -/
def readDigits? (least most : Nat) (text : List Char) : Option (List Char × List Char) :=
  let digits := (text.take most).takeWhile Char.isDigit
  if least ≤ digits.length then some (digits, text.drop digits.length) else none

/-- Reads a number of at least `least` and at most `most` digits. -/
def readNumber? (least most : Nat) (text : List Char) : Option (Nat × List Char) :=
  (readDigits? least most text).map fun (digits, rest) => (Number.digitsValue digits, rest)

/-- Reads a fraction of a second in nanoseconds. Digits beyond the ninth do not count. -/
def readNanos? (text : List Char) : Option (Nat × List Char) :=
  (readDigits? 1 9 text).map fun (digits, rest) =>
    (Number.digitsValue digits * Nat.pow 10 (9 - digits.length), rest.dropWhile Char.isDigit)

/-- Reads a point with a fraction of a second after it, or nothing. -/
def readFraction? : List Char → Option (Nat × List Char)
  | '.' :: rest => readNanos? rest
  | text => some (0, text)

/-- The instant at a time of a day. The second 60 is a leap second and extends the one before it. -/
def instantAt? (date : Date) (hour minute second nano : Nat) : Option Instant :=
  if 23 < hour ∨ 59 < minute ∨ 60 < second then none
  else
    let (second, nano) :=
      if second = 60 then (59, nano + Instant.nanosPerSecond) else (second, nano)
    some ⟨date.number, hour * 3600 + minute * 60 + second, nano⟩

/-- The same instant for a clock that shows `offset` seconds more than universal time. -/
def withoutOffset (offset : Int) (instant : Instant) : Instant :=
  let seconds := instant.timestamp - offset
  { instant with
    day := seconds / Instant.secondsPerDay
    second := (seconds % Instant.secondsPerDay).toNat }

/-- Reads hours, a colon and minutes of an offset in seconds. It is less than a day. -/
def readOffsetParts? (text : List Char) : Option (Nat × List Char) := do
  let (hours, rest) ← readNumber? 2 2 text
  let rest ← readChar? ':' rest
  let (minutes, rest) ← readNumber? 2 2 rest
  if 23 < hours ∨ 59 < minutes then none else some (hours * 3600 + minutes * 60, rest)

/-- Reads an offset from universal time in seconds. -/
def readOffset? : List Char → Option (Int × List Char)
  | [] => none
  | c :: rest =>
    if c = 'Z' ∨ c = 'z' then some (0, rest)
    else if c = '+' then (readOffsetParts? rest).map fun (seconds, rest) => (seconds, rest)
    else if c = '-' ∨ c = '−' then
      (readOffsetParts? rest).map fun (seconds, rest) => (-seconds, rest)
    else none

/-- Reads what separates a date from a time with an offset. -/
def readTimeMark? : List Char → Option (List Char)
  | [] => none
  | c :: rest => if c = 'T' ∨ c = 't' ∨ c = ' ' then some rest else none

/-- Reads an instant with an offset. Every field has its full width. -/
def readWithOffset? (text : List Char) : Option Instant := do
  let (year, rest) ← readNumber? 4 4 text
  let rest ← readChar? '-' rest
  let (month, rest) ← readNumber? 2 2 rest
  let rest ← readChar? '-' rest
  let (day, rest) ← readNumber? 2 2 rest
  let rest ← readTimeMark? rest
  let (hour, rest) ← readNumber? 2 2 rest
  let rest ← readChar? ':' rest
  let (minute, rest) ← readNumber? 2 2 rest
  let rest ← readChar? ':' rest
  let (second, rest) ← readNumber? 2 2 rest
  let (nano, rest) ← readFraction? rest
  let (offset, rest) ← readOffset? rest
  let date ← Date.ofParts? year month day
  let instant ← instantAt? date hour minute second nano
  if rest.isEmpty then some (withoutOffset offset instant) else none

/-- Reads a field of one or two digits after any white space. -/
def readField? (text : List Char) : Option (Nat × List Char) :=
  readNumber? 1 2 (Text.trimStart text)

/-- Reads a year after any white space. With a sign it may have any number of digits, and without
one it has at most four. -/
def readYear? (text : List Char) : Option (Int × List Char) :=
  match Text.trimStart text with
  | '-' :: rest => (readNumber? 1 rest.length rest).map fun (year, rest) => (-year, rest)
  | '+' :: rest => (readNumber? 1 rest.length rest).map fun (year, rest) => (year, rest)
  | rest => (readNumber? 1 4 rest).map fun (year, rest) => (year, rest)

/-- Reads a date with fields of any width. -/
def readDate? (text : List Char) : Option (Date × List Char) := do
  let (year, rest) ← readYear? text
  let rest ← readChar? '-' rest
  let (month, rest) ← readField? rest
  let rest ← readChar? '-' rest
  let (day, rest) ← readField? rest
  let date ← Date.ofParts? year month day
  some (date, rest)

/-- Reads a time of a day up to the end of the text. -/
def readTime? (date : Date) (text : List Char) : Option Instant := do
  let (hour, rest) ← readField? text
  let rest ← readChar? ':' rest
  let (minute, rest) ← readField? rest
  let rest ← readChar? ':' rest
  let (second, rest) ← readField? rest
  let (nano, rest) ← readFraction? rest
  if rest.isEmpty then instantAt? date hour minute second nano else none

/-- Reads a date and a time with a `T` between them. -/
def readMarked? (text : List Char) : Option Instant := do
  let (date, rest) ← readDate? text
  readTime? date (← readChar? 'T' rest)

/-- Reads a date and a time with any white space between them. -/
def readSpaced? (text : List Char) : Option Instant := do
  let (date, rest) ← readDate? text
  readTime? date rest

/-- Reads a date alone, which stands for its midnight. -/
def readMidnight? (text : List Char) : Option Instant := do
  let (date, rest) ← readDate? text
  if rest.isEmpty then some (Instant.midnight date.number) else none

/-- Reads a count of milliseconds of 64 bits. -/
def readMillis? (text : List Char) : Option Int :=
  let (negative, digits) := Number.splitSign text
  if digits.isEmpty || !digits.all Char.isDigit then none
  else
    let magnitude : Int := Number.digitsValue digits
    let millis := if negative then -magnitude else magnitude
    if Number.minInt64 ≤ millis ∧ millis ≤ Number.maxInt64 then some millis else none

/-- Reads an instant in any form but a count of milliseconds. -/
def readWritten? (text : List Char) : Option Instant :=
  readWithOffset? text <|> readMarked? text <|> readSpaced? text <|> readMidnight? text

end Stencil.Calendar
