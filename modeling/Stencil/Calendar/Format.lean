import Stencil.Calendar.Instant
/-!
# Writing instants by a pattern

A pattern is text with fields in it. A field is a percent sign and a letter, with an optional mark
between them that says how a number is brought to its width. All instants are written for universal
time.
-/

namespace Stencil.Calendar

/-- How a number is brought to its width. -/
inductive Padding where
  | none
  | zero
  | space
deriving DecidableEq

/-- The numbers that can be written. -/
inductive NumberField where
  | year
  | century
  | yearOfCentury
  | weekYear
  | weekYearOfCentury
  | quarter
  | month
  | day
  | weekFromSunday
  | weekFromMonday
  | week
  | weekdayFromSunday
  | weekdayFromMonday
  | dayOfYear
  | hour
  | hourOfHalfDay
  | minute
  | second
  | nano
  | timestamp
deriving DecidableEq

/-- The parts of a pattern. -/
inductive Field where
  | literal (text : List Char)
  | number (field : NumberField) (padding : Padding)
  | monthName
  | monthShort
  | weekdayName
  | weekdayShort
  | halfDay (capital : Bool)
  /-- A fraction of a second with a fixed number of places. -/
  | places (count : Nat) (point : Bool)
  /-- A fraction of a second with three, six or nine places, or nothing if there is none. -/
  | fraction
  | zone
  /-- The offset from universal time, with colons between its parts. -/
  | offset (colons : Nat)
  /-- The form with an offset that the Internet uses. -/
  | full
deriving DecidableEq

def monthNames : List String :=
  ["January", "February", "March", "April", "May", "June", "July", "August", "September",
    "October", "November", "December"]

/-- The names of the days of the week from Sunday on. -/
def weekdayNames : List String :=
  ["Sunday", "Monday", "Tuesday", "Wednesday", "Thursday", "Friday", "Saturday"]

/-- The first three letters of a name. -/
def shortName (name : List Char) : List Char := name.take 3

def monthName (date : Date) : List Char := (monthNames.getD (date.month - 1) "").toList

/-- The name of the day of the week of a date. -/
def weekdayName (date : Date) : List Char := (weekdayNames.getD date.weekday "").toList

/-- The digits of a natural number. -/
def digitsOf (n : Nat) : List Char := (Nat.repr n).toList

/-- Digits with a sign before them. Zeros go between the two, and blanks before both. -/
def padded (padding : Padding) (width : Nat) (sign digits : List Char) : List Char :=
  match padding with
  | .none => sign ++ digits
  | .zero => sign ++ digits.leftpad (width - sign.length) '0'
  | .space => (sign ++ digits).leftpad width ' '

/-- A number of a given width, with a sign if it is negative. -/
def wide (padding : Padding) (width : Nat) (n : Int) : List Char :=
  padded padding width (if n < 0 then ['-'] else []) (digitsOf n.natAbs)

/-- A year of four digits. One that needs more or is negative has a sign always. -/
def yearText (padding : Padding) (year : Int) : List Char :=
  if 0 ≤ year ∧ year ≤ 9999 then wide padding 4 year
  else padded padding 5 [if year < 0 then '-' else '+'] (digitsOf year.natAbs)

/-- A number of two places. Only its last eight bits count, and the character of the first place is
as far from zero as the number of tens. -/
def twoPlaces (padding : Padding) (n : Int) : List Char :=
  let byte := (n % 256).toNat
  let ones := Char.ofNat ('0'.toNat + byte % 10)
  if byte / 10 = 0 then
    match padding with
    | .none => [ones]
    | .space => [' ', ones]
    | .zero => ['0', ones]
  else [Char.ofNat ('0'.toNat + byte / 10), ones]

/-- The hour of the half day, from 1 to 12. -/
def hourOfHalfDay (instant : Instant) : Nat :=
  if instant.hour % 12 = 0 then 12 else instant.hour % 12

/-- Writes a number of an instant. -/
def numberText (padding : Padding) (instant : Instant) : NumberField → List Char
  | .year => yearText padding instant.date.year
  | .century => twoPlaces padding (instant.date.year / 100)
  | .yearOfCentury => twoPlaces padding (instant.date.year % 100)
  | .weekYear => yearText padding instant.date.weekYear
  | .weekYearOfCentury => twoPlaces padding (instant.date.weekYear % 100)
  | .quarter => digitsOf ((instant.date.month - 1) / 3 + 1)
  | .month => twoPlaces padding instant.date.month
  | .day => twoPlaces padding instant.date.day
  | .weekFromSunday => twoPlaces padding (instant.date.weekFrom 0)
  | .weekFromMonday => twoPlaces padding (instant.date.weekFrom 1)
  | .week => twoPlaces padding instant.date.week
  | .weekdayFromSunday => digitsOf instant.date.weekday
  | .weekdayFromMonday => digitsOf instant.date.weekdayFromMonday
  | .dayOfYear => wide padding 3 (instant.date.dayOfYear + 1)
  | .hour => twoPlaces padding instant.hour
  | .hourOfHalfDay => twoPlaces padding (hourOfHalfDay instant)
  | .minute => twoPlaces padding instant.minute
  | .second => twoPlaces padding instant.secondOfMinute
  | .nano => wide padding 9 instant.fraction
  | .timestamp => wide padding 9 instant.timestamp

/-- The first places of the fraction of a second. -/
def placesText (instant : Instant) (count : Nat) : List Char :=
  (digitsOf (instant.fraction / Nat.pow 10 (9 - count))).leftpad count '0'

/-- A point and as many groups of three places as the fraction needs; nothing if it is zero. -/
def fractionText (instant : Instant) : List Char :=
  if instant.fraction = 0 then []
  else if instant.fraction % 1000000 = 0 then '.' :: placesText instant 3
  else if instant.fraction % 1000 = 0 then '.' :: placesText instant 6
  else '.' :: placesText instant 9

/-- The date and the time of day without the fraction of the second, with a `T` between them. -/
def plainText (instant : Instant) : List Char :=
  yearText .zero instant.date.year ++ '-' :: numberText .zero instant .month ++
    '-' :: numberText .zero instant .day ++ 'T' :: numberText .zero instant .hour ++
    ':' :: numberText .zero instant .minute ++ ':' :: numberText .zero instant .second

/-- The offset of universal time. -/
def offsetText (colons : Nat) : List Char :=
  match colons with
  | 0 => "+0000".toList
  | 1 => "+00:00".toList
  | 2 => "+00:00:00".toList
  | _ => "+00".toList

/-- Writes a part of a pattern. -/
def fieldText (instant : Instant) : Field → List Char
  | .literal text => text
  | .number field padding => numberText padding instant field
  | .monthName => monthName instant.date
  | .monthShort => shortName (monthName instant.date)
  | .weekdayName => weekdayName instant.date
  | .weekdayShort => shortName (weekdayName instant.date)
  | .halfDay true => if instant.hour < 12 then "AM".toList else "PM".toList
  | .halfDay false => if instant.hour < 12 then "am".toList else "pm".toList
  | .places count point => (if point then ['.'] else []) ++ placesText instant count
  | .fraction => fractionText instant
  | .zone => "UTC".toList
  | .offset colons => offsetText colons
  | .full => plainText instant ++ fractionText instant ++ offsetText 1

/-- An instant with three places for the fraction of a second and a `Z` for its offset. -/
def isoText (instant : Instant) : List Char :=
  plainText instant ++ '.' :: placesText instant 3 ++ ['Z']

/-- Numbers with a separator between them, all padded with zeros. -/
def separated (separator : Char) (fields : List NumberField) : List Field :=
  (fields.map fun field => Field.number field .zero).intersperse (.literal [separator])

/-- The fields of a date in figures, with the month first. -/
def shortDate : List Field := separated '/' [.month, .day, .yearOfCentury]

/-- The fields of a time of day. -/
def clock : List Field := separated ':' [.hour, .minute, .second]

/-- A blank between fields. -/
def blank : Field := .literal [' ']

def fieldsOfLetter? : Char → Option (List Field)
  | 'A' => some [.weekdayName]
  | 'a' => some [.weekdayShort]
  | 'B' => some [.monthName]
  | 'b' => some [.monthShort]
  | 'h' => some [.monthShort]
  | 'C' => some [.number .century .zero]
  | 'c' => some ([.weekdayShort, blank, .monthShort, blank, .number .day .space, blank] ++ clock ++
      [blank, .number .year .zero])
  | 'D' => some shortDate
  | 'd' => some [.number .day .zero]
  | 'e' => some [.number .day .space]
  | 'F' => some (separated '-' [.year, .month, .day])
  | 'f' => some [.number .nano .zero]
  | 'G' => some [.number .weekYear .zero]
  | 'g' => some [.number .weekYearOfCentury .zero]
  | 'H' => some [.number .hour .zero]
  | 'I' => some [.number .hourOfHalfDay .zero]
  | 'j' => some [.number .dayOfYear .zero]
  | 'k' => some [.number .hour .space]
  | 'l' => some [.number .hourOfHalfDay .space]
  | 'M' => some [.number .minute .zero]
  | 'm' => some [.number .month .zero]
  | 'n' => some [.literal ['\n']]
  | 'P' => some [.halfDay false]
  | 'p' => some [.halfDay true]
  | 'q' => some [.number .quarter .none]
  | 'R' => some (separated ':' [.hour, .minute])
  | 'r' => some (separated ':' [.hourOfHalfDay, .minute, .second] ++ [blank, .halfDay true])
  | 'S' => some [.number .second .zero]
  | 's' => some [.number .timestamp .none]
  | 'T' => some clock
  | 't' => some [.literal ['\t']]
  | 'U' => some [.number .weekFromSunday .zero]
  | 'u' => some [.number .weekdayFromMonday .none]
  | 'V' => some [.number .week .zero]
  | 'v' => some [.number .day .space, .literal ['-'], .monthShort, .literal ['-'],
      .number .year .zero]
  | 'W' => some [.number .weekFromMonday .zero]
  | 'w' => some [.number .weekdayFromSunday .none]
  | 'X' => some clock
  | 'x' => some shortDate
  | 'Y' => some [.number .year .zero]
  | 'y' => some [.number .yearOfCentury .zero]
  | 'Z' => some [.zone]
  | 'z' => some [.offset 0]
  | '+' => some [.full]
  | '%' => some [.literal ['%']]
  | _ => none

/-- What the letters after a percent sign stand for, and how many of them there are. -/
def fieldsAt? : List Char → Option (List Field × Nat)
  | ':' :: ':' :: ':' :: 'z' :: _ => some ([.offset 3], 4)
  | ':' :: ':' :: 'z' :: _ => some ([.offset 2], 3)
  | ':' :: 'z' :: _ => some ([.offset 1], 2)
  | '.' :: 'f' :: _ => some ([.fraction], 2)
  | '.' :: '3' :: 'f' :: _ => some ([.places 3 true], 3)
  | '.' :: '6' :: 'f' :: _ => some ([.places 6 true], 3)
  | '.' :: '9' :: 'f' :: _ => some ([.places 9 true], 3)
  | '3' :: 'f' :: _ => some ([.places 3 false], 2)
  | '6' :: 'f' :: _ => some ([.places 6 false], 2)
  | '9' :: 'f' :: _ => some ([.places 9 false], 2)
  | c :: _ => (fieldsOfLetter? c).map fun fields => (fields, 1)
  | [] => none

/-- The padding that a mark asks for. -/
def paddingOf? : Char → Option Padding
  | '-' => some .none
  | '0' => some .zero
  | '_' => some .space
  | _ => none

/-- Puts another padding into a field, which must be a single number. -/
def repadded? (padding : Padding) : List Field → Option (List Field)
  | [.number field _] => some [.number field padding]
  | _ => none

/-- The fields after a percent sign with an optional mark for the padding, and how many characters
they take. -/
def markedFields? : List Char → Option (List Field × Nat)
  | [] => none
  | c :: rest =>
    match paddingOf? c with
    | none => fieldsAt? (c :: rest)
    | some padding => do
      let (fields, length) ← fieldsAt? rest
      some (← repadded? padding fields, length + 1)

/-- The parts of a pattern; none if it has a field that is unknown. -/
def readPattern? : List Char → Option (List Field)
  | [] => some []
  | c :: rest =>
    if c = '%' then do
      let (fields, length) ← markedFields? rest
      let others ← readPattern? (rest.drop length)
      some (fields ++ others)
    else (readPattern? rest).map (.literal [c] :: ·)
termination_by text => text.length
decreasing_by
  · simp only [List.length_drop, List.length_cons]
    omega
  · simp

/-- Writes an instant by a pattern. -/
def format? (pattern : List Char) (instant : Instant) : Option (List Char) :=
  (readPattern? pattern).map fun fields => fields.flatMap (fieldText instant)

end Stencil.Calendar
