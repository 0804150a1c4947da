/-!
# Dates of the Gregorian calendar

The calendar is extended to all years before its introduction, and the year before year 1 is year 0.
Days are numbered from the first day of 1970.
-/

namespace Stencil

/-- A day of a month of a year. Months and days count from one. -/
structure Date where
  year : Int
  month : Nat
  day : Nat
deriving DecidableEq, Inhabited

namespace Date

/-- Whether a year has a 29th of February. -/
def isLeapYear (year : Int) : Bool := year % 4 == 0 && (year % 100 != 0 || year % 400 == 0)

def monthLengths (leap : Bool) : List Nat :=
  [31, if leap then 29 else 28, 31, 30, 31, 30, 31, 31, 30, 31, 30, 31]

def monthLength (year : Int) (month : Nat) : Nat :=
  (monthLengths (isLeapYear year)).getD (month - 1) 0

/-- Whether there is such a date. -/
def isValid (date : Date) : Bool :=
  1 ≤ date.month && date.month ≤ 12 && 1 ≤ date.day && date.day ≤ monthLength date.year date.month

/-- How many days of the year are before the first of a month. -/
def daysBeforeMonth (year : Int) (month : Nat) : Nat :=
  ((monthLengths (isLeapYear year)).take (month - 1)).foldl (· + ·) 0

/-- How many days there are from the first day of year 1 to the first day of a year. -/
def daysBeforeYear (year : Int) : Int :=
  let past := year - 1
  365 * past + past / 4 - past / 100 + past / 400

/-- How many days of the year are before a date. -/
def dayOfYear (date : Date) : Nat := daysBeforeMonth date.year date.month + (date.day - 1)

/-- How many days there are from the first day of year 1 to the first day of 1970. -/
def epoch : Int := 719162

/-- The number of a day. The first day of 1970 has number zero. -/
def number (date : Date) : Int := daysBeforeYear date.year + date.dayOfYear - epoch

/-- The month and the day that are reached by going `days` days on from the first of `month`, with
the lengths of this month and of those after it. -/
def monthAndDay (month days : Nat) : List Nat → Nat × Nat
  | [] => (month, days + 1)
  | length :: rest =>
    if days < length then (month, days + 1) else monthAndDay (month + 1) (days - length) rest

/-- The year in which a day is, and how many of its days are before it. Four centuries have 146097
days; the last century of the four, and the last year of four years, may be a day longer than the
others. -/
def yearAndDay (days : Int) : Int × Nat :=
  let inCycle := (days % 146097).toNat
  let century := min (inCycle / 36524) 3
  let inCentury := inCycle - century * 36524
  let inFourYears := inCentury % 1461
  let yearOfFour := min (inFourYears / 365) 3
  (days / 146097 * 400 + century * 100 + inCentury / 1461 * 4 + yearOfFour + 1,
    inFourYears - yearOfFour * 365)

/-- The date of a day number. -/
def ofNumber (number : Int) : Date :=
  let (year, days) := yearAndDay (number + epoch)
  let (month, day) := monthAndDay 1 days (monthLengths (isLeapYear year))
  ⟨year, month, day⟩

/-- The first supported day. -/
def earliest : Date := ⟨-262143, 1, 1⟩

/-- The last supported day. -/
def latest : Date := ⟨262142, 12, 31⟩

/-- Whether the year of a date is supported. -/
def isSupported (date : Date) : Bool :=
  earliest.year ≤ date.year && date.year ≤ latest.year

/-- The date with the given parts, if there is one and it is supported. -/
def ofParts? (year : Int) (month day : Nat) : Option Date :=
  let date : Date := ⟨year, month, day⟩
  if date.isValid && date.isSupported then some date else none

/-- The day of the week of a day number, 0 for Sunday. The first day of 1970 was a Thursday. -/
def weekdayOf (number : Int) : Nat := ((number + 4) % 7).toNat

/-- The day of the week, 0 for Sunday. -/
def weekday (date : Date) : Nat := weekdayOf date.number

/-- The day of the week, 1 for Monday and 7 for Sunday. -/
def weekdayFromMonday (date : Date) : Nat := if date.weekday = 0 then 7 else date.weekday

/-- The week of the year, when weeks begin with the given day of the week; the days before the first
such day are in week zero. -/
def weekFrom (firstWeekday : Nat) (date : Date) : Nat :=
  (date.dayOfYear + 7 - (date.weekday + 7 - firstWeekday) % 7) / 7

/-- The Thursday of the week, which begins with a Monday, that a date is in. The year and the number
of a week are those of its Thursday. -/
def thursday (date : Date) : Date := ofNumber (date.number + 4 - date.weekdayFromMonday)

/-- The year to which the week of a date belongs. -/
def weekYear (date : Date) : Int := date.thursday.year

/-- The number of the week of a date in the year to which it belongs. -/
def week (date : Date) : Nat := date.thursday.dayOfYear / 7 + 1

def firstOfMonth (date : Date) : Date := { date with day := 1 }

/-- How many months lie between the beginning of the year zero and that of the month of a date. -/
def monthCount (date : Date) : Int := 12 * date.year + (date.month - 1 : Int)

/-- The date in the month with a given count, or the last day of that month if it has no such
day. -/
def inMonth? (date : Date) (count : Int) : Option Date :=
  let year := count / 12
  let month := (count % 12).toNat + 1
  ofParts? year month (min date.day (monthLength year month))

/-- The date some months later. -/
def addMonths? (date : Date) (months : Nat) : Option Date :=
  date.inMonth? (date.monthCount + months)

/-- The date some months earlier. -/
def subtractMonths? (date : Date) (months : Nat) : Option Date :=
  date.inMonth? (date.monthCount - months)

end Date

end Stencil
