import Stencil.Calendar.Date
/-!
# Instants

A point in time is a second of a day with a fraction in nanoseconds. A leap second is kept as a
fraction of a second or more.
-/

namespace Stencil

/-- A point in time, without any offset from universal time. -/
structure Instant where
  /-- The number of the day. -/
  day : Int
  /-- The second of the day. -/
  second : Nat
  nano : Nat := 0
deriving DecidableEq, Inhabited

namespace Instant

/-- How many nanoseconds a second has. -/
def nanosPerSecond : Nat := 1000000000

/-- How many seconds a day has. -/
def secondsPerDay : Nat := 86400

def date (instant : Instant) : Date := Date.ofNumber instant.day

def hour (instant : Instant) : Nat := instant.second / 3600

def minute (instant : Instant) : Nat := instant.second / 60 % 60

/-- The second of the minute; 60 in a leap second. -/
def secondOfMinute (instant : Instant) : Nat :=
  instant.second % 60 + instant.nano / nanosPerSecond

/-- The fraction of the second in nanoseconds. -/
def fraction (instant : Instant) : Nat := instant.nano % nanosPerSecond

/-- How many seconds have passed since the first of 1970. -/
def timestamp (instant : Instant) : Int := instant.day * secondsPerDay + instant.second

/-- How many milliseconds have passed since the first of 1970. -/
def millis (instant : Instant) : Int := instant.timestamp * 1000 + instant.nano / 1000000

/-- The instant a number of milliseconds after the first of 1970, if it is on a supported day. -/
def ofMillis? (millis : Int) : Option Instant :=
  let seconds := millis / 1000
  let day := seconds / secondsPerDay
  if Date.earliest.number ≤ day ∧ day ≤ Date.latest.number then
    some ⟨day, (seconds % secondsPerDay).toNat, (millis % 1000).toNat * 1000000⟩
  else none

/-- The beginning of a day. -/
def midnight (day : Int) : Instant := ⟨day, 0, 0⟩

/-- The same time of another day. -/
def onDate (instant : Instant) (date : Date) : Instant := { instant with day := date.number }

/-- The same time some months later. -/
def addMonths? (instant : Instant) (months : Nat) : Option Instant :=
  (instant.date.addMonths? months).map instant.onDate

/-- The same time some months earlier. -/
def subtractMonths? (instant : Instant) (months : Nat) : Option Instant :=
  (instant.date.subtractMonths? months).map instant.onDate

end Instant

end Stencil
