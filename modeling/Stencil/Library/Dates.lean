import Stencil.Calendar.Format
import Stencil.Calendar.Reading
import Stencil.Library.Arguments
/-!
# Functions on dates

A date is a number of milliseconds since the first of 1970 in universal time. Texts that denote an
instant are taken too.
-/

namespace Stencil.Dates

open Calendar

/-- The instant of a number of milliseconds. -/
def ofMillis (function : String) (millis : Int) : Except FunctionError Instant :=
  match Instant.ofMillis? millis with
  | some instant => .ok instant
  | none => .error ⟨function, .millisOutOfRange millis⟩

/-- The instant that a text denotes. -/
def ofText (function : String) (text : String) : Except FunctionError Instant :=
  let trimmed := Text.trim text.toList
  match readMillis? trimmed with
  | some millis => ofMillis function millis
  | none =>
    match readWritten? trimmed with
    | some instant => .ok instant
    | none => .error ⟨function, .unreadableDate (String.ofList trimmed)⟩

/-- The instant that a value denotes. Fractions of a millisecond are dropped. -/
def instantOf (function : String) (value : Value) : Except FunctionError Instant :=
  match value with
  | .string text => ofText function text
  | .number x =>
    if x.isFinite then ofMillis function (Number.toInt64 x)
    else .error ⟨function, .notDate (Value.number x).kind⟩
  | other => .error ⟨function, .notDate other.kind⟩

def toValue (instant : Instant) : Value := .number (Float.ofInt instant.millis)

/-- A body that always has a result for an instant. -/
def onInstant (function : String) (f : Instant → Value) : Body := fun value _ =>
  (instantOf function value).map f

/-- A body that gives a number of an instant. -/
def component (function : String) (f : Instant → Int) : Body :=
  onInstant function fun instant => .number (Float.ofInt (f instant))

/-- The date as a number of milliseconds. -/
def parseDate : Body := onInstant "parseDate" toValue

def formatDate : Body := fun value args => do
  let instant ← instantOf "formatDate" value
  let pattern := args.textOr 0 "%Y-%m-%d"
  match format? pattern.toList instant with
  | some text => .ok (.string (String.ofList text))
  | none => .error ⟨"formatDate", .badFormat pattern⟩

/-- The date in the form with an offset that the Internet uses. -/
def toIso : Body := onInstant "toISO" fun instant => .string (String.ofList (isoText instant))

/-- Moves a date by a number of units of `unit` milliseconds. -/
def shift (function : String) (unit : Float) : Body := fun value args => do
  let instant ← instantOf function value
  let amount := (args.get 0).toNumber
  if !amount.isFinite then .error ⟨function, .badAmount⟩
  else
    let shifted := Float.ofInt instant.millis + Number.truncate (amount * unit)
    if Float.ofNat (Nat.pow 2 63) < shifted.abs then .error ⟨function, .resultOutOfRange⟩
    else (ofMillis function (Number.toInt64 shifted)).map toValue

/-- The date some days later. -/
def addDays : Body := shift "addDays" 86400000.0

/-- The date some hours later. -/
def addHours : Body := shift "addHours" 3600000.0

/-- The date some minutes later. -/
def addMinutes : Body := shift "addMinutes" 60000.0

/-- The largest number of months that can be asked for. -/
def maxMonths : Nat := Nat.pow 2 32 - 1

/-- The date some months later, or earlier if their number is negative. -/
def addMonths : Body := fun value args => do
  let instant ← instantOf "addMonths" value
  let months ← args.integerOr "addMonths" 0 0
  if maxMonths < months.natAbs then .error ⟨"addMonths", .tooManyMonths⟩
  else
    let shifted :=
      if 0 ≤ months then instant.addMonths? months.natAbs
      else instant.subtractMonths? months.natAbs
    match shifted with
    | some shifted => .ok (toValue shifted)
    | none => .error ⟨"addMonths", .resultOutOfRange⟩

/-- How many whole days the date is after the argument. -/
def diffDays : Body := fun value args => do
  let instant ← instantOf "diffDays" value
  let other ← instantOf "diffDays" (args.get 0)
  let delta := Float.ofInt (instant.millis - other.millis)
  .ok (.number (Number.truncate (delta / 86400000.0)))

def year : Body := component "year" fun instant => instant.date.year

/-- The month, from 1 to 12. -/
def month : Body := component "month" fun instant => instant.date.month

def day : Body := component "day" fun instant => instant.date.day

/-- The day of the week, 0 for Sunday. -/
def weekday : Body := component "weekday" fun instant => Date.weekdayOf instant.day

def hour : Body := component "hour" fun instant => instant.hour

def minute : Body := component "minute" fun instant => instant.minute

/-- The number of milliseconds at the beginning of a day. -/
def midnight (function : String) (date : Date) : Except FunctionError Value :=
  match instantAt? date 0 0 0 0 with
  | some instant => .ok (toValue instant)
  | none => .error ⟨function, .noMidnight⟩

def startOfDay : Body := fun value _ => do
  let instant ← instantOf "startOfDay" value
  midnight "startOfDay" instant.date

def startOfMonth : Body := fun value _ => do
  let instant ← instantOf "startOfMonth" value
  match Date.ofParts? instant.date.year instant.date.month 1 with
  | some first => midnight "startOfMonth" first
  | none => .error ⟨"startOfMonth", .noFirstDay⟩

end Stencil.Dates
