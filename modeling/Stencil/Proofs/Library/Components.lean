import Mathlib
import Stencil.Proofs.Calendar.Conversion
import Stencil.Proofs.Library.Generation
import Stencil.Proofs.Number.Integers
/-!
# The components of a date

A number of milliseconds is a day and a time of that day. The functions that give the components of
a date and the beginnings of its day and month all go back to this one division, so they agree with
each other and with the calendar before 1970 as well as after it.
-/

namespace Stencil

namespace Instant

/-- Whether a number of milliseconds is on a supported day. -/
def InRange (millis : Int) : Prop :=
  Date.earliest.number * 86400000 ≤ millis ∧ millis < (Date.latest.number + 1) * 86400000

instance : DecidablePred InRange := fun _ => inferInstanceAs (Decidable (_ ∧ _))

/-- The instant at a number of milliseconds. -/
def atMillis (millis : Int) : Instant :=
  ⟨millis / 86400000, (millis % 86400000 / 1000).toNat, (millis % 1000).toNat * 1000000⟩

variable {millis : Int}

theorem inRange_iff (millis : Int) : InRange millis ↔
    Date.earliest.number ≤ millis / 86400000 ∧ millis / 86400000 ≤ Date.latest.number := by
  rw [InRange]
  omega

theorem ofMillis?_eq (millis : Int) :
    ofMillis? millis = if InRange millis then some (atMillis millis) else none := by
  have day : millis / 1000 / (secondsPerDay : Int) = millis / 86400000 := by
    simp only [secondsPerDay]
    omega
  have second : millis / 1000 % (secondsPerDay : Int) = millis % 86400000 / 1000 := by
    simp only [secondsPerDay]
    omega
  simp only [ofMillis?, day, second, ← inRange_iff, atMillis]

/-- All supported numbers of milliseconds are floats. -/
theorem InRange.natAbs_lt (inRange : InRange millis) : millis.natAbs < 2 ^ 53 := by
  have earliest : Date.earliest.number = -96465292 := by decide
  have latest : Date.latest.number = 95026236 := by decide
  rw [InRange, earliest, latest] at inRange
  omega

@[simp] theorem day_atMillis : (atMillis millis).day = millis / 86400000 := rfl

theorem hour_atMillis (millis : Int) :
    ((atMillis millis).hour : Int) = millis % 86400000 / 3600000 := by
  simp only [hour, atMillis]
  omega

theorem minute_atMillis (millis : Int) :
    ((atMillis millis).minute : Int) = millis % 3600000 / 60000 := by
  simp only [minute, atMillis]
  omega

@[simp] theorem millis_atMillis : (atMillis millis).millis = millis := by
  simp only [Instant.millis, timestamp, atMillis, secondsPerDay]
  omega

theorem millis_midnight (day : Int) : (midnight day).millis = day * 86400000 := by
  simp only [Instant.millis, timestamp, midnight, secondsPerDay]
  omega

/-- That a date is the one of a number of milliseconds. -/
structure IsDateOf (date : Date) (millis : Int) : Prop where
  valid : date.isValid = true
  number : date.number = millis / 86400000

theorem exists_isDateOf (millis : Int) : ∃ date, IsDateOf date millis :=
  ⟨_, (Date.ofNumber_spec _).1, (Date.ofNumber_spec _).2⟩

namespace IsDateOf

variable {date : Date} (isDate : IsDateOf date millis)
include isDate

theorem date_atMillis : (atMillis millis).date = date := by
  rw [Instant.date, day_atMillis, ← isDate.number, Date.ofNumber_number isDate.valid]

theorem isSupported_iff : date.isSupported = true ↔ InRange millis := by
  rw [Date.isSupported_iff isDate.valid, isDate.number, inRange_iff]

end IsDateOf

end Instant

namespace Dates

open Instant

variable {function : String} {x : Float} {millis : Int}

theorem instantOf_number (denotes : Number.Denotes x millis) :
    instantOf function (.number x) = ofMillis function (Number.toInt64 x) := by
  rw [instantOf, if_pos (Number.isFinite_of_isIntegral denotes.1)]

/-- A float that denotes a supported number of milliseconds denotes the instant at it. -/
theorem instantOf_of_inRange (denotes : Number.Denotes x millis) (inRange : InRange millis) :
    instantOf function (.number x) = .ok (atMillis millis) := by
  have small := inRange.natAbs_lt
  have least : Number.minInt64 = -9223372036854775808 := rfl
  have most : Number.maxInt64 = 9223372036854775807 := rfl
  rw [instantOf_number denotes, Number.toInt64_of_denotes denotes (by omega) (by omega), ofMillis,
    ofMillis?_eq, if_pos inRange]

/-- Numbers beyond the 64 bits are reported as the last of them, which are out of range too. -/
theorem instantOf_of_not_inRange (denotes : Number.Denotes x millis)
    (outside : ¬ InRange millis) :
    instantOf function (.number x) =
      .error ⟨function, .millisOutOfRange (Number.toInt64 x)⟩ := by
  have outside : ¬ InRange (Number.toInt64 x) := by
    have earliest : Date.earliest.number = -96465292 := by decide
    have latest : Date.latest.number = 95026236 := by decide
    have least : Number.minInt64 = -9223372036854775808 := rfl
    have most : Number.maxInt64 = 9223372036854775807 := rfl
    rw [InRange, earliest, latest] at outside ⊢
    rw [Number.toInt64, denotes.2, least, most]
    omega
  rw [instantOf_number denotes, ofMillis, ofMillis?_eq, if_neg outside]

theorem onInstant_number (denotes : Number.Denotes x millis) (inRange : InRange millis)
    (f : Instant → Value) (args : Arguments) :
    onInstant function f (.number x) args = .ok (f (atMillis millis)) := by
  rw [onInstant, instantOf_of_inRange denotes inRange]
  rfl

/-- Every day has a beginning. -/
theorem midnight_eq (date : Date) :
    midnight function date = .ok (.number (Float.ofInt (date.number * 86400000))) := by
  have read : Calendar.instantAt? date 0 0 0 0 = some (Instant.midnight date.number) := rfl
  rw [midnight, read]
  exact congrArg (fun beginning => Except.ok (Value.number (Float.ofInt beginning)))
    (millis_midnight date.number)

section Beginnings

variable {date : Date} (isDate : IsDateOf date millis) (denotes : Number.Denotes x millis)
  (inRange : InRange millis) (args : Arguments)
include isDate denotes inRange

theorem startOfDay_number : startOfDay (.number x) args =
    .ok (.number (Float.ofInt (millis / 86400000 * 86400000))) := by
  rw [startOfDay, instantOf_of_inRange denotes inRange]
  change midnight "startOfDay" (atMillis millis).date = _
  rw [isDate.date_atMillis, midnight_eq, isDate.number]

/-- Every month of a supported date has a first day. -/
theorem startOfMonth_number : startOfMonth (.number x) args =
    .ok (.number (Float.ofInt (date.firstOfMonth.number * 86400000))) := by
  have first : Date.ofParts? date.year date.month 1 = some date.firstOfMonth :=
    Date.ofParts?_of_isSupported (Date.isValid_firstOfMonth isDate.valid)
      (isDate.isSupported_iff.mpr inRange)
  rw [startOfMonth, instantOf_of_inRange denotes inRange]
  simp only [bind, Except.bind, isDate.date_atMillis, first, midnight_eq]

end Beginnings

end Dates

namespace Library

open Instant

theorem call_entry {category : Category} {name description returns : String}
    {parameters : List Parameter} {examples : List String} {body : Body}
    (member : entry category name description returns parameters examples body ∈ functions)
    (value : Value) (args : Arguments) :
    standard.call name value args =
      (body value args).mapError .error :=
  call_of_mem member value args

theorem mem_functions_of_dates (index : Fin dates.length) : dates.get index ∈ functions :=
  List.mem_append_left _ (List.mem_append_left _ (List.mem_append_right _ (List.get_mem _ _)))

/-- A function of the library sends a value to an integer, whatever its arguments are. -/
def Gives (name : String) (value : Value) (result : Int) : Prop :=
  ∀ args, standard.call name value args = .ok (.number (Float.ofInt result))

/-- What the functions that take a date apart give. -/
structure Parts where
  startOfDay : Int
  startOfMonth : Int
  year : Int
  month : Int
  day : Int
  weekday : Int
  hour : Int
  minute : Int

/-- The functions give these parts of a value. -/
structure Shows (value : Value) (parts : Parts) : Prop where
  startOfDay : Gives "startOfDay" value parts.startOfDay
  startOfMonth : Gives "startOfMonth" value parts.startOfMonth
  year : Gives "year" value parts.year
  month : Gives "month" value parts.month
  day : Gives "day" value parts.day
  weekday : Gives "weekday" value parts.weekday
  hour : Gives "hour" value parts.hour
  minute : Gives "minute" value parts.minute

/-- The parts of a date and of the time of its day at a number of milliseconds. -/
def partsOf (date : Date) (millis : Int) : Parts where
  startOfDay := millis / 86400000 * 86400000
  startOfMonth := date.firstOfMonth.number * 86400000
  year := date.year
  month := date.month
  day := date.day
  weekday := (millis / 86400000 + 4) % 7
  hour := millis % 86400000 / 3600000
  minute := millis % 3600000 / 60000

section Parts

variable {x : Float} {millis : Int} {date : Date}

theorem gives_component (denotes : Number.Denotes x millis) (inRange : InRange millis)
    {category : Category} {name description returns : String} {parameters : List Parameter}
    {examples : List String} {function : String} {f : Instant → Int} {result : Int}
    (member : entry category name description returns parameters examples
      (Dates.component function f) ∈ functions) (same : f (atMillis millis) = result) :
    Gives name (.number x) result := by
  intro args
  rw [call_entry member, Dates.component, Dates.onInstant_number denotes inRange, same]
  rfl

variable (isDate : IsDateOf date millis)
include isDate

theorem shows_partsOf (denotes : Number.Denotes x millis) (inRange : InRange millis) :
    Shows (.number x) (partsOf date millis) where
  startOfDay args := by
    rw [call_entry (mem_functions_of_dates ⟨14, by decide⟩),
      Dates.startOfDay_number isDate denotes inRange]
    rfl
  startOfMonth args := by
    rw [call_entry (mem_functions_of_dates ⟨15, by decide⟩),
      Dates.startOfMonth_number isDate denotes inRange]
    rfl
  year := gives_component denotes inRange (mem_functions_of_dates ⟨8, by decide⟩)
    (congrArg (fun date => date.year) isDate.date_atMillis)
  month := gives_component denotes inRange (mem_functions_of_dates ⟨9, by decide⟩)
    (congrArg (fun date => (date.month : Int)) isDate.date_atMillis)
  day := gives_component denotes inRange (mem_functions_of_dates ⟨10, by decide⟩)
    (congrArg (fun date => (date.day : Int)) isDate.date_atMillis)
  weekday := gives_component denotes inRange (mem_functions_of_dates ⟨11, by decide⟩) (by
    simp only [Date.weekdayOf, day_atMillis, partsOf]
    omega)
  hour := gives_component denotes inRange (mem_functions_of_dates ⟨12, by decide⟩)
    (hour_atMillis millis)
  minute := gives_component denotes inRange (mem_functions_of_dates ⟨13, by decide⟩)
    (minute_atMillis millis)

/-- The beginning of a day has the date of the day. -/
theorem isDateOf_startOfDay : IsDateOf date (partsOf date millis).startOfDay where
  valid := isDate.valid
  number := by rw [partsOf, Int.mul_ediv_cancel _ (by decide), isDate.number]

/-- The beginning of a month has the date of the first day of the month. -/
theorem isDateOf_startOfMonth :
    IsDateOf date.firstOfMonth (partsOf date millis).startOfMonth where
  valid := Date.isValid_firstOfMonth isDate.valid
  number := by rw [partsOf, Int.mul_ediv_cancel _ (by decide)]

end Parts

/-- The parts of a supported date agree with each other. The beginning of its day is the last
multiple of a day that is not after it, and what is left is its time of day; the beginning of its
month is as many days earlier as its day of the month says, and lies in the same month; year, month
and day are those of the calendar; and a day later is the next day of the week. -/
theorem components_agree {x : Float} {millis : Int} (denotes : Number.Denotes x millis)
    (inRange : InRange millis) :
    ∃ parts, Shows (.number x) parts ∧
      IsGreatest {multiple | 86400000 ∣ multiple ∧ multiple ≤ millis} parts.startOfDay ∧
      ((0 ≤ parts.hour ∧ parts.hour < 24) ∧ (0 ≤ parts.minute ∧ parts.minute < 60) ∧
        ∃ rest, 0 ≤ rest ∧ rest < 60000 ∧
          millis = parts.startOfDay + parts.hour * 3600000 + parts.minute * 60000 + rest) ∧
      parts.startOfDay = parts.startOfMonth + (parts.day - 1) * 86400000 ∧
      (∃ date : Date, date.isValid = true ∧ date.number * 86400000 = parts.startOfDay ∧
        parts.year = date.year ∧ parts.month = date.month ∧ parts.day = date.day) ∧
      (∃ first, Shows (.number (Float.ofInt parts.startOfMonth)) first ∧
        first.year = parts.year ∧ first.month = parts.month ∧ first.day = 1 ∧
        first.startOfMonth = parts.startOfMonth) ∧
      (∃ midnight, Shows (.number (Float.ofInt parts.startOfDay)) midnight ∧
        midnight.startOfDay = parts.startOfDay) ∧
      (0 ≤ parts.weekday ∧ parts.weekday < 7) ∧
      ∀ later, Number.Denotes later (millis + 86400000) → InRange (millis + 86400000) →
        ∃ next, Shows (.number later) next ∧ next.weekday = (parts.weekday + 1) % 7 := by
  obtain ⟨date, isDate⟩ := exists_isDateOf millis
  have supported := isDate.isSupported_iff.mpr inRange
  have midnight := isDateOf_startOfDay isDate
  have dayInRange := midnight.isSupported_iff.mp supported
  have first := isDateOf_startOfMonth isDate
  have monthInRange := first.isSupported_iff.mp supported
  refine ⟨partsOf date millis, shows_partsOf isDate denotes inRange,
    ⟨⟨⟨_, mul_comm _ _⟩, ?_⟩, ?_⟩, ?_, ?_, ⟨date, isDate.valid, ?_, rfl, rfl, rfl⟩,
    ⟨_, shows_partsOf first (Number.denotes_ofInt monthInRange.natAbs_lt) monthInRange,
      rfl, rfl, rfl, rfl⟩,
    ⟨_, shows_partsOf midnight (Number.denotes_ofInt dayInRange.natAbs_lt) dayInRange, ?_⟩, ?_, ?_⟩
  · simp only [partsOf]
    omega
  · rintro _ ⟨⟨days, rfl⟩, le⟩
    simp only [partsOf]
    omega
  · simp only [partsOf]
    refine ⟨by omega, by omega, millis % 60000, Int.emod_nonneg _ (by decide),
      Int.emod_lt_of_pos _ (by decide), by omega⟩
  · have days := Date.number_firstOfMonth isDate.valid
    rw [isDate.number] at days
    simp only [partsOf]
    omega
  · rw [isDate.number]
    rfl
  · simp only [partsOf]
    omega
  · simp only [partsOf]
    omega
  · intro later laterDenotes laterInRange
    obtain ⟨laterDate, laterIsDate⟩ := exists_isDateOf (millis + 86400000)
    refine ⟨_, shows_partsOf laterIsDate laterDenotes laterInRange, ?_⟩
    simp only [partsOf]
    omega

/-- The last day of a February before the first year, in the afternoon. -/
theorem components_agree_leap :
    Number.Denotes (Float.ofInt (-62162076303211)) (-62162076303211) ∧
      InRange (-62162076303211) ∧
      ∃ parts, Shows (.number (Float.ofInt (-62162076303211))) parts ∧
        parts.startOfDay = -62162121600000 ∧ parts.startOfMonth = -62164540800000 ∧
        parts.year = 0 ∧ parts.month = 2 ∧ parts.day = 29 ∧ parts.hour = 12 ∧
        parts.minute = 34 := by
  have denotes : Number.Denotes (Float.ofInt (-62162076303211)) (-62162076303211) :=
    Number.denotes_ofInt (by decide)
  have inRange : InRange (-62162076303211) := by decide
  obtain ⟨parts, shows, ⟨⟨⟨days, multiple⟩, _⟩, _⟩, ⟨hour, minute, rest, least, most, split⟩, month,
    ⟨date, valid, number, sameYear, sameMonth, sameDay⟩, _⟩ := components_agree denotes inRange
  have february : date = ⟨0, 2, 29⟩ := by
    refine Date.eq_of_number_eq valid (by decide) ?_
    have known : Date.number ⟨0, 2, 29⟩ = -719469 := by decide
    omega
  rw [february] at sameYear sameMonth sameDay
  dsimp only at sameYear sameMonth sameDay
  refine ⟨denotes, inRange, parts, shows, ?_, ?_, sameYear, sameMonth, sameDay, ?_, ?_⟩ <;> omega

end Library

end Stencil
