import Mathlib
import Stencil.Proofs.Library.Components
/-!
# Dates some months later

A date some months later is settled by three things: the count of its month, which is that of the
date and the number of months, its day, which is cut to the length of the month, and the range of
supported years. Nothing is cut from the first twenty-eight days, so for these months can be added
one after the other and taken away again.
-/

namespace Stencil

namespace Date

theorem le_monthLength (year : Int) {month : Nat} (first : 1 ≤ month) (last : month ≤ 12) :
    28 ≤ monthLength year month := by
  have known : month - 1 < (monthLengths (isLeapYear year)).length := by
    rw [length_monthLengths]
    omega
  have least (leap : Bool) : ∀ length ∈ monthLengths leap, 28 ≤ length := by
    cases leap <;> decide
  rw [monthLength, List.getD_eq_getElem _ _ known]
  exact least _ _ (List.getElem_mem known)

/-- The date a number of months later, or earlier if the number is negative. -/
def shiftMonths? (date : Date) (months : Int) : Option Date :=
  date.inMonth? (date.monthCount + months)

/-- Counting months forward or back, as their number has a sign, is one shift by the number. -/
theorem shiftMonths?_eq (date : Date) (months : Int) :
    date.shiftMonths? months =
      if 0 ≤ months then date.addMonths? months.natAbs
      else date.subtractMonths? months.natAbs := by
  rw [shiftMonths?]
  split
  · rw [addMonths?, Int.natCast_natAbs, abs_of_nonneg ‹_›]
  · rw [subtractMonths?, Int.natCast_natAbs, abs_of_neg (not_le.mp ‹_›), sub_neg_eq_add]

/-- The date some months later, whether or not it is supported. -/
def monthsLater (date : Date) (months : Int) : Date :=
  let total := date.monthCount + months
  let month := (total % 12).toNat + 1
  ⟨total / 12, month, min date.day (monthLength (total / 12) month)⟩

theorem isValid_monthsLater {date : Date} (valid : date.isValid = true) (months : Int) :
    (date.monthsLater months).isValid = true := by
  obtain ⟨-, least, -⟩ := (isValid_iff date).mp valid
  have month : 1 ≤ (date.monthsLater months).month ∧ (date.monthsLater months).month ≤ 12 := by
    simp only [monthsLater, monthCount]
    omega
  have length := le_monthLength (date.monthsLater months).year month.1 month.2
  refine (isValid_iff _).mpr ⟨month, ?_, min_le_right _ _⟩
  exact le_min least (le_trans (by decide) length)

theorem shiftMonths?_of_isValid {date : Date} (valid : date.isValid = true) (months : Int) :
    date.shiftMonths? months =
      if (date.monthsLater months).isSupported then some (date.monthsLater months) else none := by
  change ofParts? (date.monthsLater months).year (date.monthsLater months).month
    (date.monthsLater months).day = _
  have valid := isValid_monthsLater valid months
  simp only [ofParts?, valid, Bool.true_and]

/-- What a date some months later is. -/
theorem shiftMonths?_eq_some_iff {date other : Date} (valid : date.isValid = true) (months : Int) :
    date.shiftMonths? months = some other ↔
      (12 * other.year + other.month = 12 * date.year + date.month + months ∧
        1 ≤ other.month ∧ other.month ≤ 12) ∧
      other.day = min date.day (monthLength other.year other.month) ∧
      other.isSupported = true := by
  rw [shiftMonths?_of_isValid valid, Option.ite_none_right_eq_some, Option.some.injEq]
  constructor
  · rintro ⟨supported, rfl⟩
    refine ⟨?_, rfl, supported⟩
    simp only [monthsLater, monthCount]
    omega
  · rintro ⟨count, day, supported⟩
    have same : date.monthsLater months = other := by
      obtain ⟨year, month, _⟩ := other
      dsimp only at count day
      obtain rfl : year = (date.monthCount + months) / 12 := by
        rw [monthCount]
        omega
      obtain rfl : month = ((date.monthCount + months) % 12).toNat + 1 := by
        rw [monthCount]
        omega
      rw [day]
      rfl
    exact ⟨same ▸ supported, same⟩

section Twice

variable {date first second : Date} (valid : date.isValid = true) {months more : Int}
include valid

theorem isValid_shiftMonths? (later : date.shiftMonths? months = some first) :
    first.isValid = true := by
  rw [shiftMonths?_of_isValid valid, Option.ite_none_right_eq_some, Option.some.injEq] at later
  exact later.2 ▸ isValid_monthsLater valid months

variable (early : date.day ≤ 28) (later : date.shiftMonths? months = some first)
include early later

theorem day_shiftMonths? : first.day = date.day := by
  obtain ⟨⟨_, least, most⟩, day, -⟩ := (shiftMonths?_eq_some_iff valid months).mp later
  rw [day]
  exact min_eq_left (early.trans (le_monthLength first.year least most))

/-- Months are added to an early day one after the other. -/
theorem shiftMonths?_add (latest : first.shiftMonths? more = some second) :
    date.shiftMonths? (months + more) = some second := by
  have day := day_shiftMonths? valid early later
  have latest := (shiftMonths?_eq_some_iff (isValid_shiftMonths? valid later) more).mp latest
  have later := (shiftMonths?_eq_some_iff valid months).mp later
  rw [day] at latest
  refine (shiftMonths?_eq_some_iff valid _).mpr ⟨?_, latest.2⟩
  omega

/-- Months that were added to an early day are taken away again. -/
theorem shiftMonths?_neg (supported : date.isSupported = true) :
    first.shiftMonths? (-months) = some date := by
  have day := day_shiftMonths? valid early later
  obtain ⟨month, -⟩ := (isValid_iff date).mp valid
  have length := le_monthLength date.year month.1 month.2
  have valid' := isValid_shiftMonths? valid later
  have later := (shiftMonths?_eq_some_iff valid months).mp later
  refine (shiftMonths?_eq_some_iff valid' _).mpr ⟨by omega, ?_, supported⟩
  rw [day]
  exact (min_eq_left (early.trans length)).symm

end Twice

/-- There are fewer supported months than can be asked for. -/
theorem natAbs_le_of_shiftMonths? {date other : Date} (valid : date.isValid = true)
    (supported : date.isSupported = true) {months : Int}
    (later : date.shiftMonths? months = some other) : months.natAbs ≤ Dates.maxMonths := by
  obtain ⟨month, -⟩ := (isValid_iff date).mp valid
  obtain ⟨count, -, otherSupported⟩ := (shiftMonths?_eq_some_iff valid months).mp later
  have most : Dates.maxMonths = 4294967295 := rfl
  have first : earliest.year = -262143 := rfl
  have last : latest.year = 262142 := rfl
  rw [isSupported, Bool.and_eq_true, decide_eq_true_eq, decide_eq_true_eq] at supported
  rw [isSupported, Bool.and_eq_true, decide_eq_true_eq, decide_eq_true_eq] at otherSupported
  omega

end Date

namespace Dates

open Instant

variable {x count : Float} {millis months : Int}

/-- The number of milliseconds at which a day is as far advanced as another one is at `millis`. -/
def onDay (date : Date) (millis : Int) : Int := date.number * 86400000 + millis % 86400000

theorem day_onDay (date : Date) (millis : Int) : onDay date millis / 86400000 = date.number := by
  rw [onDay]
  omega

theorem time_onDay (date : Date) (millis : Int) :
    onDay date millis % 86400000 = millis % 86400000 := by
  rw [onDay]
  omega

theorem onDay_onDay (date other : Date) (millis : Int) :
    onDay date (onDay other millis) = onDay date millis := by
  rw [onDay, time_onDay, onDay]

theorem isDateOf_onDay {date : Date} (valid : date.isValid = true) (millis : Int) :
    IsDateOf date (onDay date millis) :=
  ⟨valid, (day_onDay date millis).symm⟩

theorem onDate_atMillis (date : Date) (millis : Int) :
    (atMillis millis).onDate date = atMillis (onDay date millis) := by
  have part : onDay date millis % 1000 = millis % 1000 := by
    rw [onDay]
    omega
  rw [atMillis, atMillis, day_onDay, time_onDay, part, onDate]

section DateOf

variable {date : Date} (isDate : IsDateOf date millis)
include isDate

theorem onDay_self : onDay date millis = millis := by
  rw [onDay, isDate.number]
  omega

/-- The two ways to count months from an instant are the shift of its date. -/
theorem shiftMonths?_atMillis (months : Int) :
    (if 0 ≤ months then (atMillis millis).addMonths? months.natAbs
      else (atMillis millis).subtractMonths? months.natAbs) =
      (date.shiftMonths? months).map fun shifted => atMillis (onDay shifted millis) := by
  have same : (atMillis millis).onDate = fun shifted => atMillis (onDay shifted millis) :=
    funext (onDate_atMillis · millis)
  rw [Instant.addMonths?, Instant.subtractMonths?, isDate.date_atMillis, same, ← apply_ite,
    ← Date.shiftMonths?_eq]

end DateOf

/-- An integer that is read from an argument counts too many months exactly if the argument does. -/
theorem integerOr_count (counted : Number.Denotes count months) (others : Arguments) :
    ∃ read, Arguments.integerOr (.number count :: others) "addMonths" 0 0 = .ok read ∧
      (maxMonths < read.natAbs ↔ maxMonths < months.natAbs) ∧
      (months.natAbs ≤ maxMonths → read = months) := by
  have finite := Number.isFinite_of_isIntegral counted.1
  refine ⟨Number.toInt64 count, if_pos finite, ?_⟩
  have least : Number.minInt64 = -9223372036854775808 := rfl
  have most : Number.maxInt64 = 9223372036854775807 := rfl
  have limit : maxMonths = 4294967295 := rfl
  rw [Number.toInt64, counted.2, least, most, limit]
  omega

/-- What adding months to a supported number of milliseconds gives. -/
theorem addMonths_number {date : Date} (isDate : IsDateOf date millis)
    (denotes : Number.Denotes x millis) (inRange : InRange millis)
    (counted : Number.Denotes count months) (others : Arguments) :
    addMonths (.number x) (.number count :: others) =
      if maxMonths < months.natAbs then .error ⟨"addMonths", .tooManyMonths⟩
      else match date.shiftMonths? months with
        | some shifted => .ok (.number (Float.ofInt (onDay shifted millis)))
        | none => .error ⟨"addMonths", .resultOutOfRange⟩ := by
  obtain ⟨read, read_eq, limit, exact_read⟩ := integerOr_count counted others
  rw [addMonths, instantOf_of_inRange denotes inRange]
  change (Arguments.integerOr _ "addMonths" 0 0 >>= _) = _
  rw [read_eq]
  change (if maxMonths < read.natAbs then _ else _) = _
  simp only [limit]
  split
  · rfl
  · rename_i few
    rw [exact_read (not_lt.mp few), shiftMonths?_atMillis isDate]
    cases date.shiftMonths? months with
    | none => rfl
    | some shifted => simp [toValue]

end Dates

namespace Library

open Instant Dates

/-- A call that adds months to a date. -/
def monthsAdded (value : Value) (count : Float) : CallResult :=
  standard.call "addMonths" value [.number count]

/-- The year of the month that is some months after that of a date. -/
def targetYear (parts : Parts) (months : Int) : Int :=
  (12 * parts.year + parts.month - 1 + months) / 12

/-- How the parts of a date some months later come from those of the date. -/
structure MonthsLater (months : Int) (parts later : Parts) : Prop where
  count : 12 * later.year + later.month = 12 * parts.year + parts.month + months
  month : 1 ≤ later.month ∧ later.month ≤ 12
  day : later.day = min parts.day (Date.monthLength later.year later.month.toNat)

variable {x count : Float} {millis months : Int}

theorem monthsAdded_of_not_inRange (denotes : Number.Denotes x millis)
    (outside : ¬ InRange millis) :
    monthsAdded (.number x) count =
      .error (.error ⟨"addMonths", .millisOutOfRange (Number.toInt64 x)⟩) := by
  rw [monthsAdded, call_entry (mem_functions_of_dates ⟨6, by decide⟩), addMonths,
    instantOf_of_not_inRange denotes outside]
  rfl

section InRange

variable {date : Date}

theorem isSupported_monthsLater_iff :
    (date.monthsLater months).isSupported = true ↔
      Date.earliest.year ≤ targetYear (partsOf date millis) months ∧
        targetYear (partsOf date millis) months ≤ Date.latest.year := by
  have year : (date.monthsLater months).year = targetYear (partsOf date millis) months := by
    simp only [Date.monthsLater, Date.monthCount, targetYear, partsOf]
    omega
  rw [Date.isSupported, Bool.and_eq_true, decide_eq_true_eq, decide_eq_true_eq, year]

theorem monthsLater_of_shiftMonths? {shifted : Date} (valid : date.isValid = true)
    (later : date.shiftMonths? months = some shifted) :
    MonthsLater months (partsOf date millis) (partsOf shifted (onDay shifted millis)) := by
  obtain ⟨count, day, -⟩ := (Date.shiftMonths?_eq_some_iff valid months).mp later
  refine ⟨?_, ?_, ?_⟩ <;> simp only [partsOf]
  · exact count.1
  · omega
  · rw [day, Int.toNat_natCast]
    omega

variable (isDate : IsDateOf date millis) (denotes : Number.Denotes x millis)
  (inRange : InRange millis) (counted : Number.Denotes count months)
include isDate denotes inRange counted

theorem monthsAdded_eq : monthsAdded (.number x) count =
    if maxMonths < months.natAbs then .error (.error ⟨"addMonths", .tooManyMonths⟩)
    else match date.shiftMonths? months with
      | some shifted => .ok (.number (Float.ofInt (onDay shifted millis)))
      | none => .error (.error ⟨"addMonths", .resultOutOfRange⟩) := by
  rw [monthsAdded, call_entry (mem_functions_of_dates ⟨6, by decide⟩),
    addMonths_number isDate denotes inRange counted]
  split
  · rfl
  · split <;> rfl

theorem monthsAdded_eq_ok_iff (result : Value) : monthsAdded (.number x) count = .ok result ↔
    ∃ shifted, date.shiftMonths? months = some shifted ∧
      result = .number (Float.ofInt (onDay shifted millis)) := by
  rw [monthsAdded_eq isDate denotes inRange counted]
  constructor
  · intro made
    split at made
    · cases made
    · split at made
      · rename_i shifted later
        cases made
        exact ⟨shifted, later, rfl⟩
      · cases made
  · rintro ⟨shifted, later, rfl⟩
    have supported := isDate.isSupported_iff.mpr inRange
    have few := Date.natAbs_le_of_shiftMonths? isDate.valid supported later
    rw [if_neg (not_lt.mpr few), later]

theorem monthsAdded_of_unsupported (few : months.natAbs ≤ maxMonths)
    (unsupported : ¬ (Date.earliest.year ≤ targetYear (partsOf date millis) months ∧
      targetYear (partsOf date millis) months ≤ Date.latest.year)) :
    monthsAdded (.number x) count = .error (.error ⟨"addMonths", .resultOutOfRange⟩) := by
  rw [← isSupported_monthsLater_iff] at unsupported
  rw [monthsAdded_eq isDate denotes inRange counted, if_neg (not_lt.mpr few),
    Date.shiftMonths?_of_isValid isDate.valid, if_neg unsupported]

theorem exists_monthsAdded
    (supported : Date.earliest.year ≤ targetYear (partsOf date millis) months ∧
      targetYear (partsOf date millis) months ≤ Date.latest.year) :
    ∃ result, monthsAdded (.number x) count = .ok result := by
  have later := Date.shiftMonths?_of_isValid isDate.valid months
  rw [if_pos (isSupported_monthsLater_iff.mpr supported)] at later
  exact ⟨_, (monthsAdded_eq_ok_iff isDate denotes inRange counted _).mpr ⟨_, later, rfl⟩⟩

end InRange

section Later

variable {date shifted : Date} (valid : date.isValid = true)
  (later : date.shiftMonths? months = some shifted)
include valid later

theorem isDateOf_of_shiftMonths? (millis : Int) : IsDateOf shifted (onDay shifted millis) :=
  isDateOf_onDay (Date.isValid_shiftMonths? valid later) millis

theorem inRange_of_shiftMonths? (millis : Int) : InRange (onDay shifted millis) := by
  obtain ⟨-, -, supported⟩ := (Date.shiftMonths?_eq_some_iff valid months).mp later
  exact (isDateOf_of_shiftMonths? valid later millis).isSupported_iff.mp supported

theorem denotes_of_shiftMonths? (millis : Int) :
    Number.Denotes (Float.ofInt (onDay shifted millis)) (onDay shifted millis) :=
  Number.denotes_ofInt (inRange_of_shiftMonths? valid later millis).natAbs_lt

/-- What more months give of a date some months later. -/
theorem monthsAdded_later_eq_ok_iff {more : Float} {moreMonths : Int}
    (counted : Number.Denotes more moreMonths) (result : Value) :
    monthsAdded (.number (Float.ofInt (onDay shifted millis))) more = .ok result ↔
      ∃ latest, shifted.shiftMonths? moreMonths = some latest ∧
        result = .number (Float.ofInt (onDay latest millis)) := by
  rw [monthsAdded_eq_ok_iff (isDateOf_of_shiftMonths? valid later millis)
    (denotes_of_shiftMonths? valid later millis) (inRange_of_shiftMonths? valid later millis)
    counted]
  simp only [onDay_onDay]

end Later

/-- Adding months to a date moves it by calendar months: the month of the result is as many months
after that of the date, its day is cut to the length of its month, and its time of day is that of
the date. From an early day, months can be added one after the other and taken away again. Too many
months and dates beyond the supported years are failures, and nothing else is. -/
theorem addMonths_shifts (denotes : Number.Denotes x millis)
    (counted : Number.Denotes count months) :
    (¬ InRange millis → ∃ problem,
      monthsAdded (.number x) count = .error (.error ⟨"addMonths", problem⟩)) ∧
    (InRange millis → ∃ parts, Shows (.number x) parts ∧
      (maxMonths < months.natAbs →
        monthsAdded (.number x) count = .error (.error ⟨"addMonths", .tooManyMonths⟩)) ∧
      (months.natAbs ≤ maxMonths →
        ¬ (Date.earliest.year ≤ targetYear parts months ∧
          targetYear parts months ≤ Date.latest.year) →
        monthsAdded (.number x) count = .error (.error ⟨"addMonths", .resultOutOfRange⟩)) ∧
      (Date.earliest.year ≤ targetYear parts months ∧ targetYear parts months ≤ Date.latest.year →
        ∃ result, monthsAdded (.number x) count = .ok result) ∧
      ∀ result, monthsAdded (.number x) count = .ok result →
        ∃ shifted later, result = .number (Float.ofInt shifted) ∧ Shows result later ∧
          MonthsLater months parts later ∧ shifted % 86400000 = millis % 86400000 ∧
          (parts.day ≤ 28 →
            (∀ more moreMonths sum, Number.Denotes more moreMonths →
              Number.Denotes sum (months + moreMonths) →
              ∀ final, monthsAdded result more = .ok final →
                monthsAdded (.number x) sum = .ok final) ∧
            ∀ back, Number.Denotes back (-months) →
              monthsAdded result back = .ok (.number (Float.ofInt millis)))) := by
  refine ⟨fun outside => ⟨_, monthsAdded_of_not_inRange denotes outside⟩, fun inRange => ?_⟩
  obtain ⟨date, isDate⟩ := exists_isDateOf millis
  have valid := isDate.valid
  refine ⟨partsOf date millis, shows_partsOf isDate denotes inRange, fun many => ?_,
    monthsAdded_of_unsupported isDate denotes inRange counted,
    exists_monthsAdded isDate denotes inRange counted, fun result made => ?_⟩
  · rw [monthsAdded_eq isDate denotes inRange counted, if_pos many]
  · obtain ⟨shifted, later, rfl⟩ :=
      (monthsAdded_eq_ok_iff isDate denotes inRange counted result).mp made
    refine ⟨onDay shifted millis, partsOf shifted (onDay shifted millis), rfl,
      shows_partsOf (isDateOf_of_shiftMonths? valid later millis)
        (denotes_of_shiftMonths? valid later millis) (inRange_of_shiftMonths? valid later millis),
      monthsLater_of_shiftMonths? valid later, time_onDay _ _, fun early => ?_⟩
    have early : date.day ≤ 28 := Int.ofNat_le.mp early
    refine ⟨?_, ?_⟩
    · intro more moreMonths sum countedMore countedSum final madeFinal
      obtain ⟨latest, again, rfl⟩ :=
        (monthsAdded_later_eq_ok_iff valid later countedMore final).mp madeFinal
      refine (monthsAdded_eq_ok_iff isDate denotes inRange countedSum _).mpr ⟨latest, ?_, rfl⟩
      exact Date.shiftMonths?_add valid early later again
    · intro back countedBack
      refine (monthsAdded_later_eq_ok_iff valid later countedBack _).mpr
        ⟨date, ?_, by rw [onDay_self isDate]⟩
      exact Date.shiftMonths?_neg valid early later (isDate.isSupported_iff.mpr inRange)

/-- The last day of a January, eleven months back. -/
theorem addMonths_shifts_clamped :
    Number.Denotes (Float.ofInt 1706697000000) 1706697000000 ∧
      Number.Denotes (Float.ofInt (-11)) (-11) ∧ InRange 1706697000000 ∧
      monthsAdded (.number (Float.ofInt 1706697000000)) (Float.ofInt (-11)) =
        .ok (.number (Float.ofInt 1677580200000)) ∧
      ∃ parts later, Shows (.number (Float.ofInt 1706697000000)) parts ∧
        Shows (.number (Float.ofInt 1677580200000)) later ∧ MonthsLater (-11) parts later := by
  have denotes : Number.Denotes (Float.ofInt 1706697000000) 1706697000000 :=
    Number.denotes_ofInt (by decide)
  have counted : Number.Denotes (Float.ofInt (-11)) (-11) := Number.denotes_ofInt (by decide)
  have inRange : InRange 1706697000000 := by decide
  have made : monthsAdded (.number (Float.ofInt 1706697000000)) (Float.ofInt (-11)) =
      .ok (.number (Float.ofInt 1677580200000)) := by
    have january : IsDateOf ⟨2024, 1, 31⟩ 1706697000000 := ⟨by decide, by decide⟩
    refine (monthsAdded_eq_ok_iff january denotes inRange counted _).mpr
      ⟨⟨2023, 2, 28⟩, by decide, ?_⟩
    have shifted : onDay ⟨2023, 2, 28⟩ 1706697000000 = 1677580200000 := by decide
    rw [shifted]
  obtain ⟨parts, shows, _, _, _, laws⟩ := (addMonths_shifts denotes counted).2 inRange
  obtain ⟨_, later, _, showsLater, monthsLater, _⟩ := laws _ made
  exact ⟨denotes, counted, inRange, made, parts, later, shows, showsLater, monthsLater⟩

end Library

end Stencil
