import Mathlib
import Stencil.Proofs.Calendar.Years
/-!
# Days and their dates

Day numbers and valid dates are in bijection. A day number is split into a year and a day of that
year, and this into a month and a day of the month; each split is undone by counting the days that
are before the year and before the month.
-/

namespace Stencil

namespace Date

/-! ## Years -/

def yearLength (year : Int) : Nat := if isLeapYear year then 366 else 365

theorem daysBeforeYear_succ (year : Int) :
    daysBeforeYear (year + 1) = daysBeforeYear year + yearLength year := by
  simp only [daysBeforeYear, yearLength, isLeapYear, Bool.and_eq_true, Bool.or_eq_true,
    beq_iff_eq, bne_iff_ne, ne_eq]
  split <;> omega

theorem daysBeforeYear_mono : Monotone daysBeforeYear := by
  refine monotone_int_of_le_succ fun year => ?_
  rw [daysBeforeYear_succ]
  omega

/-- A year comes after all days of the years before it. -/
theorem daysBeforeYear_add_length_le {year later : Int} (less : year < later) :
    daysBeforeYear year + yearLength year ≤ daysBeforeYear later := by
  rw [← daysBeforeYear_succ]
  exact daysBeforeYear_mono less

/-- How many days are before a year that is given by the four centuries, the century, the four years
and the year of these that it is in. -/
theorem daysBeforeYear_parts (cycle : Int) {century four year : Nat} (centuries : century ≤ 3)
    (fours : four ≤ 24) (years : year ≤ 3) :
    daysBeforeYear (cycle * 400 + century * 100 + four * 4 + year + 1) =
      146097 * cycle + 36524 * century + 1461 * four + 365 * year := by
  simp only [daysBeforeYear]
  omega

theorem isLeapYear_parts (cycle : Int) {century four : Nat} (fours : four ≤ 24)
    (last : four = 24 → century = 3) :
    isLeapYear (cycle * 400 + century * 100 + four * 4 + (3 : Nat) + 1) = true := by
  simp only [isLeapYear, Bool.and_eq_true, Bool.or_eq_true, beq_iff_eq, bne_iff_ne, ne_eq]
  omega

theorem yearAndDay_spec (days : Int) :
    daysBeforeYear (yearAndDay days).1 + (yearAndDay days).2 = days ∧
      (yearAndDay days).2 < yearLength (yearAndDay days).1 := by
  simp only [yearAndDay]
  have inCycle_lt : (days % 146097).toNat < 146097 := by omega
  have split : days = 146097 * (days / 146097) + (days % 146097).toNat := by omega
  generalize (days % 146097).toNat = inCycle at inCycle_lt split ⊢
  generalize days / 146097 = cycle at split ⊢
  obtain ⟨century, century_eq⟩ : ∃ century, century = min (inCycle / 36524) 3 := ⟨_, rfl⟩
  obtain ⟨inCentury, inCentury_eq⟩ : ∃ rest, rest = inCycle - century * 36524 := ⟨_, rfl⟩
  obtain ⟨four, four_eq⟩ : ∃ four, four = inCentury / 1461 := ⟨_, rfl⟩
  obtain ⟨inFour, inFour_eq⟩ : ∃ rest, rest = inCentury % 1461 := ⟨_, rfl⟩
  obtain ⟨year, year_eq⟩ : ∃ year, year = min (inFour / 365) 3 := ⟨_, rfl⟩
  have four_cast : (inCentury / 1461 : Int) = four := by omega
  simp only [← century_eq, ← inCentury_eq, four_cast, ← inFour_eq, ← year_eq]
  have before := daysBeforeYear_parts cycle (by omega : century ≤ 3) (by omega : four ≤ 24)
    (by omega : year ≤ 3)
  refine ⟨by rw [before]; omega, ?_⟩
  -- Only the last of four years may have a day of number 365.
  rw [yearLength]
  split_ifs with leap
  · omega
  · by_contra long
    obtain rfl : year = 3 := by omega
    exact leap (isLeapYear_parts cycle (by omega) (by omega))

/-! ## Months -/

theorem sum_monthLengths (year : Int) :
    (monthLengths (isLeapYear year)).sum = yearLength year := by
  rw [yearLength]
  cases isLeapYear year <;> rfl

theorem length_monthLengths (leap : Bool) : (monthLengths leap).length = 12 := by
  rfl

/-- Going on by days ends in the month whose days they reach. -/
theorem monthAndDay_spec (first : Nat) {days : Nat} {lengths : List Nat}
    (inside : days < lengths.sum) :
    ∃ months rest, ∃ known : months < lengths.length, rest < lengths[months] ∧
      days = (lengths.take months).sum + rest ∧
      monthAndDay first days lengths = (first + months, rest + 1) := by
  induction lengths generalizing first days with
  | nil => cases inside
  | cons length others ih =>
      rw [monthAndDay]
      split
      · rename_i here
        exact ⟨0, days, Nat.succ_pos _, here, by simp, rfl⟩
      · rename_i later
        rw [List.sum_cons] at inside
        obtain ⟨months, rest, known, short, days_eq, reached⟩ :=
          ih (first + 1) (show days - length < others.sum by omega)
        refine ⟨months + 1, rest, Nat.succ_lt_succ known, short, ?_, ?_⟩
        · rw [List.take_succ_cons, List.sum_cons]
          omega
        · rw [reached]
          congr 1
          omega

theorem daysBeforeMonth_eq (year : Int) (month : Nat) :
    daysBeforeMonth year month =
      ((monthLengths (isLeapYear year)).take (month - 1)).sum :=
  (List.sum_eq_foldl_nat ..).symm

theorem monthLength_eq (year : Int) {months : Nat}
    (known : months < (monthLengths (isLeapYear year)).length) :
    monthLength year (months + 1) = (monthLengths (isLeapYear year))[months] := by
  rw [monthLength, Nat.add_sub_cancel, List.getD_eq_getElem _ _ known]

theorem daysBeforeMonth_succ (year : Int) {month : Nat} (first : 1 ≤ month) (last : month ≤ 12) :
    daysBeforeMonth year (month + 1) = daysBeforeMonth year month + monthLength year month := by
  obtain ⟨months, rfl⟩ := Nat.exists_eq_add_of_le' first
  have known : months < (monthLengths (isLeapYear year)).length := by
    rw [length_monthLengths]
    omega
  rw [daysBeforeMonth_eq, daysBeforeMonth_eq, monthLength_eq year known, Nat.add_sub_cancel,
    Nat.add_sub_cancel, List.sum_take_succ _ _ known]

theorem daysBeforeMonth_mono (year : Int) : Monotone (daysBeforeMonth year) := by
  intro month later le
  rw [daysBeforeMonth_eq, daysBeforeMonth_eq]
  exact List.Sublist.sum_le_sum (List.take_sublist_take_left (by omega)) fun _ _ => Nat.zero_le _

/-- A month comes after all days of the months before it. -/
theorem daysBeforeMonth_add_length_le (year : Int) {month later : Nat} (first : 1 ≤ month)
    (less : month < later) (last : later ≤ 13) :
    daysBeforeMonth year month + monthLength year month ≤ daysBeforeMonth year later := by
  rw [← daysBeforeMonth_succ year first (by omega)]
  exact daysBeforeMonth_mono year less

theorem daysBeforeMonth_thirteen (year : Int) : daysBeforeMonth year 13 = yearLength year := by
  rw [daysBeforeMonth_eq, ← sum_monthLengths]
  exact congrArg List.sum (List.take_of_length_le (by rw [length_monthLengths]))

/-! ## Dates -/

theorem isValid_iff (date : Date) : date.isValid = true ↔
    (1 ≤ date.month ∧ date.month ≤ 12) ∧ 1 ≤ date.day ∧
      date.day ≤ monthLength date.year date.month := by
  simp only [isValid, Bool.and_eq_true, decide_eq_true_eq]
  omega

theorem dayOfYear_lt {date : Date} (valid : date.isValid = true) :
    date.dayOfYear < yearLength date.year := by
  obtain ⟨⟨first, last⟩, _, _⟩ := (isValid_iff date).mp valid
  have before := daysBeforeMonth_add_length_le date.year first (Nat.lt_succ_of_le last) le_rfl
  rw [daysBeforeMonth_thirteen] at before
  rw [dayOfYear]
  omega

/-- The date of a day number is a date, and the day has its number. -/
theorem ofNumber_spec (number : Int) :
    (ofNumber number).isValid = true ∧ (ofNumber number).number = number := by
  obtain ⟨before, inside⟩ := yearAndDay_spec (number + epoch)
  simp only [ofNumber]
  generalize yearAndDay (number + epoch) = split at before inside ⊢
  obtain ⟨year, days⟩ := split
  dsimp only at before inside ⊢
  rw [← sum_monthLengths] at inside
  obtain ⟨months, rest, known, short, days_eq, reached⟩ := monthAndDay_spec 1 inside
  rw [reached, Nat.add_comm 1 months]
  have length := monthLength_eq year known
  have count := length_monthLengths (isLeapYear year)
  refine ⟨(isValid_iff _).mpr ?_, ?_⟩
  · dsimp only
    omega
  · rw [Date.number, dayOfYear]
    dsimp only
    rw [daysBeforeMonth_eq, Nat.add_sub_cancel, Nat.add_sub_cancel, ← days_eq]
    omega

/-- Dates of different years have different numbers, and so have dates of different months. -/
theorem eq_of_number_eq {date other : Date} (valid : date.isValid = true)
    (otherValid : other.isValid = true) (same : date.number = other.number) : date = other := by
  have inside := dayOfYear_lt valid
  have otherInside := dayOfYear_lt otherValid
  rw [number, number] at same
  have year : date.year = other.year := by
    rcases lt_trichotomy date.year other.year with less | same | greater
    · have before := daysBeforeYear_add_length_le less
      omega
    · exact same
    · have before := daysBeforeYear_add_length_le greater
      omega
  obtain ⟨⟨first, last⟩, least, most⟩ := (isValid_iff date).mp valid
  obtain ⟨⟨otherFirst, otherLast⟩, otherLeast, otherMost⟩ := (isValid_iff other).mp otherValid
  rw [dayOfYear, dayOfYear, year] at same
  rw [year] at most
  have month : date.month = other.month := by
    rcases lt_trichotomy date.month other.month with less | same | greater
    · have before := daysBeforeMonth_add_length_le other.year first less (by omega)
      omega
    · exact same
    · have before := daysBeforeMonth_add_length_le other.year otherFirst greater (by omega)
      omega
  rw [month] at same
  have day : date.day = other.day := by omega
  obtain ⟨_, _, _⟩ := date
  dsimp only at year month day
  rw [year, month, day]

theorem ofNumber_number {date : Date} (valid : date.isValid = true) :
    ofNumber date.number = date :=
  eq_of_number_eq (ofNumber_spec _).1 valid (ofNumber_spec _).2

theorem isValid_firstOfMonth {date : Date} (valid : date.isValid = true) :
    date.firstOfMonth.isValid = true := by
  obtain ⟨month, least, most⟩ := (isValid_iff date).mp valid
  exact (isValid_iff _).mpr ⟨month, le_rfl, least.trans most⟩

theorem number_firstOfMonth {date : Date} (valid : date.isValid = true) :
    date.number = date.firstOfMonth.number + (date.day - 1) := by
  obtain ⟨-, least, -⟩ := (isValid_iff date).mp valid
  simp only [number, dayOfYear, firstOfMonth]
  omega

/-- The dates from the first day of a year on are those of this year and of later ones. -/
theorem firstOfYear_le_iff {date : Date} (valid : date.isValid = true) (year : Int) :
    number ⟨year, 1, 1⟩ ≤ date.number ↔ year ≤ date.year := by
  have inside := dayOfYear_lt valid
  have first : dayOfYear ⟨year, 1, 1⟩ = 0 := rfl
  rw [number, number, first]
  dsimp only
  constructor
  · intro le
    by_contra earlier
    have before := daysBeforeYear_add_length_le (not_le.mp earlier)
    omega
  · intro le
    have before := daysBeforeYear_mono le
    omega

/-- The supported dates are those from the first to the last supported day. -/
theorem isSupported_iff {date : Date} (valid : date.isValid = true) :
    date.isSupported = true ↔
      earliest.number ≤ date.number ∧ date.number ≤ latest.number := by
  have first := firstOfYear_le_iff valid earliest.year
  have last := firstOfYear_le_iff valid (latest.year + 1)
  have least : number ⟨earliest.year, 1, 1⟩ = earliest.number := rfl
  have next : number ⟨latest.year + 1, 1, 1⟩ = latest.number + 1 := by decide
  rw [least] at first
  rw [next] at last
  rw [isSupported, Bool.and_eq_true, decide_eq_true_eq, decide_eq_true_eq, first]
  omega

theorem ofParts?_of_isSupported {date : Date} (valid : date.isValid = true)
    (supported : date.isSupported = true) :
    ofParts? date.year date.month date.day = some date := by
  have both : (date.isValid && date.isSupported) = true := by rw [valid, supported, Bool.and_self]
  exact if_pos both

end Date

end Stencil
