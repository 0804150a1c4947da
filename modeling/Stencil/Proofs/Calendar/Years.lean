import Mathlib
import Stencil.Library.Dates
import Stencil.Proofs.Number.Lengths
/-!
# Years that are written

Dates are read in a bounded range of years, and an offset moves an instant by less than a day. So
the year of an instant never needs many digits.
-/

namespace Stencil

namespace Date

/-- Whether the day of a date is less than ninety-nine million days away from the first of 1970. -/
def IsNear (date : Date) : Prop := date.number.natAbs < 99000000

theorem le_of_mem_monthLengths (leap : Bool) :
    ∀ length ∈ monthLengths leap, length ≤ 31 := by
  cases leap <;> decide

theorem monthLength_le (year : Int) (month : Nat) : monthLength year month ≤ 31 := by
  rw [monthLength, List.getD_eq_getElem?_getD]
  cases found : (monthLengths (isLeapYear year))[month - 1]? with
  | none => exact Nat.zero_le 31
  | some length => exact le_of_mem_monthLengths _ length (List.mem_of_getElem? found)

theorem daysBeforeMonth_le (year : Int) (month : Nat) : daysBeforeMonth year month ≤ 366 := by
  have sum (leap : Bool) : (monthLengths leap).sum ≤ 366 := by cases leap <;> decide
  rw [daysBeforeMonth, ← List.sum_eq_foldl_nat]
  exact (List.Sublist.sum_le_sum (List.take_sublist _ _) fun _ _ => Nat.zero_le _).trans (sum _)

theorem isNear_of_isSupported {date : Date} (valid : date.isValid = true)
    (supported : date.isSupported = true) : date.IsNear := by
  have month := daysBeforeMonth_le date.year date.month
  have length := monthLength_le date.year date.month
  simp only [isValid, Bool.and_eq_true, decide_eq_true_eq] at valid
  simp only [isSupported, Bool.and_eq_true, decide_eq_true_eq] at supported
  simp only [earliest, latest] at supported
  simp only [IsNear, number, daysBeforeYear, dayOfYear, epoch]
  omega

theorem isNear_ofParts? {year : Int} {month day : Nat} {date : Date}
    (exists_date : ofParts? year month day = some date) : date.IsNear := by
  rw [ofParts?] at exists_date
  split at exists_date
  · rename_i fine
    cases exists_date
    rw [Bool.and_eq_true] at fine
    exact isNear_of_isSupported fine.1 fine.2
  · cases exists_date

/-- A year has more than three hundred days. -/
theorem natAbs_year_lt {number : Int} (near : number.natAbs < 100000000) :
    (ofNumber number).year.natAbs < 400000 := by
  simp only [ofNumber, yearAndDay, epoch]
  omega

end Date

namespace Instant

/-- Whether the day of an instant is less than a hundred million days away from the first of 1970.
An offset may move an instant out of the range of its date. -/
def IsNear (instant : Instant) : Prop := instant.day.natAbs < 100000000

theorem isNear_ofMillis? {millis : Int} {instant : Instant}
    (exists_instant : ofMillis? millis = some instant) : instant.IsNear := by
  have earliest : Date.earliest.number = -96465292 := by decide
  have latest : Date.latest.number = 95026236 := by decide
  simp only [ofMillis?, earliest, latest] at exists_instant
  split at exists_instant
  · cases exists_instant
    change Int.natAbs (millis / 1000 / secondsPerDay) < _
    omega
  · cases exists_instant

end Instant

namespace Calendar

/-- An instant on the day of a date that is near, at a second that the day has. -/
structure IsTimed (instant : Instant) : Prop where
  day : instant.day.natAbs < 99000000
  second : instant.second < Instant.secondsPerDay

theorem isTimed_instantAt? {date : Date} {hour minute second nano : Nat} {instant : Instant}
    (near : date.IsNear)
    (exists_instant : instantAt? date hour minute second nano = some instant) :
    IsTimed instant := by
  rw [instantAt?] at exists_instant
  split at exists_instant
  · cases exists_instant
  · by_cases leap : second = 60
    · rw [if_pos leap] at exists_instant
      cases exists_instant
      refine ⟨near, ?_⟩
      simp only [Instant.secondsPerDay]
      omega
    · rw [if_neg leap] at exists_instant
      cases exists_instant
      refine ⟨near, ?_⟩
      simp only [Instant.secondsPerDay]
      omega

theorem IsTimed.isNear {instant : Instant} (timed : IsTimed instant) : instant.IsNear :=
  timed.day.trans (by decide)

theorem IsTimed.isNear_withoutOffset {instant : Instant} (timed : IsTimed instant) {offset : Int}
    (short : offset.natAbs < Instant.secondsPerDay) :
    (withoutOffset offset instant).IsNear := by
  obtain ⟨day, second⟩ := timed
  simp only [Instant.IsNear, withoutOffset, Instant.timestamp, Instant.secondsPerDay] at *
  omega

theorem natAbs_readOffset? {text rest : List Char} {offset : Int}
    (read : readOffset? text = some (offset, rest)) : offset.natAbs < Instant.secondsPerDay := by
  have parts {text rest : List Char} {seconds : Nat}
      (read : readOffsetParts? text = some (seconds, rest)) : seconds < Instant.secondsPerDay := by
    simp only [readOffsetParts?, Option.bind_eq_bind, Option.bind_eq_some_iff] at read
    obtain ⟨⟨hours, _⟩, -, _, -, ⟨minutes, _⟩, -, read⟩ := read
    split at read
    · cases read
    · cases read
      simp only [Instant.secondsPerDay]
      omega
  cases text with
  | nil => cases read
  | cons c text =>
      rw [readOffset?] at read
      split at read
      · cases read
        decide
      · split at read
        · obtain ⟨⟨seconds, _⟩, found, same⟩ := Option.map_eq_some_iff.mp read
          cases same
          exact parts found
        · split at read
          · obtain ⟨⟨seconds, _⟩, found, same⟩ := Option.map_eq_some_iff.mp read
            cases same
            simpa using parts found
          · cases read

theorem isNear_readWithOffset? {text : List Char} {instant : Instant}
    (read : readWithOffset? text = some instant) : instant.IsNear := by
  obtain ⟨⟨year, _⟩, -, read⟩ := Option.bind_eq_some_iff.mp read
  obtain ⟨_, -, read⟩ := Option.bind_eq_some_iff.mp read
  obtain ⟨⟨month, _⟩, -, read⟩ := Option.bind_eq_some_iff.mp read
  obtain ⟨_, -, read⟩ := Option.bind_eq_some_iff.mp read
  obtain ⟨⟨day, _⟩, -, read⟩ := Option.bind_eq_some_iff.mp read
  obtain ⟨_, -, read⟩ := Option.bind_eq_some_iff.mp read
  obtain ⟨⟨hour, _⟩, -, read⟩ := Option.bind_eq_some_iff.mp read
  obtain ⟨_, -, read⟩ := Option.bind_eq_some_iff.mp read
  obtain ⟨⟨minute, _⟩, -, read⟩ := Option.bind_eq_some_iff.mp read
  obtain ⟨_, -, read⟩ := Option.bind_eq_some_iff.mp read
  obtain ⟨⟨second, _⟩, -, read⟩ := Option.bind_eq_some_iff.mp read
  obtain ⟨⟨nano, _⟩, -, read⟩ := Option.bind_eq_some_iff.mp read
  obtain ⟨⟨offset, _⟩, shifted, read⟩ := Option.bind_eq_some_iff.mp read
  obtain ⟨date, dated, read⟩ := Option.bind_eq_some_iff.mp read
  obtain ⟨localInstant, timed, read⟩ := Option.bind_eq_some_iff.mp read
  have timed := isTimed_instantAt? (Date.isNear_ofParts? dated) timed
  split at read
  · cases read
    exact timed.isNear_withoutOffset (natAbs_readOffset? shifted)
  · cases read

theorem isNear_readDate? {text rest : List Char} {date : Date}
    (read : readDate? text = some (date, rest)) : date.IsNear := by
  simp only [readDate?, Option.bind_eq_bind, Option.bind_eq_some_iff] at read
  obtain ⟨_, -, _, -, _, -, _, -, _, -, found, dated, same⟩ := read
  cases same
  exact Date.isNear_ofParts? dated

theorem isNear_readTime? {date : Date} (near : date.IsNear) {text : List Char}
    {instant : Instant} (read : readTime? date text = some instant) : instant.IsNear := by
  simp only [readTime?, Option.bind_eq_bind, Option.bind_eq_some_iff] at read
  obtain ⟨_, -, _, -, _, -, _, -, _, -, _, -, read⟩ := read
  split at read
  · exact (isTimed_instantAt? near read).isNear
  · cases read

theorem isNear_readWritten? {text : List Char} {instant : Instant}
    (read : readWritten? text = some instant) : instant.IsNear := by
  simp only [readWritten?, Option.orElse_eq_some] at read
  rcases read with offset | ⟨-, marked | ⟨-, spaced | ⟨-, midnight⟩⟩⟩
  · exact isNear_readWithOffset? offset
  · obtain ⟨⟨date, rest⟩, dated, read⟩ := Option.bind_eq_some_iff.mp marked
    obtain ⟨_, -, timed⟩ := Option.bind_eq_some_iff.mp read
    exact isNear_readTime? (isNear_readDate? dated) timed
  · obtain ⟨⟨date, rest⟩, dated, timed⟩ := Option.bind_eq_some_iff.mp spaced
    exact isNear_readTime? (isNear_readDate? dated) timed
  · obtain ⟨⟨date, rest⟩, dated, read⟩ := Option.bind_eq_some_iff.mp midnight
    obtain ⟨-, same⟩ := Option.ite_none_right_eq_some.mp read
    cases same
    exact (isNear_readDate? dated).trans (by decide)

/-! ## The form with an offset -/

theorem length_twoPlaces_le (padding : Padding) (n : Int) : (twoPlaces padding n).length ≤ 2 := by
  simp only [twoPlaces]
  split
  · cases padding <;> simp
  · exact Nat.le_refl 2

theorem length_padded_zero (width : Nat) (sign digits : List Char) :
    (padded .zero width sign digits).length =
      sign.length + max (width - sign.length) digits.length := by
  rw [padded, List.length_append, List.length_leftpad]

theorem length_yearText_le {year : Int} (near : year.natAbs < 400000) :
    (yearText .zero year).length ≤ 20 := by
  have digits : (digitsOf year.natAbs).length ≤ 19 := by
    rw [digitsOf, String.length_toList]
    exact (Nat.length_repr_le_iff (by decide)).mpr (near.trans (by decide))
  rw [yearText]
  split
  · have sign : (if year < 0 then ['-'] else []).length ≤ 1 := by
      split <;> simp
    rw [wide, length_padded_zero]
    omega
  · rw [length_padded_zero, List.length_singleton]
    omega

theorem length_placesText_le (instant : Instant) (count : Nat) :
    (placesText instant count).length ≤ max count 9 := by
  have fraction : instant.fraction < 10 ^ 9 := Nat.mod_lt _ (by decide)
  have digits : (Nat.repr (instant.fraction / Nat.pow 10 (9 - count))).length ≤ 9 :=
    (Nat.length_repr_le_iff (by decide)).mpr ((Nat.div_le_self _ _).trans_lt fraction)
  rw [placesText, List.length_leftpad, digitsOf, String.length_toList]
  exact max_le_max_left count digits

theorem length_isoText_le {instant : Instant} (near : instant.IsNear) :
    (isoText instant).length ≤ 64 := by
  have year : (yearText .zero instant.date.year).length ≤ 20 :=
    length_yearText_le (Date.natAbs_year_lt near)
  have places := length_placesText_le instant 3
  have month := length_twoPlaces_le .zero instant.date.month
  have day := length_twoPlaces_le .zero instant.date.day
  have hour := length_twoPlaces_le .zero instant.hour
  have minute := length_twoPlaces_le .zero instant.minute
  have second := length_twoPlaces_le .zero instant.secondOfMinute
  simp only [isoText, plainText, numberText, List.length_append, List.length_cons, List.length_nil]
  omega

end Calendar

end Stencil
