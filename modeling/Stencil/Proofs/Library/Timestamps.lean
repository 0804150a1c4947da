import Mathlib
import Stencil.Proofs.Library.Components
import Stencil.Proofs.Number.Numeral
/-!
# Timestamps that are read back

A timestamp writes every part of a date in figures of a fixed width, but only years of four figures
have no sign. These are read back with all their parts. A timestamp with a sign is read by no form:
the one that takes the `Z` at its end takes no sign, and no other form takes the `Z`.
-/

namespace Stencil

open Text

namespace Instant

/-- Whether a number of milliseconds is in the years that have at most four figures. -/
def HasPlainYear (millis : Int) : Prop :=
  Date.number ⟨0, 1, 1⟩ * 86400000 ≤ millis ∧ millis < Date.number ⟨10000, 1, 1⟩ * 86400000

instance : DecidablePred HasPlainYear := fun _ => inferInstanceAs (Decidable (_ ∧ _))

theorem hasPlainYear_iff (millis : Int) : HasPlainYear millis ↔
    0 ≤ (atMillis millis).date.year ∧ (atMillis millis).date.year ≤ 9999 := by
  obtain ⟨date, isDate⟩ := exists_isDateOf millis
  have first := Date.firstOfYear_le_iff isDate.valid 0
  have last := Date.firstOfYear_le_iff isDate.valid 10000
  rw [isDate.number] at first last
  rw [HasPlainYear, isDate.date_atMillis]
  omega

end Instant

namespace Calendar

/-! ## Figures -/

/-- A number in figures of a fixed width. -/
structure Figures (text : List Char) (width n : Nat) : Prop where
  length : text.length = width
  digits : ∀ c ∈ text, c.isDigit = true
  value : Number.digitsValue text = n

variable {text rest : List Char} {width n : Nat}

theorem digitsValue_leftpad (width n : Nat) :
    Number.digitsValue ((digitsOf n).leftpad width '0') = n := by
  have zeros (count : Nat) (digits : List Char) :
      Number.digitsValue (List.replicate count '0' ++ digits) = Number.digitsValue digits := by
    induction count with
    | zero => rfl
    | succ count ih => exact ih
  rw [List.leftpad, zeros, digitsOf, Nat.toList_repr, Number.digitsValue_toDigits]

theorem figures_leftpad (several : 0 < width) (small : n < 10 ^ width) :
    Figures ((digitsOf n).leftpad width '0') width n where
  length := by
    have short : (digitsOf n).length ≤ width := by
      rw [digitsOf, String.length_toList]
      exact (Nat.length_repr_le_iff several).mpr small
    rw [List.length_leftpad, max_eq_left short]
  digits := by
    intro c member
    rcases List.mem_append.mp member with zero | digit
    · rw [List.eq_of_mem_replicate zero]
      rfl
    · rw [digitsOf, Nat.toList_repr] at digit
      exact (Digits.ofNat n).digits c digit
  value := digitsValue_leftpad width n

theorem twoPlaces_zero (small : n < 100) : twoPlaces .zero n =
    [Char.ofNat ('0'.toNat + n / 10), Char.ofNat ('0'.toNat + n % 10)] := by
  have byte : ((n : Int) % 256).toNat = n := by omega
  simp only [twoPlaces, byte]
  split
  · rename_i none
    rw [none]
    rfl
  · rfl

theorem figures_twoPlaces (small : n < 100) : Figures (twoPlaces .zero n) 2 n := by
  have digit : ∀ d < 10, (Char.ofNat ('0'.toNat + d)).isDigit = true ∧
      (Char.ofNat ('0'.toNat + d)).toNat - '0'.toNat = d := by decide
  have tens := digit (n / 10) (by omega)
  have ones := digit (n % 10) (by omega)
  rw [twoPlaces_zero small]
  refine ⟨rfl, ?_, ?_⟩
  · simp only [List.forall_mem_cons]
    exact ⟨tens.1, ones.1, List.forall_mem_nil _⟩
  · simp only [Number.digitsValue, List.foldl_cons, List.foldl_nil, tens.2, ones.2]
    omega

/-- Digits at the front of a text are read if there are as many as are looked for, or if no digit
follows them. -/
theorem readDigits?_append {least most : Nat} (enough : least ≤ text.length)
    (fit : text.length ≤ most) (digits : ∀ c ∈ text, c.isDigit = true)
    (stops : Stops Char.isDigit (rest.take (most - text.length))) :
    readDigits? least most (text ++ rest) = some (text, rest) := by
  have front : ((text ++ rest).take most).takeWhile Char.isDigit = text := by
    rw [List.take_append, List.take_of_length_le fit, takeWhile_run digits stops]
  rw [readDigits?, front, if_pos enough, List.drop_left]

theorem Figures.readNumber? (figures : Figures text width n) (rest : List Char) :
    readNumber? width width (text ++ rest) = some (n, rest) := by
  have stops : Stops Char.isDigit (rest.take (width - text.length)) := by
    rw [figures.length, Nat.sub_self]
    exact stops_nil
  rw [Calendar.readNumber?, readDigits?_append figures.length.ge figures.length.le figures.digits
    stops, Option.map_some]
  dsimp only
  rw [figures.value]

/-! ## Years of four figures -/

open Instant

variable {millis : Int}

theorem yearText_zero {year : Int} (least : 0 ≤ year) (most : year ≤ 9999) :
    Figures (yearText .zero year) 4 year.toNat := by
  have magnitude : year.natAbs = year.toNat := by omega
  have small : year.toNat < 10 ^ 4 := by omega
  rw [yearText, if_pos ⟨least, most⟩, wide, if_neg (not_lt.mpr least), magnitude, padded,
    List.nil_append, List.length_nil, Nat.sub_zero]
  exact figures_leftpad (by decide) small

theorem figures_placesText (millis : Int) :
    Figures (placesText (atMillis millis) 3) 3 (millis % 1000).toNat := by
  have fraction : (atMillis millis).fraction / Nat.pow 10 (9 - 3) = (millis % 1000).toNat := by
    have power : Nat.pow 10 (9 - 3) = 1000000 := rfl
    simp only [Instant.fraction, nanosPerSecond, atMillis, power]
    omega
  rw [placesText, fraction]
  exact figures_leftpad (by decide) (by omega)

/-- A fraction of three places is read in nanoseconds. -/
theorem readFraction?_places (figures : Figures text 3 n) (rest : List Char)
    (stops : Stops Char.isDigit rest) :
    readFraction? ('.' :: (text ++ rest)) = some (n * 1000000, rest) := by
  have cut : Stops Char.isDigit (rest.take (9 - text.length)) := by
    rw [figures.length]
    cases rest with
    | nil => exact stops_nil
    | cons c others => exact stops_cons stops.head
  have read : readDigits? 1 9 (text ++ rest) = some (text, rest) :=
    readDigits?_append (by rw [figures.length]; decide) (by rw [figures.length]; decide)
      figures.digits cut
  rw [readFraction?, readNanos?, read, Option.map_some]
  dsimp only
  rw [figures.value, figures.length, stops.dropWhile_eq_self]

theorem readChar?_same (c : Char) (rest : List Char) : readChar? c (c :: rest) = some rest :=
  if_pos rfl

theorem readTimeMark?_mark (rest : List Char) : readTimeMark? ('T' :: rest) = some rest := by
  rw [readTimeMark?, if_pos (Or.inl rfl)]

theorem readOffset?_none (rest : List Char) : readOffset? ('Z' :: rest) = some (0, rest) := by
  rw [readOffset?, if_pos (Or.inl rfl)]

theorem isoText_eq (instant : Instant) : isoText instant =
    yearText .zero instant.date.year ++ '-' :: (twoPlaces .zero instant.date.month ++
      '-' :: (twoPlaces .zero instant.date.day ++ 'T' :: (twoPlaces .zero instant.hour ++
        ':' :: (twoPlaces .zero instant.minute ++ ':' :: (twoPlaces .zero instant.secondOfMinute ++
          '.' :: (placesText instant 3 ++ ['Z'])))))) := by
  simp only [isoText, plainText, numberText, List.append_assoc, List.cons_append]

theorem secondOfMinute_atMillis (millis : Int) : (atMillis millis).secondOfMinute =
    (millis % 60000 / 1000).toNat := by
  simp only [secondOfMinute, nanosPerSecond, atMillis]
  omega

theorem instantAt?_atMillis {date : Date} (number : date.number = millis / 86400000) :
    instantAt? date (atMillis millis).hour (atMillis millis).minute
      (atMillis millis).secondOfMinute ((millis % 1000).toNat * 1000000) =
        some (atMillis millis) := by
  have hour := hour_atMillis millis
  have minute := minute_atMillis millis
  have second := secondOfMinute_atMillis millis
  have noLeap : (atMillis millis).secondOfMinute ≠ 60 := by omega
  have total : (atMillis millis).hour * 3600 + (atMillis millis).minute * 60 +
      (atMillis millis).secondOfMinute = (millis % 86400000 / 1000).toNat := by omega
  rw [instantAt?, if_neg (by omega), if_neg noLeap]
  dsimp only
  rw [number, total]
  rfl

theorem withoutOffset_zero : withoutOffset 0 (atMillis millis) = atMillis millis := by
  simp only [withoutOffset, timestamp, secondsPerDay, atMillis]
  congr 1 <;> omega

/-- A timestamp of a year of four figures is read back. -/
theorem readWithOffset?_isoText (inRange : InRange millis) (plain : HasPlainYear millis) :
    readWithOffset? (isoText (atMillis millis)) = some (atMillis millis) := by
  obtain ⟨least, most⟩ := (hasPlainYear_iff millis).mp plain
  have hour := hour_atMillis millis
  have minute := minute_atMillis millis
  have second := secondOfMinute_atMillis millis
  obtain ⟨date, isDate⟩ := exists_isDateOf millis
  obtain rfl := isDate.date_atMillis
  have supported := isDate.isSupported_iff.mpr inRange
  obtain ⟨⟨_, lastMonth⟩, _, lastDay⟩ := (Date.isValid_iff _).mp isDate.valid
  have lastDay := lastDay.trans (Date.monthLength_le _ _)
  have year := yearText_zero least most
  have month := figures_twoPlaces (n := (atMillis millis).date.month) (by omega)
  have day := figures_twoPlaces (n := (atMillis millis).date.day) (by omega)
  have hour := figures_twoPlaces (n := (atMillis millis).hour) (by omega)
  have minute := figures_twoPlaces (n := (atMillis millis).minute) (by omega)
  have second := figures_twoPlaces (n := (atMillis millis).secondOfMinute) (by omega)
  have places := figures_placesText millis
  -- Every step reads the field that is written next and leaves the fields behind it.
  rw [isoText_eq]
  refine Option.bind_eq_some_iff.mpr ⟨_, year.readNumber? _, ?_⟩
  refine Option.bind_eq_some_iff.mpr ⟨_, readChar?_same _ _, ?_⟩
  refine Option.bind_eq_some_iff.mpr ⟨_, month.readNumber? _, ?_⟩
  refine Option.bind_eq_some_iff.mpr ⟨_, readChar?_same _ _, ?_⟩
  refine Option.bind_eq_some_iff.mpr ⟨_, day.readNumber? _, ?_⟩
  refine Option.bind_eq_some_iff.mpr ⟨_, readTimeMark?_mark _, ?_⟩
  refine Option.bind_eq_some_iff.mpr ⟨_, hour.readNumber? _, ?_⟩
  refine Option.bind_eq_some_iff.mpr ⟨_, readChar?_same _ _, ?_⟩
  refine Option.bind_eq_some_iff.mpr ⟨_, minute.readNumber? _, ?_⟩
  refine Option.bind_eq_some_iff.mpr ⟨_, readChar?_same _ _, ?_⟩
  refine Option.bind_eq_some_iff.mpr ⟨_, second.readNumber? _, ?_⟩
  refine Option.bind_eq_some_iff.mpr ⟨_, readFraction?_places places _ (stops_cons rfl), ?_⟩
  refine Option.bind_eq_some_iff.mpr ⟨_, readOffset?_none _, ?_⟩
  refine Option.bind_eq_some_iff.mpr ⟨(atMillis millis).date, ?_, ?_⟩
  · rw [Int.toNat_of_nonneg least]
    exact Date.ofParts?_of_isSupported isDate.valid supported
  refine Option.bind_eq_some_iff.mpr ⟨_, instantAt?_atMillis isDate.number, ?_⟩
  rw [withoutOffset_zero]
  rfl

/-! ## Years with a sign -/

theorem yearText_signed {year : Int} (signed : ¬ (0 ≤ year ∧ year ≤ 9999)) :
    ∃ sign digits, yearText .zero year = sign :: digits ∧ isBlank sign = false ∧
      sign.isDigit = false := by
  refine ⟨_, _, if_neg signed, ?_, ?_⟩ <;> split <;> rfl

theorem readWithOffset?_of_stops (stops : Stops Char.isDigit text) :
    readWithOffset? text = none := by
  have nothing : readNumber? 4 4 text = none := by
    have none : (text.take 4).takeWhile Char.isDigit = [] := by
      cases text with
      | nil => rfl
      | cons c others => exact (stops_cons stops.head).takeWhile_eq_nil
    rw [readNumber?, readDigits?, none]
    rfl
  rw [readWithOffset?, nothing]
  rfl

/-- A step of a reader that leaves the `Z` of a text in what it has not read. -/
def LeavesZ {α : Type} (reader : List Char → Option (α × List Char)) : Prop :=
  ∀ ⦃text value rest⦄, reader text = some (value, rest) → 'Z' ∈ text → 'Z' ∈ rest

theorem mem_dropWhile {inClass : Char → Bool} (outside : inClass 'Z' = false)
    (member : 'Z' ∈ text) : 'Z' ∈ text.dropWhile inClass := by
  rw [← List.takeWhile_append_dropWhile (p := inClass) (l := text)] at member
  rcases List.mem_append.mp member with inside | behind
  · rw [List.mem_takeWhile_imp inside] at outside
    cases outside
  · exact behind

theorem leavesZ_readDigits? (least most : Nat) : LeavesZ (readDigits? least most) := by
  intro text digits rest read member
  rw [readDigits?, Option.ite_none_right_eq_some, Option.some.injEq, Prod.mk.injEq] at read
  obtain ⟨-, run, rfl⟩ := read
  have front : digits <+: text :=
    run ▸ (List.takeWhile_prefix _).trans (List.take_prefix most text)
  rw [run]
  obtain ⟨rest, rfl⟩ := front
  rw [List.drop_left]
  rcases List.mem_append.mp member with inside | behind
  · rw [← run] at inside
    cases List.mem_takeWhile_imp inside
  · exact behind

theorem LeavesZ.map {α β : Type} {reader : List Char → Option (α × List Char)}
    (leaves : LeavesZ reader) (f : α → β) :
    LeavesZ fun text => (reader text).map fun (value, rest) => (f value, rest) := by
  intro text value rest read member
  obtain ⟨⟨_, _⟩, front, same⟩ := Option.map_eq_some_iff.mp read
  obtain ⟨rfl, rfl⟩ := Prod.mk.inj same
  exact leaves front member

theorem leavesZ_readNumber? (least most : Nat) : LeavesZ (readNumber? least most) :=
  (leavesZ_readDigits? least most).map Number.digitsValue

theorem leavesZ_readField? : LeavesZ readField? :=
  fun _ _ _ read member => leavesZ_readNumber? 1 2 read (mem_dropWhile rfl member)

theorem leavesZ_readYear? : LeavesZ readYear? := by
  intro text value rest read member
  have member : 'Z' ∈ trimStart text := mem_dropWhile rfl member
  rw [readYear?] at read
  split at read
  · rename_i signed
    rw [signed] at member
    exact (leavesZ_readNumber? 1 _).map (fun year => -(year : Int)) read
      (List.mem_of_ne_of_mem (by decide) member)
  · rename_i signed
    rw [signed] at member
    exact (leavesZ_readNumber? 1 _).map (fun year => (year : Int)) read
      (List.mem_of_ne_of_mem (by decide) member)
  · exact (leavesZ_readNumber? 1 4).map (fun year => (year : Int)) read member

theorem mem_of_readChar? {c : Char} (other : 'Z' ≠ c) (read : readChar? c text = some rest)
    (member : 'Z' ∈ text) : 'Z' ∈ rest := by
  cases text with
  | nil => cases member
  | cons first others =>
      rw [readChar?, Option.ite_none_right_eq_some, Option.some.injEq] at read
      obtain ⟨rfl, rfl⟩ := read
      exact List.mem_of_ne_of_mem other member

theorem leavesZ_readDate? : LeavesZ readDate? := by
  intro text value rest read member
  simp only [readDate?, Option.bind_eq_bind, Option.bind_eq_some_iff, Option.some.injEq,
    Prod.mk.injEq] at read
  obtain ⟨year, readYear, _, first, month, readMonth, _, second, day, readDay, _, _, rfl, rfl⟩ :=
    read
  have member := mem_of_readChar? (by decide) first (leavesZ_readYear? readYear member)
  have member := mem_of_readChar? (by decide) second (leavesZ_readField? readMonth member)
  exact leavesZ_readField? readDay member

theorem leavesZ_readFraction? : LeavesZ readFraction? := by
  intro text value rest read member
  rw [readFraction?.eq_def] at read
  split at read
  · obtain ⟨⟨digits, _⟩, front, same⟩ := Option.map_eq_some_iff.mp read
    obtain ⟨rfl, rfl⟩ := Prod.mk.inj same
    exact mem_dropWhile rfl (leavesZ_readDigits? 1 9 front
      (List.mem_of_ne_of_mem (by decide) member))
  · cases read
    exact member

theorem not_isEmpty_of_mem (member : 'Z' ∈ text) : text.isEmpty ≠ true := by
  rw [ne_eq, List.isEmpty_iff]
  exact List.ne_nil_of_mem member

theorem readTime?_of_mem (date : Date) (member : 'Z' ∈ text) : readTime? date text = none := by
  rw [Option.eq_none_iff_forall_ne_some]
  intro instant read
  simp only [readTime?, Option.bind_eq_bind, Option.bind_eq_some_iff,
    Option.ite_none_right_eq_some] at read
  obtain ⟨hour, readHour, _, first, minute, readMinute, _, second, seconds, readSecond, fraction,
    readFraction, empty, _⟩ := read
  have member := mem_of_readChar? (by decide) first (leavesZ_readField? readHour member)
  have member := mem_of_readChar? (by decide) second (leavesZ_readField? readMinute member)
  have member := leavesZ_readFraction? readFraction (leavesZ_readField? readSecond member)
  exact not_isEmpty_of_mem member empty

/-- Only the form with an offset takes a `Z`. -/
theorem readWritten?_of_mem (member : 'Z' ∈ text) : readWritten? text = readWithOffset? text := by
  have marked : readMarked? text = none := by
    rw [Option.eq_none_iff_forall_ne_some]
    intro instant read
    simp only [readMarked?, Option.bind_eq_bind, Option.bind_eq_some_iff] at read
    obtain ⟨date, readDate, _, mark, readTime⟩ := read
    rw [readTime?_of_mem _ (mem_of_readChar? (by decide) mark (leavesZ_readDate? readDate member))]
      at readTime
    cases readTime
  have spaced : readSpaced? text = none := by
    rw [Option.eq_none_iff_forall_ne_some]
    intro instant read
    simp only [readSpaced?, Option.bind_eq_bind, Option.bind_eq_some_iff] at read
    obtain ⟨date, readDate, readTime⟩ := read
    rw [readTime?_of_mem _ (leavesZ_readDate? readDate member)] at readTime
    cases readTime
  have midnight : readMidnight? text = none := by
    rw [Option.eq_none_iff_forall_ne_some]
    intro instant read
    simp only [readMidnight?, Option.bind_eq_bind, Option.bind_eq_some_iff,
      Option.ite_none_right_eq_some] at read
    obtain ⟨date, readDate, empty, _⟩ := read
    exact not_isEmpty_of_mem (leavesZ_readDate? readDate member) empty
  rw [readWritten?, marked, spaced, midnight]
  simp

theorem readMillis?_of_mem (member : 'Z' ∈ text) : readMillis? text = none := by
  have member : 'Z' ∈ (Number.splitSign text).2 := by
    rw [Number.splitSign.eq_def]
    split
    · exact List.mem_of_ne_of_mem (by decide) member
    · exact List.mem_of_ne_of_mem (by decide) member
    · exact member
  have other : (Number.splitSign text).2.all Char.isDigit = false := by
    rw [List.all_eq_false]
    exact ⟨'Z', member, by decide⟩
  rw [readMillis?]
  dsimp only
  rw [other, Bool.not_false, Bool.or_true, if_pos rfl]

/-! ## Timestamps -/

theorem stops_yearText (year : Int) :
    Stops isBlank (yearText .zero year) ∧ yearText .zero year ≠ [] := by
  by_cases plain : 0 ≤ year ∧ year ≤ 9999
  · have figures := yearText_zero plain.1 plain.2
    have nonempty : yearText .zero year ≠ [] := by
      rw [← List.length_pos_iff, figures.length]
      decide
    refine ⟨fun c head => ?_, nonempty⟩
    exact Lexeme.not_blank_of_isDigit (figures.digits c (List.mem_of_mem_head? head))
  · obtain ⟨sign, digits, text, ink, _⟩ := yearText_signed plain
    rw [text]
    exact ⟨stops_cons ink, List.cons_ne_nil _ _⟩

theorem trim_isoText (instant : Instant) : trim (isoText instant) = isoText instant := by
  have begins : Stops isBlank (isoText instant) := by
    rw [isoText_eq]
    exact (stops_yearText _).1.append_right (stops_yearText _).2 _
  have ends : EndsInInk (isoText instant) := ⟨_, 'Z', rfl, rfl⟩
  rw [trim, trimStart, begins.dropWhile_eq_self]
  have trimmed := trimEnd_append ends (List.forall_mem_nil _)
  rwa [List.append_nil] at trimmed

theorem mem_isoText (instant : Instant) : 'Z' ∈ isoText instant :=
  List.mem_append_right _ List.mem_cons_self

theorem readWritten?_isoText (inRange : InRange millis) :
    readWritten? (isoText (atMillis millis)) =
      if HasPlainYear millis then some (atMillis millis) else none := by
  rw [readWritten?_of_mem (mem_isoText _)]
  split_ifs with plain
  · exact readWithOffset?_isoText inRange plain
  · rw [hasPlainYear_iff] at plain
    obtain ⟨sign, digits, text, _, noDigit⟩ := yearText_signed plain
    rw [isoText_eq, text]
    exact readWithOffset?_of_stops (stops_cons noDigit)

end Calendar

namespace Dates

open Calendar Instant

variable {millis : Int}

/-- A timestamp denotes its instant if its year has no sign. -/
theorem instantOf_isoText (function : String) (inRange : InRange millis) :
    instantOf function (.string (String.ofList (isoText (atMillis millis)))) =
      if HasPlainYear millis then .ok (atMillis millis)
      else .error ⟨function, .unreadableDate (String.ofList (isoText (atMillis millis)))⟩ := by
  rw [instantOf, ofText, String.toList_ofList, trim_isoText, readMillis?_of_mem (mem_isoText _)]
  dsimp only
  rw [readWritten?_isoText inRange]
  split_ifs <;> rfl

end Dates

namespace Library

open Calendar Instant

variable {x : Float} {millis : Int}

theorem call_toIso (denotes : Number.Denotes x millis) (inRange : InRange millis)
    (args : List Value) : standard.call "toISO" (.number x) args =
      .ok (.string (String.ofList (isoText (atMillis millis)))) := by
  rw [call_entry (mem_functions_of_dates ⟨2, by decide⟩), Dates.toIso,
    Dates.onInstant_number denotes inRange]
  rfl

theorem call_toIso_of_not_inRange (denotes : Number.Denotes x millis)
    (outside : ¬ InRange millis) (args : List Value) : standard.call "toISO" (.number x) args =
      .error (.error ⟨"toISO", .millisOutOfRange (Number.toInt64 x)⟩) := by
  rw [call_entry (mem_functions_of_dates ⟨2, by decide⟩), Dates.toIso, Dates.onInstant,
    Dates.instantOf_of_not_inRange denotes outside]
  rfl

theorem call_parseDate_isoText (inRange : InRange millis) (args : List Value) :
    standard.call "parseDate" (.string (String.ofList (isoText (atMillis millis)))) args =
      if HasPlainYear millis then .ok (.number (Float.ofInt millis))
      else .error (.error ⟨"parseDate", .unreadableDate
        (String.ofList (isoText (atMillis millis)))⟩) := by
  rw [call_entry (mem_functions_of_dates ⟨0, by decide⟩), Dates.parseDate, Dates.onInstant,
    Dates.instantOf_isoText _ inRange]
  split_ifs
  · simp only [Except.map, Except.mapError, Dates.toValue, millis_atMillis]
  · rfl

/-- Timestamps are written for exactly the supported numbers of milliseconds, and read back for the
years from 0 to 9999 of these; a timestamp of any other year is refused as a date. -/
theorem timestamps_read_back (denotes : Number.Denotes x millis) :
    (¬ InRange millis → ∀ args, standard.call "toISO" (.number x) args =
      .error (.error ⟨"toISO", .millisOutOfRange (Number.toInt64 x)⟩)) ∧
    (InRange millis → ∃ text,
      (∀ args, standard.call "toISO" (.number x) args = .ok (.string text)) ∧
      (HasPlainYear millis → Gives "parseDate" (.string text) millis) ∧
      (¬ HasPlainYear millis → ∀ args, standard.call "parseDate" (.string text) args =
        .error (.error ⟨"parseDate", .unreadableDate text⟩))) := by
  refine ⟨call_toIso_of_not_inRange denotes, fun inRange => ?_⟩
  refine ⟨_, call_toIso denotes inRange, fun plain args => ?_, fun signed args => ?_⟩
  · rw [call_parseDate_isoText inRange, if_pos plain]
  · rw [call_parseDate_isoText inRange, if_neg signed]

/-- The first day of the year 0, a millisecond after its midnight. -/
theorem timestamps_read_back_yearZero :
    Number.Denotes (Float.ofInt (-62167219199999)) (-62167219199999) ∧
      InRange (-62167219199999) ∧ HasPlainYear (-62167219199999) ∧
      ∃ text, (∀ args, standard.call "toISO" (.number (Float.ofInt (-62167219199999))) args =
          .ok (.string text)) ∧
        Gives "parseDate" (.string text) (-62167219199999) := by
  have denotes : Number.Denotes (Float.ofInt (-62167219199999)) (-62167219199999) :=
    Number.denotes_ofInt (by decide)
  have inRange : InRange (-62167219199999) := by decide
  have plain : HasPlainYear (-62167219199999) := by decide
  obtain ⟨text, written, back, _⟩ := (timestamps_read_back denotes).2 inRange
  exact ⟨denotes, inRange, plain, text, written, back plain⟩

/-- The first day behind the years of four figures. -/
theorem signed_timestamp_unread :
    Number.Denotes (Float.ofInt 253402300800000) 253402300800000 ∧
      (∀ args, standard.call "toISO" (.number (Float.ofInt 253402300800000)) args =
        .ok (.string "+10000-01-01T00:00:00.000Z")) ∧
      ∀ args, standard.call "parseDate" (.string "+10000-01-01T00:00:00.000Z") args =
        .error (.error ⟨"parseDate", .unreadableDate "+10000-01-01T00:00:00.000Z"⟩) := by
  have denotes : Number.Denotes (Float.ofInt 253402300800000) 253402300800000 :=
    Number.denotes_ofInt (by decide)
  have inRange : InRange 253402300800000 := by decide
  have signed : ¬ HasPlainYear 253402300800000 := by decide
  have text : isoText (atMillis 253402300800000) = "+10000-01-01T00:00:00.000Z".toList := by
    decide +kernel
  have written := call_toIso denotes inRange
  have unread := call_parseDate_isoText inRange
  simp only [text, String.ofList_toList] at written
  simp only [text, String.ofList_toList, if_neg signed] at unread
  exact ⟨denotes, written, unread⟩

end Library

end Stencil
