import Mathlib
import Stencil.Library.Sequences
/-!
# Slicing

A slice has the parts of a sequence between two places. The arguments name the places by integers
that may be negative or beyond the sequence, and nothing but an argument that is no finite number
keeps a slice from being cut.
-/

namespace Stencil.Sequence

open Number

/-- The integer that is read from an argument: a finite number without its fraction, or a default if
nothing is given. -/
inductive Names (args : Arguments) (index : Nat) (default : Int) : Int → Prop
  | number (given : args.given index = true)
      (finite : (args.get index).toNumber.isFinite = true) :
      Names args index default (toInt (args.get index).toNumber)
  | omitted (absent : args.given index = false) : Names args index default default

/-- The place between `0` and `length` next to a position, which counts from the end if it is
negative. -/
def place (position : Int) (length : Nat) : Nat :=
  (max 0 (min (length : Int) (if position < 0 then length + position else position))).toNat

/-- The parts at the places from `start` up to `stop`. -/
def partsBetween {α : Type} (parts : List α) (start stop : Nat) : List α :=
  (parts.zipIdx.filter fun part => start ≤ part.2 && part.2 < stop).map Prod.fst

section Parts

variable {α : Type}

theorem map_fst_filter_zipIdx (parts : List α) (first start stop : Nat) :
    ((parts.zipIdx first).filter fun part => start ≤ part.2 && part.2 < stop).map Prod.fst =
      (parts.drop (start - first)).take (stop - max start first) := by
  induction parts generalizing first with
  | nil => simp
  | cons part rest ih =>
      rw [List.zipIdx_cons]
      by_cases chosen : start ≤ first ∧ first < stop
      · obtain ⟨more, left⟩ : ∃ more, stop - max start first = more + 1 :=
          Nat.exists_eq_succ_of_ne_zero (by omega)
        have here : start - first = 0 ∧ start - (first + 1) = 0 := by omega
        have fewer : stop - max start (first + 1) = more := by omega
        rw [List.filter_cons_of_pos (by simpa using chosen), List.map_cons, ih, left, fewer, here.1,
          here.2]
        rfl
      · rw [List.filter_cons_of_neg (by simpa using chosen), ih]
        rcases lt_or_ge first start with before | reached
        · have next : start - first = start - (first + 1) + 1 := by omega
          have farther : max start (first + 1) = max start first := by omega
          rw [next, farther, List.drop_succ_cons]
        · have none : stop - max start first = 0 ∧ stop - max start (first + 1) = 0 := by omega
          rw [none.1, none.2, List.take_zero, List.take_zero]

theorem between_eq (parts : List α) (start stop : Nat) :
    between parts (start, max start stop) = partsBetween parts start stop := by
  have width : max start stop - start = stop - start := by omega
  have cut := map_fst_filter_zipIdx parts 0 start stop
  rw [Nat.sub_zero, Nat.max_zero] at cut
  rw [partsBetween, cut, between, width]

theorem between_append_between (parts : List α) {place : Nat} (inside : place ≤ parts.length) :
    between parts (0, max 0 place) ++ between parts (place, max place parts.length) = parts := by
  have most : max place parts.length = parts.length := by omega
  have rest : (parts.drop place).take (parts.length - place) = parts.drop place :=
    List.take_of_length_le (by simp)
  simp [between, most, rest]

theorem between_map {β : Type} (f : α → β) (parts : List α) (range : Nat × Nat) :
    between (parts.map f) range = (between parts range).map f := by
  simp [between]

end Parts

theorem bounded_le (position : Int) (length : Nat) : bounded position length ≤ length := by
  unfold bounded
  split <;> omega

theorem bounded_zero (length : Nat) : bounded 0 length = 0 := by
  simp [bounded]

theorem bounded_length (length : Nat) : bounded length length = length := by
  simp [bounded]

/-- A position beyond the integers of 64 bits is beyond both ends of any sequence that they can
count. -/
theorem bounded_toInt64 (x : Float) {length : Nat} (fits : (length : Int) ≤ maxInt64) :
    bounded (toInt64 x) length = place (toInt x) length := by
  have least : minInt64 = -9223372036854775808 := rfl
  have most : maxInt64 = 9223372036854775807 := rfl
  rw [most] at fits
  rw [toInt64, least, most, bounded, place]
  generalize toInt x = position
  split <;> split <;> omega

section Reading

variable {args : Arguments} {function : String}

theorem integerOr_of_given {index : Nat} {default : Int} (given : args.given index = true)
    (finite : (args.get index).toNumber.isFinite = true) :
    args.integerOr function index default = .ok (toInt64 (args.get index).toNumber) := by
  simp [Arguments.integerOr, given, finite]

theorem integerOr_of_absent {index : Nat} {default : Int} (absent : args.given index = false) :
    args.integerOr function index default = .ok default := by
  simp [Arguments.integerOr, absent]

/-- What is read from an argument leads to the place that it names. -/
theorem Names.integerOr_eq {index length : Nat} {default position : Int}
    (fits : (length : Int) ≤ maxInt64) (inside : 0 ≤ default ∧ default ≤ length)
    (names : Names args index default position) :
    ∃ read, args.integerOr function index default = .ok read ∧
      bounded read length = place position length := by
  cases names with
  | number given finite =>
      exact ⟨_, integerOr_of_given given finite, bounded_toInt64 _ fits⟩
  | omitted absent =>
      refine ⟨default, integerOr_of_absent absent, ?_⟩
      unfold bounded place
      split <;> omega

theorem bounds_of_names {length : Nat} {start stop : Int} (fits : (length : Int) ≤ maxInt64)
    (first : Names args 0 0 start) (last : Names args 1 length stop) :
    bounds args length =
      .ok (place start length, max (place start length) (place stop length)) := by
  rcases first.integerOr_eq fits (by omega) with ⟨from', readStart, placedStart⟩
  rcases last.integerOr_eq fits (by omega) with ⟨to', readStop, placedStop⟩
  rw [bounds, readStart, readStop, ← placedStart, ← placedStop]
  rfl

end Reading

/-- The characters of a text as an array. -/
def characters (s : String) : List Value := s.toList.map .ofChar

section Laws

variable {args : Arguments}

theorem slice_array {items : List Value} {range : Nat × Nat}
    (cut : bounds args items.length = .ok range) :
    slice (.array items) args = .ok (.array (between items range)) := by
  rw [slice, cut]
  rfl

theorem slice_string {s : String} {range : Nat × Nat} (cut : bounds args s.length = .ok range) :
    slice (.string s) args = .ok (.string (String.ofList (between s.toList range))) := by
  rw [slice, cut]
  rfl

/-- What is cut from a text is what is cut from its characters. -/
theorem slice_characters (s : String) :
    (∃ part, slice (.string s) args = .ok (.string part) ∧
        slice (.array (characters s)) args = .ok (.array (characters part))) ∨
      ∃ problem, slice (.string s) args = .error problem ∧
        slice (.array (characters s)) args = .error problem := by
  have length : (characters s).length = s.length := by
    rw [characters, List.length_map, String.length_toList]
  cases cut : bounds args s.length with
  | ok range =>
      refine .inl ⟨_, slice_string cut, ?_⟩
      rw [slice_array (by rw [length, cut]), characters, between_map, characters,
        String.toList_ofList]
  | error problem =>
      refine .inr ⟨problem, ?_, ?_⟩
      · rw [slice, cut]
        rfl
      · rw [slice, length, cut]
        rfl

/-- The first arguments of two slices that meet at a number. -/
theorem bounds_to_from {k : Float} (finite : k.isFinite = true) (length : Nat) :
    bounds [.number 0.0, .number k] length =
        .ok (0, max 0 (bounded (toInt64 k) length)) ∧
      bounds [.number k] length =
        .ok (bounded (toInt64 k) length, max (bounded (toInt64 k) length) length) := by
  have zero : toInt64 0.0 = 0 := by decide +kernel
  have small : (0.0 : Float).isFinite = true := rfl
  have first : Arguments.integerOr [.number 0.0, .number k] "slice" 0 0 = .ok (toInt64 0.0) :=
    integerOr_of_given rfl small
  have second : Arguments.integerOr [.number 0.0, .number k] "slice" 1 length = .ok (toInt64 k) :=
    integerOr_of_given rfl finite
  have only : Arguments.integerOr [.number k] "slice" 0 0 = .ok (toInt64 k) :=
    integerOr_of_given rfl finite
  have absent : Arguments.integerOr [.number k] "slice" 1 length = .ok length :=
    integerOr_of_absent rfl
  constructor
  · rw [bounds, first, second, zero]
    change Except.ok (bounded 0 length, max (bounded 0 length) _) = _
    rw [bounded_zero]
  · rw [bounds, only, absent]
    change Except.ok (_, max _ (bounded length length)) = _
    rw [bounded_length]

/-- The parts of a sequence up to a number and those from it on are the whole sequence. -/
theorem exists_slices_of_array (items : List Value) {k : Float} (finite : k.isFinite = true) :
    ∃ front back, slice (.array items) [.number 0.0, .number k] = .ok (.array front) ∧
      slice (.array items) [.number k] = .ok (.array back) ∧ front ++ back = items := by
  rcases bounds_to_from finite items.length with ⟨upTo, onwards⟩
  exact ⟨_, _, slice_array upTo, slice_array onwards,
    between_append_between items (bounded_le _ _)⟩

theorem exists_slices_of_string (s : String) {k : Float} (finite : k.isFinite = true) :
    ∃ front back, slice (.string s) [.number 0.0, .number k] = .ok (.string front) ∧
      slice (.string s) [.number k] = .ok (.string back) ∧ front ++ back = s := by
  rcases bounds_to_from finite s.length with ⟨upTo, onwards⟩
  refine ⟨_, _, slice_string upTo, slice_string onwards, ?_⟩
  have inside : bounded (toInt64 k) s.length ≤ s.toList.length := by
    rw [String.length_toList]
    exact bounded_le _ _
  have whole := between_append_between s.toList inside
  rw [String.length_toList] at whole
  rw [← String.ofList_append, whole, String.ofList_toList]

theorem take_eq_slice (items : List Value) {k : Float} (finite : k.isFinite = true)
    (nonneg : 0 ≤ toInt k) :
    take (.array items) [.number k] = slice (.array items) [.number 0.0, .number k] := by
  have count : Arguments.integerOr [.number k] "take" 0 0 = .ok (toInt64 k) :=
    integerOr_of_given rfl finite
  have least : 0 ≤ toInt64 k := by
    have lowest : minInt64 = -9223372036854775808 := rfl
    have highest : maxInt64 = 9223372036854775807 := rfl
    rw [toInt64, lowest, highest]
    omega
  have place : bounded (toInt64 k) items.length = min (toInt64 k).toNat items.length :=
    if_neg (not_lt.mpr least)
  rw [slice_array (bounds_to_from finite items.length).1, place, take, Body.onArray, count]
  simp [between, Except.map]

end Laws

/-- A slice has exactly the parts between the places that its arguments name, in arrays and in texts
that 64 bits can count. Cut in two at any number they are complete, the first parts are what taking
gives, and a text is cut like the array of its characters. -/
theorem slice_cuts_between :
    (∀ (items : List Value) (args : Arguments) (start stop : Int),
        (items.length : Int) ≤ maxInt64 → Names args 0 0 start →
        Names args 1 items.length stop →
        slice (.array items) args = .ok (.array
          (partsBetween items (place start items.length) (place stop items.length)))) ∧
      (∀ (s : String) (args : Arguments) (start stop : Int),
        (s.length : Int) ≤ maxInt64 → Names args 0 0 start → Names args 1 s.length stop →
        slice (.string s) args = .ok (.string (String.ofList
          (partsBetween s.toList (place start s.length) (place stop s.length))))) ∧
      (∀ k : Float, k.isFinite = true →
        (∀ items, ∃ front back,
          slice (.array items) [.number 0.0, .number k] = .ok (.array front) ∧
            slice (.array items) [.number k] = .ok (.array back) ∧ front ++ back = items) ∧
        (∀ s, ∃ front back,
          slice (.string s) [.number 0.0, .number k] = .ok (.string front) ∧
            slice (.string s) [.number k] = .ok (.string back) ∧ front ++ back = s) ∧
        (0 ≤ toInt k → ∀ items,
          take (.array items) [.number k] = slice (.array items) [.number 0.0, .number k])) ∧
      ∀ (s : String) (args : Arguments),
        (∃ part, slice (.string s) args = .ok (.string part) ∧
            slice (.array (characters s)) args = .ok (.array (characters part))) ∨
          ∃ problem, slice (.string s) args = .error problem ∧
            slice (.array (characters s)) args = .error problem := by
  refine ⟨?_, ?_, ?_, fun s args => slice_characters s⟩
  · intro items args start stop fits first last
    rw [slice_array (bounds_of_names fits first last), between_eq]
  · intro s args start stop fits first last
    rw [slice_string (bounds_of_names fits first last), between_eq]
  · intro k finite
    exact ⟨fun items => exists_slices_of_array items finite,
      fun s => exists_slices_of_string s finite,
      fun nonneg items => take_eq_slice items finite nonneg⟩

/-- A position from the end, one far before the beginning, and a start behind the end. -/
theorem slice_cuts_between_crossing :
    let items : List Value := [.null, .bool true, .null, .bool false]
    slice (.array items) [.number 1.0, .number (-1.0)] = .ok (.array [.bool true, .null]) ∧
      slice (.string "héllo") [.number 3.0, .number (-1e300)] = .ok (.string "") ∧
      (∃ front back, slice (.string "héllo") [.number 0.0, .number (-2.5)] = .ok (.string front) ∧
        slice (.string "héllo") [.number (-2.5)] = .ok (.string back) ∧
        front ++ back = "héllo") ∧
      take (.array items) [.number 2.0] = slice (.array items) [.number 0.0, .number 2.0] := by
  intro items
  rcases slice_cuts_between with ⟨arrays, texts, cut, _⟩
  have second : toInt 1.0 = 1 ∧ toInt (-1.0) = -1 := by decide +kernel
  have crossing : toInt 3.0 = 3 ∧ place (toInt (-1e300)) 5 = 0 := by decide +kernel
  refine ⟨?_, ?_, ?_, ?_⟩
  · rw [arrays items _ _ _ (by decide) (.number rfl (by decide +kernel))
      (.number rfl (by decide +kernel))]
    change Except.ok (Value.array (partsBetween items (place (toInt 1.0) 4)
      (place (toInt (-1.0)) 4))) = _
    rw [second.1, second.2]
    rfl
  · rw [texts "héllo" _ _ _ (by decide) (.number rfl (by decide +kernel))
      (.number rfl (by decide +kernel))]
    change Except.ok (Value.string (String.ofList (partsBetween _ (place (toInt 3.0) 5)
      (place (toInt (-1e300)) 5)))) = _
    rw [crossing.1, crossing.2]
    rfl
  · exact (cut (-2.5) (by decide +kernel)).2.1 "héllo"
  · exact (cut 2.0 (by decide +kernel)).2.2 (by decide +kernel) items

end Stencil.Sequence
