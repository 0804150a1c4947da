import Mathlib
import Stencil.Proofs.Value.Nesting
import Stencil.Query
/-!
# Sizes of values

The size of a value counts the characters of its texts, its elements and its entries, at any depth.
What has none of these, such as a number, may be counted too, with the characters that it is written
with: the text of a value is no longer than its size in this sense. In both senses a value is as
large as what it consists of, so what a path finds in it is no larger.
-/

namespace Stencil

namespace Value

/-- The length of a text or an array. No other value is a sequence. -/
def extent : Value → Nat
  | string s => s.length
  | array items => items.length
  | _ => 0

theorem extent_ofList (text : List Char) : (string (String.ofList text)).extent = text.length :=
  String.length_ofList

section SizeBy

variable (own : Value → Nat)

mutual

/-- How many characters, elements and entries a value has, at any depth, together with what every
value that is neither a text nor an array counts for itself. -/
def sizeBy : Value → Nat
  | undefined => own undefined
  | null => own null
  | bool b => own (bool b)
  | number x => own (number x)
  | string s => s.length
  | array items => sizeAllBy items
  | object entries => own (object entries) + sizeEntriesBy entries

/-- How many elements a list has, with what is inside of them. -/
def sizeAllBy : List Value → Nat
  | [] => 0
  | item :: rest => sizeBy item + 1 + sizeAllBy rest

/-- How many entries there are, with their keys and what is inside of them. -/
def sizeEntriesBy : List (String × Value) → Nat
  | [] => 0
  | (key, value) :: rest => key.length + sizeBy value + 1 + sizeEntriesBy rest

end

end SizeBy

/-- Values that count for nothing themselves. -/
def uncounted (_ : Value) : Nat := 0

/-- Values that count for the characters that they are written with. -/
def textLength (value : Value) : Nat := value.text.length

/-- How many characters, elements and entries a value has, at any depth. -/
def size (value : Value) : Nat := value.sizeBy uncounted

/-- How many elements a list has, with what is inside of them. -/
def sizeAll (items : List Value) : Nat := sizeAllBy uncounted items

/-- The size of a value with the texts of its numbers and truth values, and of objects. -/
def writtenSize (value : Value) : Nat := value.sizeBy textLength

/-- How many elements a list has, with what is inside of them and how it is written. -/
def writtenSizeAll (items : List Value) : Nat := sizeAllBy textLength items

section SizeBy

variable {own : Value → Nat}

theorem sizeAllBy_eq_sum (items : List Value) :
    sizeAllBy own items = (items.map fun item => item.sizeBy own + 1).sum := by
  induction items with
  | nil => rfl
  | cons item rest ih => rw [sizeAllBy, ih, List.map_cons, List.sum_cons]

theorem sizeEntriesBy_eq_sum (entries : List (String × Value)) :
    sizeEntriesBy own entries =
      (entries.map fun entry => entry.1.length + entry.2.sizeBy own + 1).sum := by
  induction entries with
  | nil => rfl
  | cons entry rest ih =>
      obtain ⟨key, value⟩ := entry
      rw [sizeEntriesBy, ih, List.map_cons, List.sum_cons]

theorem sizeBy_lt_of_mem {items : List Value} {item : Value} (member : item ∈ items) :
    item.sizeBy own < sizeAllBy own items := by
  have counted : item.sizeBy own + 1 ≤ sizeAllBy own items := by
    rw [sizeAllBy_eq_sum]
    exact List.le_sum_of_mem (List.mem_map_of_mem member)
  exact counted

theorem sizeBy_lt_of_mem_entries {entries : List (String × Value)} {entry : String × Value}
    (member : entry ∈ entries) : entry.2.sizeBy own < sizeEntriesBy own entries := by
  have counted : entry.1.length + entry.2.sizeBy own + 1 ≤ sizeEntriesBy own entries := by
    rw [sizeEntriesBy_eq_sum]
    exact List.le_sum_of_mem (List.mem_map_of_mem member)
  omega

theorem length_le_sizeAllBy (items : List Value) : items.length ≤ sizeAllBy own items := by
  induction items with
  | nil => exact Nat.le_refl 0
  | cons item rest ih =>
      rw [sizeAllBy, List.length_cons]
      omega

theorem length_le_sizeEntriesBy (entries : List (String × Value)) :
    entries.length ≤ sizeEntriesBy own entries := by
  induction entries with
  | nil => exact Nat.le_refl 0
  | cons entry rest ih =>
      rw [sizeEntriesBy, List.length_cons]
      omega

theorem extent_le_sizeBy (value : Value) : value.extent ≤ value.sizeBy own := by
  cases value with
  | string s => exact Nat.le_refl _
  | array items => exact length_le_sizeAllBy items
  | _ => exact Nat.zero_le _

/-- What values count for themselves only adds to their size. -/
theorem size_le_sizeBy (value : Value) : value.size ≤ value.sizeBy own := by
  rw [size]
  induction value using nestedInduction with
  | simple value simple =>
      cases value with
      | string s => exact Nat.le_refl _
      | array items => cases simple
      | object entries => cases simple
      | _ => exact Nat.zero_le _
  | array items each =>
      rw [sizeBy, sizeBy, sizeAllBy_eq_sum, sizeAllBy_eq_sum]
      exact List.sum_le_sum fun item member => Nat.succ_le_succ (each item member)
  | object entries each =>
      rw [sizeBy, sizeBy, sizeEntriesBy_eq_sum, sizeEntriesBy_eq_sum]
      refine Nat.add_le_add (Nat.zero_le _) (List.sum_le_sum fun entry member => ?_)
      exact Nat.succ_le_succ (Nat.add_le_add_left (each entry member) _)

theorem sizeAll_le_sizeAllBy (items : List Value) : sizeAll items ≤ sizeAllBy own items :=
  size_le_sizeBy (array items)

end SizeBy

/-- Every text but the last one has a comma after it, which counts as the element that it ends. -/
theorem length_intercalate_texts_le {items : List Value}
    (each : ∀ item ∈ items, item.text.length ≤ item.sizeBy textLength) :
    (",".intercalate (texts items)).length ≤ sizeAllBy textLength items := by
  induction items with
  | nil => exact Nat.zero_le _
  | cons item rest ih =>
      have first := each item List.mem_cons_self
      have others := ih fun other member => each other (List.mem_cons_of_mem _ member)
      cases rest with
      | nil =>
          rw [texts, texts, String.intercalate_singleton, sizeAllBy]
          omega
      | cons next later =>
          have comma : ",".length = 1 := rfl
          rw [texts, texts, String.intercalate_cons_cons, String.length_append,
            String.length_append, ← texts, comma, sizeAllBy]
          omega

theorem length_text_le (value : Value) : value.text.length ≤ value.sizeBy textLength := by
  induction value using nestedInduction with
  | simple value simple =>
      cases value with
      | array items => cases simple
      | object entries => cases simple
      | _ => exact Nat.le_refl _
  | array items each => exact length_intercalate_texts_le each
  | object entries each => exact Nat.le_add_right _ _

/-- A value inside of what has a given size. Counts of parts may be inside too: they are numbers and
have no parts themselves. -/
def Inside (bound : Nat) (value : Value) : Prop := value.isNumber = true ∨ value.size ≤ bound

theorem Inside.extent_le {bound : Nat} {value : Value} (inside : value.Inside bound) :
    value.extent ≤ bound := by
  rcases inside with number | small
  · cases value with
    | number x => exact Nat.zero_le _
    | _ => cases number
  · exact value.extent_le_sizeBy.trans small

theorem inside_undefined (bound : Nat) : undefined.Inside bound := .inr (Nat.zero_le _)

end Value

namespace Lookup

open Value

theorem element_inside (items : List Value) (position : Option Nat) :
    (element items position).Inside (array items).size := by
  rw [element]
  cases here : position.bind fun i => items[i]? with
  | none => exact inside_undefined _
  | some item =>
      obtain ⟨i, -, found⟩ := Option.bind_eq_some_iff.mp here
      exact .inr (sizeBy_lt_of_mem (List.mem_of_getElem? found)).le

theorem property_inside (value : Value) (name : String) :
    (property value name).Inside value.size := by
  cases value with
  | string s =>
      rw [property]
      split
      · exact .inl rfl
      · exact inside_undefined _
  | array items =>
      rw [property]
      split
      · exact .inl rfl
      · exact element_inside items _
  | object entries =>
      rw [property]
      cases here : Entries.find? entries name with
      | none => exact inside_undefined _
      | some found =>
          have smaller : found.size < sizeEntriesBy uncounted entries :=
            sizeBy_lt_of_mem_entries (Entries.mem_of_find? here)
          exact .inr (smaller.le.trans (Nat.le_add_left _ _))
  | _ => exact inside_undefined _

theorem character_inside (s : String) (position : Option Nat) :
    ((position.bind fun i => s.toList[i]?).elim .undefined ofChar).Inside (string s).size := by
  cases here : position.bind fun i => s.toList[i]? with
  | none => exact inside_undefined _
  | some c =>
      obtain ⟨i, -, found⟩ := Option.bind_eq_some_iff.mp here
      have nonempty := List.length_pos_of_mem (List.mem_of_getElem? found)
      rw [String.length_toList] at nonempty
      exact .inr (String.length_singleton.trans_le nonempty)

theorem index_inside (value key : Value) : (index value key).Inside value.size := by
  cases key with
  | number x =>
      cases value with
      | array items => exact element_inside items _
      | string s => exact character_inside s _
      | _ => exact property_inside _ (Number.text x)
  | string name => exact property_inside value name
  | bool b => exact property_inside value _
  | _ => exact inside_undefined _

end Lookup

/-- What a sequence of two actions gives has been made of what the first one gives. -/
theorem exists_ok_of_bind {ε α β : Type} {first : Except ε α} {next : α → Except ε β} {result : β}
    (succeeded : first >>= next = .ok result) : ∃ a, first = .ok a ∧ next a = .ok result := by
  cases first with
  | error error => cases succeeded
  | ok a => exact ⟨a, rfl, succeeded⟩

namespace QueryScope

open Value

variable {scope : QueryScope} {bound : Nat}

theorem found_ok {segment : PathSegment} {value result : Value}
    (found : scope.found segment value = .ok result) : result = value := by
  cases value with
  | undefined => cases found
  | _ => exact (Except.ok.inj found).symm

/-- Only values with parts can be entered, so a count that has been found is never looked into. -/
theorem checkParts_not_number {segment : PathSegment} {value : Value}
    (entered : scope.checkParts segment value = .ok ()) : value.isNumber = false := by
  cases value with
  | number x => cases entered
  | _ => rfl

/-- A step stays inside of the value that it starts from, whichever key it computes. -/
theorem step_inside {segment : PathSegment} {value next : Value} (inside : value.Inside bound)
    (stepped : scope.step value segment = .ok next) : next.Inside bound := by
  have within {found : Value} (entered : scope.checkParts segment value = .ok ())
      (part : found.Inside value.size) : found.Inside bound := by
    have small : value.size ≤ bound :=
      inside.resolve_left (by rw [checkParts_not_number entered]; exact Bool.false_ne_true)
    exact part.imp_right fun smaller => smaller.trans small
  cases segment with
  | property name =>
      rw [step] at stepped
      obtain ⟨_, entered, found⟩ := exists_ok_of_bind stepped
      rw [found_ok found]
      exact within entered (Lookup.property_inside value name)
  | index position =>
      rw [step] at stepped
      obtain ⟨_, entered, found⟩ := exists_ok_of_bind stepped
      rw [found_ok found]
      exact within entered (Lookup.index_inside value _)
  | computed path =>
      rw [step] at stepped
      obtain ⟨_, entered, rest⟩ := exists_ok_of_bind stepped
      obtain ⟨-, -, rest⟩ := exists_ok_of_bind rest
      obtain ⟨key, -, found⟩ := exists_ok_of_bind rest
      rw [found_ok found]
      exact within entered (Lookup.index_inside value key)

theorem follow_inside {segments : List PathSegment} {value result : Value}
    (inside : value.Inside bound) (followed : scope.follow value segments = .ok result) :
    result.Inside bound := by
  induction segments generalizing value with
  | nil =>
      rw [follow] at followed
      rwa [← Except.ok.inj followed]
  | cons segment rest ih =>
      rw [follow] at followed
      obtain ⟨next, stepped, later⟩ := exists_ok_of_bind followed
      exact ih (step_inside inside stepped) later

end QueryScope

/-- What a path finds in a value is no longer than the value is large. -/
theorem Query.extent_valueAt_le (value : Value) (path : String) :
    (valueAt value path).extent ≤ value.size := by
  rw [valueAt]
  cases outcome : strictly value path ({} : QueryOptions).maxDepth with
  | error error => exact Nat.zero_le _
  | ok found =>
      obtain ⟨parsed, -, resolved⟩ := exists_ok_of_bind outcome
      split at resolved
      · obtain ⟨-, -, followed⟩ := exists_ok_of_bind resolved
        exact (QueryScope.follow_inside (.inr (Nat.le_refl _)) followed).extent_le
      · cases resolved

end Stencil
