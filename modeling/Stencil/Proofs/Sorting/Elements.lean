import Mathlib
import Stencil.Library.Elements
import Stencil.Proofs.Sorting.Stable
import Stencil.Proofs.Value.Equality
/-!
# Sorting arrays

The order of values is reversed by exchanging them. It is transitive among texts, and among values
that are compared as numbers with a number in the middle; beyond that it is not, since two texts are
compared by their characters and a value that is no number counts as equal to every other one.
Arrays of keys that are all texts, all numbers or all absent are sorted stably in both directions.
-/

namespace Stencil.Elements

open Sorting

/-! ## The order of values -/

theorem ordering_swap (a b : Value) : ordering b a = (ordering a b).swap := by
  rw [ordering, ordering, a.compare?_swap b]
  cases a.compare? b <;> rfl

/-- Whether two values are compared as numbers. -/
def AsNumbers (a b : Value) : Prop := a.string? = none ∨ b.string? = none

/-- Whether three values are compared in one way: all by their characters, or all as numbers with a
number in the middle. -/
def ComparedAlike (a b c : Value) : Prop :=
  (a.string? ≠ none ∧ b.string? ≠ none ∧ c.string? ≠ none) ∨
    (AsNumbers a b ∧ AsNumbers b c ∧ AsNumbers a c ∧ b.toNumber.isNaN = false)

theorem ordering_numbers {a b : Value} (numbers : AsNumbers a b) :
    ordering a b = (Option.map₂ compare (Binary.ofFloat a.toNumber).place
      (Binary.ofFloat b.toNumber).place).getD .eq := by
  rw [ordering, Value.compare?_numbers numbers, Binary.compareNumbers_eq]

theorem exists_place {x : Float} (number : x.isNaN = false) :
    ∃ place, (Binary.ofFloat x).place = some place := by
  rw [← Option.ne_none_iff_exists']
  intro none
  rw [Binary.place_eq_none_iff, number] at none
  cases none

theorem ordering_trans {a b c : Value} (alike : ComparedAlike a b c)
    (first : ordering a b ≠ .gt) (second : ordering b c ≠ .gt) : ordering a c ≠ .gt := by
  rcases alike with ⟨textA, textB, textC⟩ | ⟨numbersAB, numbersBC, numbersAC, number⟩
  · rcases Value.eq_string_of_string? textA with ⟨s, rfl⟩
    rcases Value.eq_string_of_string? textB with ⟨t, rfl⟩
    rcases Value.eq_string_of_string? textC with ⟨u, rfl⟩
    exact ne_gt_trans compare (b := t) first second
  · rcases exists_place number with ⟨middle, here⟩
    rw [ordering_numbers numbersAB, here] at first
    rw [ordering_numbers numbersBC, here] at second
    rw [ordering_numbers numbersAC]
    -- A value that is no number counts as equal to all others, at the ends of the triple too.
    rcases placeA : (Binary.ofFloat a.toNumber).place with _ | low
    · simp
    · rcases placeC : (Binary.ofFloat c.toNumber).place with _ | high
      · simp
      · rw [placeA] at first
        rw [placeC] at second
        exact ne_gt_trans compare (b := middle) first second

theorem consistentOn_of_trans {items : List Value}
    (trans : ∀ a ∈ items, ∀ b ∈ items, ∀ c ∈ items,
      ordering a b ≠ .gt → ordering b c ≠ .gt → ordering a c ≠ .gt) :
    ConsistentOn ordering items where
  swap := fun a _ b _ => ordering_swap a b
  trans := trans

/-- Exchanging two values reverses their order, which is transitive among values that are compared
in one way. An array on which it is transitive is sorted so that no element is less than one before
it. -/
theorem ordering_preorder (items : List Value) (args : Arguments) :
    (∀ a b : Value, ordering b a = (ordering a b).swap) ∧
      (∀ a b c : Value, ComparedAlike a b c →
        ordering a b ≠ .gt → ordering b c ≠ .gt → ordering a c ≠ .gt) ∧
      ((∀ a ∈ items, ∀ b ∈ items, ∀ c ∈ items,
          ordering a b ≠ .gt → ordering b c ≠ .gt → ordering a c ≠ .gt) →
        ∃ sorted, sort (.array items) args = .ok (.array sorted) ∧ sorted.Perm items ∧
          sorted.Pairwise fun earlier later => ordering later earlier ≠ .lt) := by
  refine ⟨ordering_swap, fun a b c alike => ordering_trans alike, ?_⟩
  intro trans
  rcases stablySorted_sort (consistentOn_of_trans trans) with ⟨perm, ascending, _⟩
  refine ⟨_, rfl, perm, ascending.imp fun {earlier later} notAbove below => notAbove ?_⟩
  rw [ordering_swap later earlier, below]
  rfl

/-- Three values in order, the middle one being a number, and an array of them. -/
theorem ordering_preorder_numbers :
    let items : List Value := [.array [.number 2.0], .string "1.5", .bool true]
    ordering (.bool true) (.string "1.5") ≠ .gt ∧
      ordering (.string "1.5") (.array [.number 2.0]) ≠ .gt ∧
      ordering (.bool true) (.array [.number 2.0]) ≠ .gt ∧
      ∃ sorted, sort (.array items) [] = .ok (.array sorted) ∧ sorted.Perm items ∧
        sorted.Pairwise fun earlier later => ordering later earlier ≠ .lt := by
  intro items
  have first : ordering (.bool true) (.string "1.5") ≠ .gt := by decide +kernel
  have second : ordering (.string "1.5") (.array [.number 2.0]) ≠ .gt := by decide +kernel
  have number : (Value.string "1.5").toNumber.isNaN = false := by decide +kernel
  rcases ordering_preorder items [] with ⟨_, trans, sorts⟩
  exact ⟨first, second, trans _ _ _ (.inr ⟨.inl rfl, .inr rfl, .inl rfl, number⟩) first second,
    sorts (by decide +kernel)⟩

/-- A text that is no number counts as equal to 3 and to 1, which stay in the wrong order around it.
Two texts and a number can even be less than each other in a circle. -/
theorem ordering_not_transitive :
    ordering (.number 3.0) (.string "abc") ≠ .gt ∧ ordering (.string "abc") (.number 1.0) ≠ .gt ∧
      ordering (.number 3.0) (.number 1.0) = .gt ∧
      sort (.array [.number 3.0, .string "abc", .number 1.0]) [] =
        .ok (.array [.number 3.0, .string "abc", .number 1.0]) ∧
      ordering (.string "10") (.string "9") = .lt ∧ ordering (.string "9") (.number 9.5) = .lt ∧
      ordering (.number 9.5) (.string "10") = .lt :=
  ⟨by decide +kernel, by decide +kernel, by decide +kernel, rfl, by decide +kernel,
    by decide +kernel, by decide +kernel⟩

/-! ## Sorting by keys -/

/-- Keys of one kind: texts, values that are numbers, or absences. -/
inductive Comparable (keys : List Value) : Prop
  | texts (all : ∀ key ∈ keys, ∃ s, key = .string s)
  | numbers (all : ∀ key ∈ keys, key.string? = none ∧ key.toNumber.isNaN = false)
  | absent (all : ∀ key ∈ keys, key = .undefined)

/-- Whether two keys stand in the order of a sort. Absent keys count as equal. -/
def InOrder (reversed : Bool) (earlier later : Value) : Prop :=
  (earlier = .undefined ∧ later = .undefined) ∨ earlier.compare? later = some .eq ∨
    earlier.compare? later = some (if reversed then .gt else .lt)

/-- An array has the elements of another one in the order of their keys, and those with equal keys
in the order in which they were, whichever way it is sorted. -/
structure SortedByKeys (key : Value → Value) (reversed : Bool) (items sorted : List Value) :
    Prop where
  perm : sorted.Perm items
  inOrder : sorted.Pairwise fun earlier later => InOrder reversed (key earlier) (key later)
  stable : ∀ x ∈ items, sorted.filter (fun y => ordering (key x) (key y) = .eq) =
    items.filter (fun y => ordering (key x) (key y) = .eq)

theorem Comparable.consistentOn {keys : List Value} (comparable : Comparable keys) :
    ConsistentOn ordering keys := by
  refine consistentOn_of_trans fun a first b second c third => ?_
  cases comparable with
  | texts all =>
      rcases all a first with ⟨s, rfl⟩
      rcases all b second with ⟨t, rfl⟩
      rcases all c third with ⟨u, rfl⟩
      exact ordering_trans (.inl (by simp [Value.string?]))
  | numbers all =>
      exact ordering_trans (.inr ⟨.inl (all a first).1, .inl (all b second).1,
        .inl (all a first).1, (all b second).2⟩)
  | absent all =>
      rw [all a first, all b second, all c third]
      exact fun equal _ => equal

/-- Keys of one kind compare, unless they are absent. -/
theorem Comparable.compare?_eq {keys : List Value} (comparable : Comparable keys) {a b : Value}
    (first : a ∈ keys) (second : b ∈ keys) :
    (a = .undefined ∧ b = .undefined) ∨ a.compare? b = some (ordering a b) := by
  cases comparable with
  | texts all =>
      rcases all a first with ⟨s, rfl⟩
      rcases all b second with ⟨t, rfl⟩
      exact .inr rfl
  | numbers all =>
      rcases exists_place (all a first).2 with ⟨low, here⟩
      rcases exists_place (all b second).2 with ⟨high, there⟩
      have numbers : AsNumbers a b := .inl (all a first).1
      rw [ordering_numbers numbers, Value.compare?_numbers numbers, Binary.compareNumbers_eq, here,
        there]
      exact .inr rfl
  | absent all => exact .inl ⟨all a first, all b second⟩

/-- The order of elements in a sort by their keys. -/
def keyOrdering (reversed : Bool) (key : Value → Value) (a b : Value) : Ordering :=
  if reversed then (ordering (key a) (key b)).swap else ordering (key a) (key b)

section Keys

variable {key : Value → Value} {items : List Value} (comparable : Comparable (items.map key))
  (reversed : Bool)
include comparable

theorem consistentOn_keyOrdering : ConsistentOn (keyOrdering reversed key) items := by
  have consistent := comparable.consistentOn.comap
  cases reversed with
  | true => exact consistent.reversed
  | false => exact consistent

theorem sortedByKeys_sort :
    SortedByKeys key reversed items (Sorting.sort (keyOrdering reversed key) items) := by
  rcases stablySorted_sort (consistentOn_keyOrdering comparable reversed) with
    ⟨perm, ascending, stable⟩
  refine ⟨perm, ascending.imp_of_mem fun {a b} first second notAbove => ?_, fun x member => ?_⟩
  · have compared := comparable.compare?_eq (List.mem_map_of_mem (perm.subset first))
      (List.mem_map_of_mem (perm.subset second))
    refine compared.imp_right fun same => ?_
    rw [same]
    revert notAbove
    cases reversed <;> cases order : ordering (key a) (key b) <;> simp [keyOrdering, order]
  · have classes := stable x member
    cases reversed with
    | true => simpa [keyOrdering, Ordering.swap_eq_eq] using classes
    | false => exact classes

end Keys

/-- Sorting by keys is sorting the elements with the order of their keys. -/
theorem sortBy_array {args : Arguments} {reversed : Bool}
    (direction : descending args = .ok reversed) (items : List Value) :
    sortBy (.array items) args = .ok (.array (Sorting.sort
      (keyOrdering reversed fun item => Query.valueAt item (keyPath args)) items)) := by
  -- The sort carries the keys along, and they are taken off again.
  let keyed (item : Value) : Value × Value := (Query.valueAt item (keyPath args), item)
  have sorted := map_sort keyed (fun a b =>
    if reversed then (ordering a.1 b.1).swap else ordering a.1 b.1) items
  have unkeyed (list : List Value) : (list.map keyed).map Prod.snd = list := by
    rw [List.map_map]
    exact List.map_id list
  rw [sortBy, direction]
  change Except.ok (Value.array ((Sorting.sort _ (items.map keyed)).map Prod.snd)) = _
  rw [← sorted, unkeyed]
  rfl

theorem valueAt_of_unreadable {path : String} {error : QueryError}
    (unreadable : Query.readPath path = .error error) (item : Value) :
    Query.valueAt item path = .undefined := by
  rw [Query.valueAt, Query.strictly, unreadable]
  rfl

/-- Elements without keys stay where they are. -/
theorem sort_of_absent {key : Value → Value} (absent : ∀ item, key item = .undefined)
    (reversed : Bool) (items : List Value) :
    Sorting.sort (keyOrdering reversed key) items = items := by
  have keys : Comparable (items.map key) :=
    .absent (List.forall_mem_map.mpr fun item _ => absent item)
  refine sort_of_ascending (consistentOn_keyOrdering keys reversed) (List.pairwise_of_forall ?_)
  intro a b
  rw [keyOrdering, absent a, absent b]
  cases reversed <;> decide +kernel

/-- Arrays whose elements, or whose keys at any path, are all texts, all numbers or all absent are
sorted stably by them, upwards or downwards, and sorting them once more changes nothing. Keys are
absent where the path cannot be read. -/
theorem sorts_stably (items : List Value) (args : Arguments) :
    (Comparable items → ∃ sorted, sort (.array items) args = .ok (.array sorted) ∧
        SortedByKeys id false items sorted ∧
        sort (.array sorted) args = .ok (.array sorted)) ∧
      (∀ reversed, descending args = .ok reversed →
        Comparable (items.map fun item => Query.valueAt item (keyPath args)) →
        ∃ sorted, sortBy (.array items) args = .ok (.array sorted) ∧
          SortedByKeys (fun item => Query.valueAt item (keyPath args)) reversed items sorted ∧
          sortBy (.array sorted) args = .ok (.array sorted)) ∧
      ∀ reversed error, descending args = .ok reversed →
        Query.readPath (keyPath args) = .error error →
        sortBy (.array items) args = .ok (.array items) := by
  refine ⟨?_, ?_, ?_⟩
  · intro comparable
    have elements : Comparable (items.map id) := by rwa [List.map_id]
    refine ⟨_, rfl, sortedByKeys_sort elements false, ?_⟩
    exact congrArg (fun sorted => Except.ok (Value.array sorted))
      (sort_sort comparable.consistentOn)
  · intro reversed direction comparable
    refine ⟨_, sortBy_array direction items, sortedByKeys_sort comparable reversed, ?_⟩
    rw [sortBy_array direction, sort_sort (consistentOn_keyOrdering comparable reversed)]
  · intro reversed error direction unreadable
    rw [sortBy_array direction, sort_of_absent (valueAt_of_unreadable unreadable)]

/-- Numbers of several kinds upwards, and objects downwards by a key with a tie and by a path that
cannot be read. -/
theorem sorts_stably_mixed :
    let numbers := [.number 2.5, .null, .bool true, .array [.number 2.0]]
    let objects := [.object [("a", .number 1.0), ("b", .null)], .object [("a", .number 2.0)],
      .object [("a", .number 1.0)]]
    (∃ sorted, sort (.array numbers) [] = .ok (.array sorted) ∧
        SortedByKeys id false numbers sorted) ∧
      (∃ sorted, sortBy (.array objects) [.string "a", .string "desc"] = .ok (.array sorted) ∧
        SortedByKeys (fun item => Query.valueAt item "a") true objects sorted) ∧
      sortBy (.array objects) [.string "a[", .string "desc"] = .ok (.array objects) := by
  intro numbers objects
  have comparable : Comparable numbers :=
    .numbers (List.forall_mem_cons.mpr ⟨⟨rfl, rfl⟩, List.forall_mem_cons.mpr ⟨⟨rfl, rfl⟩,
      List.forall_mem_cons.mpr ⟨⟨rfl, rfl⟩, List.forall_mem_singleton.mpr ⟨rfl, rfl⟩⟩⟩⟩)
  have keys : Comparable (objects.map fun item => Query.valueAt item "a") :=
    .numbers (List.forall_mem_cons.mpr ⟨⟨rfl, rfl⟩, List.forall_mem_cons.mpr ⟨⟨rfl, rfl⟩,
      List.forall_mem_singleton.mpr ⟨rfl, rfl⟩⟩⟩)
  rcases (sorts_stably numbers []).1 comparable with ⟨upwards, result, byValues, _⟩
  rcases (sorts_stably objects [.string "a", .string "desc"]).2.1 true rfl keys with
    ⟨downwards, resultByKeys, byKeys, _⟩
  have unreadable : ∃ error, Query.readPath "a[" = .error error := ⟨_, rfl⟩
  rcases unreadable with ⟨error, unreadable⟩
  have kept := (sorts_stably objects [.string "a[", .string "desc"]).2.2 true error rfl unreadable
  exact ⟨⟨upwards, result, byValues⟩, ⟨downwards, resultByKeys, byKeys⟩, kept⟩

end Stencil.Elements
