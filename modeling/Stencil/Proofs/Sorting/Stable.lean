import Mathlib
import Stencil.Sorting
/-!
# Sorting with a consistent comparison

A comparison is consistent on a list if it is reversed by exchanging two elements and is transitive
on elements that are not greater. With such a comparison, a list is sorted into ascending order and
elements that compare equal stay in their order, whichever way the list is sorted.
-/

namespace Stencil.Sorting

variable {α β : Type}

/-- A comparison is a total preorder on the elements of a list. -/
structure ConsistentOn (order : α → α → Ordering) (items : List α) : Prop where
  swap : ∀ a ∈ items, ∀ b ∈ items, order b a = (order a b).swap
  trans : ∀ a ∈ items, ∀ b ∈ items, ∀ c ∈ items,
    order a b ≠ .gt → order b c ≠ .gt → order a c ≠ .gt

/-- A list has the elements of another one in ascending order, and those that compare equal in the
order in which they were. -/
structure StablySorted (order : α → α → Ordering) (items sorted : List α) : Prop where
  perm : sorted.Perm items
  ascending : sorted.Pairwise fun earlier later => order earlier later ≠ .gt
  stable : ∀ x ∈ items, sorted.filter (fun y => order x y = .eq) =
    items.filter (fun y => order x y = .eq)

/-- Insertion into a descending list is insertion behind the elements that are greater. -/
theorem insertDescending_eq (order : α → α → Ordering) (x : α) (items : List α) :
    insertDescending order x items = items.orderedInsert (fun a b => order a b ≠ .lt) x := by
  induction items with
  | nil => rfl
  | cons y rest ih =>
      rw [insertDescending, List.orderedInsert_cons, ih]
      by_cases less : order x y = .lt <;> simp [less]

theorem byInsertion_eq (order : α → α → Ordering) (items : List α) :
    byInsertion order items =
      (items.reverse.insertionSort fun a b => order a b ≠ .lt).reverse := by
  have step : (fun sorted x => insertDescending order x sorted) =
      fun sorted x => sorted.orderedInsert (fun a b => order a b ≠ .lt) x := by
    funext sorted x
    exact insertDescending_eq order x sorted
  rw [byInsertion, List.insertionSort, List.foldr_reverse, step]

/-- Elements are sorted as what they are compared by. -/
theorem map_sort (f : α → β) (order : β → β → Ordering) (items : List α) :
    (sort (fun a b => order (f a) (f b)) items).map f = sort order (items.map f) := by
  rw [sort, sort, List.length_map]
  split
  · rw [byInsertion_eq, byInsertion_eq, List.map_reverse, List.map_insertionSort _
      (fun a b => order a b ≠ .lt), List.map_reverse]
    exact fun a _ b _ => Iff.rfl
  · exact List.map_mergeSort fun a _ b _ => rfl

section Lawful

variable (order : α → α → Ordering) [Std.TransCmp order]

theorem order_swap (a b : α) : order b a = (order a b).swap := Std.OrientedCmp.eq_swap

theorem ne_gt_trans {a b c : α} (first : order a b ≠ .gt) (second : order b c ≠ .gt) :
    order a c ≠ .gt := by
  apply Ordering.ne_gt_iff_isLE.mpr
  apply Std.TransCmp.isLE_trans (b := b)
  · exact Ordering.ne_gt_iff_isLE.mp first
  · exact Ordering.ne_gt_iff_isLE.mp second

theorem ne_lt_iff (a b : α) : order a b ≠ .lt ↔ order b a ≠ .gt := by
  rw [order_swap order a b]
  cases order a b <;> decide

theorem ne_gt_total (a b : α) : order a b ≠ .gt ∨ order b a ≠ .gt := by
  rw [order_swap order a b]
  cases order a b <;> decide

/-- Elements that compare equal to one element are in ascending order however they stand. -/
theorem pairwise_filter_eq (x : α) (items : List α) :
    (items.filter fun y => order x y = .eq).Pairwise fun a b => order a b ≠ .gt := by
  apply List.pairwise_of_forall_mem_list
  intro a first b second
  have left : order x a = .eq := by simpa using List.of_mem_filter first
  have right : order x b = .eq := by simpa using List.of_mem_filter second
  apply ne_gt_trans order (b := x)
  · rw [order_swap order x a, left]
    decide
  · rw [right]
    decide

variable {order}

/-- What keeps every ascending part of a list in its place keeps elements that compare equal in
their order. -/
theorem StablySorted.of_sublists {items sorted : List α} (perm : sorted.Perm items)
    (ascending : sorted.Pairwise fun a b => order a b ≠ .gt)
    (kept : ∀ part : List α, part.Pairwise (fun a b => order a b ≠ .gt) → part.Sublist items →
      part.Sublist sorted) : StablySorted order items sorted where
  perm := perm
  ascending := ascending
  stable := by
    intro x _
    have part := kept _ (pairwise_filter_eq order x items) List.filter_sublist
    have within := part.filter fun y => order x y = .eq
    rw [List.filter_filter] at within
    simp only [Bool.and_self] at within
    -- Both parts have as many elements, so that neither is a proper part of the other.
    exact (within.eq_of_length_le (perm.filter _).length_eq.le).symm

theorem stablySorted_byInsertion (items : List α) :
    StablySorted order items (byInsertion order items) := by
  let above (a b : α) : Prop := order a b ≠ .lt
  have total : Std.Total above := by
    constructor
    intro a b
    exact (ne_gt_total order b a).imp (ne_lt_iff order a b).mpr (ne_lt_iff order b a).mpr
  have transitive : IsTrans α above := by
    constructor
    intro a b c first second
    apply (ne_lt_iff order a c).mpr
    exact ne_gt_trans order ((ne_lt_iff order b c).mp second) ((ne_lt_iff order a b).mp first)
  rw [byInsertion_eq]
  apply StablySorted.of_sublists
  · have inner := (List.perm_insertionSort above items.reverse).trans (List.reverse_perm items)
    exact (List.reverse_perm _).trans inner
  · rw [List.pairwise_reverse]
    exact (List.pairwise_insertionSort above items.reverse).imp fun {a b} =>
      (ne_lt_iff order a b).mp
  · intro part ascending within
    rw [← List.reverse_sublist, List.reverse_reverse]
    apply List.sublist_insertionSort (r := above)
    · rw [List.pairwise_reverse]
      exact ascending.imp fun {a b} => (ne_lt_iff order b a).mpr
    · exact List.reverse_sublist.mpr within

theorem stablySorted_mergeSort (items : List α) :
    StablySorted order items (items.mergeSort fun a b => order a b ≠ .gt) := by
  have transitive (a b c : α) : decide (order a b ≠ .gt) → decide (order b c ≠ .gt) →
      decide (order a c ≠ .gt) := by
    simp only [decide_eq_true_eq]
    exact ne_gt_trans order
  have total (a b : α) : decide (order a b ≠ .gt) || decide (order b a ≠ .gt) := by
    simpa using ne_gt_total order a b
  apply StablySorted.of_sublists
  · exact List.mergeSort_perm _ _
  · simpa using List.pairwise_mergeSort transitive total items
  · intro part ascending within
    exact List.sublist_mergeSort transitive total (by simpa using ascending) within

theorem stablySorted_of_lawful (items : List α) : StablySorted order items (sort order items) := by
  unfold sort
  split
  · exact stablySorted_byInsertion items
  · exact stablySorted_mergeSort items

theorem sort_of_ascending_of_lawful {items : List α}
    (ascending : items.Pairwise fun a b => order a b ≠ .gt) : sort order items = items := by
  unfold sort
  split
  · rw [byInsertion_eq, List.Pairwise.insertionSort_eq, List.reverse_reverse]
    rw [List.pairwise_reverse]
    exact ascending.imp fun {a b} => (ne_lt_iff order b a).mpr
  · apply List.mergeSort_of_pairwise
    simpa using ascending

end Lawful

variable {order : α → α → Ordering} {items : List α}

/-- A comparison that is consistent on a list is lawful on the elements of the list. -/
theorem ConsistentOn.transCmp (consistent : ConsistentOn order items) :
    Std.TransCmp fun a b : {x // x ∈ items} => order a.1 b.1 where
  eq_swap := fun {a b} => consistent.swap b.1 b.2 a.1 a.2
  isLE_trans := by
    intro a b c first second
    rw [← Ordering.ne_gt_iff_isLE] at first second ⊢
    exact consistent.trans a.1 a.2 b.1 b.2 c.1 c.2 first second

theorem ConsistentOn.subset {others : List α} (consistent : ConsistentOn order items)
    (subset : others ⊆ items) : ConsistentOn order others where
  swap := fun _ first _ second => consistent.swap _ (subset first) _ (subset second)
  trans := fun _ first _ second _ third =>
    consistent.trans _ (subset first) _ (subset second) _ (subset third)

/-- The comparison of what a list is sorted by. -/
theorem ConsistentOn.comap {f : β → α} {sources : List β}
    (consistent : ConsistentOn order (sources.map f)) :
    ConsistentOn (fun a b => order (f a) (f b)) sources where
  swap := fun _ first _ second =>
    consistent.swap _ (List.mem_map_of_mem first) _ (List.mem_map_of_mem second)
  trans := fun _ first _ second _ third => consistent.trans _ (List.mem_map_of_mem first) _
    (List.mem_map_of_mem second) _ (List.mem_map_of_mem third)

theorem ConsistentOn.reversed (consistent : ConsistentOn order items) :
    ConsistentOn (fun a b => (order a b).swap) items where
  swap := fun a first b second => congrArg Ordering.swap (consistent.swap a first b second)
  trans := by
    intro a first b second c third
    rw [← consistent.swap a first b second, ← consistent.swap b second c third,
      ← consistent.swap a first c third]
    exact fun left right => consistent.trans c third b second a first right left

theorem sort_eq_map_attach (order : α → α → Ordering) (items : List α) :
    sort order items =
      (sort (fun a b : {x // x ∈ items} => order a.1 b.1) items.attach).map Subtype.val := by
  rw [map_sort Subtype.val order items.attach, List.attach_map_subtype_val]

/-- With a comparison that is consistent on a list, sorting it is stable. -/
theorem stablySorted_sort (consistent : ConsistentOn order items) :
    StablySorted order items (sort order items) := by
  have lawful := consistent.transCmp
  -- The comparison is lawful on the elements only, which are sorted as a type of their own.
  let within (a b : {x // x ∈ items}) : Ordering := order a.1 b.1
  have sorted : StablySorted within items.attach _ := stablySorted_of_lawful items.attach
  rcases sorted with ⟨perm, ascending, stable⟩
  rw [sort_eq_map_attach]
  constructor
  · simpa using perm.map Subtype.val
  · exact ascending.map _ fun a b notAbove => notAbove
  · intro x member
    have classes := congrArg (List.map Subtype.val) (stable ⟨x, member⟩ (List.mem_attach _ _))
    rw [List.filter_map]
    conv_rhs => rw [← List.attach_map_subtype_val items, List.filter_map]
    exact classes

/-- A list in ascending order is sorted already. -/
theorem sort_of_ascending (consistent : ConsistentOn order items)
    (ascending : items.Pairwise fun a b => order a b ≠ .gt) : sort order items = items := by
  have lawful := consistent.transCmp
  rw [sort_eq_map_attach, sort_of_ascending_of_lawful, List.attach_map_subtype_val]
  exact List.pairwise_map.mp (by rwa [List.attach_map_subtype_val])

theorem sort_sort (consistent : ConsistentOn order items) :
    sort order (sort order items) = sort order items := by
  rcases stablySorted_sort consistent with ⟨perm, ascending, _⟩
  exact sort_of_ascending (consistent.subset perm.subset) ascending

end Stencil.Sorting
