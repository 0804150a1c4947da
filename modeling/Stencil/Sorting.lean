/-!
# Stable sorting

A sort is driven by a three-way comparison. Short lists are sorted by insertion, which also settles
where elements go that the comparison does not put in a consistent order; longer ones are merged.
Elements that compare equal keep their order in both. Nothing is to be read off a merge of elements
without a consistent order.
-/

namespace Stencil.Sorting

variable {α : Type}

/-- Puts an element in front of the elements of a descending list that are not greater. -/
def insertDescending (order : α → α → Ordering) (x : α) : List α → List α
  | [] => [x]
  | y :: rest => if order x y = .lt then y :: insertDescending order x rest else x :: y :: rest

/-- Sorts by inserting the elements from first to last. -/
def byInsertion (order : α → α → Ordering) (items : List α) : List α :=
  (items.foldl (fun sorted x => insertDescending order x sorted) []).reverse

/-- The longest list that is sorted by insertion. -/
def insertionLimit : Nat := 20

/-- Sorts in ascending order, keeping the order of elements that compare equal. If the comparison
puts more than twenty elements in no consistent order, then the merge is only one of the outcomes
that a sort may have: any other order is allowed, and so is that sorting breaks off. -/
def sort (order : α → α → Ordering) (items : List α) : List α :=
  if items.length ≤ insertionLimit then byInsertion order items
  else items.mergeSort fun a b => order a b ≠ .gt

end Stencil.Sorting
