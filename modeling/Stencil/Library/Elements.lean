import Stencil.Library.Arguments
import Stencil.Query
import Stencil.Sorting
import Stencil.Value.Compare
/-!
# Functions on the elements of arrays

Sorting, grouping, selecting and adding up. Where a key is named it is a path, and an element
without a value at that path has `undefined` as its key.
-/

namespace Stencil.Elements

/-- The order of values for sorting. Values that cannot be compared count as equal. -/
def ordering (a b : Value) : Ordering := (a.compare? b).getD .eq

/-- Sorts in ascending order. -/
def sort : Body := .totalOnArray "sort" fun items _ => .array (Sorting.sort ordering items)

/-- Whether the order of a sort is reversed. -/
def descending (args : Arguments) : Except FunctionError Bool :=
  match args.textOr 1 "asc" with
  | "asc" => .ok false
  | "desc" => .ok true
  | other => .error ⟨"sortBy", .unknownDirection other⟩

/-- The path that names the key of an element. -/
def keyPath (args : Arguments) : String := args.textOr 0 ""

/-- Sorts by the keys of the elements. -/
def sortBy : Body := fun value args => do
  let reversed ← descending args
  let order := fun (a b : Value × Value) =>
    if reversed then (ordering a.1 b.1).swap else ordering a.1 b.1
  Body.totalOnArray "sortBy" (fun items args =>
    let keyed := items.map fun item => (Query.valueAt item (keyPath args), item)
    .array ((Sorting.sort order keyed).map Prod.snd)) value args

/-- The keys of all elements. -/
def map : Body := .totalOnArray "map" fun items args =>
  .array (items.map fun item => Query.valueAt item (keyPath args))

/-- Keeps the elements whose key is loosely equal to the second argument, or is true if there is no
second argument. -/
def filterBy : Body := .totalOnArray "filterBy" fun items args =>
  let wanted := fun key =>
    if 1 < args.length then Value.looseEq key (args.get 1) else key.truthy
  .array (items.filter fun item => wanted (Query.valueAt item (keyPath args)))

/-- Adds an element to the end of the group of a name. -/
def addToGroup (groups : Entries (List Value)) (name : String) (item : Value) :
    Entries (List Value) :=
  groups.alter name fun group => group.getD [] ++ [item]

/-- The groups of elements whose keys have the same text, in the order in which they first occur. -/
def groups (path : String) (items : List Value) : Entries (List Value) :=
  items.foldl (fun groups item => addToGroup groups (Query.valueAt item path).text item) []

/-- An object with the elements under the texts of their keys. -/
def groupBy : Body := .totalOnArray "groupBy" fun items args =>
  .object ((groups (keyPath args) items).map fun group => (group.1, .array group.2))

/-- The sum of the elements as numbers, added from the left. -/
def total (items : List Value) : Float := items.foldl (fun sum item => sum + item.toNumber) (-0.0)

def sum : Body := .totalOnArray "sum" fun items _ => .number (total items)

/-- The arithmetic mean of all elements. -/
def average : Body := .onArray "avg" fun items _ =>
  if items.isEmpty then .error ⟨"avg", .emptyAverage⟩
  else .ok (.number (total items / Float.ofNat items.length))

/-- What the log says about elements that have no key. -/
def keyRemarks (value : Value) (args : Arguments) : List String :=
  match value with
  | .array items => items.flatMap fun item => Query.valueAtRemarks item (keyPath args)
  | _ => []

/-- What the log says about a sort by keys. Nothing is looked up for an unknown direction. -/
def sortRemarks (value : Value) (args : Arguments) : List String :=
  match descending args with
  | .ok _ => keyRemarks value args
  | .error _ => []

end Stencil.Elements
