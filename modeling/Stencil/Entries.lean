/-!
# Entries in insertion order

An object is a list of keys with their values. A key occurs once; writing it again replaces its
value and keeps its place.
-/

namespace Stencil

/-- Keys with values, in the order in which the keys were first written. -/
abbrev Entries (α : Type) := List (String × α)

namespace Entries

variable {α β : Type}

/-- The value of a key. -/
def find? (entries : Entries α) (key : String) : Option α := entries.lookup key

/-- Whether a key is present. -/
def contains (entries : Entries α) (key : String) : Bool := (entries.find? key).isSome

/-- Writes a value at a key: in the key's place if it has one, and last otherwise. -/
def insert : Entries α → String → α → Entries α
  | [], key, value => [(key, value)]
  | (k, v) :: rest, key, value =>
    if k = key then (key, value) :: rest else (k, v) :: insert rest key value

/-- The entries that result from writing all pairs in order. -/
def ofList (pairs : List (String × α)) : Entries α :=
  pairs.foldl (fun entries pair => entries.insert pair.1 pair.2) []

/-- Changes the value of a key, or writes one for a key that is absent. -/
def alter (entries : Entries α) (key : String) (change : Option α → α) : Entries α :=
  entries.insert key (change (entries.find? key))

/-- Writes all entries of `later` over those of `entries`. -/
def merge (entries later : Entries α) : Entries α :=
  later.foldl (fun merged pair => merged.insert pair.1 pair.2) entries

@[simp]
theorem find?_nil (key : String) : find? ([] : Entries α) key = none := rfl

theorem find?_cons (k key : String) (v : α) (rest : Entries α) :
    find? ((k, v) :: rest) key = if k = key then some v else find? rest key := by
  simp only [find?, List.lookup_cons]
  by_cases same : k = key
  · subst same
    simp
  · have differs : (key == k) = false := by simpa using Ne.symm same
    simp [differs, same]

@[simp]
theorem find?_insert (entries : Entries α) (key other : String) (value : α) :
    (entries.insert key value).find? other = if key = other then some value else entries.find? other := by
  induction entries with
  | nil => simp [insert, find?_cons]
  | cons pair rest ih =>
    obtain ⟨k, v⟩ := pair
    by_cases same : k = key
    · subst same
      by_cases here : k = other <;> simp [insert, find?_cons, here]
    · by_cases here : k = other
      · subst here
        simp [insert, find?_cons, same, Ne.symm same]
      · simp [insert, find?_cons, same, here, ih]

end Entries

end Stencil
