import Mathlib
import Stencil.Value.Compare
/-!
# Values inside of values

A statement about all values is proved by going through the parts of arrays and objects first. The
values that templates work with have objects in which every key occurs once, at any depth: a key
that is written again replaces its value.
-/

namespace Stencil

namespace Entries

variable {α : Type} {entries : Entries α}

/-- The keys in their order. -/
def keys (entries : Entries α) : List String := entries.map Prod.fst

@[simp] theorem keys_nil : keys ([] : Entries α) = [] := rfl

@[simp] theorem keys_cons (entry : String × α) (rest : Entries α) :
    keys (entry :: rest) = entry.1 :: keys rest := rfl

theorem mem_keys_of_mem {entry : String × α} (member : entry ∈ entries) :
    entry.1 ∈ entries.keys := List.mem_map_of_mem member

theorem mem_of_find? {key : String} {value : α} (found : entries.find? key = some value) :
    (key, value) ∈ entries := by
  induction entries with
  | nil => cases found
  | cons entry rest ih =>
      rw [find?_cons] at found
      split at found
      · rename_i here
        obtain rfl := Option.some.inj found
        rw [← here]
        exact List.mem_cons_self
      · exact List.mem_cons_of_mem _ (ih found)

/-- Where every key occurs once, each entry is found under its key. -/
theorem find?_eq_some_iff (distinct : entries.keys.Nodup) {key : String} {value : α} :
    entries.find? key = some value ↔ (key, value) ∈ entries := by
  refine ⟨mem_of_find?, fun member => ?_⟩
  induction entries with
  | nil => cases member
  | cons entry rest ih =>
      rcases List.nodup_cons.mp distinct with ⟨fresh, others⟩
      rw [find?_cons]
      rcases List.mem_cons.mp member with rfl | later
      · exact if_pos rfl
      · have differs : entry.1 ≠ key := by
          intro same
          rw [same] at fresh
          exact fresh (mem_keys_of_mem later)
        rw [if_neg differs]
        exact ih others later

theorem insert_of_notMem {key : String} (fresh : key ∉ entries.keys) (value : α) :
    entries.insert key value = entries ++ [(key, value)] := by
  induction entries with
  | nil => rfl
  | cons entry rest ih =>
      rw [keys_cons, List.mem_cons, not_or] at fresh
      rw [insert, if_neg (Ne.symm fresh.1), ih fresh.2]
      rfl

theorem keys_insert (entries : Entries α) (key : String) (value : α) :
    (entries.insert key value).keys =
      if key ∈ entries.keys then entries.keys else entries.keys ++ [key] := by
  induction entries with
  | nil => rfl
  | cons entry rest ih =>
      rw [insert]
      split
      · rename_i here
        simp [here]
      · rename_i differs
        rw [keys_cons, ih, keys_cons]
        simp only [List.mem_cons, Ne.symm differs, false_or]
        split <;> rfl

theorem nodup_keys_insert (distinct : entries.keys.Nodup) (key : String) (value : α) :
    (entries.insert key value).keys.Nodup := by
  rw [keys_insert]
  split
  · exact distinct
  · rename_i fresh
    exact List.nodup_append.mpr ⟨distinct, List.nodup_singleton key, by
      rintro a member _ last rfl
      rw [List.mem_singleton.mp last] at member
      exact fresh member⟩

theorem nodup_keys_foldl (pairs : List (String × α)) (distinct : entries.keys.Nodup) :
    (pairs.foldl (fun written pair => insert written pair.1 pair.2) entries).keys.Nodup := by
  induction pairs generalizing entries with
  | nil => exact distinct
  | cons pair rest ih => exact ih (nodup_keys_insert distinct pair.1 pair.2)

theorem nodup_keys_ofList (pairs : List (String × α)) : (ofList pairs).keys.Nodup :=
  nodup_keys_foldl pairs List.nodup_nil

theorem eq_or_mem_of_mem_insert {key : String} {value : α} {entry : String × α}
    (member : entry ∈ entries.insert key value) : entry = (key, value) ∨ entry ∈ entries := by
  induction entries with
  | nil => exact .inl (List.mem_singleton.mp member)
  | cons first rest ih =>
      rw [insert] at member
      split at member
      · exact (List.mem_cons.mp member).imp_right (List.mem_cons_of_mem _)
      · rcases List.mem_cons.mp member with rfl | later
        · exact .inr List.mem_cons_self
        · exact (ih later).imp_right (List.mem_cons_of_mem _)

theorem mem_of_mem_foldl {pairs : List (String × α)} {entry : String × α}
    (member : entry ∈ pairs.foldl (fun written pair => insert written pair.1 pair.2) entries) :
    entry ∈ entries ∨ entry ∈ pairs := by
  induction pairs generalizing entries with
  | nil => exact .inl member
  | cons pair rest ih =>
      rcases ih member with written | later
      · rcases eq_or_mem_of_mem_insert written with rfl | before
        · exact .inr List.mem_cons_self
        · exact .inl before
      · exact .inr (List.mem_cons_of_mem _ later)

/-- Nothing is found in the entries that has not been written. -/
theorem mem_of_mem_ofList {pairs : List (String × α)} {entry : String × α}
    (member : entry ∈ ofList pairs) : entry ∈ pairs :=
  (mem_of_mem_foldl member).resolve_left List.not_mem_nil

theorem foldl_insert_of_nodup (written pairs : Entries α)
    (distinct : (keys (written ++ pairs)).Nodup) :
    pairs.foldl (fun entries pair => insert entries pair.1 pair.2) written = written ++ pairs := by
  induction pairs generalizing written with
  | nil => simp
  | cons pair rest ih =>
      have fresh : pair.1 ∉ keys written := by
        intro member
        rw [keys, List.map_append, List.nodup_append] at distinct
        exact distinct.2.2 _ member _ List.mem_cons_self rfl
      rw [List.foldl_cons, insert_of_notMem fresh, ih]
      · simp
      · simpa using distinct

theorem ofList_of_nodup (distinct : entries.keys.Nodup) : ofList entries = entries :=
  foldl_insert_of_nodup [] entries distinct

section Map

variable {β : Type}

theorem keys_map (change : α → β) (entries : Entries α) :
    keys (entries.map fun entry => (entry.1, change entry.2)) = entries.keys := by
  simp [keys, Function.comp_def]

theorem map_values_congr (change other : α → β)
    (same : ∀ entry ∈ entries, change entry.2 = other entry.2) :
    (entries.map fun entry => (entry.1, change entry.2)) =
      entries.map fun entry => (entry.1, other entry.2) := by
  apply List.map_congr_left
  intro entry member
  rw [same entry member]

end Map

end Entries

namespace Value

/-- Whether a value has parts. -/
def isCompound : Value → Bool
  | array _ => true
  | object _ => true
  | _ => false

/-- Induction on values: what holds of the parts of a value holds of the value. -/
@[elab_as_elim]
theorem nestedInduction {motive : Value → Prop}
    (simple : ∀ value, value.isCompound = false → motive value)
    (array : ∀ items, (∀ item ∈ items, motive item) → motive (array items))
    (object : ∀ entries : List (String × Value), (∀ entry ∈ entries, motive entry.2) →
      motive (object entries))
    (value : Value) : motive value := by
  refine @Value.rec motive (fun items => ∀ item ∈ items, motive item)
    (fun entries => ∀ entry ∈ entries, motive entry.2) (fun entry => motive entry.2)
    ?_ ?_ ?_ ?_ ?_ array object ?_ ?_ ?_ ?_ ?_ value
  · exact simple _ rfl
  · exact simple _ rfl
  · exact fun b => simple _ rfl
  · exact fun x => simple _ rfl
  · exact fun s => simple _ rfl
  · exact List.forall_mem_nil _
  · exact fun item rest first others => List.forall_mem_cons.mpr ⟨first, others⟩
  · exact List.forall_mem_nil _
  · exact fun entry rest first others => List.forall_mem_cons.mpr ⟨first, others⟩
  · exact fun key value holds => holds

mutual

/-- Every key of every object in a value occurs once. -/
def DistinctKeys : Value → Prop
  | array items => DistinctKeysAll items
  | object entries => (Entries.keys entries).Nodup ∧ DistinctKeysEntries entries
  | _ => True

/-- The elements of an array have distinct keys. -/
def DistinctKeysAll : List Value → Prop
  | [] => True
  | item :: rest => DistinctKeys item ∧ DistinctKeysAll rest

/-- The values of an object have distinct keys. -/
def DistinctKeysEntries : List (String × Value) → Prop
  | [] => True
  | (_, value) :: rest => DistinctKeys value ∧ DistinctKeysEntries rest

end

theorem distinctKeysAll_iff (items : List Value) :
    DistinctKeysAll items ↔ ∀ item ∈ items, item.DistinctKeys := by
  induction items with
  | nil => simp [DistinctKeysAll]
  | cons item rest ih => simp [DistinctKeysAll, ih]

theorem distinctKeysEntries_iff (entries : List (String × Value)) :
    DistinctKeysEntries entries ↔ ∀ entry ∈ entries, entry.2.DistinctKeys := by
  induction entries with
  | nil => simp [DistinctKeysEntries]
  | cons entry rest ih => simp [DistinctKeysEntries, ih]

@[simp] theorem distinctKeys_array (items : List Value) :
    (array items).DistinctKeys ↔ ∀ item ∈ items, item.DistinctKeys := by
  rw [DistinctKeys, distinctKeysAll_iff]

@[simp] theorem distinctKeys_object (entries : Entries Value) :
    (object entries).DistinctKeys ↔
      (Entries.keys entries).Nodup ∧ ∀ entry ∈ entries, entry.2.DistinctKeys := by
  rw [DistinctKeys, distinctKeysEntries_iff]

end Value

end Stencil
