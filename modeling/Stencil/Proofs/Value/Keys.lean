import Mathlib
import Stencil.Proofs.Value.Nesting
/-!
# Keys in their order

Entries are settled by the order of their keys and by what is found under each of them. Writing
entries over others keeps the keys where they first occur and finds the values that were written
last.
-/

namespace Stencil

section Repetitions

variable {α : Type} [BEq α] [LawfulBEq α]

theorem eraseDups_append_singleton (items : List α) (item : α) :
    (items ++ [item]).eraseDups =
      if item ∈ items then items.eraseDups else items.eraseDups ++ [item] := by
  rw [List.eraseDups_append]
  split
  · rename_i known
    simp [List.removeAll, known]
  · rename_i fresh
    simp [List.removeAll, fresh, List.eraseDups_cons]

theorem eraseDups_of_nodup {items : List α} (distinct : items.Nodup) : items.eraseDups = items := by
  induction items using List.reverseRecOn with
  | nil => rfl
  | append_singleton items item ih =>
      rw [List.nodup_append] at distinct
      have fresh : item ∉ items := fun member =>
        distinct.2.2 item member item (List.mem_singleton_self item) rfl
      rw [eraseDups_append_singleton, if_neg fresh, ih distinct.1]

theorem eraseDups_append_eraseDups (items others : List α) :
    (items ++ others.eraseDups).eraseDups = (items ++ others).eraseDups := by
  induction others using List.reverseRecOn with
  | nil => rfl
  | append_singleton others other ih =>
      rw [eraseDups_append_singleton, ← List.append_assoc, eraseDups_append_singleton]
      by_cases known : other ∈ others
      · rw [if_pos known, ih, if_pos (List.mem_append_right items known)]
      · have same : other ∈ items ++ others.eraseDups ↔ other ∈ items ++ others := by simp
        rw [if_neg known, ← List.append_assoc, eraseDups_append_singleton, ih]
        simp only [same]

theorem eraseDups_eraseDups_append (items others : List α) :
    (items.eraseDups ++ others).eraseDups = (items ++ others).eraseDups := by
  induction others using List.reverseRecOn with
  | nil =>
      rw [List.append_nil, List.append_nil]
      exact eraseDups_append_eraseDups [] items
  | append_singleton others other ih =>
      have same : other ∈ items.eraseDups ++ others ↔ other ∈ items ++ others := by simp
      rw [← List.append_assoc, ← List.append_assoc, eraseDups_append_singleton,
        eraseDups_append_singleton, ih]
      simp only [same]

end Repetitions

namespace Entries

variable {α : Type} {entries others : Entries α}

theorem find?_eq_of_perm (same : entries.Perm others) (distinct : entries.keys.Nodup)
    (key : String) : entries.find? key = others.find? key := by
  have distinctOthers : others.keys.Nodup := (same.map Prod.fst).nodup_iff.mp distinct
  ext value
  rw [find?_eq_some_iff distinct, find?_eq_some_iff distinctOthers]
  exact same.mem_iff

theorem find?_eq_none_of_notMem {key : String} (absent : key ∉ entries.keys) :
    entries.find? key = none := by
  rw [Option.eq_none_iff_forall_ne_some]
  exact fun value found => absent (mem_keys_of_mem (mem_of_find? found))

theorem keys_merge (distinct : entries.keys.Nodup) (later : Entries α) :
    (entries.merge later).keys = (entries.keys ++ later.keys).eraseDups := by
  induction later using List.reverseRecOn with
  | nil =>
      rw [keys_nil, List.append_nil, eraseDups_of_nodup distinct]
      rfl
  | append_singleton later last ih =>
      have added : entries.merge (later ++ [last]) =
          (entries.merge later).insert last.1 last.2 := by simp [merge]
      have listed : keys (later ++ [last]) = keys later ++ [last.1] := by simp [keys]
      rw [added, keys_insert, ih, listed, ← List.append_assoc, eraseDups_append_singleton]
      simp only [List.mem_eraseDups]

theorem find?_merge {later : Entries α} (distinct : later.keys.Nodup) (key : String) :
    (entries.merge later).find? key = (later.find? key).or (entries.find? key) := by
  induction later generalizing entries with
  | nil => rfl
  | cons first rest ih =>
      rcases List.nodup_cons.mp distinct with ⟨fresh, others⟩
      have added : entries.merge (first :: rest) =
          (entries.insert first.1 first.2).merge rest := rfl
      rw [added, ih others, find?_insert, find?_cons]
      split
      · rename_i here
        rw [find?_eq_none_of_notMem (here ▸ fresh)]
        rfl
      · rfl

/-- Entries are settled by the order of their keys and by what is found under them. -/
theorem ext_of_find? (distinct : entries.keys.Nodup) (keys : entries.keys = others.keys)
    (same : ∀ key, entries.find? key = others.find? key) : entries = others := by
  induction entries generalizing others with
  | nil => exact (List.map_eq_nil_iff.mp keys.symm).symm
  | cons first rest ih =>
      rcases others with _ | ⟨other, otherRest⟩
      · cases keys
      rw [keys_cons, keys_cons, List.cons.injEq] at keys
      rw [keys_cons, List.nodup_cons] at distinct
      have here := same first.1
      rw [find?_cons, find?_cons, if_pos rfl, if_pos keys.1.symm, Option.some.injEq] at here
      congr 1
      · exact Prod.ext keys.1 here
      · refine ih distinct.2 keys.2 fun key => ?_
        rcases eq_or_ne first.1 key with rfl | differs
        · rw [find?_eq_none_of_notMem distinct.1,
            find?_eq_none_of_notMem (keys.2 ▸ distinct.1)]
        · have later := same key
          rwa [find?_cons, find?_cons, if_neg differs, if_neg (keys.1 ▸ differs)] at later

end Entries

end Stencil
