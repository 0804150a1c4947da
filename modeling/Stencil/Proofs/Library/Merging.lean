import Mathlib
import Stencil.Library.Records
import Stencil.Proofs.Value.Equivalence
import Stencil.Proofs.Value.Keys
/-!
# Objects taken apart and merged

What merging makes of some objects is settled by their keys and by what is found under each: the
keys stand where they first occur, and the last object that has a key gives its value. So it does
not matter which of them are merged first, and the parts that picking and omitting the same keys
make of an object can be put together again.
-/

namespace Stencil

namespace Entries

variable {α : Type} {entries : Entries α}

/-- What merging makes of some entries: all their keys, where each of them first occurs, with the
values that the last of them have. -/
structure Merges (parts : List (Entries α)) (merged : Entries α) : Prop where
  keys : merged.keys = (parts.flatMap Entries.keys).eraseDups
  distinct : merged.keys.Nodup
  values : ∀ key, merged.find? key = parts.reverse.findSome? fun part => part.find? key

namespace Merges

variable {parts : List (Entries α)} {merged whole : Entries α}

theorem unique (one : Merges parts merged) (other : Merges parts whole) : merged = whole :=
  ext_of_find? one.distinct (one.keys.trans other.keys.symm)
    fun key => (one.values key).trans (other.values key).symm

theorem single (distinct : entries.keys.Nodup) : Merges [entries] entries where
  keys := by rw [List.flatMap_singleton, eraseDups_of_nodup distinct]
  distinct := distinct
  values := by simp

theorem append (merges : Merges parts merged) (distinct : entries.keys.Nodup) :
    Merges (parts ++ [entries]) (merged.merge entries) where
  keys := by
    rw [keys_merge merges.distinct, merges.keys, eraseDups_eraseDups_append, List.flatMap_append,
      List.flatMap_singleton]
  distinct := nodup_keys_foldl entries merges.distinct
  values := by
    intro key
    rw [find?_merge distinct, merges.values, List.reverse_append, List.reverse_singleton,
      List.singleton_append, List.findSome?_cons]
    cases entries.find? key <;> rfl

theorem foldl (merges : Merges parts merged) {later : List (Entries α)}
    (distinct : ∀ part ∈ later, part.keys.Nodup) :
    Merges (parts ++ later) (later.foldl Entries.merge merged) := by
  induction later generalizing parts merged with
  | nil => simpa using merges
  | cons part rest ih =>
      have step := ih (merges.append (distinct part List.mem_cons_self))
        fun other member => distinct other (List.mem_cons_of_mem _ member)
      rwa [List.append_assoc] at step

/-- Merging some of the parts first makes no difference. -/
theorem regroup {before after : List (Entries α)} (inner : Merges parts merged)
    (outer : Merges (before ++ merged :: after) whole) :
    Merges (before ++ parts ++ after) whole where
  keys := by
    rw [outer.keys, List.flatMap_append, List.flatMap_cons, inner.keys, List.flatMap_append,
      List.flatMap_append, ← List.append_assoc, ← eraseDups_eraseDups_append,
      eraseDups_append_eraseDups, eraseDups_eraseDups_append]
  distinct := outer.distinct
  values := by
    intro key
    rw [outer.values]
    simp only [List.reverse_append, List.reverse_cons, List.append_assoc, List.findSome?_append,
      List.findSome?_cons, inner.values, List.singleton_append]
    cases parts.reverse.findSome? _ <;> rfl

end Merges

end Entries

namespace Record

open Entries

theorem foldlM_mergeOne (first : Entries Value) (later : List (Entries Value)) :
    (later.map Value.object).foldlM mergeOne first = .ok (later.foldl Entries.merge first) := by
  induction later generalizing first with
  | nil => rfl
  | cons part rest ih => exact ih (first.merge part)

theorem merge_objects (first : Entries Value) (later : List (Entries Value)) :
    merge (.object first) (later.map .object) =
      .ok (.object (later.foldl Entries.merge first)) := by
  rw [merge, Body.onObject, foldlM_mergeOne]
  rfl

/-- That arguments name a key: one of them or, if it is an array, one of its elements has it as its
text. -/
inductive Named (args : Arguments) (key : String) : Prop
  | argument {arg : Value} (member : arg ∈ args) (single : arg.array? = none)
      (text : arg.text = key) : Named args key
  | element {items : List Value} {item : Value} (member : .array items ∈ args)
      (inside : item ∈ items) (text : item.text = key) : Named args key

theorem mem_names_iff {args : Arguments} {key : String} : key ∈ names args ↔ Named args key := by
  rw [names, List.mem_flatMap]
  constructor
  · rintro ⟨arg, member, named⟩
    cases arg with
    | array items =>
        rcases List.mem_map.mp named with ⟨item, inside, text⟩
        exact .element member inside text
    | _ => exact .argument member rfl (List.mem_singleton.mp named).symm
  · intro named
    cases named with
    | @argument arg member single text =>
        refine ⟨arg, member, ?_⟩
        cases arg with
        | array items => cases single
        | _ => exact List.mem_singleton.mpr text.symm
    | element member inside text => exact ⟨_, member, List.mem_map.mpr ⟨_, inside, text⟩⟩

section Parting

variable {entries : Entries Value} {args : Arguments}

theorem pick_object : pick (.object entries) args =
    .ok (.object (entries.filter fun entry => (names args).contains entry.1)) := rfl

theorem without_object : without (.object entries) args =
    .ok (.object (entries.filter fun entry => !(names args).contains entry.1)) := rfl

theorem contains_names_iff {key : String} : (names args).contains key = true ↔ Named args key :=
  List.contains_iff_mem.trans mem_names_iff

/-- Parts that are all of an object's entries can be merged in either order. -/
theorem merge_parts {part rest : Entries Value} (distinct : entries.keys.Nodup)
    (parts : (part ++ rest).Perm entries) :
    merge (.object part) [.object rest] = .ok (.object (part ++ rest)) := by
  have apart : (Entries.keys (part ++ rest)).Nodup := (parts.map Prod.fst).nodup_iff.mpr distinct
  have merged := merge_objects part [rest]
  rwa [List.foldl_cons, List.foldl_nil, Entries.merge, foldl_insert_of_nodup part rest apart]
    at merged

end Parting

/-- Merging objects gives one with all their keys where each first occurs and with the values that
the last of them have, whichever of three objects are merged first. Picking and omitting the same
keys divide the entries of an object between two objects with the entries in their order, and
merging these gives all entries back, in an object that equality cannot tell from the whole one. -/
theorem entries_kept :
    (∀ (first : Entries Value) (later : List (Entries Value)),
      (∀ part ∈ first :: later, part.keys.Nodup) →
      ∃ merged, merge (.object first) (later.map .object) = .ok (.object merged) ∧
        Merges (first :: later) merged) ∧
    (∀ a b c : Entries Value, a.keys.Nodup → b.keys.Nodup → c.keys.Nodup →
      ∃ ab bc merged : Entries Value,
        merge (.object a) [.object b] = .ok (.object ab) ∧
        merge (.object b) [.object c] = .ok (.object bc) ∧
        merge (.object a) [.object b, .object c] = .ok (.object merged) ∧
        merge (.object ab) [.object c] = .ok (.object merged) ∧
        merge (.object a) [.object bc] = .ok (.object merged)) ∧
    ∀ (entries : Entries Value) (args : Arguments), entries.keys.Nodup →
      ∃ picked omitted : Entries Value,
        pick (.object entries) args = .ok (.object picked) ∧
        without (.object entries) args = .ok (.object omitted) ∧
        picked.Sublist entries ∧ omitted.Sublist entries ∧
        (∀ entry ∈ picked, Named args entry.1) ∧ (∀ entry ∈ omitted, ¬Named args entry.1) ∧
        (picked ++ omitted).Perm entries ∧
        merge (.object picked) [.object omitted] = .ok (.object (picked ++ omitted)) ∧
        merge (.object omitted) [.object picked] = .ok (.object (omitted ++ picked)) ∧
        ∀ whole : Entries Value, whole.Perm entries → ∀ value : Value,
          (Value.object whole).strictEq value = (Value.object entries).strictEq value ∧
            value.strictEq (.object whole) = value.strictEq (.object entries) := by
  refine ⟨?_, ?_, ?_⟩
  · intro first later distinct
    rw [List.forall_mem_cons] at distinct
    exact ⟨_, merge_objects first later, (Merges.single distinct.1).foldl distinct.2⟩
  · intro a b c distinctA distinctB distinctC
    have ab : Merges [a, b] (a.merge b) := (Merges.single distinctA).append distinctB
    have bc : Merges [b, c] (b.merge c) := (Merges.single distinctB).append distinctC
    have abc : Merges [a, b, c] ((a.merge b).merge c) := ab.append distinctC
    have grouped : Merges ([a] ++ [b, c] ++ []) (a.merge (b.merge c)) :=
      bc.regroup ((Merges.single distinctA).append bc.distinct)
    refine ⟨a.merge b, b.merge c, (a.merge b).merge c, merge_objects a [b], merge_objects b [c],
      merge_objects a [b, c], merge_objects (a.merge b) [c], ?_⟩
    rw [← grouped.unique abc]
    exact merge_objects a [b.merge c]
  · intro entries args distinct
    have parts := List.filter_append_perm (fun entry => (names args).contains entry.1) entries
    refine ⟨_, _, pick_object, without_object, List.filter_sublist, List.filter_sublist, ?_, ?_,
      parts, merge_parts distinct parts,
      merge_parts distinct (List.perm_append_comm.trans parts), ?_⟩
    · intro entry member
      exact contains_names_iff.mp (List.mem_filter.mp member).2
    · intro entry member named
      have unnamed := (List.mem_filter.mp member).2
      rw [contains_names_iff.mpr named] at unnamed
      cases unnamed
    · intro whole same value
      have distinctWhole : whole.keys.Nodup := (same.map Prod.fst).nodup_iff.mpr distinct
      exact Value.strictEq_object_of_perm same distinctWhole value

/-- Three objects that overwrite each other's entries, and keys named by a number and inside an
array. -/
theorem entries_kept_interleaved :
    let a : Entries Value := [("x", .number 1.0), ("y", .null)]
    let b : Entries Value := [("z", .bool true), ("x", .bool false)]
    let c : Entries Value := [("y", .string "last"), ("z", .null)]
    let merged : Entries Value := [("x", .bool false), ("y", .string "last"), ("z", .null)]
    let entries : Entries Value := [("7", .null), ("a", .number Number.notANumber), ("", .null)]
    let args : Arguments := [.number 7.0, .array [.null, .string "b"]]
    merge (.object a) [.object b, .object c] = .ok (.object merged) ∧ Merges [a, b, c] merged ∧
      (∃ bc, merge (.object b) [.object c] = .ok (.object bc) ∧
        merge (.object a) [.object bc] = .ok (.object merged)) ∧
      ∃ picked omitted : Entries Value,
        pick (.object entries) args = .ok (.object picked) ∧ picked.keys = ["7", ""] ∧
        without (.object entries) args = .ok (.object omitted) ∧ omitted.keys = ["a"] ∧
        (picked ++ omitted).Perm entries ∧
        merge (.object picked) [.object omitted] = .ok (.object (picked ++ omitted)) := by
  intro a b c merged entries args
  rcases entries_kept with ⟨general, grouping, parting⟩
  have result : merge (.object a) [.object b, .object c] = .ok (.object merged) := rfl
  have distinct : ∀ part ∈ [a, b, c], part.keys.Nodup := by decide
  rcases general a [b, c] distinct with ⟨whole, made, merges⟩
  obtain rfl : whole = merged := Value.object.inj (Except.ok.inj (made.symm.trans result))
  rcases grouping a b c (by decide) (by decide) (by decide) with
    ⟨_, bc, other, _, last, all, _, again⟩
  obtain rfl : other = merged := Value.object.inj (Except.ok.inj (all.symm.trans result))
  rcases parting entries args (by decide) with
    ⟨picked, omitted, first, second, _, _, _, _, parts, together, _⟩
  have named : pick (.object entries) args = .ok (.object [("7", .null), ("", .null)]) := rfl
  have unnamed : without (.object entries) args =
      .ok (.object [("a", .number Number.notANumber)]) := rfl
  obtain rfl := Value.object.inj (Except.ok.inj (first.symm.trans named))
  obtain rfl := Value.object.inj (Except.ok.inj (second.symm.trans unnamed))
  exact ⟨result, merges, ⟨bc, last, again⟩, _, _, first, rfl, second, rfl, parts, together⟩

end Record

end Stencil
