import Mathlib
import Stencil.Library.Elements
import Stencil.Proofs.Sorting.Elements
import Stencil.Proofs.Value.Keys
/-!
# Grouping

The groups of an array are its elements divided by the texts of their keys. One element more leaves
all groups as they are but the one of its name, where it comes last, so the groups stand in the
order in which their names first occur and each of them has the elements of its name in their order.
-/

namespace Stencil

namespace Entries

variable {α : Type}

/-- Where every key occurs once, entries are their keys with what is found under them. -/
theorem eq_map_keys {entries : Entries α} (distinct : entries.keys.Nodup) (value : String → α)
    (found : ∀ key ∈ entries.keys, entries.find? key = some (value key)) :
    entries = entries.keys.map fun key => (key, value key) := by
  rw [keys, List.map_map, ← List.map_id entries, List.map_map]
  refine List.map_congr_left fun entry member => ?_
  have here : entries.find? entry.1 = some entry.2 := (find?_eq_some_iff distinct).mpr member
  have same := found entry.1 (mem_keys_of_mem member)
  rw [here] at same
  exact Prod.ext rfl (Option.some.inj same)

end Entries

/-- Dividing a list by names that occur once and are those of all elements only rearranges it. -/
theorem perm_flatten_filter {α : Type} {name : α → String} {names : List String}
    (distinct : names.Nodup) {items : List α} (named : ∀ item ∈ items, name item ∈ names) :
    (names.map fun key => items.filter fun item => name item = key).flatten.Perm items := by
  induction names generalizing items with
  | nil =>
      rw [List.eq_nil_iff_forall_not_mem.mpr fun item member => List.not_mem_nil (named item member)]
      exact .refl []
  | cons first others ih =>
      rcases List.nodup_cons.mp distinct with ⟨fresh, rest⟩
      let remaining := items.filter fun item => !decide (name item = first)
      -- The elements of the first name are in none of the other groups.
      have apart : ∀ key ∈ others, (items.filter fun item => name item = key) =
          remaining.filter fun item => name item = key := by
        intro key member
        rw [List.filter_filter]
        refine List.filter_congr fun item _ => ?_
        have differs : key ≠ first := fun same => fresh (same ▸ member)
        by_cases here : name item = key
        · simp [here, differs]
        · simp [here]
      have known : ∀ item ∈ remaining, name item ∈ others := by
        intro item member
        rcases List.mem_filter.mp member with ⟨present, differs⟩
        exact (List.mem_cons.mp (named item present)).resolve_left (by simpa using differs)
      rw [List.map_cons, List.flatten_cons, List.map_congr_left apart]
      exact ((ih rest known).append_left _).trans
        (List.filter_append_perm (fun item => decide (name item = first)) items)

namespace Elements

/-- The name of an element's group: the text of its key. -/
def groupName (path : String) (item : Value) : String := (Query.valueAt item path).text

variable (path : String) (items : List Value)

theorem groups_append (item : Value) :
    groups path (items ++ [item]) =
      addToGroup (groups path items) (groupName path item) item := by
  simp [groups, groupName]

theorem keys_groups : (groups path items).keys = (items.map (groupName path)).eraseDups := by
  induction items using List.reverseRecOn with
  | nil => rfl
  | append_singleton items item ih =>
      rw [groups_append, addToGroup, Entries.alter, Entries.keys_insert, ih, List.map_append,
        List.map_singleton, eraseDups_append_singleton]
      simp only [List.mem_eraseDups]

theorem nodup_keys_groups : (groups path items).keys.Nodup := by
  induction items using List.reverseRecOn with
  | nil => exact List.nodup_nil
  | append_singleton items item ih =>
      rw [groups_append]
      exact Entries.nodup_keys_insert ih _ _

theorem find?_groups (name : String) :
    (groups path items).find? name =
      if name ∈ items.map (groupName path) then
        some (items.filter fun item => groupName path item = name)
      else none := by
  induction items using List.reverseRecOn with
  | nil => rfl
  | append_singleton items item ih =>
      rw [groups_append, addToGroup, Entries.alter, Entries.find?_insert]
      split
      · rename_i here
        rw [here, ih]
        by_cases known : name ∈ items.map (groupName path)
        · simp [known, here]
        · have none : items.filter (fun item => groupName path item = name) = [] := by
            rw [List.filter_eq_nil_iff]
            intro other member
            simpa using fun same => known (List.mem_map.mpr ⟨other, member, same⟩)
          simp [known, here, none]
      · rename_i differs
        rw [ih]
        simp [differs, Ne.symm differs]

/-- The groups of an array by the names of its elements: the names in the order in which they first
occur, each with the elements of that name in their order. With their positions the elements of the
groups are those of the array in another order, so each of them stands in one group. -/
structure Partitions (name : Value → String) (items : List Value)
    (groups : Entries (List Value)) : Prop where
  distinct : groups.keys.Nodup
  inOrder : groups.keys = (items.map name).eraseDups
  members : ∀ group ∈ groups,
    group.2 ≠ [] ∧ group.2 = items.filter fun item => name item = group.1
  located : ∃ places : Entries (List (Value × Nat)),
    groups = places.map (fun group => (group.1, group.2.map Prod.fst)) ∧
      (places.map Prod.snd).flatten.Perm items.zipIdx ∧
      (∀ group ∈ places, group.2.Pairwise fun earlier later => earlier.2 < later.2) ∧
      ∀ position item, items[position]? = some item →
        ∃! group, group ∈ places ∧ (item, position) ∈ group.2

section Partition

variable {path items}

theorem mem_groups_iff {group : String × List Value} :
    group ∈ groups path items ↔ group.1 ∈ items.map (groupName path) ∧
      group.2 = items.filter fun item => groupName path item = group.1 := by
  rw [← Entries.find?_eq_some_iff (nodup_keys_groups path items), find?_groups]
  split
  · rename_i known
    simp only [known, true_and, Option.some.injEq]
    exact eq_comm
  · rename_i fresh
    simp [fresh]

theorem mem_keys_groups_iff {name : String} :
    name ∈ (groups path items).keys ↔ name ∈ items.map (groupName path) := by
  rw [keys_groups, List.mem_eraseDups]

end Partition

theorem groups_eq_map : groups path items = (groups path items).keys.map fun name =>
    (name, items.filter fun item => groupName path item = name) := by
  refine Entries.eq_map_keys (nodup_keys_groups path items) _ fun name member => ?_
  rw [find?_groups, if_pos (mem_keys_groups_iff.mp member)]

/-- The groups with the positions of their elements. -/
def locatedGroups : Entries (List (Value × Nat)) :=
  (groups path items).keys.map fun name =>
    (name, items.zipIdx.filter fun placed => groupName path placed.1 = name)

theorem map_locatedGroups :
    (locatedGroups path items).map (fun group => (group.1, group.2.map Prod.fst)) =
      groups path items := by
  rw [groups_eq_map path items, locatedGroups, List.map_map]
  refine List.map_congr_left fun name _ => Prod.ext rfl ?_
  conv_rhs => rw [← List.zipIdx_map_fst 0 items, List.filter_map]
  rfl

theorem perm_locatedGroups :
    ((locatedGroups path items).map Prod.snd).flatten.Perm items.zipIdx := by
  have named : ∀ placed ∈ items.zipIdx, groupName path placed.1 ∈ (groups path items).keys := by
    intro placed member
    rw [mem_keys_groups_iff]
    refine List.mem_map_of_mem ?_
    rw [← List.zipIdx_map_fst 0 items]
    exact List.mem_map_of_mem member
  have perm := perm_flatten_filter (nodup_keys_groups path items) named
  rwa [locatedGroups, List.map_map]

theorem pairwise_zipIdx {α : Type} (items : List α) :
    items.zipIdx.Pairwise fun earlier later => earlier.2 < later.2 := by
  rw [← List.pairwise_map, List.zipIdx_map_snd, ← List.range_eq_range']
  exact List.pairwise_lt_range

theorem existsUnique_locatedGroup {position : Nat} {item : Value}
    (found : items[position]? = some item) :
    ∃! group, group ∈ locatedGroups path items ∧ (item, position) ∈ group.2 := by
  have placed : (item, position) ∈ items.zipIdx := List.mk_mem_zipIdx_iff_getElem?.mpr found
  refine ⟨(groupName path item, items.zipIdx.filter fun placed =>
    groupName path placed.1 = groupName path item), ⟨?_, ?_⟩, ?_⟩
  · refine List.mem_map.mpr ⟨groupName path item, ?_, rfl⟩
    rw [mem_keys_groups_iff]
    exact List.mem_map_of_mem (List.mem_of_getElem? found)
  · simp [placed]
  · rintro group ⟨member, inside⟩
    rcases List.mem_map.mp member with ⟨name, _, rfl⟩
    -- An element is only in the group of its own name.
    have same : groupName path item = name := by simpa using (List.mem_filter.mp inside).2
    rw [same]

theorem partitions_groups : Partitions (groupName path) items (groups path items) where
  distinct := nodup_keys_groups path items
  inOrder := keys_groups path items
  members := by
    intro group member
    rcases mem_groups_iff.mp member with ⟨known, elements⟩
    refine ⟨?_, elements⟩
    rcases List.mem_map.mp known with ⟨item, present, name⟩
    rw [elements]
    exact List.ne_nil_of_mem (List.mem_filter.mpr ⟨present, by simpa using name⟩)
  located := by
    refine ⟨locatedGroups path items, (map_locatedGroups path items).symm,
      perm_locatedGroups path items, ?_, fun _ _ => existsUnique_locatedGroup path items⟩
    intro group member
    rcases List.mem_map.mp member with ⟨name, _, rfl⟩
    exact (pairwise_zipIdx items).filter _

theorem groupName_of_undefined {item : Value} (absent : Query.valueAt item path = .undefined) :
    groupName path item = "" := by
  rw [groupName, absent]
  rfl

/-- Elements without keys stay together. -/
theorem groups_of_absent (absent : ∀ item ∈ items, Query.valueAt item path = .undefined)
    (nonempty : items ≠ []) : groups path items = [("", items)] := by
  have unnamed : ∀ item ∈ items, groupName path item = "" :=
    fun item member => groupName_of_undefined path (absent item member)
  have keys : (groups path items).keys = [""] := by
    rw [keys_groups, List.map_congr_left unnamed]
    cases items with
    | nil => exact absurd rfl nonempty
    | cons item rest => simp [List.eraseDups_cons]
  have all : items.filter (fun item => groupName path item = "") = items :=
    List.filter_eq_self.mpr fun item member => by simpa using unnamed item member
  rw [groups_eq_map, keys, List.map_singleton, all]

/-- Grouping an array by a path divides its elements by the texts of their keys. Elements without a
key are in the group without a name, which is the only one if the path cannot be read. -/
theorem groupBy_partitions (items : List Value) (args : Arguments) :
    ∃ groups : Entries (List Value),
      groupBy (.array items) args =
          .ok (.object (groups.map fun group => (group.1, .array group.2))) ∧
        Partitions (groupName (keyPath args)) items groups ∧
        (∀ item ∈ items, Query.valueAt item (keyPath args) = .undefined →
          ∃ group, ("", group) ∈ groups ∧ item ∈ group) ∧
        ∀ error, Query.readPath (keyPath args) = .error error → items ≠ [] →
          groups = [("", items)] := by
  refine ⟨groups (keyPath args) items, rfl, partitions_groups _ _, ?_, ?_⟩
  · intro item member absent
    have unnamed := groupName_of_undefined (keyPath args) absent
    have known : "" ∈ items.map (groupName (keyPath args)) :=
      List.mem_map.mpr ⟨item, member, unnamed⟩
    refine ⟨items.filter fun item => groupName (keyPath args) item = "",
      mem_groups_iff.mpr ⟨known, rfl⟩, List.mem_filter.mpr ⟨member, ?_⟩⟩
    simpa using unnamed
  · intro error unreadable nonempty
    exact groups_of_absent _ _ (fun item _ => valueAt_of_unreadable unreadable item) nonempty

/-- Keys with equal texts and an object without the key, and a path that cannot be read. -/
theorem groupBy_partitions_mixed :
    let items : List Value := [.object [("a", .number 1.0)], .object [], .object [("a", .string "1")],
      .object [("a", .null)]]
    (∃ groups : Entries (List Value),
      groupBy (.array items) [.string "a"] =
          .ok (.object (groups.map fun group => (group.1, .array group.2))) ∧
        Partitions (groupName "a") items groups ∧
        ∃ group, ("", group) ∈ groups ∧ .object [] ∈ group) ∧
      groupBy (.array items) [.string "a["] = .ok (.object [("", .array items)]) := by
  intro items
  rcases groupBy_partitions items [.string "a"] with ⟨byKey, result, divided, absent, _⟩
  rcases groupBy_partitions items [.string "a["] with ⟨together, whole, _, _, unreadable⟩
  have error : ∃ error, Query.readPath "a[" = .error error := ⟨_, rfl⟩
  rcases error with ⟨error, refused⟩
  refine ⟨⟨byKey, result, divided, absent (.object []) ?_ rfl⟩, ?_⟩
  · exact List.mem_cons_of_mem _ List.mem_cons_self
  · rw [whole, unreadable error refused (List.cons_ne_nil _ _)]
    rfl

end Elements

end Stencil
