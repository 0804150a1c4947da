import Mathlib
import Stencil.Proofs.Number.Integers
import Stencil.Proofs.Value.Equality
import Stencil.Proofs.Value.Nesting
import Stencil.Value.Json
/-!
# Values in documents and back

A value that is written as a document and read again is equal to what it was, with its keys in the
order in which they were. Absences and numbers that are not finite have become `null`, and nothing
else changes when the value is written once more.
-/

namespace Stencil.Value

theorem itemsToJson_eq_map (items : List Value) : itemsToJson items = items.map toJson := by
  induction items with
  | nil => rfl
  | cons item rest ih => rw [itemsToJson, ih, List.map_cons]

theorem entriesToJson_eq_map (entries : Entries Value) :
    entriesToJson entries = entries.map fun entry => (entry.1, entry.2.toJson) := by
  induction entries with
  | nil => rfl
  | cons entry rest ih => rw [entriesToJson, ih, List.map_cons]

theorem itemsOfJson_eq_map (items : List Json) : itemsOfJson items = items.map ofJson := by
  induction items with
  | nil => rfl
  | cons item rest ih => rw [itemsOfJson, ih, List.map_cons]

theorem entriesOfJson_eq_map (entries : List (String × Json)) :
    entriesOfJson entries = entries.map fun entry => (entry.1, ofJson entry.2) := by
  induction entries with
  | nil => rfl
  | cons entry rest ih => rw [entriesOfJson, ih, List.map_cons]

/-- Every value that is read from a document has distinct keys, at any depth. -/
theorem distinctKeys_ofJson (json : Json) : (ofJson json).DistinctKeys := by
  refine @Json.rec (fun json => (ofJson json).DistinctKeys)
    (fun items => ∀ item ∈ items, (ofJson item).DistinctKeys)
    (fun entries => ∀ entry ∈ entries, (ofJson entry.2).DistinctKeys)
    (fun entry => (ofJson entry.2).DistinctKeys)
    ?_ ?_ ?_ ?_ ?_ ?_ ?_ ?_ ?_ ?_ ?_ ?_ json
  · exact trivial
  · exact fun b => trivial
  · exact fun n => trivial
  · exact fun x => trivial
  · exact fun s => trivial
  · intro items inner
    rw [ofJson, distinctKeys_array, itemsOfJson_eq_map]
    exact List.forall_mem_map.mpr inner
  · intro entries inner
    rw [ofJson, distinctKeys_object]
    refine ⟨Entries.nodup_keys_ofList _, fun entry member => ?_⟩
    have read := Entries.mem_of_mem_ofList member
    rw [entriesOfJson_eq_map] at read
    rcases List.mem_map.mp read with ⟨source, present, rfl⟩
    exact inner source present
  · exact List.forall_mem_nil _
  · exact fun item rest first others => List.forall_mem_cons.mpr ⟨first, others⟩
  · exact List.forall_mem_nil _
  · exact fun entry rest first others => List.forall_mem_cons.mpr ⟨first, others⟩
  · exact fun key json holds => holds

/-- What is read after a value has been written. -/
def reread (value : Value) : Value := ofJson value.toJson

theorem reread_array (items : List Value) : (array items).reread = array (items.map reread) := by
  rw [reread, toJson, ofJson, itemsToJson_eq_map, itemsOfJson_eq_map, List.map_map]
  rfl

/-- Where the keys are distinct, all entries are read in their order. -/
theorem reread_object {entries : Entries Value} (distinct : entries.keys.Nodup) :
    (object entries).reread = object (entries.map fun entry => (entry.1, entry.2.reread)) := by
  rw [reread, toJson, ofJson, entriesToJson_eq_map, entriesOfJson_eq_map, List.map_map,
    Entries.ofList_of_nodup]
  · rfl
  · rwa [← Entries.keys_map reread] at distinct

mutual

/-- A value with everything in it that has no parts changed. -/
def mapSimple (change : Value → Value) : Value → Value
  | array items => array (mapSimpleAll change items)
  | object entries => object (mapSimpleEntries change entries)
  | value => change value

/-- The elements of an array with everything that has no parts changed. -/
def mapSimpleAll (change : Value → Value) : List Value → List Value
  | [] => []
  | item :: rest => mapSimple change item :: mapSimpleAll change rest

/-- The entries of an object with everything that has no parts changed. -/
def mapSimpleEntries (change : Value → Value) : List (String × Value) → List (String × Value)
  | [] => []
  | (key, value) :: rest => (key, mapSimple change value) :: mapSimpleEntries change rest

end

section MapSimple

variable {change : Value → Value}

theorem mapSimple_array (items : List Value) :
    (array items).mapSimple change = array (items.map (mapSimple change)) := by
  rw [mapSimple]
  congr 1
  induction items with
  | nil => rfl
  | cons item rest ih => rw [mapSimpleAll, ih, List.map_cons]

theorem mapSimple_object (entries : Entries Value) :
    (object entries).mapSimple change =
      object (entries.map fun entry => (entry.1, entry.2.mapSimple change)) := by
  rw [mapSimple]
  congr 1
  induction entries with
  | nil => rfl
  | cons entry rest ih => rw [mapSimpleEntries, ih, List.map_cons]

theorem mapSimple_of_simple {value : Value} (simple : value.isCompound = false) :
    value.mapSimple change = change value := by
  cases value with
  | array items => cases simple
  | object entries => cases simple
  | _ => rfl

end MapSimple

/-- What documents hold in the place of a value that has no parts. -/
def written : Value → Value
  | undefined => null
  | number x => if x.isFinite then number x else null
  | value => value

/-- A value with `null` in the place of everything that documents cannot hold. -/
def withNulls (value : Value) : Value := value.mapSimple written

/-- A value with `null` in the place of everything that has no parts. What is left are the arrays
and the objects with their keys in order. -/
def outline (value : Value) : Value := value.mapSimple fun _ => null

mutual

/-- Whether a value holds no absence and only finite numbers, at any depth. -/
def Definite : Value → Prop
  | undefined => False
  | number x => x.isFinite = true
  | array items => DefiniteAll items
  | object entries => DefiniteEntries entries
  | _ => True

/-- Whether the elements of an array hold no absence and only finite numbers. -/
def DefiniteAll : List Value → Prop
  | [] => True
  | item :: rest => Definite item ∧ DefiniteAll rest

/-- Whether the entries of an object hold no absence and only finite numbers. -/
def DefiniteEntries : List (String × Value) → Prop
  | [] => True
  | (_, value) :: rest => Definite value ∧ DefiniteEntries rest

end

theorem definite_array (items : List Value) :
    (array items).Definite ↔ ∀ item ∈ items, item.Definite := by
  rw [Definite]
  induction items with
  | nil => simp [DefiniteAll]
  | cons item rest ih => simp [DefiniteAll, ih]

theorem definite_object (entries : Entries Value) :
    (object entries).Definite ↔ ∀ entry ∈ entries, entry.2.Definite := by
  rw [Definite]
  induction entries with
  | nil => simp [DefiniteEntries]
  | cons entry rest ih => simp [DefiniteEntries, ih]

theorem withNulls_of_definite {value : Value} (definite : value.Definite) :
    value.withNulls = value := by
  induction value using nestedInduction with
  | simple value simple =>
      rw [withNulls, mapSimple_of_simple simple]
      cases value with
      | undefined => cases definite
      | number x => exact if_pos definite
      | _ => rfl
  | array items ih =>
      rw [definite_array] at definite
      have kept : items.map withNulls = items.map id := by
        apply List.map_congr_left
        intro item member
        exact ih item member (definite item member)
      rw [withNulls, mapSimple_array]
      exact congrArg array (kept.trans (List.map_id items))
  | object entries ih =>
      rw [definite_object] at definite
      have kept : (entries.map fun entry => (entry.1, entry.2.withNulls)) = entries.map id := by
        apply Entries.map_values_congr withNulls id
        intro entry member
        exact ih entry member (definite entry member)
      rw [withNulls, mapSimple_object]
      exact congrArg object (kept.trans (List.map_id entries))

/-! ## Numbers -/

theorem reread_number_of_not_finite {x : Float} (infinite : x.isFinite = false) :
    (number x).reread = null := by
  simp [reread, toJson, numberToJson, infinite, ofJson]

theorem numberToJson_of_integral {x : Float} (finite : x.isFinite = true)
    (integral : Number.isIntegral x = true) (bounded : x.abs < 9.0e15) :
    numberToJson x = .integer (Number.toInt x) := by
  simp [numberToJson, finite, integral, bounded]

theorem numberToJson_of_not_integral {x : Float} (finite : x.isFinite = true)
    (other : ¬(Number.isIntegral x = true ∧ x.abs < 9.0e15)) : numberToJson x = .float x := by
  simp only [numberToJson, finite]
  rw [if_neg (by decide), if_neg (by simpa using other)]

/-- Floats with the same unpacked form are the same integer. -/
theorem numberToJson_of_unpack_eq {x y : Float} (finite : x.isFinite = true)
    (integral : Number.isIntegral x = true) (bounded : x.abs < 9.0e15)
    (same : y.toModel.unpack = x.toModel.unpack) : numberToJson y = numberToJson x := by
  have denoted : Binary.ofFloat y = Binary.ofFloat x := by
    rw [Binary.ofFloat_eq, Binary.ofFloat_eq, same]
  have finite' : y.isFinite = true :=
    (congrArg Float.Model.UnpackedFloat.isFinite same).trans finite
  have integral' : Number.isIntegral y = true := by
    rw [Number.isIntegral, denoted]
    exact integral
  have magnitude : y.abs = x.abs :=
    congrArg (fun unpacked : Float.Model.UnpackedFloat =>
      Float.ofModel (Float.Model.pack unpacked.abs)) same
  rw [numberToJson_of_integral finite integral bounded,
    numberToJson_of_integral finite' integral' (magnitude ▸ bounded), Number.toInt, Number.toInt,
    denoted]

theorem isNaN_of_isFinite {x : Float} (finite : x.isFinite = true) : x.isNaN = false := by
  change x.toModel.unpack.isFinite = true at finite
  change x.toModel.unpack.isNaN = false
  cases unpacked : x.toModel.unpack with
  | notANumber =>
      rw [unpacked] at finite
      cases finite
  | _ => rfl

/-- A finite number is read as an equal one, which is written alike. -/
theorem reread_number {x : Float} (finite : x.isFinite = true) :
    ∃ y, (number x).reread = number y ∧ (y == x) = true ∧ numberToJson y = numberToJson x := by
  rw [reread, toJson]
  by_cases kept : Number.isIntegral x = true ∧ x.abs < 9.0e15
  · rcases kept with ⟨integral, bounded⟩
    have small := Binary.natAbs_toInt_lt integral bounded
    have converted := numberToJson_of_integral finite integral bounded
    refine ⟨Float.ofInt (Number.toInt x), by rw [converted, ofJson],
      Binary.ofInt_toInt_beq integral small, ?_⟩
    -- Zero is read without its sign, and written as the same integer.
    rcases eq_or_ne (Number.toInt x) 0 with zero | nonzero
    · have whole : Number.toInt (Float.ofInt 0) = 0 := by decide +kernel
      rw [converted, zero, numberToJson_of_integral (by decide) (by decide +kernel)
        (by decide +kernel), whole]
    · exact numberToJson_of_unpack_eq finite integral bounded
        (Binary.unpack_ofInt_toInt integral nonzero small)
  · refine ⟨x, by rw [numberToJson_of_not_integral finite kept, ofJson],
      Binary.beq_of_place ?_ rfl, rfl⟩
    intro none
    rw [Binary.place_eq_none_iff, isNaN_of_isFinite finite] at none
    cases none

/-! ## Whole values -/

/-- What is read in the place of a value that has no parts. -/
theorem reread_simple {value : Value} (simple : value.isCompound = false) :
    value.reread.isCompound = false ∧ value.reread.strictEq (written value) = true ∧
      value.reread.toJson = value.toJson := by
  cases value with
  | array items => cases simple
  | object entries => cases simple
  | number x =>
      rw [written]
      rcases finite : x.isFinite with _ | _
      · rw [reread_number_of_not_finite finite]
        refine ⟨rfl, rfl, ?_⟩
        simp [toJson, numberToJson, finite]
      · rcases reread_number finite with ⟨y, read, equal, alike⟩
        rw [read]
        exact ⟨rfl, equal, alike⟩
  | bool b => exact ⟨rfl, beq_self_eq_true b, rfl⟩
  | string s => exact ⟨rfl, beq_self_eq_true s, rfl⟩
  | _ => exact ⟨rfl, rfl, rfl⟩

theorem itemsEq_map {change other : Value → Value} {items : List Value}
    (equal : ∀ item ∈ items, (change item).strictEq (other item) = true) :
    itemsEq (items.map change) (items.map other) = true := by
  induction items with
  | nil => rfl
  | cons item rest ih =>
      rcases List.forall_mem_cons.mp equal with ⟨here, later⟩
      rw [List.map_cons, List.map_cons, itemsEq, here, ih later]
      rfl

theorem entriesWithin_map {change other : Value → Value} {entries : Entries Value}
    (distinct : entries.keys.Nodup)
    (equal : ∀ entry ∈ entries, (change entry.2).strictEq (other entry.2) = true) :
    entriesWithin (entries.map fun entry => (entry.1, change entry.2))
      (entries.map fun entry => (entry.1, other entry.2)) = true := by
  rw [entriesWithin_iff]
  intro changed member
  rcases List.mem_map.mp member with ⟨entry, present, rfl⟩
  refine ⟨other entry.2, ?_, equal entry present⟩
  rw [Entries.find?_eq_some_iff (by rwa [Entries.keys_map])]
  exact List.mem_map_of_mem present

/-- Reading gives back the value with `null` in the place of what documents cannot hold. -/
theorem strictEq_reread {value : Value} (distinct : value.DistinctKeys) :
    value.reread.strictEq value.withNulls = true := by
  induction value using nestedInduction with
  | simple value simple =>
      rw [withNulls, mapSimple_of_simple simple]
      exact (reread_simple simple).2.1
  | array items ih =>
      rw [distinctKeys_array] at distinct
      rw [reread_array, withNulls, mapSimple_array, strictEq]
      apply itemsEq_map
      intro item member
      exact ih item member (distinct item member)
  | object entries ih =>
      rw [distinctKeys_object] at distinct
      rw [reread_object distinct.1, withNulls, mapSimple_object, strictEq, List.length_map,
        List.length_map, beq_self_eq_true, Bool.true_and]
      apply entriesWithin_map distinct.1
      intro entry member
      exact ih entry member (distinct.2 entry member)

/-- All arrays and objects are read with their parts and keys in the same order. -/
theorem outline_reread {value : Value} (distinct : value.DistinctKeys) :
    value.reread.outline = value.outline := by
  induction value using nestedInduction with
  | simple value simple =>
      rw [outline, outline, mapSimple_of_simple simple,
        mapSimple_of_simple (reread_simple simple).1]
  | array items ih =>
      rw [distinctKeys_array] at distinct
      rw [reread_array, outline, outline, mapSimple_array, mapSimple_array, List.map_map]
      congr 1
      apply List.map_congr_left
      intro item member
      exact ih item member (distinct item member)
  | object entries ih =>
      rw [distinctKeys_object] at distinct
      rw [reread_object distinct.1, outline, outline, mapSimple_object, mapSimple_object,
        List.map_map]
      congr 1
      apply Entries.map_values_congr (fun value => value.reread.outline) outline
      intro entry member
      exact ih entry member (distinct.2 entry member)

theorem toJson_reread {value : Value} (distinct : value.DistinctKeys) :
    value.reread.toJson = value.toJson := by
  induction value using nestedInduction with
  | simple value simple => exact (reread_simple simple).2.2
  | array items ih =>
      rw [distinctKeys_array] at distinct
      rw [reread_array, toJson, toJson, itemsToJson_eq_map, itemsToJson_eq_map, List.map_map]
      congr 1
      apply List.map_congr_left
      intro item member
      exact ih item member (distinct item member)
  | object entries ih =>
      rw [distinctKeys_object] at distinct
      rw [reread_object distinct.1, toJson, toJson, entriesToJson_eq_map, entriesToJson_eq_map,
        List.map_map]
      congr 1
      apply Entries.map_values_congr (fun value => value.reread.toJson) toJson
      intro entry member
      exact ih entry member (distinct.2 entry member)

theorem toJson_withNulls (value : Value) : value.withNulls.toJson = value.toJson := by
  induction value using nestedInduction with
  | simple value simple =>
      rw [withNulls, mapSimple_of_simple simple]
      cases value with
      | number x =>
          rw [written]
          split
          · rfl
          · rename_i infinite
            simp [toJson, numberToJson, infinite]
      | _ => rfl
  | array items ih =>
      rw [withNulls, mapSimple_array, toJson, toJson, itemsToJson_eq_map, itemsToJson_eq_map,
        List.map_map]
      congr 1
      exact List.map_congr_left ih
  | object entries ih =>
      rw [withNulls, mapSimple_object, toJson, toJson, entriesToJson_eq_map, entriesToJson_eq_map,
        List.map_map]
      congr 1
      exact Entries.map_values_congr (fun value => value.withNulls.toJson) toJson ih

/-- A value that is written and read again is strictly equal to what it was and has its keys in
order, if it holds no absence and only finite numbers. Any other value comes back with `null` in the
place of what documents cannot hold, and is written as before. -/
theorem json_roundtrip (value : Value) (distinct : value.DistinctKeys) :
    (value.Definite → (ofJson value.toJson).strictEq value = true) ∧
      (ofJson value.toJson).outline = value.outline ∧
      (ofJson value.toJson).toJson = value.toJson ∧
      (ofJson value.toJson).strictEq value.withNulls = true ∧
      value.withNulls.toJson = value.toJson := by
  have equal := strictEq_reread distinct
  refine ⟨fun definite => ?_, outline_reread distinct, toJson_reread distinct, equal,
    toJson_withNulls value⟩
  rwa [withNulls_of_definite definite] at equal

/-- Negative zero, numbers on both sides of the bound for integers, and an absence in an object. -/
theorem json_roundtrip_numbers :
    let kept := object [("b", array [number (-0.0), number 8999999999999999.0]),
      ("a", array [number 9.0e15, number 0.5, string "x"])]
    let lost := array [kept, undefined, number Number.infinity]
    (ofJson kept.toJson).strictEq kept = true ∧ (ofJson kept.toJson).outline = kept.outline ∧
      (ofJson lost.toJson).toJson = lost.toJson ∧
      (ofJson lost.toJson).strictEq (array [kept, null, null]) = true := by
  intro kept lost
  have distinct : kept.DistinctKeys := by
    simp [kept, DistinctKeys, DistinctKeysAll, DistinctKeysEntries]
  have definite : kept.Definite :=
    ⟨⟨rfl, rfl, trivial⟩, ⟨rfl, rfl, trivial, trivial⟩, trivial⟩
  have distinctLost : lost.DistinctKeys := ⟨distinct, trivial, trivial, trivial⟩
  have nulls : lost.withNulls = array [kept, null, null] := by
    change array [kept.withNulls, null, written (number Number.infinity)] = _
    rw [withNulls_of_definite definite]
    rfl
  rcases json_roundtrip kept distinct with ⟨same, order, _⟩
  rcases json_roundtrip lost distinctLost with ⟨_, _, again, equal, _⟩
  rw [nulls] at equal
  exact ⟨same definite, order, again, equal⟩

end Stencil.Value
