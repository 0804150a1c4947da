import Mathlib
import Stencil.Proofs.Number.Order
import Stencil.Proofs.Render.Steps
import Stencil.Proofs.Value.Nesting
/-!
# Equality and order in both directions

Neither equality depends on the order of its operands, and exchanging them reverses the order of
two values. The operators of templates that compare come in pairs that say the same with their
operands exchanged.
-/

namespace Stencil

namespace Value

theorem itemsEq_comm {items others : List Value}
    (comm : ∀ item ∈ items, ∀ other ∈ others, item.strictEq other = other.strictEq item) :
    itemsEq items others = itemsEq others items := by
  induction items generalizing others with
  | nil => cases others <;> rfl
  | cons item rest ih =>
      cases others with
      | nil => rfl
      | cons other otherRest =>
          rw [itemsEq, itemsEq, comm item List.mem_cons_self other List.mem_cons_self, ih]
          intro a member b otherMember
          exact comm a (List.mem_cons_of_mem _ member) b (List.mem_cons_of_mem _ otherMember)

theorem entriesWithin_iff (entries others : Entries Value) :
    entriesWithin entries others = true ↔ ∀ entry ∈ entries,
      ∃ other, others.find? entry.1 = some other ∧ entry.2.strictEq other = true := by
  induction entries with
  | nil => simp [entriesWithin]
  | cons entry rest ih =>
      rw [entriesWithin, Bool.and_eq_true, ih, List.forall_mem_cons]
      refine and_congr_left fun _ => ?_
      rcases others.find? entry.1 with _ | other <;> simp

section Entries

variable {entries others : Entries Value} (distinct : entries.keys.Nodup)
  (distinctOthers : others.keys.Nodup) (sameLength : entries.length = others.length)
  (comm : ∀ entry ∈ entries, ∀ other ∈ others,
    entry.2.strictEq other.2 = other.2.strictEq entry.2)
include distinct distinctOthers sameLength comm

/-- Entries that all have their equals among as many others are the equals of all others. -/
theorem entriesWithin_symm (within : entriesWithin entries others = true) :
    entriesWithin others entries = true := by
  rw [entriesWithin_iff] at within ⊢
  -- There are as many keys on both sides and none occurs twice, so all keys are on both sides.
  have subset : entries.keys ⊆ others.keys := by
    intro key member
    rcases List.mem_map.mp member with ⟨entry, present, rfl⟩
    rcases within entry present with ⟨other, found, _⟩
    have member := Entries.mem_keys_of_mem (Entries.mem_of_find? found)
    exact member
  have keys : entries.keys.Perm others.keys := by
    refine (List.subperm_of_subset distinct subset).perm_of_length_le ?_
    simp [Entries.keys, sameLength]
  rintro ⟨key, other⟩ present
  rcases List.mem_map.mp (keys.mem_iff.mpr (Entries.mem_keys_of_mem present)) with
    ⟨⟨_, value⟩, member, rfl⟩
  rcases within _ member with ⟨found, here, equal⟩
  obtain rfl : other = found :=
    Option.some.inj (((Entries.find?_eq_some_iff distinctOthers).mpr present).symm.trans here)
  refine ⟨value, (Entries.find?_eq_some_iff distinct).mpr member, ?_⟩
  rw [← equal]
  exact (comm _ member _ present).symm

end Entries

theorem entriesWithin_comm {entries others : Entries Value} (distinct : entries.keys.Nodup)
    (distinctOthers : others.keys.Nodup) (sameLength : entries.length = others.length)
    (comm : ∀ entry ∈ entries, ∀ other ∈ others,
      entry.2.strictEq other.2 = other.2.strictEq entry.2) :
    entriesWithin entries others = entriesWithin others entries := by
  have back : ∀ other ∈ others, ∀ entry ∈ entries,
      other.2.strictEq entry.2 = entry.2.strictEq other.2 :=
    fun other otherMember entry member => (comm entry member other otherMember).symm
  exact Bool.eq_iff_iff.mpr ⟨entriesWithin_symm distinct distinctOthers sameLength comm,
    entriesWithin_symm distinctOthers distinct sameLength.symm back⟩

theorem strictEq_comm {a b : Value} (distinct : a.DistinctKeys) (distinctOther : b.DistinctKeys) :
    a.strictEq b = b.strictEq a := by
  induction a using nestedInduction generalizing b with
  | simple a simple =>
      cases a with
      | number x =>
          cases b with
          | number y => exact floatBeq_comm x y
          | _ => rfl
      | array items => cases simple
      | object entries => cases simple
      | _ => cases b <;> simp [strictEq, Bool.beq_comm]
  | array items ih =>
      cases b with
      | array others =>
          rw [distinctKeys_array] at distinct distinctOther
          rw [strictEq, strictEq]
          refine itemsEq_comm ?_
          intro item member other otherMember
          exact ih item member (distinct item member) (distinctOther other otherMember)
      | _ => rfl
  | object entries ih =>
      cases b with
      | object others =>
          rw [distinctKeys_object] at distinct distinctOther
          rw [strictEq, strictEq]
          rcases eq_or_ne entries.length others.length with same | differs
          · rw [same, entriesWithin_comm distinct.1 distinctOther.1 same]
            intro entry member other otherMember
            exact ih entry member (distinct.2 entry member) (distinctOther.2 other otherMember)
          · rw [beq_false_of_ne differs, beq_false_of_ne differs.symm, Bool.false_and,
              Bool.false_and]
      | _ => rfl

/-- A value without parts as a number or a text; compound values as their text. -/
def simplified : Value → Float ⊕ String
  | string s => .inr s
  | array items => .inr (array items).text
  | object entries => .inr (object entries).text
  | value => .inl value.toNumber

/-- Equality of numbers and texts. A text that meets a number is read as one. -/
def simpleEq : Float ⊕ String → Float ⊕ String → Bool
  | .inl a, .inl b => a == b
  | .inr a, .inr b => a == b
  | .inl a, .inr b => a == Number.ofText b
  | .inr a, .inl b => Number.ofText a == b

theorem simpleEq_comm (a b : Float ⊕ String) : simpleEq a b = simpleEq b a := by
  rcases a with x | s <;> rcases b with y | t
  · exact floatBeq_comm x y
  · exact floatBeq_comm x _
  · exact floatBeq_comm _ y
  · exact Bool.beq_comm

/-- Two truth values are equal if the numbers they stand for are. -/
theorem ofBoolean_beq (p q : Bool) : (ofBoolean p == ofBoolean q) = (p == q) := by
  cases p <;> cases q <;> decide +kernel

/-- The coercions of loose equality, one operand at a time, lead both operands to numbers or texts,
unless they are absences or both have parts. -/
theorem looseEq_eq (a b : Value) : a.looseEq b =
    if a.isNullish || b.isNullish then a.isNullish && b.isNullish
    else if a.isCompound && b.isCompound then strictEq a b
    else simpleEq a.simplified b.simplified := by
  fun_induction looseEq a b with
  | case17 a b present =>
      -- All that the other arms leave over are absences.
      cases a <;> cases b <;> simp_all [isNullish]
  | _ => simp_all [isNullish, isCompound, simplified, simpleEq, toNumber, ofBoolean_beq]

theorem looseEq_comm {a b : Value} (distinct : a.DistinctKeys) (distinctOther : b.DistinctKeys) :
    a.looseEq b = b.looseEq a := by
  rw [looseEq_eq, looseEq_eq, Bool.or_comm, Bool.and_comm, Bool.and_comm (isCompound a),
    strictEq_comm distinct distinctOther, simpleEq_comm]

theorem looseEq_of_strictEq {a b : Value} (equal : a.strictEq b = true) : a.looseEq b = true := by
  rw [looseEq_eq]
  cases a with
  | undefined => cases b <;> first | rfl | cases equal
  | null => cases b <;> first | rfl | cases equal
  | bool p =>
      cases b with
      | bool q =>
          obtain rfl := beq_iff_eq.mp equal
          cases p <;> rfl
      | _ => cases equal
  | number x =>
      cases b with
      | number y => exact equal
      | _ => cases equal
  | string s =>
      cases b with
      | string t => exact equal
      | _ => cases equal
  | array items =>
      cases b with
      | array others => exact equal
      | _ => cases equal
  | object entries =>
      cases b with
      | object others => exact equal
      | _ => cases equal

theorem compare?_numbers {a b : Value} (noTexts : a.string? = none ∨ b.string? = none) :
    a.compare? b = compareNumbers a.toNumber b.toNumber := by
  cases a with
  | string s =>
      cases b with
      | string t => rcases noTexts with none | none <;> cases none
      | _ => rfl
  | _ => rfl

theorem eq_string_of_string? {value : Value} (text : value.string? ≠ none) :
    ∃ s, value = string s := by
  cases value with
  | string s => exact ⟨s, rfl⟩
  | _ => exact absurd rfl text

/-- Exchanging two values reverses their order, and keeps it if there is none. -/
theorem compare?_swap (a b : Value) : b.compare? a = (a.compare? b).map Ordering.swap := by
  by_cases noTexts : a.string? = none ∨ b.string? = none
  · rw [compare?_numbers noTexts, compare?_numbers noTexts.symm, compareNumbers_swap]
  · rw [not_or] at noTexts
    rcases eq_string_of_string? noTexts.1 with ⟨s, rfl⟩
    rcases eq_string_of_string? noTexts.2 with ⟨t, rfl⟩
    exact congrArg some Std.OrientedCmp.eq_swap

end Value

/-- The operators that compare, each with the one that says the same of exchanged operands. -/
def BinaryOp.mirrored : List (BinaryOp × BinaryOp) :=
  [(less, greater), (greater, less), (lessOrEqual, greaterOrEqual), (greaterOrEqual, lessOrEqual),
    (equal, equal), (notEqual, notEqual), (strictEqual, strictEqual),
    (strictNotEqual, strictNotEqual)]

namespace BinaryOp

theorem ordered_swap {wanted other : Ordering → Bool}
    (mirror : ∀ order : Ordering, wanted order = other order.swap) (a b : Value) :
    ordered wanted a b = ordered other b a := by
  rw [ordered, ordered, a.compare?_swap b, Option.any_map]
  congr 2
  funext order
  exact mirror order

/-- An operator that compares gives what its counterpart gives for exchanged operands. -/
theorem value?_mirrored {pair : BinaryOp × BinaryOp} (member : pair ∈ mirrored) {a b : Value}
    (distinct : a.DistinctKeys) (distinctOther : b.DistinctKeys) :
    ∃ result, pair.1.value? a b = some result ∧ pair.2.value? b a = some result := by
  have loose := Value.looseEq_comm distinct distinctOther
  have strict := Value.strictEq_comm distinct distinctOther
  simp only [mirrored, List.mem_cons, List.not_mem_nil, or_false] at member
  rcases member with rfl | rfl | rfl | rfl | rfl | rfl | rfl | rfl
  · exact ⟨_, rfl, congrArg some (ordered_swap (by decide) b a)⟩
  · exact ⟨_, rfl, congrArg some (ordered_swap (by decide) b a)⟩
  · exact ⟨_, rfl, congrArg some (ordered_swap (by decide) b a)⟩
  · exact ⟨_, rfl, congrArg some (ordered_swap (by decide) b a)⟩
  · exact ⟨_, rfl, by rw [value?, loose]⟩
  · exact ⟨_, rfl, by rw [value?, loose]⟩
  · exact ⟨_, rfl, by rw [value?, strict]⟩
  · exact ⟨_, rfl, by rw [value?, strict]⟩

theorem settled?_mirrored {pair : BinaryOp × BinaryOp} (member : pair ∈ mirrored) (value : Value) :
    pair.1.settled? value = none ∧ pair.2.settled? value = none := by
  simp only [mirrored, List.mem_cons, List.not_mem_nil, or_false] at member
  rcases member with rfl | rfl | rfl | rfl | rfl | rfl | rfl | rfl <;> exact ⟨rfl, rfl⟩

end BinaryOp

open Render

theorem evaluate_binary {input : RenderInput} {state between final : RenderState} {op : BinaryOp}
    {left right : Expr} {a b result : Value} (extent : Extent)
    (first : (evaluate input left).exec state = (.ok a, between))
    (second : (evaluate input right).exec between = (.ok b, final))
    (unsettled : op.settled? a = none) (applied : op.value? a b = some result) :
    (evaluate input (.binary extent op left right)).exec state = (.ok result, final) := by
  rw [evaluate, exec_bind_ok first, unsettled]
  change ((evaluate input right >>= fun second => applyBinary input extent.span op _ a second).exec
    between) = _
  rw [exec_bind_ok second, applyBinary, applied]
  rfl

/-- Exchanging two values changes neither equality and reverses their order, and what is strictly
equal is loosely equal. In templates, a comparison of two operands gives what its counterpart gives
for the exchanged operands, whatever the operands record while they are evaluated. -/
theorem Value.comparison_symmetric (a b : Value) (distinct : a.DistinctKeys)
    (distinctOther : b.DistinctKeys) :
    a.looseEq b = b.looseEq a ∧ a.strictEq b = b.strictEq a ∧
      (a.strictEq b = true → a.looseEq b = true) ∧
      b.compare? a = (a.compare? b).map Ordering.swap ∧
      (a.compare? b = none ↔ b.compare? a = none) ∧
      ∀ pair ∈ BinaryOp.mirrored, ∀ (input : RenderInput)
        (state between final otherBetween otherFinal : RenderState)
        (left right : Expr) (extent otherExtent : Extent),
        (evaluate input left).exec state = (.ok a, between) →
        (evaluate input right).exec between = (.ok b, final) →
        (evaluate input right).exec state = (.ok b, otherBetween) →
        (evaluate input left).exec otherBetween = (.ok a, otherFinal) →
        ∃ result,
          (evaluate input (.binary extent pair.1 left right)).exec state = (.ok result, final) ∧
          (evaluate input (.binary otherExtent pair.2 right left)).exec state =
            (.ok result, otherFinal) := by
  have swapped := a.compare?_swap b
  refine ⟨looseEq_comm distinct distinctOther, strictEq_comm distinct distinctOther,
    looseEq_of_strictEq, swapped, ?_, ?_⟩
  · rw [swapped, Option.map_eq_none_iff]
  · intro pair member input state between final otherBetween otherFinal left right extent
      otherExtent first second otherFirst otherSecond
    rcases BinaryOp.settled?_mirrored member a with ⟨unsettled, _⟩
    rcases BinaryOp.settled?_mirrored member b with ⟨_, unsettledOther⟩
    rcases BinaryOp.value?_mirrored member distinct distinctOther with
      ⟨result, applied, appliedOther⟩
    exact ⟨result, evaluate_binary extent first second unsettled applied,
      evaluate_binary otherExtent otherFirst otherSecond unsettledOther appliedOther⟩

/-- Two objects with the same nested entries in different orders, and `1 < '2'` in a template, which
is `'2' > 1`. -/
theorem Value.comparison_symmetric_objects :
    let a := object [("x", number 1.0), ("y", array [string "2", null])]
    let b := object [("y", array [string "2", null]), ("x", number 1.0)]
    let input : RenderInput := ⟨.object [], Registry.empty, {}⟩
    let extent : Extent := ⟨Span.empty, none⟩
    let one : Expr := .literal extent (.number 1.0)
    let two : Expr := .literal extent (.string "2")
    (a.strictEq b = true ∧ b.strictEq a = true ∧ a.looseEq b = true ∧ a.compare? b = none ∧
        b.compare? a = none) ∧
      ∃ result,
        (evaluate input (.binary extent .less one two)).exec {} = (.ok result, {}) ∧
        (evaluate input (.binary extent .greater two one)).exec {} = (.ok result, {}) := by
  intro a b input extent one two
  have distinct : a.DistinctKeys := by simp [a, DistinctKeys, DistinctKeysAll, DistinctKeysEntries]
  have distinctOther : b.DistinctKeys := by
    simp [b, DistinctKeys, DistinctKeysAll, DistinctKeysEntries]
  have equal : a.strictEq b = true := rfl
  have unordered : a.compare? b = none := by decide +kernel
  rcases comparison_symmetric a b distinct distinctOther with
    ⟨_, strict, loose, _, unorderedIff, _⟩
  rcases comparison_symmetric (number 1.0) (string "2") trivial trivial with ⟨_, _, _, _, _, mirror⟩
  exact ⟨⟨equal, strict.symm.trans equal, loose equal, unordered, unorderedIff.mp unordered⟩,
    mirror (.less, .greater) (by decide) input {} {} {} {} {} one two extent extent rfl rfl rfl rfl⟩

end Stencil
