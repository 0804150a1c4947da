import Mathlib
import Stencil.Library.Texts
import Stencil.Proofs.Text.Occurrences
/-!
# Splitting and joining

Splitting looks for the separator from the left and goes on behind the end of what it found, so the
places of a separator settle where a text is cut, even where separators would overlap. The pieces
are the parts of the text between these places, and joining puts the separators back.
-/

namespace Stencil

namespace Text

variable {separator text : List Char} {start index : Nat}

/-- The places where a separator is found in a text from `start` on: each is the first one that
does not overlap the one before it. -/
inductive FoundFrom (separator text : List Char) : Nat → List Nat → Prop
  | nowhere {start : Nat} (absent : StandsNowhere separator text start) :
      FoundFrom separator text start []
  | next {start index : Nat} {places : List Nat}
      (first : StandsFirst separator text start index)
      (behind : FoundFrom separator text (index + separator.length) places) :
      FoundFrom separator text start (index :: places)

/-- The parts of a text from `start` on that are left by cutting out `width` characters at each of
some places. -/
def cutAt (text : List Char) (width start : Nat) : List Nat → List (List Char)
  | [] => [text.drop start]
  | place :: places => text.extract start place :: cutAt text width (place + width) places

theorem length_cutAt (text : List Char) (width start : Nat) (places : List Nat) :
    (cutAt text width start places).length = places.length + 1 := by
  induction places generalizing start with
  | nil => rfl
  | cons place places ih => rw [cutAt, List.length_cons, ih, List.length_cons]

theorem cutAt_ne_nil (text : List Char) (width start : Nat) (places : List Nat) :
    cutAt text width start places ≠ [] := by
  rw [← List.length_pos_iff, length_cutAt]
  exact Nat.succ_pos _

namespace FoundFrom

theorem unique {places others : List Nat} (one : FoundFrom separator text start places)
    (other : FoundFrom separator text start others) : places = others := by
  induction one generalizing others with
  | nowhere absent =>
      cases other with
      | nowhere => rfl
      | next first => exact absurd absent first.not_nowhere
  | next first behind ih =>
      cases other with
      | nowhere absent => exact absurd absent first.not_nowhere
      | next second others =>
          obtain rfl := first.index_eq second
          rw [ih others]

end FoundFrom

theorem exists_foundFrom (nonempty : separator ≠ []) (inside : start ≤ text.length) :
    ∃ places, FoundFrom separator text start places := by
  induction remaining : text.length - start using Nat.strong_induction_on generalizing start with
  | _ remaining ih =>
      cases search : firstOccurrence? separator (text.drop start) with
      | none => exact ⟨[], .nowhere (firstOccurrence?_drop_eq_none nonempty search)⟩
      | some distance =>
          have first := firstOccurrence?_drop_eq_some search
          have end_ := first.stands.le_length nonempty
          have wide := List.length_pos_iff.mpr nonempty
          rcases ih _ (by omega) end_ rfl with ⟨places, behind⟩
          exact ⟨_, .next first behind⟩

/-! ## The loop -/

theorem splitLoop_skip (skip : Nat) (pieces : List (List Char)) (piece text : List Char) :
    splitLoop separator skip pieces piece text =
      splitLoop separator 0 pieces piece (text.drop skip) := by
  induction text generalizing skip with
  | nil => cases skip <;> rfl
  | cons c rest ih =>
      cases skip with
      | zero => rfl
      | succ skip => rw [splitLoop, ih, List.drop_succ_cons]

theorem splitLoop_pieces (skip : Nat) (pieces : List (List Char)) (piece text : List Char) :
    splitLoop separator skip pieces piece text =
      pieces.reverse ++ splitLoop separator skip [] piece text := by
  induction text generalizing skip pieces piece with
  | nil => cases skip <;> simp [splitLoop]
  | cons c rest ih =>
      cases skip with
      | succ skip => exact ih skip pieces piece
      | zero =>
          rw [splitLoop, splitLoop]
          split
          · rw [ih, ih _ [piece.reverse]]
            simp
          · exact ih 0 pieces (c :: piece)

/-- What is read before the first separator is part of the current piece. -/
theorem splitLoop_before {distance : Nat} (piece : List Char)
    (before : ∀ earlier < distance, ¬StandsAt separator text earlier)
    (inside : distance ≤ text.length) :
    splitLoop separator 0 [] piece text =
      splitLoop separator 0 [] ((text.take distance).reverse ++ piece) (text.drop distance) := by
  induction distance generalizing text piece with
  | zero => rfl
  | succ distance ih =>
      cases text with
      | nil => cases inside
      | cons c rest =>
          have notHere : ¬separator.isPrefixOf (c :: rest) = true := fun here =>
            before 0 (Nat.succ_pos _) (List.isPrefixOf_iff_prefix.mp here)
          have later : ∀ earlier < distance, ¬StandsAt separator rest earlier :=
            fun earlier ahead => before (earlier + 1) (Nat.succ_lt_succ ahead)
          rw [splitLoop, if_neg notHere, ih (c :: piece) later (Nat.le_of_succ_le_succ inside)]
          simp

theorem splitOn_of_first {distance : Nat} (nonempty : separator ≠ [])
    (stands : StandsAt separator text distance)
    (before : ∀ earlier < distance, ¬StandsAt separator text earlier) :
    splitOn separator text =
      text.take distance :: splitOn separator (text.drop (distance + separator.length)) := by
  have inside := stands.le_length nonempty
  have wide := List.length_pos_iff.mpr nonempty
  rw [splitOn, splitLoop_before [] before (by omega), List.append_nil]
  cases rest : text.drop distance with
  | nil =>
      have none := congrArg List.length rest
      rw [List.length_drop, List.length_nil] at none
      omega
  | cons c tail =>
      have here : separator.isPrefixOf (c :: tail) = true := by
        rw [List.isPrefixOf_iff_prefix, ← rest]
        exact stands
      have behind : tail.drop (separator.length - 1) = text.drop (distance + separator.length) := by
        rw [← List.drop_drop, rest, ← Nat.sub_add_cancel wide, List.drop_succ_cons,
          Nat.add_sub_cancel]
      rw [splitLoop, if_pos here, splitLoop_skip, splitLoop_pieces, behind, List.reverse_reverse]
      rfl

theorem splitOn_of_nowhere (absent : ∀ index, ¬StandsAt separator text index) :
    splitOn separator text = [text] := by
  rw [splitOn, splitLoop_before [] (fun earlier _ => absent earlier) le_rfl]
  simp [splitLoop]

/-- Splitting a text cuts it at the places where the separator is found. -/
theorem splitOn_of_found {places : List Nat} (nonempty : separator ≠ [])
    (found : FoundFrom separator text start places) :
    splitOn separator (text.drop start) = cutAt text separator.length start places := by
  induction found with
  | nowhere absent =>
      refine splitOn_of_nowhere fun distance stands => ?_
      exact absent _ (Nat.le_add_right _ _) (standsAt_drop.mp stands)
  | @next start index places first behind ih =>
      have distance : start + (index - start) = index := Nat.add_sub_cancel' first.after
      have stands : StandsAt separator (text.drop start) (index - start) := by
        rw [standsAt_drop, distance]
        exact first.stands
      have before : ∀ earlier < index - start, ¬StandsAt separator (text.drop start) earlier := by
        intro earlier ahead here
        exact first.first _ (Nat.le_add_right _ _) (by omega) (standsAt_drop.mp here)
      rw [cutAt, ← ih, splitOn_of_first nonempty stands before, List.drop_drop, ← Nat.add_assoc,
        distance]

/-! ## The pieces -/

/-- The separators are what the pieces lack of the text. -/
theorem intercalate_cutAt {places : List Nat} (found : FoundFrom separator text start places) :
    separator.intercalate (cutAt text separator.length start places) = text.drop start := by
  induction found with
  | nowhere absent => exact List.intercalate_singleton
  | @next start index places first behind ih =>
      have cut : text.extract start index ++ text.drop index = text.drop start := by
        have distance : start + (index - start) = index := Nat.add_sub_cancel' first.after
        rw [List.extract_eq_take_drop, ← distance, ← List.drop_drop, distance,
          List.take_append_drop]
      have here : separator ++ text.drop (index + separator.length) = text.drop index := by
        rw [← List.drop_drop]
        exact (List.prefix_append_drop first.stands).symm
      rw [cutAt, List.intercalate_cons_of_ne_nil (cutAt_ne_nil _ _ _ _), ih, List.append_assoc,
        here, cut]

/-- What occurs in a part of a text stands in the text inside of that part. -/
theorem exists_standsAt_of_infix (nonempty : separator ≠ []) {stop : Nat}
    (inside : separator <:+: text.extract start stop) :
    ∃ place, start ≤ place ∧ place + separator.length ≤ stop ∧ StandsAt separator text place := by
  rcases inside with ⟨before, behind, whole⟩
  rw [List.extract_eq_take_drop] at whole
  have wide := List.length_pos_iff.mpr nonempty
  have length := congrArg List.length whole
  rw [List.length_append, List.length_append, List.length_take] at length
  refine ⟨start + before.length, Nat.le_add_right _ _, by omega, ?_⟩
  rw [← standsAt_drop, StandsAt]
  have prefixed : before ++ separator <+: text.drop start := by
    refine List.IsPrefix.trans ⟨behind, whole⟩ (List.take_prefix _ _)
  rcases prefixed with ⟨rest, same⟩
  rw [← same, List.append_assoc, List.drop_left]
  exact List.prefix_append _ _

theorem not_infix_of_mem_cutAt (nonempty : separator ≠ []) {places : List Nat}
    (found : FoundFrom separator text start places) {piece : List Char}
    (member : piece ∈ cutAt text separator.length start places) : ¬separator <:+: piece := by
  induction found with
  | @nowhere start absent =>
      have whole : text.drop start = text.extract start text.length := by
        rw [List.extract_eq_take_drop, List.take_of_length_le (by simp)]
      rw [cutAt, List.mem_singleton, whole] at member
      rintro inside
      rcases exists_standsAt_of_infix nonempty (member ▸ inside) with ⟨place, after, _, stands⟩
      exact absent place after stands
  | @next start index places first behind ih =>
      rw [cutAt, List.mem_cons] at member
      rcases member with rfl | later
      · intro inside
        rcases exists_standsAt_of_infix nonempty inside with ⟨place, after, before, stands⟩
        have wide := List.length_pos_iff.mpr nonempty
        exact first.first place after (by omega) stands
      · exact ih later

end Text

namespace Texts

open Text

/-- The separator that arguments name: the text of the first one, or a comma if it is absent. -/
inductive Separates : Arguments → String → Prop
  | named {arg : Value} {others : Arguments} (present : arg.isNullish = false) :
      Separates (arg :: others) arg.text
  | absent {arg : Value} {others : Arguments} (absence : arg.isNullish = true) :
      Separates (arg :: others) ","
  | omitted : Separates [] ","

theorem Separates.textOr_eq {args : Arguments} {separator : String}
    (separates : Separates args separator) : args.textOr 0 "," = separator := by
  cases separates with
  | named present => simp [Arguments.textOr, Arguments.given, Arguments.get, present]
  | absent absence => simp [Arguments.textOr, Arguments.given, Arguments.get, absence]
  | omitted => rfl

section Pieces

variable {args : Arguments} {separator : String} (separates : Separates args separator)
include separates

theorem split_of_empty (value : Value) (empty : separator = "") :
    split value args = .ok (.array ((value.text.toList.map String.singleton).map .string)) := by
  rw [split, Body.total, separates.textOr_eq, empty, List.map_map]
  rfl

theorem split_of_nonempty (value : Value) (nonempty : separator ≠ "") :
    split value args = .ok (.array (((splitOn separator.toList value.text.toList).map
      String.ofList).map .string)) := by
  have some : separator.toList.isEmpty = false := by simpa using nonempty
  rw [split, Body.total, separates.textOr_eq, List.map_map]
  simp only [some, Bool.false_eq_true, if_false]
  rfl

theorem join_strings (pieces : List String) :
    Sequence.join (.array (pieces.map .string)) args =
      .ok (.string (separator.intercalate pieces)) := by
  have texts : (pieces.map Value.string).map Value.text = pieces := by
    rw [List.map_map]
    exact List.map_id pieces
  change Except.ok (Value.string ((args.textOr 0 ",").intercalate _)) = _
  rw [separates.textOr_eq, texts]

end Pieces

theorem intercalate_pieces {separator : String} {s : String} {places : List Nat}
    (found : FoundFrom separator.toList s.toList 0 places) :
    separator.intercalate
      ((cutAt s.toList separator.toList.length 0 places).map String.ofList) = s := by
  apply String.toList_injective
  rw [String.toList_intercalate, List.map_map]
  have texts : String.toList ∘ String.ofList = id := funext fun _ => String.toList_ofList
  rw [texts, List.map_id, intercalate_cutAt found, List.drop_zero]

theorem intercalate_nil {α : Type} (parts : List (List α)) :
    List.intercalate [] parts = parts.flatten := by
  induction parts with
  | nil => rfl
  | cons part rest ih =>
      cases rest with
      | nil => simp
      | cons next others =>
          rw [List.intercalate_cons_cons, ih, List.append_nil]
          rfl

theorem intercalate_characters (s : String) :
    "".intercalate (s.toList.map String.singleton) = s := by
  apply String.toList_injective
  rw [String.toList_intercalate, List.map_map, String.toList_empty, intercalate_nil,
    ← List.flatMap_def]
  simp [Function.comp_def]

/-- Joining the pieces of a text with the separator that it was split at gives the text back. No
piece contains the separator unless it is empty, and there is one piece more than there are places
where the separator is found from the left without overlaps; an empty separator gives the
characters. -/
theorem join_undoes_split (value : Value) {args : Arguments} {separator : String}
    (separates : Separates args separator) :
    ∃ pieces : List String,
      split value args = .ok (.array (pieces.map .string)) ∧
      Sequence.join (.array (pieces.map .string)) args = .ok (.string value.text) ∧
      (separator = "" → pieces = value.text.toList.map String.singleton) ∧
      (separator ≠ "" → (∀ piece ∈ pieces, ¬separator.toList <:+: piece.toList) ∧
        ∃! places, FoundFrom separator.toList value.text.toList 0 places ∧
          pieces.length = places.length + 1) := by
  rcases eq_or_ne separator "" with empty | nonempty
  · refine ⟨value.text.toList.map String.singleton, split_of_empty separates value empty, ?_,
      fun _ => rfl, fun some => absurd empty some⟩
    rw [join_strings separates, empty, intercalate_characters]
  · have some : separator.toList ≠ [] := by simpa using nonempty
    rcases exists_foundFrom some (Nat.zero_le value.text.toList.length) with ⟨places, found⟩
    have cut := splitOn_of_found some found
    rw [List.drop_zero] at cut
    refine ⟨_, split_of_nonempty separates value nonempty, ?_, fun empty => absurd empty nonempty,
      fun _ => ⟨?_, places, ⟨found, ?_⟩, fun others other => other.1.unique found⟩⟩
    · rw [join_strings separates, cut, intercalate_pieces found]
    · intro piece member
      rcases List.mem_map.mp member with ⟨part, inside, rfl⟩
      rw [String.toList_ofList]
      exact not_infix_of_mem_cutAt some found (cut ▸ inside)
    · rw [List.length_map, cut, length_cutAt]

/-- A separator that overlaps itself, with the empty pieces that it leaves, and the comma that is
not given. -/
theorem join_undoes_split_overlapping :
    split (.string "aaaéaa") [.string "aa"] =
        .ok (.array [.string "", .string "aé", .string ""]) ∧
      Sequence.join (.array [.string "", .string "aé", .string ""]) [.string "aa"] =
        .ok (.string "aaaéaa") ∧
      (∃! places, FoundFrom ['a', 'a'] ['a', 'a', 'a', 'é', 'a', 'a'] 0 places ∧
        3 = places.length + 1) ∧
      ∃ pieces : List String, split (.string ",x,") [] = .ok (.array (pieces.map .string)) ∧
        Sequence.join (.array (pieces.map .string)) [] = .ok (.string ",x,") := by
  rcases join_undoes_split (.string "aaaéaa") (.named rfl : Separates [.string "aa"] "aa") with
    ⟨pieces, result, joined, _, found⟩
  have made : split (.string "aaaéaa") [.string "aa"] =
      .ok (.array (["", "aé", ""].map .string)) := rfl
  obtain rfl : pieces = ["", "aé", ""] := by
    have same := Value.array.inj (Except.ok.inj (result.symm.trans made))
    exact List.map_injective_iff.mpr (fun _ _ => Value.string.inj) same
  rcases join_undoes_split (.string ",x,") .omitted with ⟨parts, cut, rejoined, _⟩
  exact ⟨made, joined, (found (by decide)).2, parts, cut, rejoined⟩

end Texts

end Stencil
