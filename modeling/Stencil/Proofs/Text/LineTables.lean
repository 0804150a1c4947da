import Mathlib
import Stencil.Position
/-!
# Line tables

A line table is searched for the last line that begins at or before an offset, and the characters
from there to the offset are counted. Wherever a text can be cut this gives the place to which
walking over the text leads: the lines that begin up to there are the same whatever follows, and one
more character either begins a line or makes the last one longer.
-/

namespace Stencil

namespace LineTable

open Text

variable {front behind text : List Char} {offset lineStart : Nat}

theorem startsFrom_append (offset : Nat) (front behind : List Char) :
    startsFrom offset (front ++ behind) =
      startsFrom offset front ++ startsFrom (offset + byteLength front) behind := by
  induction front generalizing offset with
  | nil => rfl
  | cons c rest ih =>
      rw [List.cons_append, startsFrom, startsFrom, byteLength_cons, ← Nat.add_assoc, ih]
      split
      · rfl
      · rfl

theorem lt_of_mem_startsFrom (member : lineStart ∈ startsFrom offset text) : offset < lineStart := by
  induction text generalizing offset with
  | nil => cases member
  | cons c rest ih =>
      have grows := c.utf8Size_pos
      rw [startsFrom] at member
      split at member
      · rcases List.mem_cons.mp member with rfl | later
        · omega
        · have behind := ih later
          omega
      · have behind := ih member
        omega

theorem le_of_mem_startsFrom (member : lineStart ∈ startsFrom offset text) :
    lineStart ≤ offset + byteLength text := by
  induction text generalizing offset with
  | nil => cases member
  | cons c rest ih =>
      rw [byteLength_cons, ← Nat.add_assoc]
      rw [startsFrom] at member
      split at member
      · rcases List.mem_cons.mp member with rfl | later
        · exact Nat.le_add_right _ _
        · exact ih later
      · exact ih member

/-- That the lines of a table are divided at an offset into those that have begun and the later
ones. -/
structure Divides (table : LineTable) (offset : Nat) (begun later : List Nat) : Prop where
  lineStarts : table.lineStarts.toList = begun ++ later
  begun : ∀ lineStart ∈ begun, lineStart ≤ offset
  later : ∀ lineStart ∈ later, offset < lineStart

section Search

variable {table : LineTable} {begun later : List Nat} (divides : table.Divides offset begun later)

include divides

theorem Divides.le_iff {line : Nat} (here : table.lineStarts[line]? = some lineStart) :
    lineStart ≤ offset ↔ line < begun.length := by
  rw [← Array.getElem?_toList, divides.lineStarts] at here
  rcases Nat.lt_or_ge line begun.length with before | after
  · rw [List.getElem?_append_left before] at here
    exact iff_of_true (divides.begun _ (List.mem_of_getElem? here)) before
  · rw [List.getElem?_append_right after] at here
    exact iff_of_false (Nat.not_le.mpr (divides.later _ (List.mem_of_getElem? here)))
      (Nat.not_lt.mpr after)

/-- The search stays inside of the table and ends at the number of lines that have begun. -/
theorem Divides.linesUpTo? {low high : Nat} (atLeast : low ≤ begun.length)
    (atMost : begun.length ≤ high) (inside : high ≤ table.lineStarts.size) :
    table.linesUpTo? offset low high = some begun.length := by
  fun_induction table.linesUpTo? offset low high with
  | case1 low high apart middle outside =>
      have none := Array.getElem?_eq_none_iff.mp outside
      omega
  | case2 low high apart middle lineStart here passed ih =>
      have before := (divides.le_iff here).mp passed
      exact ih before atMost inside
  | case3 low high apart middle lineStart here ahead ih =>
      have after := (divides.le_iff here).not.mp ahead
      have within : middle ≤ table.lineStarts.size := by omega
      exact ih atLeast (Nat.not_lt.mp after) within
  | case4 low high met =>
      have same : low = begun.length := by omega
      rw [same]

/-- The last line that has begun is found. -/
theorem Divides.lineAt? (last : begun.getLast? = some lineStart) :
    table.lineAt? offset = some (begun.length - 1, lineStart) := by
  obtain ⟨earlier, whole⟩ := List.getLast?_eq_some_iff.mp last
  have size : table.lineStarts.size = begun.length + later.length := by
    rw [← Array.length_toList, divides.lineStarts, List.length_append]
  have counted := divides.linesUpTo? (Nat.zero_le _) (size ▸ Nat.le_add_right _ _) (Nat.le_refl _)
  have here : table.lineStarts[earlier.length]? = some lineStart := by
    rw [← Array.getElem?_toList, divides.lineStarts, whole, List.append_assoc]
    simp
  rw [whole, List.length_append] at counted ⊢
  simp [LineTable.lineAt?, counted, here]

end Search

theorem pairwise_startsFrom (offset : Nat) (text : List Char) :
    (startsFrom offset text).Pairwise (· < ·) := by
  induction text generalizing offset with
  | nil => exact .nil
  | cons c rest ih =>
      rw [startsFrom]
      split
      · exact .cons (fun _ later => lt_of_mem_startsFrom later) (ih _)
      · exact ih _

theorem exists_append_of_pairwise {starts : List Nat} (sorted : starts.Pairwise (· < ·))
    (offset : Nat) : ∃ begun later, starts = begun ++ later ∧
      (∀ lineStart ∈ begun, lineStart ≤ offset) ∧ ∀ lineStart ∈ later, offset < lineStart := by
  induction sorted with
  | nil => exact ⟨[], [], rfl, List.forall_mem_nil _, List.forall_mem_nil _⟩
  | @cons first rest ahead _ ih =>
      by_cases passed : first ≤ offset
      · obtain ⟨begun, later, rfl, upTo, behind⟩ := ih
        exact ⟨first :: begun, later, rfl, List.forall_mem_cons.mpr ⟨passed, upTo⟩, behind⟩
      · have none := Nat.not_le.mp passed
        refine ⟨[], first :: rest, rfl, List.forall_mem_nil _, ?_⟩
        exact List.forall_mem_cons.mpr ⟨none, fun _ later => Nat.lt_trans none (ahead _ later)⟩

/-- The first line has begun at every offset, so the search always ends at a line of the table. -/
theorem exists_lineAt? (origin : Position) (text : List Char) (offset : Nat) :
    ∃ line lineStart, (ofText origin text).lineAt? offset = some (line, lineStart) := by
  obtain ⟨begun, later, whole, upTo, behind⟩ :=
    exists_append_of_pairwise (pairwise_startsFrom 0 text) offset
  have divides : (ofText origin text).Divides offset (0 :: begun) later := by
    refine ⟨?_, List.forall_mem_cons.mpr ⟨Nat.zero_le _, upTo⟩, behind⟩
    simp [ofText, whole]
  exact ⟨_, _, divides.lineAt? (List.getLast?_cons ..)⟩

/-- The lines of a text that have begun at an end of a part in front are those of that part. -/
theorem divides_ofText (origin : Position) (front behind : List Char) :
    (ofText origin (front ++ behind)).Divides (byteLength front) (0 :: startsFrom 0 front)
      (startsFrom (byteLength front) behind) where
  lineStarts := by simp [ofText, startsFrom_append]
  begun := by
    rw [List.forall_mem_cons]
    refine ⟨Nat.zero_le _, fun lineStart member => ?_⟩
    simpa using le_of_mem_startsFrom member
  later lineStart member := lt_of_mem_startsFrom member

/-- The last line of a text begins behind its line feeds, and its length makes the column. -/
theorem exists_lastLine (origin : Position) (text : List Char) : ∃ lines line : List Char,
    text = lines ++ line ∧
      (0 :: startsFrom 0 text).getLast? = some (byteLength lines) ∧
      origin.advanced text = if (startsFrom 0 text).length = 0
        then ⟨origin.line, origin.column + line.length⟩
        else ⟨origin.line + (startsFrom 0 text).length, line.length⟩ := by
  induction text using List.reverseRecOn with
  | nil => exact ⟨[], [], rfl, rfl, rfl⟩
  | append_singleton text c ih =>
      obtain ⟨lines, line, whole, last, place⟩ := ih
      rw [startsFrom_append, Position.advanced_append, place]
      by_cases feed : c = '\n'
      · refine ⟨text ++ [c], [], (List.append_nil _).symm, ?_, ?_⟩
        · simp [startsFrom, feed, byteLength_append, List.getLast?_cons]
        · split <;> simp_all [startsFrom, Position.advance, Nat.add_assoc]
      · refine ⟨lines, line ++ [c], ?_, ?_, ?_⟩
        · rw [whole, List.append_assoc]
        · simpa [startsFrom, feed] using last
        · split <;> simp_all [startsFrom, Position.advance, Nat.add_assoc]

/-- Wherever a text can be cut, its line table gives the place to which walking leads. -/
theorem positionAt?_ofText (origin : Position) (front behind : List Char) :
    (ofText origin (front ++ behind)).positionAt? (byteLength front) =
      some (origin.advanced front) := by
  obtain ⟨lines, line, whole, last, place⟩ := exists_lastLine origin front
  have found := (divides_ofText origin front behind).lineAt? last
  have passed : slice? (byteLength lines) (byteLength front) (front ++ behind) = some line := by
    rw [whole, List.append_assoc]
    exact slice?_byteLength lines line behind
  rw [positionAt?, found, place]
  simp only [Option.bind_eq_bind, Option.bind_some, List.length_cons, Nat.add_sub_cancel]
  change (slice? _ _ (front ++ behind)).bind _ = _
  rw [passed, Option.bind_some]
  split
  · rfl
  · rfl

example : (ofText ⟨3, 5⟩ "é\r\n ü".toList).positionAt? 7 = some ⟨4, 2⟩ := by decide +kernel

theorem positionAt_ofText (origin : Position) (front behind : List Char) :
    (ofText origin (front ++ behind)).positionAt (byteLength front) = origin.advanced front := by
  rw [positionAt, positionAt?_ofText, Option.getD_some]

/-- The region between two places at which a text can be cut. -/
theorem spanBetween_ofText (origin : Position) (front inside behind : List Char) :
    (ofText origin (front ++ inside ++ behind)).spanBetween (byteLength front)
        (byteLength (front ++ inside)) =
      ⟨origin.advanced front, origin.advanced (front ++ inside)⟩ := by
  have start := positionAt_ofText origin front (inside ++ behind)
  rw [← List.append_assoc] at start
  rw [spanBetween, start, positionAt_ofText]

end LineTable

end Stencil
