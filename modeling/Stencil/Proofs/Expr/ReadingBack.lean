import Stencil.Proofs.Expr.Primaries
/-!
# Expressions read back

What is written as the text of a tree is read as the same tree, if the nodes obey the table of
precedence and the levels that the tree nests are there. The proof follows the writing: each form is
read back because its parts are.
-/

namespace Stencil

open Text

namespace Expr.Parser

mutual

/-- Whatever expression is written, it is read back, if its nodes obey the table. -/
theorem readBack (source : Source) {expr : Expr} {written : List Char}
    (writes : Writes expr written) (placed : ∀ node ∈ expr.walk, node.WellPlaced) :
    ReadBack source expr written := by
  have here := placed expr expr.self_mem_walk
  cases writes with
  | string quoted => exact readBack_string quoted
  | number numeral => exact readBack_number numeral
  | trueName =>
      exact readBack_constant ⟨'t', ['r', 'u', 'e'], rfl, List.all_eq_true.mp rfl⟩ .trueName
        (.inl ⟨rfl, rfl⟩)
  | falseName =>
      exact readBack_constant ⟨'f', ['a', 'l', 's', 'e'], rfl, List.all_eq_true.mp rfl⟩ .falseName
        (.inr (.inl ⟨rfl, rfl⟩))
  | nullName =>
      exact readBack_constant ⟨'n', ['u', 'l', 'l'], rfl, List.all_eq_true.mp rfl⟩ .nullName
        (.inr (.inr ⟨rfl, rfl⟩))
  | access root steps =>
      rw [walk, List.forall_mem_cons] at placed
      exact readBack_access root steps (pathBack source steps placed.2)
  | filter first others =>
      rw [walk, List.forall_mem_cons, List.forall_mem_append] at placed
      exact readBack_filter first (readBack source first placed.2.1) others
        (filtersBack source others placed.2.2) here
  | call name items =>
      rw [walk, List.forall_mem_cons] at placed
      exact readBack_call name items (itemsBack source items placed.2)
  | binary before after left right =>
      rw [walk, List.forall_mem_cons, List.forall_mem_append] at placed
      exact readBack_binary before after (readBack source left placed.2.1)
        (readBack source right placed.2.2) left right here
  | unary after inner =>
      rw [walk, List.forall_mem_cons] at placed
      exact readBack_unary after (readBack source inner placed.2) inner here
  | array each =>
      rw [walk, List.forall_mem_cons] at placed
      exact readBack_array each (itemsBack source each placed.2)
  | object each =>
      rw [walk, List.forall_mem_cons] at placed
      exact readBack_object each (entriesBack source each placed.2)
  | paren before after inside =>
      rw [walk, List.forall_mem_cons] at placed
      exact readBack_paren before after inside (readBack source inside placed.2)
  | ternary beforeMark afterMark beforeColon afterColon first second third =>
      rw [walk, List.forall_mem_cons, List.forall_mem_append, List.forall_mem_append] at placed
      rcases placed with ⟨_, placedFirst, placedSecond, placedThird⟩
      exact readBack_ternary
        (.ternary beforeMark afterMark beforeColon afterColon first second third)
        (ternaryBack_ternary beforeMark afterMark beforeColon afterColon first
          (readBack source first placedFirst) (readBack source second placedSecond)
            (readBack source third placedThird) here)

theorem pathBack (source : Source) {path : List (PathStep Expr)} {written : List Char}
    (writes : WritesPath path written) (placed : ∀ node ∈ walkPath path, node.WellPlaced) :
    PathBack source path written := by
  cases writes with
  | nil => exact pathBack_nil
  | property name others =>
      rw [walkPath] at placed
      exact pathBack_property name others (pathBack source others placed)
  | index before after inside others =>
      rw [walkPath, List.forall_mem_append] at placed
      exact pathBack_index before after (readBack source inside placed.1)
        (pathBack source others placed.2)

theorem itemsBack (source : Source) {items : List Expr} {written : List Char}
    (writes : WritesItems items written) (placed : ∀ node ∈ walkAll items, node.WellPlaced) :
    ItemsBack source items written := by
  cases writes with
  | none gap => exact itemsBack_none gap
  | last before after inside =>
      rw [walkAll, List.forall_mem_append] at placed
      exact itemsBack_last before after inside (readBack source inside placed.1)
  | more before after inside rest =>
      rw [walkAll, List.forall_mem_append] at placed
      exact itemsBack_more before after inside (readBack source inside placed.1)
        (itemsBack source rest placed.2)

theorem entriesBack (source : Source) {entries : List (String × Expr)} {written : List Char}
    (writes : WritesEntries entries written)
    (placed : ∀ node ∈ walkEntries entries, node.WellPlaced) :
    EntriesBack source entries written := by
  cases writes with
  | none gap => exact entriesBack_none gap
  | last before beforeColon afterColon after name inside =>
      rw [walkEntries, List.forall_mem_append] at placed
      exact entriesBack_last before beforeColon afterColon after name
        (readBack source inside placed.1)
  | more before beforeColon afterColon after name inside rest =>
      rw [walkEntries, List.forall_mem_append] at placed
      exact entriesBack_more before beforeColon afterColon after name
        (readBack source inside placed.1) (entriesBack source rest placed.2)

theorem filtersBack (source : Source) {calls : List (FilterCall Expr)} {written : List Char}
    (writes : WritesFilters calls written)
    (placed : ∀ node ∈ walkFilters calls, node.WellPlaced) : FiltersBack source calls written := by
  cases writes with
  | nil => exact filtersBack_nil
  | plain before after name others =>
      rw [walkFilters, List.forall_mem_append] at placed
      exact filtersBack_plain before after name others (filtersBack source others placed.2)
  | call before after name items others =>
      rw [walkFilters, List.forall_mem_append] at placed
      exact filtersBack_call before after name items (itemsBack source items placed.1) others
        (filtersBack source others placed.2)

end

end Expr.Parser

open Stencil.Expr Stencil.Expr.Parser in
/-- An expression that obeys the table of precedence is read back from whatever it is written as,
with any white space around it, if its levels fit; and otherwise it is refused for their number. -/
theorem parseExpression_of_writes {expr : Expr} {written : List Char}
    (writes : Writes expr written) (placed : ∀ node ∈ expr.walk, node.WellPlaced)
    (leading trailing : Gap) (origin : Position) :
    let text := String.ofList (leading.text ++ (written ++ trailing.text))
    (expr.nesting < Expr.maxLevels →
      ∃ read, parseExpression text origin = .ok read ∧ read.bare = expr.bare) ∧
    (Expr.maxLevels ≤ expr.nesting →
      ∃ span, parseExpression text origin = .error ⟨.expressionTooDeep Expr.maxLevels, span⟩) := by
  intro text
  have same : text.toList = leading.text ++ (written ++ trailing.text) := String.toList_ofList
  have begins : trimStart text.toList = written ++ trailing.text := by
    rw [same, leading.trimStart_append, writes.trimStart_append]
  have nonempty : (trim text.toList).isEmpty = false := by
    rcases writes.begins with ⟨c, others, rfl, first⟩
    exact trim_isEmpty_of_begins begins (not_blank_of_beginsExpr first)
  have back := (readBack (Source.ofText origin text.toList) writes placed).pipeline
    Expr.maxLevels trailing.text (Follow.nothing trailing)
  rw [← pipeline_gap leading, ← same] at back
  have blank : trimStart trailing.text = [] := by
    have trimmed := trailing.trimStart_append []
    rwa [List.append_nil] at trimmed
  refine ⟨fun fits => ?_, fun deep => ?_⟩
  · rcases back.fits fits with ⟨read, readPipeline, bare⟩
    exact ⟨read, parse_of_pipeline nonempty readPipeline blank, bare⟩
  · rcases back.tooDeep (Nat.lt_succ_of_le deep) with ⟨left, failed⟩
    exact ⟨_, parse_of_failure nonempty failed⟩

/-- A difference of two names, the second with a step, sent through a filter with a quoted text. -/
def filteredDifference : Expr :=
  .filter Extent.nowhere
    (.binary Extent.nowhere .subtract (.access Extent.nowhere "a" [])
      (.access Extent.nowhere "b" [.property "c"]))
    [⟨"f", [.literal Extent.nowhere (.string "\n")], Span.empty⟩]

theorem parseExpression_of_writes_filtered : ∃ read,
    parseExpression " a -b.c |f( \"\\n\")" Position.start = .ok read ∧
      read.bare = filteredDifference := by
  let blank : Gap := ⟨[' '], List.all_eq_true.mp rfl⟩
  let none : Gap := ⟨[], List.all_eq_true.mp rfl⟩
  have first : Expr.Writes (.access Extent.nowhere "a" []) ['a'] :=
    .access ⟨⟨'a', [], rfl, List.all_eq_true.mp rfl⟩, by decide, by decide, by decide⟩ .nil
  have second : Expr.Writes (.access Extent.nowhere "b" [.property "c"]) ['b', '.', 'c'] :=
    .access ⟨⟨'b', [], rfl, List.all_eq_true.mp rfl⟩, by decide, by decide, by decide⟩
      (.property ⟨'c', [], rfl, List.all_eq_true.mp rfl⟩ .nil)
  have argument : Expr.Writes (.literal Extent.nowhere (.string "\n")) ['"', '\\', 'n', '"'] :=
    .string (.intro (.inl rfl) (.escape .feed .nil))
  have writes : Expr.Writes filteredDifference ("a -b.c |f( \"\\n\")".toList) :=
    .filter (.binary blank none first second)
      (.call blank none ⟨'f', [], rfl, List.all_eq_true.mp rfl⟩ (.last blank none argument) .nil)
  exact (parseExpression_of_writes writes (by decide) blank none Position.start).1 (by decide)

end Stencil
