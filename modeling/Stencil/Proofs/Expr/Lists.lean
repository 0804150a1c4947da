import Stencil.Proofs.Expr.Operands
/-!
# Lists read back

The lists in an expression: items and entries with commas between them, the steps of a path, and
filters behind their bars. Each is read back element by element, as whole expressions are, and needs
the levels of the element that needs most. The readers stop after as many elements as the text has
characters, which is never too early, since every element is written with one at least.
-/

namespace Stencil

open Text

namespace Lexeme

theorem unescaped_of_escape {letter c : Char} (stands : Escape letter c) :
    unescaped letter = c := by
  cases stands with
  | itself plain =>
      simp only [List.mem_cons, List.not_mem_nil, or_false, not_or] at plain
      rcases plain with ⟨feed, tab, carriage, nothing⟩
      rw [unescaped, if_neg feed, if_neg tab, if_neg carriage, if_neg nothing]
  | _ => rfl

theorem quotedRest?_escaped {quote : Char} {content written : List Char}
    (noEscape : quote ≠ '\\') (escaped : Escaped quote content written) (rest : List Char) :
    quotedRest? quote (written ++ quote :: rest) = some (content, rest) := by
  induction escaped with
  | nil =>
      rw [List.nil_append, quotedRest?.eq_def]
      simp only [if_neg noEscape, if_true]
  | plain inside _ ih =>
      rw [List.cons_append, quotedRest?.eq_def]
      simp only [if_neg inside.1, if_neg inside.2, ih, Option.map_some]
  | escape stands _ ih =>
      rw [List.cons_append, List.cons_append, quotedRest?]
      simp only [if_true, ih, Option.map_some, unescaped_of_escape stands]

theorem quoted?_quoted {content : String} {written : List Char} (quoted : Quoted content written)
    (rest : List Char) : quoted? (written ++ rest) = some (content, rest) := by
  cases quoted with
  | intro kind escaped =>
      rename_i quote inside text
      have noEscape : quote ≠ '\\' := by
        rcases kind with rfl | rfl <;> decide
      have opens : isQuote quote = true := by
        rcases kind with rfl | rfl <;> rfl
      have read := quotedRest?_escaped noEscape escaped rest
      simp only [List.cons_append, List.append_assoc, List.nil_append, quoted?, opens, if_true,
        read, Option.map_some]

end Lexeme

namespace Expr.Parser

open Lexeme Grammar

variable {source : Source} {rest : List Char} {levels need : Nat}

section Separated

/-! Items with commas between them, read back one by one up to what closes them. -/

variable {α : Type} {item : Reader α} {closing : String} {close : Char} {text : List Char}

theorem separated_none (fuel : Nat) (begins : closing.toList = [close])
    (ink : isBlank close = false) (gap : Gap) :
    separated item closing (fuel + 1) (gap.text ++ close :: rest) = .ok ([], rest) := by
  rw [separated, symbol?_gap gap begins ink]

theorem separated_last {good : α → Prop} (fuel : Nat) (begins : closing.toList = [close])
    (ink : isBlank close = false) (noComma : close ≠ ',') (after : Gap)
    (more : symbol? closing text = none)
    (first : Reads need levels (item text) (after.text ++ close :: rest) good) :
    Reads need levels (separated item closing (fuel + 1) text) rest fun values =>
      ∃ value, values = [value] ∧ good value := by
  have comma : symbol? "," (after.text ++ close :: rest) = none := by
    refine symbol?_of_stops rfl ?_
    rw [after.trimStart_append, trimStart_cons ink]
    exact stops_cons (beq_eq_false_iff_ne.mpr noComma)
  have closed : expect closing (after.text ++ close :: rest) = .ok rest :=
    expect_gap after begins ink
  rw [separated, more]
  refine first.finish fun value here => ?_
  simp only [comma]
  exact Reads.after closed (Reads.done ⟨value, rfl, here⟩)

theorem separated_more {good : α → Prop} {goods : List α → Prop} {further fuel : Nat}
    {later : List Char} (after : Gap) (more : symbol? closing text = none)
    (first : Reads need levels (item text) (after.text ++ ',' :: later) good)
    (others : Reads further levels (separated item closing fuel later) rest goods) :
    Reads (max need further) levels (separated item closing (fuel + 1) text) rest fun values =>
      ∃ value values', values = value :: values' ∧ good value ∧ goods values' := by
  have comma : symbol? "," (after.text ++ ',' :: later) = some later := symbol?_gap after rfl rfl
  rw [separated, more]
  refine first.bind fun value here => ?_
  simp only [comma]
  exact others.finish fun values there => Reads.done ⟨value, values, rfl, here, there⟩

end Separated

/-- That items are read back between brackets. -/
def ItemsBack (source : Source) (items : List Expr) (written : List Char) : Prop :=
  ∀ levels fuel rest closing close, closing.toList = [close] → close ∈ [')', ']'] →
    items.length < fuel →
      Reads (nestingAll items) levels
        (separated (ofLevels source levels).pipeline closing fuel (written ++ close :: rest)) rest
          fun read => bareAll read = bareAll items

/-- That the keys and expressions of an object are read back. -/
def EntriesBack (source : Source) (entries : List (String × Expr)) (written : List Char) : Prop :=
  ∀ levels fuel rest, entries.length < fuel →
    Reads (nestingEntries entries) levels
      (separated (entry (ofLevels source levels).pipeline) "\x7d" fuel (written ++ '\x7d' :: rest))
        rest fun read => bareEntries read = bareEntries entries

/-- That the steps of a path are read back. -/
def PathBack (source : Source) (path : List (PathStep Expr)) (written : List Char) : Prop :=
  ∀ levels fuel rest, path.length ≤ fuel → Follow Precedence.primary.rank rest →
    Reads (nestingPath path) levels
      (steps (ofLevels source levels).pipeline fuel (written ++ rest)) rest
        fun read => barePath read = barePath path

/-- That filters are read back. -/
def FiltersBack (source : Source) (calls : List (FilterCall Expr)) (written : List Char) : Prop :=
  ∀ levels fuel rest, calls.length ≤ fuel → Follow Precedence.filter.rank rest →
    Reads (nestingFilters calls) levels
      (filters source (ofLevels source levels).pipeline fuel (written ++ rest)) rest
        fun read => bareFilters read = bareFilters calls

section Lists

/-- What closes a list is no white space and begins no item. -/
theorem closes_of_mem {close : Char} (member : close ∈ [')', ']']) :
    isBlank close = false ∧ beginsExpr close = false ∧ close ≠ ',' ∧
      close ∈ closingCharacters := by
  simp only [List.mem_cons, List.not_mem_nil, or_false] at member
  rcases member with rfl | rfl <;> exact ⟨rfl, rfl, by decide, by decide⟩

theorem itemsBack_none (gap : Gap) : ItemsBack source [] gap.text := by
  intro levels fuel rest closing close begins member room
  rcases Nat.exists_eq_add_one.mpr (Nat.zero_lt_of_lt room) with ⟨fuel, rfl⟩
  rw [separated_none fuel begins (closes_of_mem member).1 gap]
  exact Reads.done rfl

theorem itemsBack_last {item : Expr} {written : List Char} (before after : Gap)
    (writes : Writes item written) (back : ReadBack source item written) :
    ItemsBack source [item] (before.text ++ (written ++ after.text)) := by
  intro levels fuel rest closing close begins member room
  rcases Nat.exists_eq_add_one.mpr (Nat.zero_lt_of_lt room) with ⟨fuel, rfl⟩
  rcases closes_of_mem member with ⟨ink, apart, noComma, closing⟩
  have closes : Follow Precedence.filter.rank (after.text ++ close :: rest) :=
    (Lead.closing rest closing).follow after
  have more := writes.symbol?_eq_none begins apart before (after.text ++ close :: rest)
  have first := back.pipeline levels _ closes
  rw [← pipeline_gap before] at first
  have whole := separated_last fuel begins ink noComma after more first
  simp only [List.append_assoc, nestingAll, Nat.max_zero]
  refine whole.mono fun values read => ?_
  rcases read with ⟨value, rfl, bare⟩
  simp only [bareAll, bare]

theorem itemsBack_more {item : Expr} {others : List Expr} {written later : List Char}
    (before after : Gap) (writes : Writes item written) (back : ReadBack source item written)
    (othersBack : ItemsBack source others later) :
    ItemsBack source (item :: others)
      (before.text ++ (written ++ (after.text ++ ',' :: later))) := by
  intro levels fuel rest closing close begins member room
  rcases Nat.exists_eq_add_one.mpr (Nat.zero_lt_of_lt room) with ⟨fuel, rfl⟩
  have apart := (closes_of_mem member).2.1
  have closes : Follow Precedence.filter.rank (after.text ++ ',' :: (later ++ close :: rest)) :=
    (Lead.closing _ (by decide)).follow after
  have more := writes.symbol?_eq_none begins apart before
    (after.text ++ ',' :: (later ++ close :: rest))
  have first := back.pipeline levels _ closes
  rw [← pipeline_gap before] at first
  have remaining := othersBack levels fuel rest closing close begins member
    (Nat.lt_of_succ_lt_succ room)
  have whole := separated_more after more first remaining
  simp only [List.append_assoc, List.cons_append]
  refine whole.mono fun values read => ?_
  rcases read with ⟨value, values', rfl, bare, bares⟩
  simp only [bareAll, bare, bares]

theorem key_quoted {name : String} {quoted : List Char} (before : Gap) (named : Quoted name quoted)
    (tail : List Char) : key (before.text ++ (quoted ++ tail)) = .ok (name, tail) := by
  have read := quoted?_quoted named tail
  rcases named.text_cons with ⟨quote, others, rfl, opens⟩
  have ink : isBlank quote = false := not_blank_of_beginsExpr (by simp [beginsExpr, opens])
  rw [List.cons_append] at read ⊢
  simp only [key, before.trimStart_append, trimStart_cons ink, if_pos opens, require_of_some read]

/-- A key is read back with its expression. -/
theorem reads_entry (levels : Nat) {name : String} {value : Expr}
    {quoted written tail : List Char} (before beforeColon afterColon : Gap)
    (named : Quoted name quoted)
    (back : ReadBack source value written) (follow : Follow Precedence.filter.rank tail) :
    Reads (value.nesting + 1) levels (entry (ofLevels source levels).pipeline
      (before.text ++ (quoted ++ (beforeColon.text ++ ':' :: (afterColon.text ++
        (written ++ tail)))))) tail fun read => read.1 = name ∧ read.2.bare = value.bare := by
  have colon : expect ":" (beforeColon.text ++ ':' :: (afterColon.text ++ (written ++ tail))) =
      .ok (afterColon.text ++ (written ++ tail)) := expect_gap beforeColon rfl rfl
  have inside := back.pipeline levels tail follow
  rw [← pipeline_gap afterColon] at inside
  rw [entry]
  refine Reads.after (key_quoted before named _) (Reads.after colon ?_)
  exact inside.finish fun read bare => Reads.done ⟨rfl, bare⟩

/-- No brace closes where a key begins. -/
theorem symbol?_brace_quoted {name : String} {quoted : List Char} (before : Gap)
    (named : Quoted name quoted) (tail : List Char) :
    symbol? "\x7d" (before.text ++ (quoted ++ tail)) = none := by
  refine symbol?_of_stops rfl ?_
  rcases named.text_cons with ⟨quote, others, rfl, opens⟩
  have ink : isBlank quote = false := not_blank_of_beginsExpr (by simp [beginsExpr, opens])
  rw [before.trimStart_append, List.cons_append, trimStart_cons ink]
  exact stops_cons (beq_eq_false_iff_ne.mpr (ne_of_inClass opens rfl))

theorem entriesBack_none (gap : Gap) : EntriesBack source [] gap.text := by
  intro levels fuel rest room
  rcases Nat.exists_eq_add_one.mpr (Nat.zero_lt_of_lt room) with ⟨fuel, rfl⟩
  rw [separated_none fuel rfl rfl gap]
  exact Reads.done rfl

theorem entriesBack_last {name : String} {value : Expr} {quoted written : List Char}
    (before beforeColon afterColon after : Gap) (named : Quoted name quoted)
    (back : ReadBack source value written) :
    EntriesBack source [(name, value)] (before.text ++ (quoted ++ (beforeColon.text ++ ':' ::
      (afterColon.text ++ (written ++ after.text))))) := by
  intro levels fuel rest room
  rcases Nat.exists_eq_add_one.mpr (Nat.zero_lt_of_lt room) with ⟨fuel, rfl⟩
  have closes : Follow Precedence.filter.rank (after.text ++ '\x7d' :: rest) :=
    (Lead.closing rest (by decide)).follow after
  have more := symbol?_brace_quoted before named (beforeColon.text ++ ':' :: (afterColon.text ++
    (written ++ (after.text ++ '\x7d' :: rest))))
  have first := reads_entry levels before beforeColon afterColon named back closes
  have whole := separated_last fuel rfl rfl (by decide) after more first
  simp only [List.append_assoc, List.cons_append, nestingEntries, Nat.max_zero]
  refine whole.mono fun values read => ?_
  rcases read with ⟨⟨key, read⟩, rfl, rfl, bare⟩
  simp only [bareEntries, bare]

theorem entriesBack_more {name : String} {value : Expr} {others : List (String × Expr)}
    {quoted written later : List Char} (before beforeColon afterColon after : Gap)
    (named : Quoted name quoted) (back : ReadBack source value written)
    (othersBack : EntriesBack source others later) :
    EntriesBack source ((name, value) :: others)
      (before.text ++ (quoted ++ (beforeColon.text ++ ':' :: (afterColon.text ++
        (written ++ (after.text ++ ',' :: later)))))) := by
  intro levels fuel rest room
  rcases Nat.exists_eq_add_one.mpr (Nat.zero_lt_of_lt room) with ⟨fuel, rfl⟩
  have closes : Follow Precedence.filter.rank (after.text ++ ',' :: (later ++ '\x7d' :: rest)) :=
    (Lead.closing _ (by decide)).follow after
  have more := symbol?_brace_quoted before named (beforeColon.text ++ ':' :: (afterColon.text ++
    (written ++ (after.text ++ ',' :: (later ++ '\x7d' :: rest)))))
  have first := reads_entry levels before beforeColon afterColon named back closes
  have remaining := othersBack levels fuel rest (Nat.lt_of_succ_lt_succ room)
  have whole := separated_more after more first remaining
  simp only [List.append_assoc, List.cons_append]
  refine whole.mono fun values read => ?_
  rcases read with ⟨⟨key, read⟩, values', rfl, ⟨rfl, bare⟩, bares⟩
  simp only [bareEntries, bare, bares]

end Lists

section Paths

/-- A class without points and brackets stops at the steps of a path if it stops behind them. -/
theorem stops_path {path : List (PathStep Expr)} {written : List Char}
    (writes : WritesPath path written) {inClass : Char → Bool} (point : inClass '.' = false)
    (bracket : inClass '[' = false) (behind : Stops inClass rest) :
    Stops inClass (written ++ rest) := by
  cases writes with
  | nil => exact behind
  | property name others => exact stops_cons point
  | index before after inside others => exact stops_cons bracket

/-- No call follows a name with the steps of a path. -/
theorem symbol?_bracket_path {path : List (PathStep Expr)} {written : List Char} {least : Nat}
    (writes : WritesPath path written) (follow : Follow least rest) :
    symbol? "(" (written ++ rest) = none := by
  cases writes with
  | nil => exact symbol?_bracket_of_follow follow
  | property name others => exact symbol?_of_stops rfl (stops_cons rfl)
  | index before after inside others => exact symbol?_of_stops rfl (stops_cons rfl)

theorem pathBack_nil : PathBack source [] [] := by
  intro levels fuel rest _ follow
  rw [List.nil_append, steps_of_stops _ fuel (follow.stops rfl)]
  exact Reads.done rfl

theorem pathBack_property {path : List (PathStep Expr)} {later : List Char} (name : Identifier)
    (writes : WritesPath path later) (back : PathBack source path later) :
    PathBack source (.property name.name :: path) ('.' :: (name.text ++ later)) := by
  intro levels fuel rest room follow
  rcases Nat.exists_eq_add_one.mpr (Nat.zero_lt_of_lt room) with ⟨fuel, rfl⟩
  have stops : Stops continuesName (later ++ rest) :=
    stops_path writes rfl rfl (follow.stops rfl)
  rw [List.cons_append, List.append_assoc,
    steps_property _ fuel name stops (symbol?_bracket_path writes follow)]
  refine (back levels fuel rest (Nat.le_of_succ_le_succ room) follow).finish fun read bare => ?_
  exact Reads.done (by simp only [barePath, bare])

theorem pathBack_index {key : Expr} {path : List (PathStep Expr)} {written later : List Char}
    (before after : Gap) (keyBack : ReadBack source key written)
    (back : PathBack source path later) :
    PathBack source (.index key :: path)
      ('[' :: (before.text ++ (written ++ (after.text ++ ']' :: later)))) := by
  intro levels fuel rest room follow
  rcases Nat.exists_eq_add_one.mpr (Nat.zero_lt_of_lt room) with ⟨fuel, rfl⟩
  have closes : Follow Precedence.filter.rank (after.text ++ ']' :: (later ++ rest)) :=
    (Lead.closing _ (by decide)).follow after
  have closed : expect "]" (after.text ++ ']' :: (later ++ rest)) = .ok (later ++ rest) :=
    expect_gap after rfl rfl
  simp only [List.cons_append, List.append_assoc]
  rw [steps_bracket, pipeline_gap]
  refine (keyBack.pipeline levels _ closes).bind fun read bare => Reads.after closed ?_
  refine (back levels fuel rest (Nat.le_of_succ_le_succ room) follow).finish fun steps bares => ?_
  exact Reads.done (by simp only [barePath, bare, bares])

end Paths

section Filters

variable {calls : List (FilterCall Expr)} {written : List Char}

/-- The bar of a filter has no other bar behind it. -/
theorem noBar_name (gap : Gap) (name : Identifier) (tail : List Char) :
    Stops (· == '|') (gap.text ++ (name.text ++ tail)) :=
  gap.stops ⟨rfl, rfl, rfl, rfl⟩
    (stops_cons (beq_eq_false_iff_ne.mpr (ne_of_inClass name.begins rfl)))

/-- Behind what is filtered stands a bar, or what stands behind the filters. -/
theorem follow_filters (writes : WritesFilters calls written)
    (follow : Follow Precedence.filter.rank rest) :
    Follow Precedence.ternary.rank (written ++ rest) := by
  cases writes with
  | nil => exact follow.mono (Nat.zero_le _)
  | plain before after name others =>
      simp only [List.append_assoc, List.cons_append]
      exact (Lead.bar (by decide) (noBar_name after name _)).follow before
  | call before after name items others =>
      simp only [List.append_assoc, List.cons_append]
      exact (Lead.bar (by decide) (noBar_name after name _)).follow before

/-- A filter without brackets is read back. -/
theorem reads_filterCall_plain (levels : Nat) (after : Gap) (name : Identifier) {least : Nat}
    (follow : Follow least rest) :
    Reads 0 levels (filterCall source (ofLevels source levels).pipeline
      (after.text ++ (name.text ++ rest))) rest
        fun call => call.name = name.name ∧ bareAll call.args = [] := by
  have noBracket := symbol?_bracket_of_follow follow
  have read := name?_identifier name (follow.stops rfl)
  rw [filterCall]
  simp only [name.trimStart_append after.blank]
  refine Reads.after (require_of_some read) ?_
  simp only [noBracket]
  exact Reads.done ⟨rfl, rfl⟩

/-- Items between the brackets of a call are read back. -/
theorem reads_arguments {items : List Expr} {inside : List Char} (writes : WritesItems items inside)
    (back : ItemsBack source items inside) (levels : Nat) {closing : String} {close : Char}
    (begins : closing.toList = [close]) (closes : close ∈ [')', ']']) (rest : List Char) :
    Reads (nestingAll items) levels
      (arguments (ofLevels source levels).pipeline closing (inside ++ close :: rest)) rest
        fun read => bareAll read = bareAll items := by
  have room := writes.length_le
  rw [arguments]
  refine back levels _ rest closing close begins closes ?_
  simp only [List.length_append, List.length_cons]
  omega

/-- A filter with brackets is read back. -/
theorem reads_filterCall_call {args : List Expr} {inside : List Char} (levels : Nat) (after : Gap)
    (name : Identifier) (writes : WritesItems args inside) (back : ItemsBack source args inside)
    (rest : List Char) :
    Reads (nestingAll args) levels (filterCall source (ofLevels source levels).pipeline
      (after.text ++ (name.text ++ '(' :: (inside ++ ')' :: rest)))) rest
        fun call => call.name = name.name ∧ bareAll call.args = bareAll args := by
  have bracket : symbol? "(" ('(' :: (inside ++ ')' :: rest)) = some (inside ++ ')' :: rest) :=
    symbol?_gap ⟨[], fun _ absurd => nomatch absurd⟩ rfl rfl
  have stops : Stops continuesName ('(' :: (inside ++ ')' :: rest)) := stops_cons (by decide)
  rw [filterCall]
  simp only [name.trimStart_append after.blank]
  refine Reads.after (require_of_some (name?_identifier name stops)) ?_
  simp only [bracket]
  refine (reads_arguments writes back levels rfl (by decide) rest).finish fun read bare => ?_
  exact Reads.done ⟨rfl, bare⟩

theorem filtersBack_nil : FiltersBack source [] [] := by
  intro levels fuel rest _ follow
  rw [List.nil_append, filters_of_noPipe _ _ fuel (pipe?_of_follow follow)]
  exact Reads.done rfl

/-- One more filter is read back if it is read back behind its bar. -/
theorem filtersBack_cons {args : List Expr} {span : Span} {arguments later : List Char}
    (before after : Gap) (name : Identifier)
    (first : ∀ levels rest, Follow Precedence.ternary.rank (later ++ rest) →
      Reads (nestingAll args) levels (filterCall source (ofLevels source levels).pipeline
        (after.text ++ (name.text ++ (arguments ++ (later ++ rest))))) (later ++ rest)
          fun call => call.name = name.name ∧ bareAll call.args = bareAll args)
    (writes : WritesFilters calls later) (back : FiltersBack source calls later) :
    FiltersBack source (⟨name.name, args, span⟩ :: calls)
      (before.text ++ '|' :: (after.text ++ (name.text ++ (arguments ++ later)))) := by
  intro levels fuel rest room follow
  rcases Nat.exists_eq_add_one.mpr (Nat.zero_lt_of_lt room) with ⟨fuel, rfl⟩
  simp only [List.append_assoc, List.cons_append]
  rw [filters, pipe?_bar before (noBar_name after name _)]
  refine (first levels rest (follow_filters writes follow)).bind fun call here => ?_
  refine (back levels fuel rest (Nat.le_of_succ_le_succ room) follow).finish fun read bares => ?_
  rcases call with ⟨_, read', _⟩
  rcases here with ⟨rfl, bare⟩
  simp only at bare
  exact Reads.done (by simp only [bareFilters, bare, bares])

theorem filtersBack_plain {span : Span} {later : List Char} (before after : Gap) (name : Identifier)
    (writes : WritesFilters calls later) (back : FiltersBack source calls later) :
    FiltersBack source (⟨name.name, [], span⟩ :: calls)
      (before.text ++ '|' :: (after.text ++ (name.text ++ later))) := by
  have first : ∀ levels rest, Follow Precedence.ternary.rank (later ++ rest) →
      Reads (nestingAll []) levels (filterCall source (ofLevels source levels).pipeline
        (after.text ++ (name.text ++ ([] ++ (later ++ rest))))) (later ++ rest)
          fun call => call.name = name.name ∧ bareAll call.args = bareAll [] :=
    fun levels rest follow => reads_filterCall_plain levels after name follow
  exact filtersBack_cons before after name first writes back

theorem filtersBack_call {args : List Expr} {span : Span} {inside later : List Char}
    (before after : Gap) (name : Identifier) (items : WritesItems args inside)
    (itemsBack : ItemsBack source args inside) (writes : WritesFilters calls later)
    (back : FiltersBack source calls later) :
    FiltersBack source (⟨name.name, args, span⟩ :: calls)
      (before.text ++ '|' :: (after.text ++ (name.text ++ '(' :: (inside ++ ')' :: later)))) := by
  have whole : FiltersBack source (⟨name.name, args, span⟩ :: calls) (before.text ++ '|' ::
      (after.text ++ (name.text ++ ('(' :: (inside ++ [')']) ++ later)))) := by
    refine filtersBack_cons before after name (fun levels rest _ => ?_) writes back
    have first := reads_filterCall_call levels after name items itemsBack (later ++ rest)
    simpa only [List.cons_append, List.append_assoc, List.nil_append] using first
  simpa only [List.cons_append, List.append_assoc, List.nil_append] using whole

theorem readBack_filter {extent : Extent} {input : Expr} {later : List Char}
    (writesInput : Writes input written) (inputBack : ReadBack source input written)
    (writes : WritesFilters calls later) (back : FiltersBack source calls later)
    (placed : Precedence.ternary.rank ≤ input.rank ∧ calls.isEmpty = false) :
    ReadBack source (.filter extent input calls) (written ++ later) := by
  refine readBack_of_loose (Nat.zero_lt_succ _) ?_ fun fits => absurd fits (Nat.not_succ_le_zero _)
  intro levels rest follow
  have room := writes.length_le
  have ahead := follow_filters writes follow
  rw [pipeline_ofLevels, readPipeline, List.append_assoc]
  simp only [writesInput.trimStart_append]
  refine Reads.enter fun fewer _ => ?_
  rw [ternary_ofLevels]
  refine (inputBack.ternary placed.1 fewer _ ahead).bind fun read bare => ?_
  have fuel : calls.length ≤ (later ++ rest).length := by
    rw [List.length_append]
    omega
  refine (back fewer _ rest fuel follow).finish fun reads bares => ?_
  have some : reads.isEmpty = false := by
    rw [← isEmpty_bareFilters, bares, isEmpty_bareFilters, placed.2]
  simp only [some, Bool.false_eq_true, if_false]
  exact Reads.done (by simp only [Expr.bare, bare, bares])

end Filters

end Expr.Parser

end Stencil
