import Stencil.Proofs.Expr.Lists
/-!
# Primary expressions read back

Constants, groupings, collections, calls and variables. They bind tightest, so each is an operand
at every level, and whatever they hold is read back between brackets of its own.
-/

namespace Stencil

open Text

namespace Expr.Parser

open Lexeme Grammar

variable {source : Source}

section Primaries

variable {extent : Extent}

/-- A primary expression is read back by all readers: no sign stands in front of it, and no method
is called behind it. -/
theorem readBack_of_primary {expr : Expr} {written : List Char} (writes : Writes expr written)
    (tight : expr.rank = Precedence.primary.rank)
    (noSign : ∀ rest, unaryOp? (written ++ rest) = none)
    (back : ∀ levels rest, Follow Precedence.primary.rank rest →
      Reads expr.nesting levels
        (primary source (ofLevels source levels).pipeline (written ++ rest)) rest
          fun read => read.bare = expr.bare) : ReadBack source expr written := by
  refine readBack_of_unary writes (by rw [tight]; decide) ?_
  intro levels rest follow
  have noMethod : methodCall? rest = none := methodCall?_of_stops (follow.stops rfl)
  rw [readOperand, readUnary]
  simp only [writes.trimStart_append, noSign]
  rw [← pipeline_ofLevels]
  refine (back levels rest (follow.mono (by decide))).finish fun read bare => ?_
  simp only [readMethods, noMethod]
  exact Reads.done bare

theorem readBack_string {content : String} {written : List Char}
    (quoted : Quoted content written) :
    ReadBack source (.literal extent (.string content)) written := by
  have writes : Writes (.literal extent (.string content)) written := .string quoted
  have read := quoted?_quoted quoted
  rcases quoted.text_cons with ⟨quote, others, rfl, opens⟩
  have plain : quote ∉ openingCharacters := not_mem_of_inClass opens rfl
  have ink : isBlank quote = false := not_blank_of_beginsExpr (by simp [beginsExpr, opens])
  refine readBack_of_primary writes rfl (fun rest => unaryOp?_cons plain) ?_
  intro levels rest _
  have here := read rest
  rw [List.cons_append] at here ⊢
  rw [primary_cons source _ ink plain, if_pos opens, require_of_some here]
  exact Reads.done rfl

theorem readBack_number (numeral : Numeral) :
    ReadBack source (.literal extent (.number numeral.magnitude)) numeral.unsigned := by
  have writes : Writes (.literal extent (.number numeral.magnitude)) numeral.unsigned :=
    .number numeral
  have read : ∀ rest, Stops continuesNumber rest →
      number? (numeral.unsigned ++ rest) = some (numeral.magnitude, rest) :=
    fun rest stops => number?_unsigned numeral stops
  rcases numeral.whole.text_cons with ⟨first, others, text, digit⟩
  have begins : numeral.unsigned =
      first :: (others ++ (numeral.fractionText ++ numeral.exponentText)) := by
    rw [Numeral.unsigned, text, List.cons_append]
  have plain : first ∉ openingCharacters := not_mem_of_inClass digit rfl
  have noQuote := not_isQuote_of_inClass digit rfl rfl
  rw [begins] at writes read ⊢
  refine readBack_of_primary writes rfl (fun rest => unaryOp?_cons plain) ?_
  intro levels rest follow
  have here := read rest (follow.stops rfl)
  rw [List.cons_append] at here ⊢
  rw [primary_cons source _ (not_blank_of_isDigit digit) plain, if_neg noQuote, if_pos digit,
    require_of_some here]
  exact Reads.done rfl

/-- The names that stand for constants. -/
theorem readBack_constant (identifier : Identifier) {value : Literal}
    (writes : Writes (.literal extent value) identifier.text)
    (constant : (identifier.name = "true" ∧ value = .bool true) ∨
      (identifier.name = "false" ∧ value = .bool false) ∨
        (identifier.name = "null" ∧ value = .null)) :
    ReadBack source (.literal extent value) identifier.text := by
  refine readBack_of_primary writes rfl (unaryOp?_identifier identifier) ?_
  intro levels rest follow
  have name := name?_identifier identifier (follow.stops rfl)
  rw [primary_identifier]
  rcases constant with ⟨here, rfl⟩ | ⟨here, rfl⟩ | ⟨here, rfl⟩
  all_goals
    rw [here] at name
    rw [named]
    exact Reads.after (require_of_some name) (Reads.done rfl)

section Brackets

variable (source) (pipeline : Reader Expr) (inside : List Char)

theorem primary_grouping : primary source pipeline ('(' :: inside) = (do
    let (content, afterContent) ← pipeline inside
    let rest ← expect ")" afterContent
    pure (.paren (source.extent ('(' :: inside) rest) content, rest)) := by
  unfold primary
  rw [trimStart_cons rfl]
  rfl

theorem primary_array : primary source pipeline ('[' :: inside) = (do
    let (items, rest) ← arguments pipeline "]" inside
    pure (.array (source.extent ('[' :: inside) rest) items, rest)) := by
  unfold primary
  rw [trimStart_cons rfl]
  rfl

theorem primary_object : primary source pipeline ('\x7b' :: inside) = (do
    let (entries, rest) ← separated (entry pipeline) "\x7d" (inside.length + 1) inside
    pure (.object (source.extent ('\x7b' :: inside) rest) entries, rest)) := by
  unfold primary
  rw [trimStart_cons rfl]
  rfl

end Brackets

theorem readBack_paren {inner : Expr} {written : List Char} (before after : Gap)
    (writes : Writes inner written) (back : ReadBack source inner written) :
    ReadBack source (.paren extent inner)
      ('(' :: (before.text ++ (written ++ (after.text ++ [')'])))) := by
  refine readBack_of_primary (.paren before after writes) rfl (fun rest => rfl) ?_
  intro levels rest follow
  have closes : Follow Precedence.filter.rank (after.text ++ ')' :: rest) :=
    (Lead.closing rest (by decide)).follow after
  have closed : expect ")" (after.text ++ ')' :: rest) = .ok rest := expect_gap after rfl rfl
  simp only [List.cons_append, List.append_assoc, List.nil_append]
  rw [primary_grouping, pipeline_gap]
  refine (back.pipeline levels _ closes).finish fun read bare => ?_
  refine Reads.after closed (Reads.done ?_)
  rw [Expr.bare, Expr.bare, bare]

/-- A root name is read as what it begins. -/
theorem named_root (pipeline : Reader Expr) (root : RootName) (start : List Char)
    {afterName : List Char} (stops : Stops continuesName afterName) :
    named source pipeline start (root.text ++ afterName) =
      (match symbol? "(" afterName with
      | some afterBracket => do
        let (args, rest) ← arguments pipeline ")" afterBracket
        pure (.call (source.extent start rest) root.name args, rest)
      | none => do
        let (path, rest) ← steps pipeline afterName.length afterName
        pure (.access (source.extent start rest) root.name path, rest)) := by
  have name := name?_identifier root.toIdentifier stops
  rw [named, require_of_some name]
  refine (if_neg root.notTrue).trans ((if_neg root.notFalse).trans ((if_neg root.notNull).trans ?_))
  rfl

theorem readBack_access {path : List (PathStep Expr)} {written : List Char} (root : RootName)
    (writes : WritesPath path written) (back : PathBack source path written) :
    ReadBack source (.access extent root.name path) (root.text ++ written) := by
  refine readBack_of_primary (.access root writes) rfl (fun rest => ?_) ?_
  · rw [List.append_assoc]
    exact unaryOp?_identifier root.toIdentifier _
  · intro levels rest follow
    have room := writes.length_le
    have stops : Stops continuesName (written ++ rest) :=
      stops_path writes rfl rfl (follow.stops rfl)
    have fuel : path.length ≤ (written ++ rest).length := by
      rw [List.length_append]
      omega
    rw [List.append_assoc, primary_identifier, named_root _ root _ stops]
    simp only [symbol?_bracket_path writes follow]
    refine (back levels _ rest fuel follow).finish fun read bare => Reads.done ?_
    rw [Expr.bare, Expr.bare, bare]

theorem readBack_call {args : List Expr} {inside : List Char} (name : RootName)
    (writes : WritesItems args inside) (back : ItemsBack source args inside) :
    ReadBack source (.call extent name.name args) (name.text ++ '(' :: (inside ++ [')'])) := by
  refine readBack_of_primary (.call name writes) rfl (fun rest => ?_) ?_
  · rw [List.append_assoc]
    exact unaryOp?_identifier name.toIdentifier _
  · intro levels rest follow
    have bracket : symbol? "(" ('(' :: (inside ++ ')' :: rest)) = some (inside ++ ')' :: rest) :=
      symbol?_gap ⟨[], fun _ absurd => nomatch absurd⟩ rfl rfl
    have stops : Stops continuesName ('(' :: (inside ++ ')' :: rest)) := stops_cons (by decide)
    simp only [List.append_assoc, List.cons_append, List.nil_append]
    rw [primary_identifier, named_root _ name _ stops]
    simp only [bracket]
    refine (reads_arguments writes back levels rfl (by decide) rest).finish
      fun read bare => Reads.done ?_
    rw [Expr.bare, Expr.bare, bare]

theorem readBack_array {items : List Expr} {inside : List Char}
    (writes : WritesItems items inside) (back : ItemsBack source items inside) :
    ReadBack source (.array extent items) ('[' :: (inside ++ [']'])) := by
  refine readBack_of_primary (.array writes) rfl (fun rest => rfl) ?_
  intro levels rest follow
  simp only [List.append_assoc, List.cons_append, List.nil_append]
  rw [primary_array]
  refine (reads_arguments writes back levels rfl (by decide) rest).finish
    fun read bare => Reads.done ?_
  rw [Expr.bare, Expr.bare, bare]

theorem readBack_object {entries : List (String × Expr)} {inside : List Char}
    (writes : WritesEntries entries inside) (back : EntriesBack source entries inside) :
    ReadBack source (.object extent entries) ('\x7b' :: (inside ++ ['\x7d'])) := by
  refine readBack_of_primary (.object writes) rfl (fun rest => rfl) ?_
  intro levels rest follow
  have room := writes.length_le
  simp only [List.append_assoc, List.cons_append, List.nil_append]
  rw [primary_object]
  refine (back levels _ rest ?_).finish fun read bare => Reads.done ?_
  · simp only [List.length_append, List.length_cons]
    omega
  · rw [Expr.bare, Expr.bare, bare]

end Primaries

end Expr.Parser

end Stencil
