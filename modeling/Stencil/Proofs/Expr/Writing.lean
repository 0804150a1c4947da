import Stencil.Proofs.Expr.Bare
import Stencil.Proofs.Expr.Precedence
import Stencil.Proofs.Expr.Reading
import Stencil.Proofs.Path.Shared
/-!
# Expressions in writing

The texts that an expression can be written as. A writer chooses the quotes and escapes of a quoted
text, the numeral of a number, the white space around operators, commas and colons and inside
brackets, and whether a comma stands behind the last item of a list. Groupings are nodes of the
tree, so a writer adds no brackets of its own.

`Expr.nesting` counts the levels that a tree nests, however it is written.
-/

namespace Stencil

/-- The character that a backslash and a letter stand for. -/
inductive Escape : Char → Char → Prop where
  | feed : Escape 'n' '\n'
  | tab : Escape 't' '\t'
  | carriage : Escape 'r' '\r'
  | nothing : Escape '0' (Char.ofNat 0)
  | itself {c : Char} (plain : c ∉ ['n', 't', 'r', '0']) : Escape c c

/-- How a content is written between quotes of one kind. -/
inductive Escaped (quote : Char) : List Char → List Char → Prop where
  | nil : Escaped quote [] []
  | plain {c : Char} {content written : List Char} (inside : c ≠ quote ∧ c ≠ '\\')
      (later : Escaped quote content written) : Escaped quote (c :: content) (c :: written)
  | escape {letter c : Char} {content written : List Char} (stands : Escape letter c)
      (later : Escaped quote content written) :
      Escaped quote (c :: content) ('\\' :: letter :: written)

/-- A text in quotes of either kind. -/
inductive Quoted : String → List Char → Prop where
  | intro {quote : Char} {content written : List Char} (isQuote : quote = '"' ∨ quote = '\'')
      (escaped : Escaped quote content written) :
      Quoted (String.ofList content) (quote :: (written ++ [quote]))

theorem Quoted.text_cons {content : String} {written : List Char}
    (quoted : Quoted content written) :
    ∃ quote others, written = quote :: others ∧ Lexeme.isQuote quote = true := by
  cases quoted with
  | intro kind escaped =>
      refine ⟨_, _, rfl, ?_⟩
      rcases kind with rfl | rfl <;> rfl

namespace Expr

open Text Lexeme Expr.Parser

mutual

/-- That an expression can be written as a text. -/
inductive Writes : Expr → List Char → Prop where
  | string {extent : Extent} {content : String} {written : List Char}
      (quoted : Quoted content written) : Writes (.literal extent (.string content)) written
  | number {extent : Extent} (numeral : Numeral) :
      Writes (.literal extent (.number numeral.magnitude)) numeral.unsigned
  | trueName {extent : Extent} : Writes (.literal extent (.bool true)) ['t', 'r', 'u', 'e']
  | falseName {extent : Extent} : Writes (.literal extent (.bool false)) ['f', 'a', 'l', 's', 'e']
  | nullName {extent : Extent} : Writes (.literal extent .null) ['n', 'u', 'l', 'l']
  | access {extent : Extent} {path : List (PathStep Expr)} {written : List Char} (root : RootName)
      (steps : WritesPath path written) :
      Writes (.access extent root.name path) (root.text ++ written)
  | filter {extent : Extent} {input : Expr} {filters : List (FilterCall Expr)}
      {written later : List Char} (first : Writes input written)
      (others : WritesFilters filters later) :
      Writes (.filter extent input filters) (written ++ later)
  | call {extent : Extent} {args : List Expr} {inside : List Char} (name : RootName)
      (items : WritesItems args inside) :
      Writes (.call extent name.name args) (name.text ++ '(' :: (inside ++ [')']))
  | binary {extent : Extent} {op : BinaryOp} {left right : Expr} {first second : List Char}
      (before after : Gap) (writtenLeft : Writes left first) (writtenRight : Writes right second) :
      Writes (.binary extent op left right)
        (first ++ (before.text ++ (op.symbol.toList ++ (after.text ++ second))))
  | unary {extent : Extent} {op : UnaryOp} {operand : Expr} {written : List Char} (after : Gap)
      (inner : Writes operand written) :
      Writes (.unary extent op operand) (op.symbol.toList ++ (after.text ++ written))
  | array {extent : Extent} {items : List Expr} {inside : List Char}
      (each : WritesItems items inside) : Writes (.array extent items) ('[' :: (inside ++ [']']))
  | object {extent : Extent} {entries : List (String × Expr)} {inside : List Char}
      (each : WritesEntries entries inside) :
      Writes (.object extent entries) ('\x7b' :: (inside ++ ['\x7d']))
  | paren {extent : Extent} {inner : Expr} {written : List Char} (before after : Gap)
      (inside : Writes inner written) :
      Writes (.paren extent inner) ('(' :: (before.text ++ (written ++ (after.text ++ [')']))))
  | ternary {extent : Extent} {condition thenBranch elseBranch : Expr}
      {first second third : List Char} (beforeMark afterMark beforeColon afterColon : Gap)
      (writtenCondition : Writes condition first) (writtenThen : Writes thenBranch second)
      (writtenElse : Writes elseBranch third) :
      Writes (.ternary extent condition thenBranch elseBranch)
        (first ++ (beforeMark.text ++ '?' :: (afterMark.text ++
          (second ++ (beforeColon.text ++ ':' :: (afterColon.text ++ third))))))

/-- That the steps of a path can be written as a text. -/
inductive WritesPath : List (PathStep Expr) → List Char → Prop where
  | nil : WritesPath [] []
  | property {path : List (PathStep Expr)} {later : List Char} (name : Identifier)
      (others : WritesPath path later) :
      WritesPath (.property name.name :: path) ('.' :: (name.text ++ later))
  | index {key : Expr} {path : List (PathStep Expr)} {written later : List Char}
      (before after : Gap) (inside : Writes key written) (others : WritesPath path later) :
      WritesPath (.index key :: path)
        ('[' :: (before.text ++ (written ++ (after.text ++ ']' :: later))))

/-- That items can be written as a text between brackets. -/
inductive WritesItems : List Expr → List Char → Prop where
  | none (gap : Gap) : WritesItems [] gap.text
  | last {item : Expr} {written : List Char} (before after : Gap) (inside : Writes item written) :
      WritesItems [item] (before.text ++ (written ++ after.text))
  | more {item : Expr} {others : List Expr} {written later : List Char} (before after : Gap)
      (inside : Writes item written) (rest : WritesItems others later) :
      WritesItems (item :: others) (before.text ++ (written ++ (after.text ++ ',' :: later)))

/-- That keys with their expressions can be written as a text between braces. -/
inductive WritesEntries : List (String × Expr) → List Char → Prop where
  | none (gap : Gap) : WritesEntries [] gap.text
  | last {key : String} {value : Expr} {quoted written : List Char}
      (before beforeColon afterColon after : Gap) (name : Quoted key quoted)
      (inside : Writes value written) :
      WritesEntries [(key, value)]
        (before.text ++ (quoted ++ (beforeColon.text ++ ':' :: (afterColon.text ++
          (written ++ after.text)))))
  | more {key : String} {value : Expr} {others : List (String × Expr)}
      {quoted written later : List Char} (before beforeColon afterColon after : Gap)
      (name : Quoted key quoted) (inside : Writes value written)
      (rest : WritesEntries others later) :
      WritesEntries ((key, value) :: others)
        (before.text ++ (quoted ++ (beforeColon.text ++ ':' :: (afterColon.text ++
          (written ++ (after.text ++ ',' :: later))))))

/-- That filters can be written as a text behind what they are applied to. -/
inductive WritesFilters : List (FilterCall Expr) → List Char → Prop where
  | nil : WritesFilters [] []
  | plain {span : Span} {filters : List (FilterCall Expr)} {later : List Char}
      (before after : Gap) (name : Identifier) (others : WritesFilters filters later) :
      WritesFilters (⟨name.name, [], span⟩ :: filters)
        (before.text ++ '|' :: (after.text ++ (name.text ++ later)))
  | call {args : List Expr} {span : Span} {filters : List (FilterCall Expr)}
      {inside later : List Char} (before after : Gap) (name : Identifier)
      (items : WritesItems args inside) (others : WritesFilters filters later) :
      WritesFilters (⟨name.name, args, span⟩ :: filters)
        (before.text ++ '|' :: (after.text ++ (name.text ++ '(' :: (inside ++ ')' :: later))))

end

/-- How many operators of one rank the left edge of an expression has from its root on. -/
def links (rank : Nat) : Expr → Nat
  | binary _ op left _ => if op.rank = rank then links rank left + 1 else 0
  | _ => 0

mutual

/-- How many levels an expression nests below its own. A whole expression inside it is one level
further in. So is what stands behind an operator, and in a chain every operator counts on. -/
def nesting : Expr → Nat
  | literal _ _ | malformed _ _ => 0
  | access _ _ path => nestingPath path
  | filter _ input filters => max (nesting input) (nestingFilters filters)
  | call _ _ args => nestingAll args
  | binary _ op left right => max (nesting left) (links op.rank left + 1 + nesting right)
  | unary _ _ operand => nesting operand + 1
  | array _ items => nestingAll items
  | object _ entries => nestingEntries entries
  | paren _ inner => nesting inner + 1
  | ternary _ condition thenBranch elseBranch =>
    max (nesting condition) (max (nesting thenBranch + 1) (nesting elseBranch + 1))

def nestingAll : List Expr → Nat
  | [] => 0
  | expr :: rest => max (nesting expr + 1) (nestingAll rest)

def nestingEntries : List (String × Expr) → Nat
  | [] => 0
  | (_, expr) :: rest => max (nesting expr + 1) (nestingEntries rest)

def nestingPath : List (PathStep Expr) → Nat
  | [] => 0
  | .property _ :: rest => nestingPath rest
  | .index key :: rest => max (nesting key + 1) (nestingPath rest)

def nestingFilters : List (FilterCall Expr) → Nat
  | [] => 0
  | ⟨_, args, _⟩ :: rest => max (nestingAll args) (nestingFilters rest)

end

/-- The operators of a chain are among the levels that it nests. -/
theorem links_le_nesting (rank : Nat) (expr : Expr) : links rank expr ≤ nesting expr := by
  cases expr with
  | binary extent op left right =>
      rw [links, nesting]
      split
      · rename_i same
        rw [same]
        omega
      · exact Nat.zero_le _
  | _ => exact Nat.zero_le _

theorem links_of_rank {rank : Nat} {expr : Expr} (tighter : rank < expr.rank) :
    links rank expr = 0 := by
  cases expr with
  | binary extent op left right => exact if_neg (Nat.ne_of_gt tighter)
  | _ => rfl

/-- Whether a character may begin an expression. -/
def beginsExpr (c : Char) : Bool :=
  beginsName c || c.isDigit || isQuote c || openingCharacters.elem c

theorem not_blank_of_beginsExpr {c : Char} (begins : beginsExpr c = true) : isBlank c = false := by
  simp only [beginsExpr, Bool.or_eq_true] at begins
  rcases begins with ((name | digit) | quote) | opening
  · exact not_blank_of_continuesName (continuesName_of_beginsName name)
  · exact not_blank_of_isDigit digit
  · simp only [isQuote, Bool.or_eq_true, beq_iff_eq] at quote
    rcases quote with rfl | rfl <;> rfl
  · have inks : openingCharacters.any isBlank = false := rfl
    exact notInClass_of_mem inks (List.mem_of_elem_eq_true opening)

theorem Writes.begins {expr : Expr} {text : List Char} (written : Writes expr text) :
    ∃ c others, text = c :: others ∧ beginsExpr c = true := by
  cases written with
  | string quoted =>
      rcases quoted.text_cons with ⟨quote, others, text, opens⟩
      exact ⟨quote, others, text, by simp [beginsExpr, opens]⟩
  | number numeral =>
      rcases numeral.whole.text_cons with ⟨first, others, text, digit⟩
      refine ⟨first, others ++ (numeral.fractionText ++ numeral.exponentText), ?_, ?_⟩
      · rw [Numeral.unsigned, text, List.cons_append]
      · simp [beginsExpr, digit]
  | trueName | falseName | nullName => exact ⟨_, _, rfl, by decide⟩
  | access root steps => exact ⟨root.first, _, rfl, by simp [beginsExpr, root.begins]⟩
  | call name items => exact ⟨name.first, _, rfl, by simp [beginsExpr, name.begins]⟩
  | array each => exact ⟨_, _, rfl, by decide⟩
  | object each => exact ⟨_, _, rfl, by decide⟩
  | paren before after inside => exact ⟨_, _, rfl, by decide⟩
  | unary after inner =>
      rename_i op operand operandText
      cases op <;> exact ⟨_, _, rfl, by decide⟩
  | filter first others =>
      rcases first.begins with ⟨c, more, rfl, begins⟩
      exact ⟨c, _, rfl, begins⟩
  | binary before after left right =>
      rcases left.begins with ⟨c, more, rfl, begins⟩
      exact ⟨c, _, rfl, begins⟩
  | ternary _ _ _ _ condition _ _ =>
      rcases condition.begins with ⟨c, more, rfl, begins⟩
      exact ⟨c, _, rfl, begins⟩

/-- No white space stands in front of an expression. -/
theorem Writes.trimStart_append {expr : Expr} {text : List Char} (written : Writes expr text)
    (rest : List Char) : trimStart (text ++ rest) = text ++ rest := by
  rcases written.begins with ⟨c, others, rfl, begins⟩
  exact trimStart_cons (not_blank_of_beginsExpr begins)

/-- A class that no expression begins with stops at one behind a gap. -/
theorem Writes.stops {expr : Expr} {text : List Char} (written : Writes expr text)
    {inClass : Char → Bool} (apart : ∀ c, beginsExpr c = true → inClass c = false)
    (spaces : inClass ' ' = false ∧ inClass '\t' = false ∧ inClass '\r' = false ∧
      inClass '\n' = false) (gap : Gap) (rest : List Char) :
    Stops inClass (gap.text ++ (text ++ rest)) := by
  rcases written.begins with ⟨c, others, rfl, begins⟩
  exact gap.stops spaces (stops_cons (apart c begins))

/-- A symbol is not taken where an expression begins. -/
theorem Writes.symbol?_eq_none {expr : Expr} {text : List Char} (written : Writes expr text)
    {symbol : String} {first : Char} {others : List Char} (begins : symbol.toList = first :: others)
    (apart : beginsExpr first = false) (gap : Gap) (rest : List Char) :
    symbol? symbol (gap.text ++ (text ++ rest)) = none := by
  refine symbol?_of_stops begins ?_
  rw [gap.trimStart_append, written.trimStart_append]
  rcases written.begins with ⟨c, more, rfl, here⟩
  exact stops_cons (beq_eq_false_iff_ne.mpr (ne_of_inClass here apart))

theorem WritesItems.length_le {items : List Expr} {inside : List Char}
    (written : WritesItems items inside) : items.length ≤ inside.length := by
  cases written with
  | none gap => exact Nat.zero_le _
  | last before after item =>
      rcases item.begins with ⟨c, others, rfl, _⟩
      simp only [List.length_append, List.length_cons, List.length_nil]
      omega
  | more before after item rest =>
      have later := rest.length_le
      simp only [List.length_append, List.length_cons]
      omega

theorem WritesEntries.length_le {entries : List (String × Expr)} {inside : List Char}
    (written : WritesEntries entries inside) : entries.length ≤ inside.length := by
  cases written with
  | none gap => exact Nat.zero_le _
  | last before beforeColon afterColon after name value =>
      simp only [List.length_append, List.length_cons, List.length_nil]
      omega
  | more before beforeColon afterColon after name value rest =>
      have later := rest.length_le
      simp only [List.length_append, List.length_cons]
      omega

theorem WritesPath.length_le {path : List (PathStep Expr)} {text : List Char}
    (written : WritesPath path text) : path.length ≤ text.length := by
  cases written with
  | nil => exact Nat.zero_le _
  | property name others =>
      have later := others.length_le
      simp only [List.length_append, List.length_cons]
      omega
  | index before after inside others =>
      have later := others.length_le
      simp only [List.length_append, List.length_cons]
      omega

theorem WritesFilters.length_le {calls : List (FilterCall Expr)} {text : List Char}
    (written : WritesFilters calls text) : calls.length ≤ text.length := by
  cases written with
  | nil => exact Nat.zero_le _
  | plain before after name others =>
      have later := others.length_le
      simp only [List.length_append, List.length_cons]
      omega
  | call before after name items others =>
      have later := others.length_le
      simp only [List.length_append, List.length_cons]
      omega

end Expr

end Stencil
