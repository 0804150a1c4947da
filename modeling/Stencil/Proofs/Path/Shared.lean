import Stencil.Proofs.Expr.Bare
import Stencil.Proofs.Number.Numeral
import Stencil.Proofs.Text.Gaps
/-!
# Paths that queries and templates share

Queries and templates have grammars of their own, and texts that belong to both. This file gives
those texts as trees: a path whose roots are plain names other than the constants, with steps by
name, by position, by quoted key or by another path, and after it filters with constants as
arguments. White space may stand wherever both grammars pass over it.

A tree has a text, which is what both readers are given, and two readings: the path that a query
follows, and the expression that a template evaluates.
-/

namespace Stencil

/-- A plain name. -/
structure Identifier where
  first : Char
  others : List Char
  begins : Lexeme.beginsName first = true
  continues : ∀ c ∈ others, Lexeme.continuesName c = true

namespace Identifier

def text (identifier : Identifier) : List Char := identifier.first :: identifier.others

def name (identifier : Identifier) : String := String.ofList identifier.text

end Identifier

namespace Identifier

/-- Every character of a name may continue one. -/
theorem continues_all (identifier : Identifier) :
    ∀ c ∈ identifier.text, Lexeme.continuesName c = true := by
  intro c member
  rcases List.mem_cons.mp member with rfl | member
  · exact Lexeme.continuesName_of_beginsName identifier.begins
  · exact identifier.continues c member

theorem endsInInk (identifier : Identifier) : Text.EndsInInk identifier.text :=
  Text.endsInInk_of_forall (by simp [text]) fun c member =>
    Lexeme.not_blank_of_continuesName (identifier.continues_all c member)

end Identifier

/-- No white space stands in front of a name. -/
theorem Identifier.text_stops (identifier : Identifier) (rest : List Char) :
    Text.Stops Text.isBlank (identifier.text ++ rest) :=
  Text.stops_cons
    (Lexeme.not_blank_of_continuesName (Lexeme.continuesName_of_beginsName identifier.begins))

theorem Identifier.trimStart_append {blanks : List Char}
    (leading : ∀ c ∈ blanks, Text.isBlank c = true) (name : Identifier) (rest : List Char) :
    Text.trimStart (blanks ++ (name.text ++ rest)) = name.text ++ rest := by
  rw [Text.trimStart_append leading]
  exact (name.text_stops rest).dropWhile_eq_self

/-- A plain name that stands for no constant. -/
structure RootName extends Identifier where
  notTrue : toIdentifier.name ≠ "true"
  notFalse : toIdentifier.name ≠ "false"
  notNull : toIdentifier.name ≠ "null"

/-- A plain name in ASCII. -/
structure FilterName extends Identifier where
  ascii : ∀ c ∈ others, (c.isAlphanum || c == '_') = true

/-- Digits of a position that a path can hold. -/
structure PositionDigits extends Digits where
  fits : Number.digitsValue text ≤ Path.Parser.maxPosition

/-- A text in quotes of either kind, with neither that quote nor a backslash in it. -/
structure QuotedText where
  quote : Char
  inside : List Char
  isQuote : quote = '\'' ∨ quote = '"'
  plain : ∀ c ∈ inside, c ≠ quote ∧ c ≠ '\\'

namespace QuotedText

def text (quoted : QuotedText) : List Char :=
  quoted.quote :: (quoted.inside ++ [quoted.quote])

def string (quoted : QuotedText) : String := String.ofList quoted.inside

/-- No white space stands in front of an opening quote. -/
theorem text_stops (quoted : QuotedText) (rest : List Char) :
    Text.Stops Text.isBlank (quoted.text ++ rest) := by
  refine Text.stops_cons ?_
  rcases quoted.isQuote with quote | quote <;> rw [quote] <;> rfl

end QuotedText

mutual

/-- A step of a shared path. -/
inductive SharedStep where
  | property (name : Identifier)
  | bracket (before : Gap) (key : SharedKey) (after : Gap)

/-- What stands in the brackets of a step. -/
inductive SharedKey where
  | position (digits : PositionDigits)
  | quoted (quoted : QuotedText)
  | path (root : RootName) (steps : List SharedStep)

end

mutual

def SharedStep.text : SharedStep → List Char
  | .property name => '.' :: name.text
  | .bracket before key after => '[' :: (before.text ++ (key.text ++ (after.text ++ [']'])))

def SharedKey.text : SharedKey → List Char
  | .position digits => digits.text
  | .quoted quoted => quoted.text
  | .path root steps => root.text ++ SharedStep.texts steps

def SharedStep.texts : List SharedStep → List Char
  | [] => []
  | step :: rest => step.text ++ SharedStep.texts rest

end

/-- No white space stands in front of a key. -/
theorem SharedKey.text_stops (key : SharedKey) (rest : List Char) :
    Text.Stops Text.isBlank (key.text ++ rest) := by
  cases key with
  | position digits =>
      rcases digits.text_cons with ⟨first, others, text, digit⟩
      rw [SharedKey.text, text]
      exact Text.stops_cons (Lexeme.not_blank_of_isDigit digit)
  | quoted quoted => exact quoted.text_stops rest
  | path root steps =>
      rw [SharedKey.text, List.append_assoc]
      exact root.text_stops _

theorem SharedKey.trimStart_text (key : SharedKey) (before : Gap) (rest : List Char) :
    Text.trimStart (before.text ++ (key.text ++ rest)) = key.text ++ rest := by
  rw [before.trimStart_append]
  exact (key.text_stops rest).dropWhile_eq_self

/-- Whether a character begins a further step. -/
def beginsStep (c : Char) : Bool := c == '.' || c == '['

/-- Where a class without points and brackets stops, it stops also with steps put in front. -/
theorem SharedStep.texts_stops {inClass : Char → Bool} {rest : List Char}
    (point : inClass '.' = false) (bracket : inClass '[' = false)
    (behind : Text.Stops inClass rest) (steps : List SharedStep) :
    Text.Stops inClass (SharedStep.texts steps ++ rest) := by
  cases steps with
  | nil => exact behind
  | cons step others =>
      cases step with
      | property name => exact Text.stops_cons point
      | bracket before key after => exact Text.stops_cons bracket

theorem SharedStep.length_texts (steps : List SharedStep) :
    steps.length ≤ (SharedStep.texts steps).length := by
  induction steps with
  | nil => exact Nat.le_refl 0
  | cons step others ih =>
      cases step with
      | property name =>
          simp only [SharedStep.texts, SharedStep.text, List.length_cons, List.length_append]
          omega
      | bracket before key after =>
          simp only [SharedStep.texts, SharedStep.text, List.length_cons, List.length_append]
          omega

theorem SharedStep.text_endsInInk (step : SharedStep) : Text.EndsInInk step.text := by
  cases step with
  | property name => exact name.endsInInk.append ['.']
  | bracket before key after =>
      have closing : Text.EndsInInk [']'] := ⟨[], ']', rfl, rfl⟩
      exact ((closing.append after.text).append key.text).append before.text |>.append ['[']

theorem SharedStep.texts_endsInInk {text : List Char} (ends : Text.EndsInInk text)
    (steps : List SharedStep) : Text.EndsInInk (text ++ SharedStep.texts steps) := by
  induction steps generalizing text with
  | nil => simpa [SharedStep.texts] using ends
  | cons step others ih =>
      have later := ih (step.text_endsInInk.append text)
      rwa [List.append_assoc] at later

mutual

/-- The step that a query takes. -/
def SharedStep.segment : SharedStep → PathSegment
  | .property name => .property name.name
  | .bracket _ key _ => key.segment

def SharedKey.segment : SharedKey → PathSegment
  | .position digits => .index (Number.digitsValue digits.text)
  | .quoted quoted => .property quoted.string
  | .path root steps => .computed (.property root.name :: SharedStep.segments steps)

def SharedStep.segments : List SharedStep → List PathSegment
  | [] => []
  | step :: rest => step.segment :: SharedStep.segments rest

end

theorem SharedStep.length_segments (steps : List SharedStep) :
    (SharedStep.segments steps).length = steps.length := by
  induction steps with
  | nil => rfl
  | cons step others ih => rw [SharedStep.segments, List.length_cons, ih, List.length_cons]

mutual

/-- The step that a template takes, without places. -/
def SharedStep.tree : SharedStep → PathStep Expr
  | .property name => .property name.name
  | .bracket _ key _ => .index key.tree

def SharedKey.tree : SharedKey → Expr
  | .position digits =>
    .literal Extent.nowhere (.number (Float.ofNat (Number.digitsValue digits.text)))
  | .quoted quoted => .literal Extent.nowhere (.string quoted.string)
  | .path root steps => .access Extent.nowhere root.name (SharedStep.trees steps)

def SharedStep.trees : List SharedStep → List (PathStep Expr)
  | [] => []
  | step :: rest => step.tree :: SharedStep.trees rest

end

mutual

/-- How many levels of nesting an expression takes that is written in the brackets of a step. -/
def SharedStep.levels : SharedStep → Nat
  | .property _ => 0
  | .bracket _ key _ => key.levels

def SharedKey.levels : SharedKey → Nat
  | .position _ => 1
  | .quoted _ => 1
  | .path _ steps => SharedStep.deepest steps + 1

def SharedStep.deepest : List SharedStep → Nat
  | [] => 0
  | step :: rest => max step.levels (SharedStep.deepest rest)

end

theorem SharedKey.levels_pos (key : SharedKey) : 0 < key.levels := by
  cases key with
  | position digits => exact Nat.one_pos
  | quoted quoted => exact Nat.one_pos
  | path root steps => exact Nat.succ_pos _

mutual

/-- How many steps the longest path in the brackets of a step has, its root included. -/
def SharedStep.longest : SharedStep → Nat
  | .property _ => 0
  | .bracket _ key _ => key.longest

def SharedKey.longest : SharedKey → Nat
  | .position _ => 0
  | .quoted _ => 0
  | .path _ steps => max (steps.length + 1) (SharedStep.longestAmong steps)

def SharedStep.longestAmong : List SharedStep → Nat
  | [] => 0
  | step :: rest => max step.longest (SharedStep.longestAmong rest)

end

/-- The expression that a number stands for: a sign is an operator in front of it. -/
def Numeral.tree (numeral : Numeral) : Expr :=
  let magnitude := .literal Extent.nowhere (.number numeral.magnitude)
  match numeral.sign with
  | .none => magnitude
  | .plus => .unary Extent.nowhere .plus magnitude
  | .minus => .unary Extent.nowhere .minus magnitude

/-- A constant among the arguments of a filter. -/
inductive SharedLiteral where
  | quoted (quoted : QuotedText)
  | number (numeral : Numeral)
  | bool (b : Bool)
  | null

namespace SharedLiteral

def text : SharedLiteral → List Char
  | quoted inQuotes => inQuotes.text
  | number numeral => numeral.text
  | bool true => "true".toList
  | bool false => "false".toList
  | null => "null".toList

def value : SharedLiteral → Value
  | quoted inQuotes => .string inQuotes.string
  | number numeral => .number numeral.value
  | bool b => .bool b
  | null => .null

def tree : SharedLiteral → Expr
  | quoted inQuotes => .literal Extent.nowhere (.string inQuotes.string)
  | number numeral => numeral.tree
  | bool b => .literal Extent.nowhere (.bool b)
  | null => .literal Extent.nowhere .null

/-- No white space stands in front of a constant. -/
theorem text_stops (constant : SharedLiteral) (rest : List Char) :
    Text.Stops Text.isBlank (constant.text ++ rest) := by
  cases constant with
  | quoted inQuotes => exact inQuotes.text_stops rest
  | number numeral => exact numeral.text_stops rest
  | bool b => cases b <;> exact Text.stops_cons rfl
  | null => exact Text.stops_cons rfl

/-- A constant does not begin where arguments end. -/
theorem text_noBracket (constant : SharedLiteral) (rest : List Char) :
    Text.Stops (· == ')') (constant.text ++ rest) := by
  cases constant with
  | quoted inQuotes =>
      refine Text.stops_cons ?_
      rcases inQuotes.isQuote with quote | quote <;> rw [quote] <;> rfl
  | number numeral =>
      rcases numeral.text_begins with ⟨first, others, text, begins⟩
      rw [SharedLiteral.text, text]
      refine Text.stops_cons ?_
      rw [beq_eq_false_iff_ne]
      exact Text.ne_of_inClass begins rfl
  | bool b => cases b <;> exact Text.stops_cons rfl
  | null => exact Text.stops_cons rfl

end SharedLiteral

/-- An argument of a filter with the white space around it. -/
structure SharedArgument where
  before : Gap
  literal : SharedLiteral
  after : Gap

namespace SharedArgument

def text (argument : SharedArgument) : List Char :=
  argument.before.text ++ (argument.literal.text ++ argument.after.text)

/-- Further arguments, each with its comma. -/
def texts : List SharedArgument → List Char
  | [] => []
  | argument :: rest => ',' :: (argument.text ++ texts rest)

end SharedArgument

theorem SharedArgument.length_texts (others : List SharedArgument) :
    others.length ≤ (SharedArgument.texts others).length := by
  induction others with
  | nil => exact Nat.le_refl 0
  | cons argument others ih =>
      simp only [SharedArgument.texts, List.length_cons, List.length_append]
      omega

/-- An argument ends at the comma of the next one, and the last at the bracket. -/
theorem SharedArgument.texts_boundary (gap : Gap) (others : List SharedArgument)
    (rest : List Char) : Boundary (gap.text ++ (SharedArgument.texts others ++ ')' :: rest)) := by
  cases others with
  | nil => exact .closing gap rest (.inr (.inl rfl))
  | cons argument others => exact .closing gap _ (.inr (.inr rfl))

/-- The arguments of a filter. -/
inductive SharedArguments where
  /-- No brackets at all. -/
  | absent
  | empty (before inside : Gap)
  | listed (before : Gap) (first : SharedArgument) (others : List SharedArgument)

namespace SharedArguments

def text : SharedArguments → List Char
  | absent => []
  | empty before inside => before.text ++ '(' :: (inside.text ++ [')'])
  | listed before first others =>
    before.text ++ '(' :: (first.text ++ (SharedArgument.texts others ++ [')']))

def literals : SharedArguments → List SharedLiteral
  | absent => []
  | empty _ _ => []
  | listed _ first others => first.literal :: others.map SharedArgument.literal

/-- A class without brackets and white space stops at arguments if it stops behind them. -/
theorem text_stops (given : SharedArguments) {inClass : Char → Bool} {rest : List Char}
    (spaces : inClass ' ' = false ∧ inClass '\t' = false ∧ inClass '\r' = false ∧
      inClass '\n' = false) (bracket : inClass '(' = false) (behind : Text.Stops inClass rest) :
    Text.Stops inClass (given.text ++ rest) := by
  cases given with
  | absent => exact behind
  | empty before inside =>
      simp only [text, List.append_assoc]
      exact before.stops spaces (Text.stops_cons bracket)
  | listed before first others =>
      simp only [text, List.append_assoc]
      exact before.stops spaces (Text.stops_cons bracket)

end SharedArguments

/-- A filter with the white space around its bar. -/
structure SharedFilter where
  beforeBar : Gap
  afterBar : Gap
  name : FilterName
  arguments : SharedArguments

namespace SharedFilter

def text (filter : SharedFilter) : List Char :=
  filter.beforeBar.text ++ '|' ::
    (filter.afterBar.text ++ (filter.name.text ++ filter.arguments.text))

def texts : List SharedFilter → List Char
  | [] => []
  | filter :: rest => filter.text ++ texts rest

/-- The filter of a path. -/
def inPath (filter : SharedFilter) : PathFilter :=
  ⟨filter.name.name, filter.arguments.literals.map SharedLiteral.value⟩

/-- The filter of an expression, without places. -/
def inExpr (filter : SharedFilter) : FilterCall Expr :=
  ⟨filter.name.name, filter.arguments.literals.map SharedLiteral.tree, Span.empty⟩

end SharedFilter

theorem SharedFilter.text_endsInInk (filter : SharedFilter) : Text.EndsInInk filter.text := by
  have closing : Text.EndsInInk [')'] := ⟨[], ')', rfl, rfl⟩
  have arguments : Text.EndsInInk (filter.name.text ++ filter.arguments.text) := by
    cases filter.arguments with
    | absent => simpa [SharedArguments.text] using filter.name.endsInInk
    | empty before inside =>
        exact (((closing.append inside.text).append ['(']).append before.text).append _
    | listed before first others =>
        exact ((((closing.append _).append first.text).append ['(']).append before.text).append _
  exact ((arguments.append filter.afterBar.text).append ['|']).append filter.beforeBar.text

theorem SharedFilter.texts_endsInInk {text : List Char} (ends : Text.EndsInInk text)
    (filters : List SharedFilter) : Text.EndsInInk (text ++ SharedFilter.texts filters) := by
  induction filters generalizing text with
  | nil => simpa [SharedFilter.texts] using ends
  | cons filter others ih =>
      have later := ih (filter.text_endsInInk.append text)
      rwa [List.append_assoc] at later

theorem SharedFilter.length_texts (filters : List SharedFilter) :
    filters.length ≤ (SharedFilter.texts filters).length := by
  induction filters with
  | nil => exact Nat.le_refl 0
  | cons filter others ih =>
      simp only [SharedFilter.texts, SharedFilter.text, List.length_cons, List.length_append]
      omega

/-- The bar of a filter stands alone. -/
theorem SharedFilter.afterBar_noBar (filter : SharedFilter) (rest : List Char) :
    Text.Stops (· == '|')
      (filter.afterBar.text ++ (filter.name.text ++ (filter.arguments.text ++ rest))) := by
  refine filter.afterBar.stops (by decide) (Text.stops_cons ?_)
  rw [beq_eq_false_iff_ne]
  exact Text.ne_of_inClass filter.name.begins rfl

/-- What stands in front of filters ends at the first bar. -/
theorem SharedFilter.texts_boundary {rest : List Char} (behind : Boundary rest)
    (filters : List SharedFilter) : Boundary (SharedFilter.texts filters ++ rest) := by
  cases filters with
  | nil => exact behind
  | cons filter others =>
      have boundary := Boundary.bar filter.beforeBar
        (filter.afterBar_noBar (SharedFilter.texts others ++ rest))
      simpa [SharedFilter.texts, SharedFilter.text] using boundary

/-- A path with filters after it and white space around all of it. -/
structure SharedQuery where
  leading : Gap
  root : RootName
  steps : List SharedStep
  filters : List SharedFilter
  trailing : Gap

namespace SharedQuery

/-- A query without the white space around it. -/
def core (query : SharedQuery) : List Char :=
  query.root.text ++ (SharedStep.texts query.steps ++ SharedFilter.texts query.filters)

def text (query : SharedQuery) : String :=
  String.ofList (query.leading.text ++ (query.core ++ query.trailing.text))

theorem core_endsInInk (query : SharedQuery) : Text.EndsInInk query.core := by
  have path := SharedStep.texts_endsInInk query.root.endsInInk query.steps
  have filtered := SharedFilter.texts_endsInInk path query.filters
  rwa [List.append_assoc] at filtered

/-- Trimming takes away the white space around a query and no more. -/
theorem trim_text (query : SharedQuery) : Text.trim query.text.toList = query.core := by
  rw [text, String.toList_ofList]
  exact Text.trim_between (query.root.text_stops _) query.core_endsInInk query.leading.blank
    query.trailing.blank

/-- The steps of a query, the first of which finds its root. -/
def segments (query : SharedQuery) : List PathSegment :=
  .property query.root.name :: SharedStep.segments query.steps

/-- The path of a query as what stands in brackets. -/
def path (query : SharedQuery) : SharedKey := .path query.root query.steps

/-- The expression that a query is in a template, without places. -/
def tree (query : SharedQuery) : Expr :=
  if query.filters.isEmpty then query.path.tree
  else .filter Extent.nowhere query.path.tree (query.filters.map SharedFilter.inExpr)

theorem trimStart_text (query : SharedQuery) : Text.trimStart query.text.toList =
    query.path.text ++ (SharedFilter.texts query.filters ++ query.trailing.text) := by
  rw [text, String.toList_ofList, query.leading.trimStart_append]
  simp only [core, path, SharedKey.text, List.append_assoc]
  exact (query.root.text_stops _).dropWhile_eq_self

end SharedQuery

end Stencil
