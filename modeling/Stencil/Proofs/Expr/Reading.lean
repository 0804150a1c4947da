import Stencil.Expr.Parser
import Stencil.Proofs.Text.Gaps
/-!
# Reading an expression that is a single operand

Between a whole expression and what it begins with lie filters, a conditional and six levels of
operators. At a boundary none of them goes on, so what reads an operand in front of a boundary is
all that the looser readers read, as long as a level of nesting is left.
-/

namespace Stencil

open Text

namespace Lexeme

theorem exactly?_of_stops {first : Char} {others text : List Char}
    (stops : Stops (· == first) text) : exactly? (first :: others) text = none := by
  cases text with
  | nil => rfl
  | cons c rest =>
      have differs : ¬first = c := by
        intro same
        have outside := stops.head
        simp [same] at outside
      rw [exactly?, if_neg differs]

/-- A symbol is not taken where another character stands. -/
theorem symbol?_of_stops {symbol : String} {first : Char} {others text : List Char}
    (begins : symbol.toList = first :: others) (stops : Stops (· == first) (trimStart text)) :
    symbol? symbol text = none := by
  rw [symbol?, begins, exactly?_of_stops stops]

theorem symbol?_gap (gap : Gap) {symbol : String} {first : Char} {rest : List Char}
    (begins : symbol.toList = [first]) (ink : isBlank first = false) :
    symbol? symbol (gap.text ++ first :: rest) = some rest := by
  rw [symbol?, begins, gap.trimStart_append, trimStart_cons ink, exactly?, if_pos rfl, exactly?]

/-- A symbol is not taken at a boundary unless it may stand there. -/
theorem symbol?_of_boundary {symbol : String} {first : Char} {others rest : List Char}
    (begins : symbol.toList = first :: others) (outside : first ∉ boundaryCharacters)
    (boundary : Boundary rest) : symbol? symbol rest = none := by
  apply symbol?_of_stops begins
  have differs : ∀ c ∈ boundaryCharacters, (c == first) = false := by
    intro c member
    rw [beq_eq_false_iff_ne]
    rintro rfl
    exact outside member
  cases boundary with
  | blank gap =>
      have nothing : trimStart (gap.text ++ []) = [] := gap.trimStart_append []
      rw [List.append_nil] at nothing
      rw [nothing]
      exact stops_nil
  | closing gap rest isClosing =>
      rw [gap.trimStart_append]
      rcases isClosing with rfl | rfl | rfl <;>
        exact stops_cons (differs _ (by decide))
  | bar gap single =>
      rw [gap.trimStart_append]
      exact stops_cons (differs _ (by decide))

/-- The bar of a filter is not taken for a disjunction. -/
theorem symbol?_bars_of_boundary {rest : List Char} (boundary : Boundary rest) :
    symbol? "||" rest = none := by
  have begins : "||".toList = ['|', '|'] := rfl
  cases boundary with
  | blank gap =>
      have nothing : trimStart (gap.text ++ []) = [] := gap.trimStart_append []
      rw [List.append_nil] at nothing
      rw [symbol?, begins, nothing]
      rfl
  | closing gap rest isClosing =>
      rw [symbol?, begins, gap.trimStart_append]
      rcases isClosing with rfl | rfl | rfl <;> rfl
  | bar gap single =>
      rename_i rest
      rw [symbol?, begins, gap.trimStart_append, trimStart_cons rfl]
      cases rest with
      | nil => rfl
      | cons c others =>
          have differs : ¬( '|' = c) := by
            rintro rfl
            exact absurd single.head (by decide)
          rw [exactly?, if_pos rfl, exactly?, if_neg differs]

/-- No operator stands at a boundary. -/
theorem operator?_of_boundary (level : Level) {rest : List Char} (boundary : Boundary rest) :
    operator? level rest = none := by
  rw [operator?, List.findSome?_eq_none_iff]
  intro op _
  rw [Option.map_eq_none_iff]
  cases op with
  | or => exact symbol?_bars_of_boundary boundary
  | _ => exact symbol?_of_boundary rfl (by decide) boundary

end Lexeme

namespace Expr.Parser

open Lexeme

theorem methodCall?_of_stops {text : List Char} (noPoint : Stops (· == '.') text) :
    methodCall? text = none := by
  unfold methodCall?
  split
  · exact absurd noPoint.head (by decide)
  · rfl

theorem property?_of_stops {text : List Char} (noPoint : Stops (· == '.') text) :
    property? text = none := by
  unfold property?
  split
  · exact absurd noPoint.head (by decide)
  · rfl

theorem require_of_some {α : Type} {word? : List Char → Option (α × List Char)} {text : List Char}
    {read : α × List Char} (found : word? text = some read) : require word? text = .ok read := by
  rw [require, found]

/-- The characters that open a grouping or a collection, or stand in front of an operand. -/
def openingCharacters : List Char := ['(', '[', '\x7b', '!', '-', '+']

theorem unaryOp?_cons {c : Char} {others : List Char} (plain : c ∉ openingCharacters) :
    unaryOp? (c :: others) = none := by
  simp only [openingCharacters, List.mem_cons, not_or] at plain
  unfold unaryOp?
  split
  · rename_i heads
    exact absurd (List.cons.inj heads).1 plain.2.2.2.1
  · rename_i heads
    exact absurd (List.cons.inj heads).1 plain.2.2.2.2.1
  · rename_i heads
    exact absurd (List.cons.inj heads).1 plain.2.2.2.2.2.1
  · rfl

/-- What begins with no bracket begins with a constant or a name. -/
theorem primary_other (source : Source) (pipeline : Reader Expr) {c : Char} {others : List Char}
    (ink : isBlank c = false) (noGrouping : c ≠ '(') (noArray : c ≠ '[') (noObject : c ≠ '\x7b') :
    primary source pipeline (c :: others) =
      if isQuote c then do
        let (s, rest) ← require quoted? (c :: others)
        pure (.literal (source.extent (c :: others) rest) (.string s), rest)
      else if c.isDigit then do
        let (x, rest) ← require number? (c :: others)
        pure (.literal (source.extent (c :: others) rest) (.number x), rest)
      else named source pipeline (c :: others) (c :: others) := by
  unfold primary
  rw [trimStart_cons ink]
  dsimp only
  split
  · rename_i heads
    exact absurd (List.cons.inj heads).1 noGrouping
  · rename_i heads
    exact absurd (List.cons.inj heads).1 noArray
  · rename_i heads
    exact absurd (List.cons.inj heads).1 noObject
  · rename_i heads
    cases heads
    rfl
  · rename_i heads
    cases heads

theorem primary_cons (source : Source) (pipeline : Reader Expr) {c : Char} {others : List Char}
    (ink : isBlank c = false) (plain : c ∉ openingCharacters) :
    primary source pipeline (c :: others) =
      if isQuote c then do
        let (s, rest) ← require quoted? (c :: others)
        pure (.literal (source.extent (c :: others) rest) (.string s), rest)
      else if c.isDigit then do
        let (x, rest) ← require number? (c :: others)
        pure (.literal (source.extent (c :: others) rest) (.number x), rest)
      else named source pipeline (c :: others) (c :: others) := by
  simp only [openingCharacters, List.mem_cons, not_or] at plain
  exact primary_other source pipeline ink plain.1 plain.2.1 plain.2.2.1

theorem filters_of_noPipe (source : Source) (pipeline : Reader Expr) (fuel : Nat)
    {text : List Char} (noPipe : pipe? text = none) :
    filters source pipeline fuel text = .ok ([], text) := by
  cases fuel with
  | zero => rfl
  | succ fuel => rw [filters, noPipe]

namespace Grammar

/-- The readers with one level less than the given number. -/
def inner (source : Source) : Nat → Option Grammar
  | 0 => none
  | levels + 1 => some (ofLevels source levels)

theorem pipeline_ofLevels (source : Source) (levels : Nat) :
    (ofLevels source levels).pipeline = readPipeline source (inner source levels) := by
  cases levels <;> rfl

theorem ternary_ofLevels (source : Source) (levels : Nat) :
    (ofLevels source levels).ternary = readTernary source (inner source levels) := by
  cases levels <;> rfl

theorem operand_ofLevels (source : Source) (levels : Nat) :
    (ofLevels source levels).operand = readOperand source (inner source levels) := by
  cases levels <;> rfl

theorem chain_ofLevels (source : Source) (levels : Nat) :
    (ofLevels source levels).chain = readChain source (inner source levels) := by
  cases levels <;> rfl

theorem unary_ofLevels (source : Source) (levels : Nat) :
    (ofLevels source levels).unary = readUnary source (inner source levels) := by
  cases levels <;> rfl

variable {source : Source} {grammar : Option Grammar} {start rest : List Char} {expr : Expr}

/-- A primary expression in front of a boundary is an operand. -/
theorem readUnary_of_primary (begins : trimStart start = start) (noSign : unaryOp? start = none)
    (read : primary source (readPipeline source grammar) start = .ok (expr, rest))
    (boundary : Boundary rest) : readUnary source grammar start = .ok (expr, rest) := by
  have noMethod : methodCall? rest = none := methodCall?_of_stops (boundary.stops (by decide))
  simp only [readUnary, begins, noSign, read, readMethods, bind, Except.bind]
  rw [noMethod]

theorem readOperand_of_unary (begins : trimStart start = start)
    (read : readUnary source grammar start = .ok (expr, rest)) (boundary : Boundary rest)
    (levels : List Level) : readOperand source grammar levels start = .ok (expr, rest) := by
  induction levels with
  | nil => exact read
  | cons level tighter ih =>
      have noOperator := operator?_of_boundary level boundary
      rw [readOperand]
      simp only [begins, ih, bind, Except.bind, readChain, noOperator]

theorem readTernary_of_unary (begins : trimStart start = start)
    (read : readUnary source grammar start = .ok (expr, rest)) (boundary : Boundary rest) :
    readTernary source grammar start = .ok (expr, rest) := by
  have operand := readOperand_of_unary begins read boundary Level.all
  have noMark : symbol? "?" rest = none := symbol?_of_boundary rfl (by decide) boundary
  simp only [readTernary, begins, operand, bind, Except.bind, noMark]
  rfl

/-- A whole expression takes a level. -/
theorem pipeline_succ (source : Source) (levels : Nat) (text : List Char) :
    (ofLevels source (levels + 1)).pipeline text = (do
      let (input, afterInput) ← readTernary source (inner source levels) (trimStart text)
      let (calls, rest) ←
        filters source (ofLevels source levels).pipeline afterInput.length afterInput
      if calls.isEmpty then pure (input, rest)
      else pure (.filter (source.extent (trimStart text) rest) input calls, rest)) := by
  cases levels <;> rfl

/-- An operand is a whole expression if a level is left and no filter follows. -/
theorem pipeline_of_unary {levels : Nat} {text : List Char} (begins : trimStart text = start)
    (read : readUnary source (inner source levels) start = .ok (expr, rest))
    (boundary : Boundary rest) (noPipe : pipe? rest = none) :
    (ofLevels source (levels + 1)).pipeline text = .ok (expr, rest) := by
  have again : trimStart start = start := by
    rw [← begins]
    exact (stops_dropWhile isBlank text).dropWhile_eq_self
  have unfiltered := filters_of_noPipe source (ofLevels source levels).pipeline rest.length noPipe
  rw [pipeline_succ, begins, readTernary_of_unary again read boundary]
  simp only [bind, Except.bind, unfiltered, List.isEmpty_nil, if_true]
  rfl

variable {failure : Failure}

/-- Where nothing is left, no expression can be read. -/
theorem pipeline_zero (source : Source) (text : List Char) :
    (ofLevels source 0).pipeline text = .error (.tooDeep (trimStart text)) := rfl

theorem readUnary_of_failure (begins : trimStart start = start) (noSign : unaryOp? start = none)
    (failed : primary source (readPipeline source grammar) start = .error failure) :
    readUnary source grammar start = .error failure := by
  simp only [readUnary, begins, noSign, failed, bind, Except.bind]

theorem readOperand_of_failure (begins : trimStart start = start)
    (failed : readUnary source grammar start = .error failure) (levels : List Level) :
    readOperand source grammar levels start = .error failure := by
  induction levels with
  | nil => exact failed
  | cons level tighter ih =>
      rw [readOperand]
      simp only [begins, ih, bind, Except.bind]

/-- A whole expression fails where the operand that it begins with does. -/
theorem pipeline_of_failure {levels : Nat} {text : List Char} (begins : trimStart text = start)
    (failed : readUnary source (inner source levels) start = .error failure) :
    (ofLevels source (levels + 1)).pipeline text = .error failure := by
  have again : trimStart start = start := by
    rw [← begins]
    exact (stops_dropWhile isBlank text).dropWhile_eq_self
  have operand := readOperand_of_failure again failed Level.all
  have ternary : readTernary source (inner source levels) start = .error failure := by
    simp only [readTernary, again, operand, bind, Except.bind]
  rw [pipeline_succ, begins, ternary]
  rfl

end Grammar

/-- A text is an expression if nothing but white space is left behind a whole expression. -/
theorem parse_of_pipeline {origin : Position} {text after : List Char} {expr : Expr}
    (nonempty : (trim text).isEmpty = false)
    (read : (Grammar.ofLevels (Source.ofText origin text) maxLevels).pipeline text =
      .ok (expr, after)) (blank : trimStart after = []) : parse origin text = .ok expr := by
  rw [parse, nonempty]
  simp only [Bool.false_eq_true, if_false, read, blank, List.isEmpty_nil, if_true]

/-- A text is refused where the reading of a whole expression fails. -/
theorem parse_of_failure {origin : Position} {text : List Char} {failure : Failure}
    (nonempty : (trim text).isEmpty = false)
    (failed : (Grammar.ofLevels (Source.ofText origin text) maxLevels).pipeline text =
      .error failure) :
    parse origin text = .error ((Source.ofText origin text).failure failure) := by
  rw [parse, nonempty]
  simp only [Bool.false_eq_true, if_false, failed]

end Expr.Parser

end Stencil
