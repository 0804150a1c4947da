import Stencil.Expr.Parser
import Stencil.Proofs.Expr.Words
/-!
# The forms that are read

A reader of expressions that succeeds has read one of a few forms. For each reader a relation lists
its forms, with what was read of their parts from left to right, and a lemma says that there are no
others. Whatever all readings have in common is then shown form by form, without a look into the
readers.
-/

namespace Stencil.Expr.Parser

open Text Lexeme

variable {source : Source} {text start rest : List Char} {expr : Expr}

section Results

variable {α β ε : Type}

theorem bind_eq_ok {first : Except ε α} {next : α → Except ε β} {result : β} :
    first >>= next = .ok result ↔ ∃ value, first = .ok value ∧ next value = .ok result := by
  cases first with
  | error failure =>
      refine ⟨fun absurd => ?_, ?_⟩
      · cases absurd
      · rintro ⟨value, absurd, _⟩
        cases absurd
  | ok value =>
      refine ⟨fun read => ⟨value, rfl, read⟩, ?_⟩
      rintro ⟨other, same, read⟩
      cases same
      exact read

theorem expect_eq_ok {symbol : String} :
    expect symbol text = .ok rest ↔ symbol? symbol text = some rest := by
  unfold expect
  split
  · rename_i found
    simp [found]
  · rename_i missing
    simp [missing]

theorem require_eq_ok {word? : List Char → Option (α × List Char)} {read : α × List Char} :
    require word? text = .ok read ↔ word? text = some read := by
  unfold require
  split
  · rename_i found
    simp [found]
  · rename_i missing
    simp [missing]

end Results

/-- Items with commas between them, up to a closing symbol. -/
inductive ItemsRead {α : Type} (item : Reader α) (closing : String) :
    List Char → List α → List Char → Prop where
  | none {text rest : List Char} (closed : symbol? closing text = some rest) :
      ItemsRead item closing text [] rest
  | last {text afterItem rest : List Char} {value : α}
      (read : item text = .ok (value, afterItem)) (closed : symbol? closing afterItem = some rest) :
      ItemsRead item closing text [value] rest
  | more {text afterItem afterComma rest : List Char} {value : α} {others : List α}
      (read : item text = .ok (value, afterItem)) (comma : symbol? "," afterItem = some afterComma)
      (later : ItemsRead item closing afterComma others rest) :
      ItemsRead item closing text (value :: others) rest

theorem itemsRead_of_separated {α : Type} {item : Reader α} {closing : String} {fuel : Nat}
    {items : List α} (read : separated item closing fuel text = .ok (items, rest)) :
    ItemsRead item closing text items rest := by
  induction fuel generalizing text items with
  | zero => cases read
  | succ fuel ih =>
      rw [separated] at read
      split at read
      · rename_i closed
        cases read
        exact .none closed
      · simp only [bind_eq_ok, Prod.exists] at read
        rcases read with ⟨first, afterItem, readFirst, read⟩
        split at read
        · rename_i comma
          simp only [bind_eq_ok, Prod.exists] at read
          rcases read with ⟨others, left, readOthers, read⟩
          cases read
          exact .more readFirst comma (ih readOthers)
        · simp only [bind_eq_ok, expect_eq_ok] at read
          rcases read with ⟨left, closed, read⟩
          cases read
          exact .last readFirst closed

section Parts

variable {pipeline : Reader Expr}

theorem entry_eq_ok {pair : String × Expr} : entry pipeline text = .ok (pair, rest) ↔
    ∃ afterKey afterColon, key text = .ok (pair.1, afterKey) ∧
      symbol? ":" afterKey = some afterColon ∧ pipeline afterColon = .ok (pair.2, rest) := by
  simp only [entry, bind_eq_ok, Prod.exists, expect_eq_ok]
  constructor
  · rintro ⟨name, afterKey, readKey, afterColon, colon, value, left, readValue, read⟩
    cases read
    exact ⟨afterKey, afterColon, readKey, colon, readValue⟩
  · rintro ⟨afterKey, afterColon, readKey, colon, readValue⟩
    exact ⟨pair.1, afterKey, readKey, afterColon, colon, pair.2, rest, readValue, rfl⟩

/-- The steps of a path. -/
inductive PathRead (pipeline : Reader Expr) :
    List Char → List (PathStep Expr) → List Char → Prop where
  | none {text : List Char} : PathRead pipeline text [] text
  | property {text afterName rest : List Char} {name : String} {path : List (PathStep Expr)}
      (named : property? text = some (name, afterName))
      (later : PathRead pipeline afterName path rest) :
      PathRead pipeline text (.property name :: path) rest
  | index {afterBracket afterKey afterClosing rest : List Char} {key : Expr}
      {path : List (PathStep Expr)} (read : pipeline afterBracket = .ok (key, afterKey))
      (closed : symbol? "]" afterKey = some afterClosing)
      (later : PathRead pipeline afterClosing path rest) :
      PathRead pipeline ('[' :: afterBracket) (.index key :: path) rest

theorem pathRead_of_steps {fuel : Nat} {path : List (PathStep Expr)}
    (read : steps pipeline fuel text = .ok (path, rest)) : PathRead pipeline text path rest := by
  induction fuel generalizing text path with
  | zero =>
      cases read
      exact .none
  | succ fuel ih =>
      unfold steps at read
      split at read
      · cases read
        exact .none
      · split at read
        · rename_i named
          simp only [bind_eq_ok, Prod.exists] at read
          rcases read with ⟨later, left, readLater, read⟩
          cases read
          exact .property named (ih readLater)
        · simp only [bind_eq_ok, Prod.exists, expect_eq_ok] at read
          rcases read with
            ⟨key, afterKey, readKey, afterClosing, closed, later, left, readLater, read⟩
          cases read
          exact .index readKey closed (ih readLater)
        · cases read
          exact .none

/-- The names that stand for constants. -/
def constants : List (String × Literal) :=
  [("true", .bool true), ("false", .bool false), ("null", .null)]

/-- What a name begins. -/
inductive NamedRead (source : Source) (pipeline : Reader Expr) (start : List Char) :
    Expr → List Char → Prop where
  | constant {rest : List Char} {name : String} {value : Literal}
      (named : name? start = some (name, rest)) (stands : (name, value) ∈ constants) :
      NamedRead source pipeline start (.literal (source.extent start rest) value) rest
  | call {afterName afterBracket rest : List Char} {name : String} {args : List Expr}
      (named : name? start = some (name, afterName)) (free : name ∉ constants.map Prod.fst)
      (bracket : symbol? "(" afterName = some afterBracket)
      (readArgs : ItemsRead pipeline ")" afterBracket args rest) :
      NamedRead source pipeline start (.call (source.extent start rest) name args) rest
  | access {afterName rest : List Char} {name : String} {path : List (PathStep Expr)}
      (named : name? start = some (name, afterName)) (free : name ∉ constants.map Prod.fst)
      (readPath : PathRead pipeline afterName path rest) :
      NamedRead source pipeline start (.access (source.extent start rest) name path) rest

theorem namedRead_of_named (read : named source pipeline start start = .ok (expr, rest)) :
    NamedRead source pipeline start expr rest := by
  simp only [named, bind_eq_ok, Prod.exists, require_eq_ok] at read
  rcases read with ⟨name, afterName, named, read⟩
  split at read
  · rename_i same
    cases read
    exact .constant named (by simp [constants, same])
  · split at read
    · rename_i same
      cases read
      exact .constant named (by simp [constants, same])
    · split at read
      · rename_i same
        cases read
        exact .constant named (by simp [constants, same])
      · rename_i notTrue notFalse notNull
        have free : name ∉ constants.map Prod.fst := by
          simp [constants, notTrue, notFalse, notNull]
        split at read
        · rename_i bracket
          simp only [bind_eq_ok, Prod.exists] at read
          rcases read with ⟨args, left, readArgs, read⟩
          cases read
          exact .call named free bracket (itemsRead_of_separated readArgs)
        · simp only [bind_eq_ok, Prod.exists] at read
          rcases read with ⟨path, left, readPath, read⟩
          cases read
          exact .access named free (pathRead_of_steps readPath)

/-- A grouping, a collection, a constant or what a name begins. -/
inductive PrimaryRead (source : Source) (pipeline : Reader Expr) :
    List Char → Expr → List Char → Prop where
  | grouping {afterBracket afterInner rest : List Char} {inner : Expr}
      (readInner : pipeline afterBracket = .ok (inner, afterInner))
      (closed : symbol? ")" afterInner = some rest) :
      PrimaryRead source pipeline ('(' :: afterBracket)
        (.paren (source.extent ('(' :: afterBracket) rest) inner) rest
  | array {afterBracket rest : List Char} {items : List Expr}
      (readItems : ItemsRead pipeline "]" afterBracket items rest) :
      PrimaryRead source pipeline ('[' :: afterBracket)
        (.array (source.extent ('[' :: afterBracket) rest) items) rest
  | object {afterBrace rest : List Char} {entries : List (String × Expr)}
      (readEntries : ItemsRead (entry pipeline) "\x7d" afterBrace entries rest) :
      PrimaryRead source pipeline ('\x7b' :: afterBrace)
        (.object (source.extent ('\x7b' :: afterBrace) rest) entries) rest
  | text {start rest : List Char} {content : String}
      (quoted : quoted? start = some (content, rest)) :
      PrimaryRead source pipeline start
        (.literal (source.extent start rest) (.string content)) rest
  | number {start rest : List Char} {x : Float} (digits : number? start = some (x, rest)) :
      PrimaryRead source pipeline start (.literal (source.extent start rest) (.number x)) rest
  | named {start rest : List Char} {expr : Expr}
      (form : NamedRead source pipeline start expr rest) :
      PrimaryRead source pipeline start expr rest

theorem primaryRead_of_primary (read : primary source pipeline text = .ok (expr, rest)) :
    PrimaryRead source pipeline (trimStart text) expr rest := by
  unfold primary at read
  generalize trimStart text = start at read ⊢
  dsimp only at read
  split at read
  · simp only [bind_eq_ok, Prod.exists, expect_eq_ok] at read
    rcases read with ⟨inner, afterInner, readInner, left, closed, read⟩
    cases read
    exact .grouping readInner closed
  · simp only [bind_eq_ok, Prod.exists] at read
    rcases read with ⟨items, left, readItems, read⟩
    cases read
    exact .array (itemsRead_of_separated readItems)
  · simp only [bind_eq_ok, Prod.exists] at read
    rcases read with ⟨entries, left, readEntries, read⟩
    cases read
    exact .object (itemsRead_of_separated readEntries)
  · split at read
    · simp only [bind_eq_ok, Prod.exists, require_eq_ok] at read
      rcases read with ⟨content, left, readQuoted, read⟩
      cases read
      exact .text readQuoted
    · split at read
      · simp only [bind_eq_ok, Prod.exists, require_eq_ok] at read
        rcases read with ⟨x, left, readNumber, read⟩
        cases read
        exact .number readNumber
      · exact .named (namedRead_of_named read)
  · cases read

/-- A filter behind its pipe. -/
inductive FilterRead (source : Source) (pipeline : Reader Expr) (start : List Char) :
    FilterCall Expr → List Char → Prop where
  | bare {rest : List Char} {name : String} (named : name? start = some (name, rest)) :
      FilterRead source pipeline start ⟨name, [], source.span start rest⟩ rest
  | called {afterName afterBracket rest : List Char} {name : String} {args : List Expr}
      (named : name? start = some (name, afterName))
      (bracket : symbol? "(" afterName = some afterBracket)
      (readArgs : ItemsRead pipeline ")" afterBracket args rest) :
      FilterRead source pipeline start ⟨name, args, source.span start rest⟩ rest

theorem filterRead_of_filterCall {call : FilterCall Expr}
    (read : filterCall source pipeline text = .ok (call, rest)) :
    FilterRead source pipeline (trimStart text) call rest := by
  simp only [filterCall, bind_eq_ok, Prod.exists, require_eq_ok] at read
  rcases read with ⟨name, afterName, named, read⟩
  split at read
  · rename_i bracket
    simp only [bind_eq_ok, Prod.exists] at read
    rcases read with ⟨args, left, readArgs, read⟩
    cases read
    exact .called named bracket (itemsRead_of_separated readArgs)
  · cases read
    exact .bare named

/-- Filters, each behind a pipe. -/
inductive FiltersRead (source : Source) (pipeline : Reader Expr) :
    List Char → List (FilterCall Expr) → List Char → Prop where
  | none {text : List Char} : FiltersRead source pipeline text [] text
  | more {text afterPipe afterCall rest : List Char} {call : FilterCall Expr}
      {others : List (FilterCall Expr)} (bar : pipe? text = some afterPipe)
      (readCall : filterCall source pipeline afterPipe = .ok (call, afterCall))
      (later : FiltersRead source pipeline afterCall others rest) :
      FiltersRead source pipeline text (call :: others) rest

theorem filtersRead_of_filters {fuel : Nat} {calls : List (FilterCall Expr)}
    (read : filters source pipeline fuel text = .ok (calls, rest)) :
    FiltersRead source pipeline text calls rest := by
  induction fuel generalizing text calls with
  | zero =>
      cases read
      exact .none
  | succ fuel ih =>
      rw [filters] at read
      split at read
      · cases read
        exact .none
      · rename_i bar
        simp only [bind_eq_ok, Prod.exists] at read
        rcases read with ⟨first, afterFirst, readFirst, others, left, readOthers, read⟩
        cases read
        exact .more bar readFirst (ih readOthers)

end Parts

namespace Grammar

variable {inner : Option Grammar}

theorem enter_eq_ok {α : Type} {read : Grammar → Except Failure α} {result : α}
    (entered : enter inner text read = .ok result) :
    ∃ grammar ∈ inner, read grammar = .ok result := by
  cases inner with
  | none => cases entered
  | some grammar => exact ⟨grammar, rfl, entered⟩

/-- A whole expression, with or without filters. -/
inductive PipelineRead (source : Source) (inner : Option Grammar) (start : List Char) :
    Expr → List Char → Prop where
  | plain {grammar : Grammar} {rest : List Char} {expr : Expr} (member : grammar ∈ inner)
      (readInput : grammar.ternary start = .ok (expr, rest)) :
      PipelineRead source inner start expr rest
  | filtered {grammar : Grammar} {afterInput rest : List Char} {input : Expr}
      {call : FilterCall Expr} {others : List (FilterCall Expr)} (member : grammar ∈ inner)
      (readInput : grammar.ternary start = .ok (input, afterInput))
      (readCalls : FiltersRead source grammar.pipeline afterInput (call :: others) rest) :
      PipelineRead source inner start (.filter (source.extent start rest) input (call :: others))
        rest

theorem pipelineRead_of_readPipeline (read : readPipeline source inner text = .ok (expr, rest)) :
    PipelineRead source inner (trimStart text) expr rest := by
  rcases enter_eq_ok read with ⟨grammar, member, read⟩
  simp only [bind_eq_ok, Prod.exists] at read
  rcases read with ⟨input, afterInput, readInput, calls, left, readCalls, read⟩
  cases filtersRead_of_filters readCalls with
  | none =>
      cases read
      exact .plain member readInput
  | more bar readCall later =>
      cases read
      exact .filtered member readInput (.more bar readCall later)

/-- Calls of methods behind what has been read. -/
inductive MethodsRead (source : Source) (inner : Option Grammar) (start : List Char)
    (receiver : Expr) (text : List Char) : Expr → List Char → Prop where
  | none : MethodsRead source inner start receiver text receiver text
  | call {grammar : Grammar} {afterBracket afterArgs rest : List Char} {name : String}
      {args : List Expr} {expr : Expr} (called : methodCall? text = some (name, afterBracket))
      (member : grammar ∈ inner)
      (readArgs : ItemsRead grammar.pipeline ")" afterBracket args afterArgs)
      (later : grammar.methods start
        (.call (source.extent start afterArgs) name (receiver :: args)) afterArgs =
          .ok (expr, rest)) :
      MethodsRead source inner start receiver text expr rest

theorem methodsRead_of_readMethods {receiver : Expr}
    (read : readMethods source inner start receiver text = .ok (expr, rest)) :
    MethodsRead source inner start receiver text expr rest := by
  unfold readMethods at read
  split at read
  · cases read
    exact .none
  · rename_i called
    rcases enter_eq_ok read with ⟨grammar, member, read⟩
    simp only [bind_eq_ok, Prod.exists] at read
    rcases read with ⟨args, afterArgs, readArgs, later⟩
    exact .call called member (itemsRead_of_separated readArgs) later

/-- An operand behind an operator, or a primary expression with calls of methods behind it. -/
inductive UnaryRead (source : Source) (inner : Option Grammar) (start : List Char) :
    Expr → List Char → Prop where
  | sign {grammar : Grammar} {afterOp rest : List Char} {op : UnaryOp} {operand : Expr}
      (sign : unaryOp? start = some (op, afterOp)) (member : grammar ∈ inner)
      (readOperand : grammar.unary afterOp = .ok (operand, rest)) :
      UnaryRead source inner start (.unary (source.extent start rest) op operand) rest
  | primary {afterFirst rest : List Char} {first expr : Expr}
      (readFirst : primary source (readPipeline source inner) start = .ok (first, afterFirst))
      (later : readMethods source inner start first afterFirst = .ok (expr, rest)) :
      UnaryRead source inner start expr rest

theorem unaryRead_of_readUnary (read : readUnary source inner text = .ok (expr, rest)) :
    UnaryRead source inner (trimStart text) expr rest := by
  unfold readUnary at read
  dsimp only at read
  split at read
  · rename_i sign
    rcases enter_eq_ok read with ⟨grammar, member, read⟩
    simp only [bind_eq_ok, Prod.exists] at read
    rcases read with ⟨operand, left, readOperand, read⟩
    cases read
    exact .sign sign member readOperand
  · simp only [bind_eq_ok, Prod.exists] at read
    rcases read with ⟨first, afterFirst, readFirst, later⟩
    exact .primary readFirst later

/-- Links of a chain behind what has been read of it. -/
inductive ChainRead (source : Source) (inner : Option Grammar) (level : Level)
    (tighter : List Level) (start : List Char) (left : Expr) (text : List Char) :
    Expr → List Char → Prop where
  | none : ChainRead source inner level tighter start left text left text
  | link {grammar : Grammar} {afterOp afterRight rest : List Char} {op : BinaryOp}
      {right expr : Expr} (taken : operator? level text = some (op, afterOp))
      (member : grammar ∈ inner)
      (readRight : grammar.operand tighter afterOp = .ok (right, afterRight))
      (later : grammar.chain level tighter start
        (.binary (source.extent start afterRight) op left right) afterRight = .ok (expr, rest)) :
      ChainRead source inner level tighter start left text expr rest

theorem chainRead_of_readChain {level : Level} {tighter : List Level} {left : Expr}
    (read : readChain source inner level tighter start left text = .ok (expr, rest)) :
    ChainRead source inner level tighter start left text expr rest := by
  unfold readChain at read
  split at read
  · cases read
    exact .none
  · rename_i taken
    rcases enter_eq_ok read with ⟨grammar, member, read⟩
    simp only [bind_eq_ok, Prod.exists] at read
    rcases read with ⟨right, afterRight, readRight, later⟩
    exact .link taken member readRight later

/-- An operand of some levels begins with one of the tighter levels. -/
theorem readOperand_cons_eq_ok {level : Level} {tighter : List Level} :
    readOperand source inner (level :: tighter) text = .ok (expr, rest) ↔
      ∃ left afterLeft,
        readOperand source inner tighter (trimStart text) = .ok (left, afterLeft) ∧
        readChain source inner level tighter (trimStart text) left afterLeft = .ok (expr, rest) := by
  simp only [readOperand, bind_eq_ok, Prod.exists]

/-- An expression without filters, with or without two branches. -/
inductive TernaryRead (source : Source) (inner : Option Grammar) (start : List Char) :
    Expr → List Char → Prop where
  | plain {rest : List Char} {expr : Expr}
      (readCondition : readOperand source inner Level.all start = .ok (expr, rest)) :
      TernaryRead source inner start expr rest
  | branches {grammar : Grammar} {afterCondition afterMark afterThen afterColon rest : List Char}
      {condition thenBranch elseBranch : Expr}
      (readCondition : readOperand source inner Level.all start = .ok (condition, afterCondition))
      (mark : symbol? "?" afterCondition = some afterMark)
      (readThen : readPipeline source inner afterMark = .ok (thenBranch, afterThen))
      (colon : symbol? ":" afterThen = some afterColon) (member : grammar ∈ inner)
      (readElse : grammar.ternary afterColon = .ok (elseBranch, rest)) :
      TernaryRead source inner start
        (.ternary (source.extent start rest) condition thenBranch elseBranch) rest

theorem ternaryRead_of_readTernary (read : readTernary source inner text = .ok (expr, rest)) :
    TernaryRead source inner (trimStart text) expr rest := by
  simp only [readTernary, bind_eq_ok, Prod.exists] at read
  rcases read with ⟨condition, afterCondition, readCondition, read⟩
  split at read
  · cases read
    exact .plain readCondition
  · rename_i mark
    simp only [bind_eq_ok, Prod.exists, expect_eq_ok] at read
    rcases read with ⟨thenBranch, afterThen, readThen, afterColon, colon, read⟩
    rcases enter_eq_ok read with ⟨grammar, member, read⟩
    simp only [bind_eq_ok, Prod.exists] at read
    rcases read with ⟨elseBranch, left, readElse, read⟩
    cases read
    exact .branches readCondition mark readThen colon member readElse

end Grammar

/-- A text that is read is a whole expression with nothing but white space behind it. -/
theorem pipeline_of_parse {origin : Position} (read : parse origin text = .ok expr) :
    ∃ after, (Grammar.ofLevels (Source.ofText origin text) maxLevels).pipeline text =
      .ok (expr, after) ∧ trimStart after = [] := by
  simp only [parse] at read
  split at read
  · cases read
  · split at read
    · cases read
    · rename_i after readPipeline
      split at read
      · rename_i nothing
        cases read
        exact ⟨after, readPipeline, List.isEmpty_iff.mp nothing⟩
      · cases read

end Stencil.Expr.Parser
