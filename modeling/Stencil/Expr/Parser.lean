import Stencil.Expr.Lexeme
import Stencil.ParseError
/-!
# Reading expressions

From the loosest to the tightest: filters, the conditional, six levels of binary operators,
operators in front of an operand, then steps and method calls after a primary expression. White
space is only ever skipped in front of a word, so what is left after an expression marks its end.

Groupings, operators in front, else branches, links of operator chains and method calls each hold
one of a limited number of levels of nesting. Every way from an expression into one inside it takes
a level, so the readers are built level by level: `Grammar.build` makes the readers with some levels
left from those with one level less.
-/

namespace Stencil

/-- How many levels an expression may nest. -/
def Expr.maxLevels : Nat := 64

/-- Why the reading of an expression stops, with the part of the text that was not read. -/
inductive Expr.Failure where
  /-- No level of nesting is left. -/
  | tooDeep (rest : List Char)
  /-- Something else was expected here. -/
  | unexpected (rest : List Char)

namespace Expr.Parser

open Lexeme

/-- Reads something from the front of a text. -/
abbrev Reader (α : Type) := List Char → Except Failure (α × List Char)

/-- A text that is read, for the places in it. -/
structure Source where
  /-- The bytes of the text. -/
  size : Nat
  lines : LineTable

/-- A text whose first character stands at `origin`. -/
def Source.ofText (origin : Position) (text : List Char) : Source :=
  ⟨Text.byteLength text, LineTable.ofText origin text⟩

/-- The offset at which a rest of the text begins. -/
def Source.offset (source : Source) (rest : List Char) : Nat := source.size - Text.byteLength rest

/-- The region between two rests of the text. -/
def Source.span (source : Source) (start rest : List Char) : Span :=
  source.lines.spanBetween (source.offset start) (source.offset rest)

/-- The extent of a node that begins with `start` and leaves `rest`. -/
def Source.extent (source : Source) (start rest : List Char) : Extent :=
  ⟨source.span start rest, some (String.ofList (start.take (start.length - rest.length)))⟩

/-- Takes a required symbol. -/
def expect (symbol : String) (text : List Char) : Except Failure (List Char) :=
  match symbol? symbol text with
  | some rest => .ok rest
  | none => .error (.unexpected (Text.trimStart text))

/-- Takes a required word. -/
def require {α : Type} (word? : List Char → Option (α × List Char)) : Reader α := fun text =>
  match word? text with
  | some read => .ok read
  | none => .error (.unexpected text)

/-- Reads items with commas between them up to a closing symbol; a comma may stand before it.
Every item takes a character, so `fuel` is the length of the text. -/
def separated {α : Type} (item : Reader α) (closing : String) :
    Nat → Reader (List α)
  | 0, text => .error (.unexpected text)
  | fuel + 1, text =>
    match symbol? closing text with
    | some rest => .ok ([], rest)
    | none => do
      let (first, afterItem) ← item text
      match symbol? "," afterItem with
      | some afterComma =>
        let (others, rest) ← separated item closing fuel afterComma
        pure (first :: others, rest)
      | none =>
        let rest ← expect closing afterItem
        pure ([first], rest)

/-- Reads the arguments of a call after its opening bracket. -/
def arguments (pipeline : Reader Expr) (closing : String) : Reader (List Expr) := fun text =>
  separated pipeline closing (text.length + 1) text

/-- Reads a key of an object, plain or quoted. -/
def key : Reader String := fun text =>
  let trimmed := Text.trimStart text
  match trimmed with
  | c :: _ => if isQuote c then require quoted? trimmed else require name? trimmed
  | [] => .error (.unexpected [])

/-- Reads a key of an object with its expression. -/
def entry (pipeline : Reader Expr) : Reader (String × Expr) := fun text => do
  let (name, afterKey) ← key text
  let afterColon ← expect ":" afterKey
  let (value, rest) ← pipeline afterColon
  pure ((name, value), rest)

/-- A point with a name and an opening bracket: the name and what follows the bracket. -/
def methodCall? (text : List Char) : Option (String × List Char) :=
  match text with
  | '.' :: afterPoint => do
    let (name, afterName) ← name? afterPoint
    let rest ← symbol? "(" afterName
    pure (name, rest)
  | _ => none

/-- A point with a name. -/
def property? (text : List Char) : Option (String × List Char) :=
  match text with
  | '.' :: afterPoint => name? afterPoint
  | _ => none

/-- Reads the steps of a path, up to a method call or anything else. -/
def steps (pipeline : Reader Expr) : Nat → Reader (List (PathStep Expr))
  | 0, text => .ok ([], text)
  | fuel + 1, text =>
    if (methodCall? text).isSome then .ok ([], text)
    else
      match property? text, text with
      | some (name, afterName), _ => do
        let (later, rest) ← steps pipeline fuel afterName
        pure (.property name :: later, rest)
      | none, '[' :: afterBracket => do
        let (index, afterIndex) ← pipeline afterBracket
        let afterClosing ← expect "]" afterIndex
        let (later, rest) ← steps pipeline fuel afterClosing
        pure (.index index :: later, rest)
      | none, _ => .ok ([], text)

/-- Reads what a name begins: a constant, a call, or a variable with its path. -/
def named (source : Source) (pipeline : Reader Expr) (start : List Char) : Reader Expr :=
  fun text => do
    let (name, afterName) ← require name? text
    let constant (value : Literal) : Expr × List Char :=
      (.literal (source.extent start afterName) value, afterName)
    if name = "true" then pure (constant (.bool true))
    else if name = "false" then pure (constant (.bool false))
    else if name = "null" then pure (constant .null)
    else
      match symbol? "(" afterName with
      | some afterBracket =>
        let (args, rest) ← arguments pipeline ")" afterBracket
        pure (.call (source.extent start rest) name args, rest)
      | none =>
        let (path, rest) ← steps pipeline afterName.length afterName
        pure (.access (source.extent start rest) name path, rest)

/-- Reads a grouping, a collection, a constant or what a name begins. -/
def primary (source : Source) (pipeline : Reader Expr) : Reader Expr := fun text => do
  let start := Text.trimStart text
  match start with
  | '(' :: afterBracket =>
    let (inner, afterInner) ← pipeline afterBracket
    let rest ← expect ")" afterInner
    pure (.paren (source.extent start rest) inner, rest)
  | '[' :: afterBracket =>
    let (items, rest) ← arguments pipeline "]" afterBracket
    pure (.array (source.extent start rest) items, rest)
  | '\x7b' :: afterBrace =>
    let (entries, rest) ← separated (entry pipeline) "\x7d" (afterBrace.length + 1) afterBrace
    pure (.object (source.extent start rest) entries, rest)
  | c :: _ =>
    if isQuote c then
      let (s, rest) ← require quoted? start
      pure (.literal (source.extent start rest) (.string s), rest)
    else if c.isDigit then
      let (x, rest) ← require number? start
      pure (.literal (source.extent start rest) (.number x), rest)
    else named source pipeline start start
  | [] => .error (.unexpected [])

/-- Reads one filter after its pipe. -/
def filterCall (source : Source) (pipeline : Reader Expr) : Reader (FilterCall Expr) :=
  fun text => do
    let start := Text.trimStart text
    let (name, afterName) ← require name? start
    match symbol? "(" afterName with
    | some afterBracket =>
      let (args, rest) ← arguments pipeline ")" afterBracket
      pure (⟨name, args, source.span start rest⟩, rest)
    | none => pure (⟨name, [], source.span start afterName⟩, afterName)

/-- Reads filters for as long as there is a pipe. -/
def filters (source : Source) (pipeline : Reader Expr) : Nat → Reader (List (FilterCall Expr))
  | 0, text => .ok ([], text)
  | fuel + 1, text =>
    match pipe? text with
    | none => .ok ([], text)
    | some afterPipe => do
      let (first, afterFirst) ← filterCall source pipeline afterPipe
      let (others, rest) ← filters source pipeline fuel afterFirst
      pure (first :: others, rest)

/-- The readers that may hold a certain number of further levels. -/
structure Grammar where
  /-- A whole expression with its filters. -/
  pipeline : Reader Expr
  /-- An expression without filters. -/
  ternary : Reader Expr
  /-- An operand of the given levels of operators, loosest first. -/
  operand : List Level → Reader Expr
  /-- Links of a chain at one level with the tighter levels, after its start and what was read. -/
  chain : Level → List Level → List Char → Expr → Reader Expr
  /-- An operand with operators in front of it. -/
  unary : Reader Expr
  /-- Method calls after a start and what was read. -/
  methods : List Char → Expr → Reader Expr

namespace Grammar

/-- Takes a level of nesting at `text`, if one is left, and goes on with the readers that have one
level less. -/
def enter {α : Type} (inner : Option Grammar) (text : List Char)
    (read : Grammar → Except Failure α) : Except Failure α :=
  match inner with
  | none => .error (.tooDeep text)
  | some grammar => read grammar

/-- A whole expression: one without filters, then its filters. -/
def readPipeline (source : Source) (inner : Option Grammar) : Reader Expr := fun text =>
  let start := Text.trimStart text
  enter inner start fun grammar => do
    let (input, afterInput) ← grammar.ternary start
    let (calls, rest) ← filters source grammar.pipeline afterInput.length afterInput
    if calls.isEmpty then pure (input, rest)
    else pure (.filter (source.extent start rest) input calls, rest)

/-- Further calls of methods, each of which takes a level. -/
def readMethods (source : Source) (inner : Option Grammar) (start : List Char) (receiver : Expr) :
    Reader Expr := fun text =>
  match methodCall? text with
  | none => .ok (receiver, text)
  | some (name, afterBracket) =>
    enter inner text fun grammar => do
      let (args, rest) ← arguments grammar.pipeline ")" afterBracket
      grammar.methods start (.call (source.extent start rest) name (receiver :: args)) rest

/-- Operators in front of an operand, each of which takes a level, or a primary expression. -/
def readUnary (source : Source) (inner : Option Grammar) : Reader Expr := fun text =>
  let start := Text.trimStart text
  match unaryOp? start with
  | some (op, afterOp) =>
    enter inner start fun grammar => do
      let (operand, rest) ← grammar.unary afterOp
      pure (.unary (source.extent start rest) op operand, rest)
  | none => do
    let (first, afterFirst) ← primary source (readPipeline source inner) start
    readMethods source inner start first afterFirst

/-- Further links of a chain of operators of one level, each of which takes a level. -/
def readChain (source : Source) (inner : Option Grammar) (level : Level) (tighter : List Level)
    (start : List Char) (left : Expr) : Reader Expr := fun text =>
  match operator? level text with
  | none => .ok (left, text)
  | some (op, afterOp) =>
    enter inner afterOp fun grammar => do
      let (right, rest) ← grammar.operand tighter afterOp
      grammar.chain level tighter start (.binary (source.extent start rest) op left right) rest

/-- An operand of some levels: an operand of the tighter ones, then the chain it begins. -/
def readOperand (source : Source) (inner : Option Grammar) : List Level → Reader Expr
  | [] => readUnary source inner
  | level :: tighter => fun text => do
    let start := Text.trimStart text
    let (left, afterLeft) ← readOperand source inner tighter start
    readChain source inner level tighter start left afterLeft

/-- An expression without filters: a chain of operators, perhaps the condition of two branches.
The then branch may have filters, and the else branch takes a level. -/
def readTernary (source : Source) (inner : Option Grammar) : Reader Expr := fun text => do
  let start := Text.trimStart text
  let (condition, afterCondition) ← readOperand source inner Level.all start
  match symbol? "?" afterCondition with
  | none => pure (condition, afterCondition)
  | some afterMark =>
    let (thenBranch, afterThen) ← readPipeline source inner afterMark
    let afterColon ← expect ":" afterThen
    enter inner afterColon fun grammar => do
      let (elseBranch, rest) ← grammar.ternary afterColon
      pure (.ternary (source.extent start rest) condition thenBranch elseBranch, rest)

/-- The readers over those with one level less, or over none at the last level. -/
def build (source : Source) (inner : Option Grammar) : Grammar where
  pipeline := readPipeline source inner
  ternary := readTernary source inner
  operand := readOperand source inner
  chain := readChain source inner
  unary := readUnary source inner
  methods := readMethods source inner

/-- The readers with the given number of levels left. -/
def ofLevels (source : Source) : Nat → Grammar
  | 0 => build source none
  | levels + 1 => build source (some (ofLevels source levels))

end Grammar

/-- The region from a rest of the text to its end. -/
def Source.spanFrom (source : Source) (rest : List Char) : Span := source.span rest []

/-- The longest piece of a text that a message shows. -/
def snippetLength : Nat := 16

/-- What is wrong where a reading stops. -/
def Source.failure (source : Source) : Failure → ParseError
  | .tooDeep rest => ⟨.expressionTooDeep maxLevels, source.spanFrom rest⟩
  | .unexpected rest =>
    let trimmed := Text.trimStart rest
    let problem :=
      if trimmed.isEmpty then Problem.unexpectedEnd
      else .unexpectedInput (String.ofList (Text.trimEnd (trimmed.take snippetLength)))
    ⟨problem, source.spanFrom trimmed⟩

/-- Reads a text that is one expression. Its first character stands at `origin`. -/
def parse (origin : Position) (text : List Char) : Except ParseError Expr :=
  let source := Source.ofText origin text
  if (Text.trim text).isEmpty then .error ⟨.emptyExpression, source.spanFrom text⟩
  else
    match (Grammar.ofLevels source maxLevels).pipeline text with
    | .error failure => .error (source.failure failure)
    | .ok (expr, after) =>
      let rest := Text.trimStart after
      if rest.isEmpty then .ok expr
      else .error ⟨.leftover (String.ofList (Text.trimEnd rest)), source.spanFrom rest⟩

end Expr.Parser

/-- The expression that a text denotes. The first character of the text stands at `origin`. -/
def parseExpression (text : String) (origin : Position) : Except ParseError Expr :=
  Expr.Parser.parse origin text.toList

end Stencil
