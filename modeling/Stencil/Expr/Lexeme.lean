import Stencil.Expr.Basic
import Stencil.Number.Reading
import Stencil.Text.Alphanumeric
/-!
# Words of the expression language

The smallest parts of expressions: names, numbers, quoted texts, symbols and operators. Each reader
takes a word from the front of a text and returns what follows it. Names and quoted texts have no
white space in front of them; symbols may.
-/

namespace Stencil.Lexeme

/-- Whether a character may begin a name: ASCII letters and the underscore. -/
def beginsName (c : Char) : Bool := c.isAlpha || c == '_'

/-- Whether a character may continue a name. -/
def continuesName (c : Char) : Bool := Text.isAlphanumeric c || c == '_'

def name? : List Char → Option (String × List Char)
  | [] => none
  | c :: rest =>
    if beginsName c then
      some (String.ofList (c :: rest.takeWhile continuesName), rest.dropWhile continuesName)
    else none

/-- Takes `expected` from the front of a text. -/
def exactly? : List Char → List Char → Option (List Char)
  | [], text => some text
  | _ :: _, [] => none
  | e :: expected, c :: rest => if e = c then exactly? expected rest else none

/-- Takes a symbol after any white space. -/
def symbol? (symbol : String) (text : List Char) : Option (List Char) :=
  exactly? symbol.toList (Text.trimStart text)

/-- The white space that may stand in front of a filter's pipe. -/
def isPlainSpace (c : Char) : Bool := c == ' ' || c == '\t' || c == '\r' || c == '\n'

/-- Takes the pipe in front of a filter: a single bar. -/
def pipe? (text : List Char) : Option (List Char) :=
  match text.dropWhile isPlainSpace with
  | '|' :: '|' :: _ => none
  | '|' :: rest => some rest
  | _ => none

/-- The part of a text after an exponent at its front, or all of it if none is there. -/
def afterExponent : List Char → List Char
  | [] => []
  | mark :: rest =>
    if mark = 'e' ∨ mark = 'E' then
      match Number.splitDigits (Number.splitSign rest).2 with
      | ([], _) => mark :: rest
      | (_, after) => after
    else mark :: rest

/-- The part of a text after a point with digits at its front, or all of it if none is there. -/
def afterFraction (text : List Char) : List Char :=
  match text with
  | '.' :: rest =>
    match Number.splitDigits rest with
    | ([], _) => text
    | (_, after) => after
  | _ => text

/-- Reads a number that begins with a digit: digits, then a point with digits, then an exponent,
each of the last two only if complete. -/
def number? (text : List Char) : Option (Float × List Char) :=
  match Number.splitDigits text with
  | ([], _) => none
  | (_, afterWhole) =>
    let rest := afterExponent (afterFraction afterWhole)
    (Number.readUnsigned? (text.take (text.length - rest.length))).map fun x => (x, rest)

/-- What a character after a backslash stands for. -/
def unescaped (c : Char) : Char :=
  if c = 'n' then '\n'
  else if c = 't' then '\t'
  else if c = 'r' then '\r'
  else if c = '0' then Char.ofNat 0
  else c

/-- Reads a quoted text after its opening quote. -/
def quotedRest? (quote : Char) : List Char → Option (List Char × List Char)
  | [] => none
  | c :: rest =>
    if c = '\\' then
      match rest with
      | [] => none
      | e :: after => (quotedRest? quote after).map fun (s, left) => (unescaped e :: s, left)
    else if c = quote then some ([], rest)
    else (quotedRest? quote rest).map fun (s, left) => (c :: s, left)

def isQuote (c : Char) : Bool := c == '"' || c == '\''

/-- Reads a quoted text in quotes of either kind. -/
def quoted? : List Char → Option (String × List Char)
  | [] => none
  | c :: rest =>
    if isQuote c then (quotedRest? c rest).map fun (s, left) => (String.ofList s, left) else none

/-- The operators that stand at one level of precedence, longer symbols before their beginnings. -/
inductive Level where
  | or
  | and
  | equality
  | relational
  | additive
  | multiplicative
deriving DecidableEq, Inhabited

namespace Level

/-- All levels, from the loosest to the tightest. -/
def all : List Level := [or, and, equality, relational, additive, multiplicative]

/-- The operators of a level in the order in which they are tried. -/
def operators : Level → List BinaryOp
  | or => [.or]
  | and => [.and]
  | equality => [.strictEqual, .strictNotEqual, .equal, .notEqual]
  | relational => [.lessOrEqual, .greaterOrEqual, .less, .greater]
  | additive => [.add, .subtract]
  | multiplicative => [.multiply, .divide, .modulo]

end Level

/-- Takes an operator of a level after any white space. -/
def operator? (level : Level) (text : List Char) : Option (BinaryOp × List Char) :=
  level.operators.findSome? fun op =>
    (symbol? op.symbol text).map fun rest => (op, rest)

/-- Takes an operator that stands in front of its operand. -/
def unaryOp? : List Char → Option (UnaryOp × List Char)
  | '!' :: rest => some (.not, rest)
  | '-' :: rest => some (.minus, rest)
  | '+' :: rest => some (.plus, rest)
  | _ => none

end Stencil.Lexeme
