import Stencil.Expr.Lexeme
import Stencil.ParseError
import Stencil.Token
/-!
# Statement tags

The body of a statement tag is a keyword and what follows it. The heads of loops, assignments and
named parts are read here; expressions inside them are not.
-/

namespace Stencil

/-- A statement tag in its two parts. -/
structure Statement where
  keyword : String
  /-- What follows the keyword, to the end of the body. -/
  rest : List Char
  token : Token

namespace Statement

/-- The statement of a tag: its keyword is the first run of characters that may stand in names. -/
def ofToken (token : Token) : Statement :=
  let trimmed := Text.trimStart token.body.toList
  { keyword := String.ofList (trimmed.takeWhile Lexeme.continuesName)
    rest := trimmed.dropWhile Lexeme.continuesName
    token := token }

/-- The region of the whole tag. -/
def span (statement : Statement) : Span := statement.token.span

/-- Where a rest of the body begins. -/
def originOf (statement : Statement) (suffix : List Char) : Position :=
  let body := statement.token.body.toList
  statement.token.bodyStart.advanced (body.take (body.length - suffix.length))

/-- The extent of a node that begins with this tag and stops at a place. -/
def extentTo (statement : Statement) (stop : Position) : Extent :=
  ⟨⟨statement.token.start, stop⟩, some statement.token.content⟩

/-- Whether nothing follows the keyword. -/
def isBare (statement : Statement) : Bool := (Text.trim statement.rest).isEmpty

/-- The name and the rest with the iterable of `name in iterable`. White space is required on both
sides of the word between them. -/
def loopHead? (statement : Statement) : Option (String × List Char) := do
  let (name, afterName) ← Lexeme.name? (Text.trimStart statement.rest)
  let afterSpace := Text.trimStart afterName
  if afterSpace.length = afterName.length then none
  else
    let iterable ← Lexeme.exactly? ['i', 'n'] afterSpace
    match iterable with
    | c :: _ => if Text.isBlank c then pure (name, iterable) else none
    | [] => none

/-- The name and the rest with the value of `name = value`. -/
def assignmentHead? (statement : Statement) : Option (String × List Char) := do
  let (name, afterName) ← Lexeme.name? (Text.trimStart statement.rest)
  let value ← Lexeme.symbol? "=" afterName
  match value with
  | '=' :: _ => none
  | _ => pure (name, value)

/-- The name of a named part, if there is one and nothing else. -/
def blockName? (statement : Statement) : Option String := do
  let (name, afterName) ← Lexeme.name? (Text.trimStart statement.rest)
  if (Text.trim afterName).isEmpty then pure name else none

end Statement

end Stencil
