import Stencil.Position
import Stencil.Text.Distance
/-!
# Problems found while reading a template

Reading never gives up on a template. What is wrong with it is collected as a list of problems,
each with the region it concerns. A problem is its cause; its wording and any advice follow from
that.
-/

namespace Stencil

/-- The three sorts of problems. -/
inductive ProblemKind where
  /-- The source does not match the grammar. -/
  | syntactic
  /-- Something had to be closed or passed over. -/
  | recovery
  /-- The source matches the grammar and breaks a rule about names. -/
  | validation
deriving DecidableEq, Inhabited

def ProblemKind.name : ProblemKind → String
  | syntactic => "syntax"
  | recovery => "recovery"
  | validation => "validation"

/-- The words that begin statements or parts of them. -/
def keywords : List String :=
  ["if", "elif", "else", "endif", "for", "endfor", "set", "block", "endblock"]

/-- The first of the keywords nearest to a word, if it is at most two edits away. -/
def closestKeyword? (word : String) : Option String :=
  let candidates := (keywords.map fun keyword => (Text.editDistance word keyword, keyword)).filter
    fun candidate => candidate.1 ≤ 2
  (candidates.foldl (fun (best : Option (Nat × String)) candidate =>
    match best with
    | some kept => if candidate.1 < kept.1 then some candidate else some kept
    | none => some candidate) none).map Prod.snd

/-- What is wrong with a template. -/
inductive Problem where
  | emptyExpression
  /-- A complete expression is followed by something else. -/
  | leftover (text : String)
  | expressionTooDeep (levels : Nat)
  | unexpectedEnd
  | unexpectedInput (snippet : String)
  | emptyStatement
  | unknownStatement (keyword : String)
  /-- A keyword that continues or closes a block stands outside of one. -/
  | strayKeyword (keyword : String)
  | malformedFor
  | malformedSet
  | malformedBlock
  | missingExpression (keyword : String)
  | inputAfterKeyword (keyword : String)
  /-- A block is not closed by `closing` before the end of the template. -/
  | neverClosed (keyword closing : String)
  | reservedName (name : String)
  | mismatchedClosing (closing name : String)
  | repeatedBlock (name : String)
  | blocksTooDeep (levels : Nat)
deriving DecidableEq, Inhabited

namespace Problem

/-- The sort of a problem. -/
def kind : Problem → ProblemKind
  | neverClosed _ _ => .recovery
  | reservedName _ => .validation
  | mismatchedClosing _ _ => .validation
  | repeatedBlock _ => .validation
  | _ => .syntactic

/-- What is said about a problem. -/
def message : Problem → String
  | emptyExpression => "empty expression"
  | leftover text => "unexpected `" ++ text ++ "` after expression"
  | expressionTooDeep levels => "expression nests deeper than " ++ toString levels ++ " levels"
  | unexpectedEnd => "unexpected end of expression"
  | unexpectedInput snippet => "unexpected input near `" ++ snippet ++ "`"
  | emptyStatement => "empty statement"
  | unknownStatement keyword => "unknown statement `" ++ keyword ++ "`"
  | strayKeyword keyword => "unexpected `" ++ keyword ++ "` without a matching opening tag"
  | malformedFor => "expected `for <name> in <expression>`"
  | malformedSet => "expected `set <name> = <expression>`"
  | malformedBlock => "expected `block <name>`"
  | missingExpression keyword => "`" ++ keyword ++ "` requires an expression"
  | inputAfterKeyword keyword => "unexpected input after `" ++ keyword ++ "`"
  | neverClosed keyword _ => "`" ++ keyword ++ "` is never closed"
  | reservedName name => "`" ++ name ++ "` is reserved and cannot be rebound"
  | mismatchedClosing closing name =>
    "`endblock " ++ closing ++ "` does not match `block " ++ name ++ "`"
  | repeatedBlock name => "block `" ++ name ++ "` is defined more than once"
  | blocksTooDeep levels => "blocks nest deeper than " ++ toString levels ++ " levels"

/-- How a problem may be mended. -/
def suggestion? : Problem → Option String
  | unknownStatement keyword =>
    (closestKeyword? keyword).map fun closest => "did you mean `" ++ closest ++ "`?"
  | neverClosed _ closing => some ("add `" ++ closing ++ "`")
  | _ => none

end Problem

/-- A problem with the region of the template that it concerns. -/
structure ParseError where
  problem : Problem
  span : Span
deriving DecidableEq, Inhabited

namespace ParseError

/-- The full text of a problem: its sort, its place and what is said about it. -/
def text (error : ParseError) : String :=
  error.problem.kind.name ++ " error at " ++ error.span.start.text ++ ": " ++ error.problem.message

end ParseError

end Stencil
