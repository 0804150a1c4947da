import Stencil.Position
/-!
# Expressions

The trees of the expression language. Every node knows the region of the template it was read
from, and most know their source text.
-/

namespace Stencil

/-- Where a node comes from. -/
structure Extent where
  span : Span
  /-- The source text, where the node stands for one piece of it. -/
  raw : Option String := none
deriving DecidableEq, Inhabited

/-- A constant in an expression. -/
inductive Literal where
  | string (s : String)
  | number (x : Float)
  | bool (b : Bool)
  | null
deriving Inhabited

/-- The binary operators. -/
inductive BinaryOp where
  | add | subtract | multiply | divide | modulo
  | less | lessOrEqual | greater | greaterOrEqual
  | equal | notEqual | strictEqual | strictNotEqual
  | and | or
deriving DecidableEq, Inhabited

namespace BinaryOp

/-- How an operator is written. -/
def symbol : BinaryOp → String
  | add => "+"
  | subtract => "-"
  | multiply => "*"
  | divide => "/"
  | modulo => "%"
  | less => "<"
  | lessOrEqual => "<="
  | greater => ">"
  | greaterOrEqual => ">="
  | equal => "=="
  | notEqual => "!="
  | strictEqual => "==="
  | strictNotEqual => "!=="
  | and => "&&"
  | or => "||"

end BinaryOp

/-- The operators in front of an operand. -/
inductive UnaryOp where
  | not
  | minus
  | plus
deriving DecidableEq, Inhabited

/-- How an operator in front of its operand is written. -/
def UnaryOp.symbol : UnaryOp → String
  | not => "!"
  | minus => "-"
  | plus => "+"

/-- A step of a variable's path. `ε` is the type of computed keys. -/
inductive PathStep (ε : Type) where
  /-- A name after a point. -/
  | property (name : String)
  /-- An expression in brackets. -/
  | index (key : ε)

/-- A filter with its arguments. `ε` is the type of arguments. -/
structure FilterCall (ε : Type) where
  name : String
  args : List ε
  span : Span

/-- An expression. -/
inductive Expr where
  | literal (extent : Extent) (value : Literal)
  /-- A root name with the steps of a path. -/
  | access (extent : Extent) (root : String) (path : List (PathStep Expr))
  /-- A value sent through filters. -/
  | filter (extent : Extent) (input : Expr) (filters : List (FilterCall Expr))
  /-- A call by name. The receiver of a method is its first argument. -/
  | call (extent : Extent) (name : String) (args : List Expr)
  | binary (extent : Extent) (op : BinaryOp) (left right : Expr)
  | unary (extent : Extent) (op : UnaryOp) (operand : Expr)
  | array (extent : Extent) (items : List Expr)
  /-- Keys with expressions, in source order. -/
  | object (extent : Extent) (entries : List (String × Expr))
  | paren (extent : Extent) (inner : Expr)
  | ternary (extent : Extent) (condition thenBranch elseBranch : Expr)
  /-- What stands for a source that is no expression. -/
  | malformed (extent : Extent) (message : String)
deriving Inhabited

namespace Expr

/-- Where an expression comes from. -/
def extent : Expr → Extent
  | literal extent _ => extent
  | access extent _ _ => extent
  | filter extent _ _ => extent
  | call extent _ _ => extent
  | binary extent _ _ _ => extent
  | unary extent _ _ => extent
  | array extent _ => extent
  | object extent _ => extent
  | paren extent _ => extent
  | ternary extent _ _ _ => extent
  | malformed extent _ => extent

/-- The region that an expression covers. -/
def span (expr : Expr) : Span := expr.extent.span

/-- The source text of an expression. -/
def raw (expr : Expr) : Option String := expr.extent.raw

/-- Whether an expression stands for a malformed source. -/
def isMalformed : Expr → Bool
  | malformed _ _ => true
  | _ => false

end Expr

end Stencil
