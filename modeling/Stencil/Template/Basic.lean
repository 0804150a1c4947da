import Stencil.Expr.Basic
/-!
# Template trees

The tree of a template depends on its text alone and can be rendered any number of times.
-/

namespace Stencil

/-- A node of a template tree. -/
inductive Node where
  /-- Text that is shown as it is. -/
  | text (extent : Extent) (content : String)
  /-- A choice. A further condition is a choice that is the only node of the other branch. -/
  | choice (extent : Extent) (condition : Expr) (body : List Node) (otherwise : Option (List Node))
  /-- A loop over the elements of an array. -/
  | loop (extent : Extent) (iterator : String) (iterable : Expr) (body : List Node)
  /-- A binding of a name. -/
  | assignment (extent : Extent) (name : String) (value : Expr)
  /-- A named part. -/
  | block (extent : Extent) (name : String) (body : List Node)
  /-- An expression whose value is shown. -/
  | output (extent : Extent) (value : Expr)
  /-- A source that was passed over. -/
  | malformed (extent : Extent) (message : String)
deriving Inhabited

namespace Node

/-- Where a node comes from. -/
def extent : Node → Extent
  | text extent _ => extent
  | choice extent _ _ _ => extent
  | loop extent _ _ _ => extent
  | assignment extent _ _ => extent
  | block extent _ _ => extent
  | output extent _ => extent
  | malformed extent _ => extent

/-- The region that a node covers. -/
def span (node : Node) : Span := node.extent.span

/-- The name of a node's kind. -/
def label : Node → String
  | text _ _ => "text"
  | choice _ _ _ _ => "if"
  | loop _ _ _ _ => "for"
  | assignment _ _ _ => "set"
  | block _ _ _ => "block"
  | output _ _ => "expression"
  | malformed _ _ => "error"

mutual

/-- A node and all nodes inside it, each before those inside it. -/
def walk : Node → List Node
  | text extent content => [text extent content]
  | choice extent condition body none => choice extent condition body none :: walkAll body
  | choice extent condition body (some otherwise) =>
    choice extent condition body (some otherwise) :: (walkAll body ++ walkAll otherwise)
  | loop extent iterator iterable body => loop extent iterator iterable body :: walkAll body
  | assignment extent name value => [assignment extent name value]
  | block extent name body => block extent name body :: walkAll body
  | output extent value => [output extent value]
  | malformed extent message => [malformed extent message]

/-- All nodes in and inside of a list, in source order. -/
def walkAll : List Node → List Node
  | [] => []
  | node :: rest => walk node ++ walkAll rest

end

end Node

/-- A whole template. -/
structure Template where
  children : List Node
  span : Span
deriving Inhabited

/-- All nodes of a template in source order. -/
def Template.walk (template : Template) : List Node := Node.walkAll template.children

end Stencil
