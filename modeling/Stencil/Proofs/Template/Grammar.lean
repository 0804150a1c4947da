import Stencil.Proofs.Expr.Precedence
import Stencil.Proofs.Path.Shared
import Stencil.Template.Parser
/-!
# The grammar of templates

Which lists of tokens are well-formed templates, and which nodes they make, told by rules and
without any machine. Choices, loops and named parts nest in one another; a further condition of a
choice makes a choice of its own, one level deeper, that is all of the other branch. Every
construct knows how many others are open around it.

That no two named parts share a name is no matter of nesting, so it is told apart, by the list of
their names.
-/

namespace Stencil

open Text

/-- That a text is white space. -/
def Text.Blank (text : List Char) : Prop := ∀ c ∈ text, isBlank c = true

namespace Statement

/-- That a tag is a statement with a keyword: this word is the first in its body. -/
structure Says (head : Statement) (keyword : String) : Prop where
  tag : head.token.tag? = some .statement
  word : head.keyword = keyword
  body : ∃ blanks, Blank blanks ∧ head.token.body.toList = blanks ++ (keyword.toList ++ head.rest)
  ends : Stops Lexeme.continuesName head.rest

/-- That an expression is what a rest of the body says. -/
def Reads (head : Statement) (source : List Char) (expr : Expr) : Prop :=
  parseExpression (String.ofList source) (head.originOf source) = .ok expr

/-- That a tag that closes or continues a construct carries nothing else. -/
def Bare (head : Statement) : Prop := Blank head.rest

/-- The head of a loop: a name, the word between, and the source of the iterable, with white space
on both sides of the word. -/
inductive LoopHeader : List Char → Identifier → List Char → Prop where
  | intro {before between : List Char} {space : Char} (name : Identifier) (more : List Char)
      (leading : Blank before) (gap : Blank between) (some : between ≠ [])
      (blank : isBlank space = true) :
      LoopHeader (before ++ (name.text ++ (between ++ 'i' :: 'n' :: space :: more))) name
        (space :: more)

/-- The head of an assignment: a name, one equals sign, and the source of the value. -/
inductive AssignmentHeader : List Char → Identifier → List Char → Prop where
  | intro {before between value : List Char} (name : Identifier) (leading : Blank before)
      (gap : Blank between) (single : Stops (· == '=') value) :
      AssignmentHeader (before ++ (name.text ++ (between ++ '=' :: value))) name value

/-- The head of a named part: a name. -/
inductive BlockHeader : List Char → Identifier → Prop where
  | intro {before after : List Char} (name : Identifier) (leading : Blank before)
      (trailing : Blank after) : BlockHeader (before ++ (name.text ++ after)) name

end Statement

namespace Template

mutual

/-- That tokens form nodes inside of some number of open constructs. -/
inductive Forms : Nat → List Token → List Node → Prop where
  | nil {depth : Nat} : Forms depth [] []
  | text {depth : Nat} {token : Token} {tokens : List Token} {nodes : List Node}
      (plain : token.tag? = none) (later : Forms depth tokens nodes) :
      Forms depth (token :: tokens)
        (.text ⟨token.span, some token.content⟩ token.content :: nodes)
  | comment {depth : Nat} {token : Token} {tokens : List Token} {nodes : List Node}
      (tag : token.tag? = some .comment) (later : Forms depth tokens nodes) :
      Forms depth (token :: tokens) nodes
  | output {depth : Nat} {token : Token} {tokens : List Token} {nodes : List Node} {value : Expr}
      (tag : token.tag? = some .expression)
      (reads : parseExpression token.body token.bodyStart = .ok value)
      (later : Forms depth tokens nodes) :
      Forms depth (token :: tokens) (.output ⟨token.span, some token.content⟩ value :: nodes)
  | assignment {depth : Nat} {head : Statement} {name : Identifier} {source : List Char}
      {value : Expr} {tokens : List Token} {nodes : List Node} (opens : head.Says "set")
      (header : Statement.AssignmentHeader head.rest name source)
      (free : name.name ∉ reservedNames) (reads : head.Reads source value)
      (later : Forms depth tokens nodes) :
      Forms depth (head.token :: tokens)
        (.assignment (head.extentTo head.token.stop) name.name value :: nodes)
  | choice {depth : Nat} {head : Statement} {condition : Expr} {inside tokens : List Token}
      {node : Node} {nodes : List Node} (opens : head.Says "if") (room : depth < maxDepth)
      (reads : head.Reads head.rest condition)
      (branches : Branches (depth + 1) head condition inside node)
      (later : Forms depth tokens nodes) :
      Forms depth (head.token :: (inside ++ tokens)) (node :: nodes)
  | loop {depth : Nat} {head close : Statement} {name : Identifier} {source : List Char}
      {iterable : Expr} {inside tokens : List Token} {body nodes : List Node}
      (opens : head.Says "for") (room : depth < maxDepth)
      (header : Statement.LoopHeader head.rest name source) (free : name.name ∉ reservedNames)
      (reads : head.Reads source iterable) (forms : Forms (depth + 1) inside body)
      (closes : close.Says "endfor") (bare : close.Bare) (later : Forms depth tokens nodes) :
      Forms depth (head.token :: (inside ++ close.token :: tokens))
        (.loop (head.extentTo close.token.stop) name.name iterable body :: nodes)
  | block {depth : Nat} {head close : Statement} {name : Identifier}
      {inside tokens : List Token} {body nodes : List Node} (opens : head.Says "block")
      (room : depth < maxDepth) (header : Statement.BlockHeader head.rest name)
      (forms : Forms (depth + 1) inside body) (closes : close.Says "endblock")
      (matching : close.Bare ∨ Statement.BlockHeader close.rest name)
      (later : Forms depth tokens nodes) :
      Forms depth (head.token :: (inside ++ close.token :: tokens))
        (.block (head.extentTo close.token.stop) name.name body :: nodes)

/-- That tokens after the head of a choice form its branches, and with them the whole choice. -/
inductive Branches : Nat → Statement → Expr → List Token → Node → Prop where
  | single {depth : Nat} {head close : Statement} {condition : Expr} {inside : List Token}
      {body : List Node} (forms : Forms depth inside body) (closes : close.Says "endif")
      (bare : close.Bare) :
      Branches depth head condition (inside ++ [close.token])
        (.choice (head.extentTo close.token.stop) condition body none)
  | otherwise {depth : Nat} {head middle close : Statement} {condition : Expr}
      {inside others : List Token} {body otherBody : List Node} (forms : Forms depth inside body)
      (continues : middle.Says "else") (bareMiddle : middle.Bare)
      (formsOther : Forms depth others otherBody) (closes : close.Says "endif")
      (bare : close.Bare) :
      Branches depth head condition (inside ++ middle.token :: (others ++ [close.token]))
        (.choice (head.extentTo close.token.stop) condition body (some otherBody))
  | further {depth : Nat} {head next : Statement} {condition nextCondition : Expr}
      {inside others : List Token} {body : List Node} {node : Node}
      (forms : Forms depth inside body) (continues : next.Says "elif") (room : depth < maxDepth)
      (reads : next.Reads next.rest nextCondition)
      (branches : Branches (depth + 1) next nextCondition others node) :
      Branches depth head condition (inside ++ next.token :: others)
        (.choice (head.extentTo node.span.stop) condition body (some [node]))

end

end Template

namespace Node

mutual

/-- The names of the named parts in a node, in the order in which they end. -/
def blockNames : Node → List String
  | choice _ _ body none => blockNamesAll body
  | choice _ _ body (some otherwise) => blockNamesAll body ++ blockNamesAll otherwise
  | loop _ _ _ body => blockNamesAll body
  | block _ name body => blockNamesAll body ++ [name]
  | text _ _ | assignment _ _ _ | output _ _ | malformed _ _ => []

def blockNamesAll : List Node → List String
  | [] => []
  | node :: rest => blockNames node ++ blockNamesAll rest

end

def isMalformed : Node → Bool
  | malformed _ _ => true
  | _ => false

/-- The expression of a node itself, without those of the nodes inside it. -/
def expression? : Node → Option Expr
  | choice _ condition _ _ => some condition
  | loop _ _ iterable _ => some iterable
  | assignment _ _ value => some value
  | output _ value => some value
  | text _ _ | block _ _ _ | malformed _ _ => none

/-- That neither a node nor anything in its expression stands for a source that was passed over. -/
def Intact (node : Node) : Prop :=
  node.isMalformed = false ∧
    ∀ expr ∈ node.expression?, ∀ part ∈ expr.walk, part.isMalformed = false

end Node

end Stencil
