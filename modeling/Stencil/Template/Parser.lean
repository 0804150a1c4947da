import Stencil.Expr.Parser
import Stencil.Template.Basic
import Stencil.Template.Statement
/-!
# Reading templates

The tokens of a template are taken one after the other by a machine with a stack of open
constructs. It never stops at a problem: malformed tags become malformed nodes, what is still open
at the end is closed there, and blocks that nest too deeply are passed over up to the tag that
closes them. Every problem is recorded when it is noticed; those of the head of a loop or a named
part are noticed when it is closed.
-/

namespace Stencil

/-- How deeply choices, loops and named parts may nest. Every further condition of a choice counts
as one more. -/
def Template.maxDepth : Nat := 64

/-- Names that templates may not bind. -/
def Template.reservedNames : List String := ["loop"]

/-- A template with what is wrong with it. -/
structure ParseResult where
  template : Template
  errors : List ParseError
deriving Inhabited

/-- Whether nothing is wrong. -/
def ParseResult.isOk (result : ParseResult) : Bool := result.errors.isEmpty

namespace Template.Parser

/-- A construct that is not closed yet. -/
inductive Frame where
  /-- The first branch of a choice is being read. -/
  | choice (head : Statement) (condition : Expr) (body : List Node)
  /-- The other branch of a choice is being read. -/
  | otherwise (head : Statement) (condition : Expr) (body others : List Node)
  /-- The other branch of a choice will be the choice that a further condition has begun. -/
  | continued (head : Statement) (condition : Expr) (body : List Node)
  | loop (head : Statement) (body : List Node)
  | block (head : Statement) (body : List Node)

/-- A block that is being passed over because it nests too deeply. -/
structure Skip where
  head : Statement
  /-- How many blocks are open, itself included. -/
  depth : Nat
  stop : Position

/-- What has been read so far. -/
structure State where
  /-- Finished nodes outside of all constructs. -/
  children : List Node := []
  /-- Open constructs, innermost first. -/
  stack : List Frame := []
  skip : Option Skip := none
  errors : List ParseError := []
  /-- The names of finished named parts. -/
  blockNames : List String := []

/-- What the reading of one tag gives besides a result: the problems it noticed. -/
abbrev Noticing (α : Type) := α × List ParseError

/-- Reads a required expression that is the rest of a tag. A malformed one is replaced. -/
def requiredExpression (head : Statement) (suffix : List Char) : Noticing Expr :=
  if (Text.trim suffix).isEmpty then
    let problem := Problem.missingExpression head.keyword
    (.malformed ⟨head.span, none⟩ problem.message, [⟨problem, head.span⟩])
  else
    match Expr.Parser.parse (head.originOf suffix) suffix with
    | .ok expr => (expr, [])
    | .error error => (.malformed ⟨error.span, none⟩ error.problem.message, [error])

/-- The problem of a tag that has more than its keyword. -/
def bareErrors (statement : Statement) : List ParseError :=
  if statement.isBare then [] else [⟨.inputAfterKeyword statement.keyword, statement.span⟩]

/-- The problem of a name that is reserved. -/
def bindingErrors (name : String) (head : Statement) : List ParseError :=
  if reservedNames.contains name then [⟨.reservedName name, head.span⟩] else []

/-- The node and the problem of a tag that is malformed as a whole. -/
def malformedNode (problem : Problem) (head : Statement) (stop : Position) : Noticing Node :=
  (.malformed (head.extentTo stop) problem.message, [⟨problem, head.span⟩])

/-- The problems of the place where a construct is closed: by a tag, or by the end of the text. -/
def closingErrors (head : Statement) (closing : Option Statement) (keyword : String) :
    List ParseError :=
  match closing with
  | some statement => if statement.keyword = "endblock" then [] else bareErrors statement
  | none => [⟨.neverClosed head.keyword keyword, head.span⟩]

def loopNode (head : Statement) (body : List Node) (stop : Position) : Noticing Node :=
  match head.loopHead? with
  | none => malformedNode .malformedFor head stop
  | some (iterator, suffix) =>
    let (iterable, errors) := requiredExpression head suffix
    (.loop (head.extentTo stop) iterator iterable body, bindingErrors iterator head ++ errors)

/-- The problem of a closing tag that names another part than it closes. -/
def mismatchErrors (name : Option String) (closing : Option Statement) : List ParseError :=
  match name, closing with
  | some name, some statement =>
    let closingName := String.ofList (Text.trim statement.rest)
    if closingName.isEmpty ∨ closingName = name then []
    else [⟨.mismatchedClosing closingName name, statement.span⟩]
  | _, _ => []

/-- The node of a closed named part. -/
def blockNode (blockNames : List String) (head : Statement) (body : List Node) (stop : Position) :
    Noticing Node :=
  match head.blockName? with
  | none => malformedNode .malformedBlock head stop
  | some name =>
    (.block (head.extentTo stop) name body,
      if blockNames.contains name then [⟨.repeatedBlock name, head.span⟩] else [])

def assignmentNode (head : Statement) : Noticing Node :=
  match head.assignmentHead? with
  | none => malformedNode .malformedSet head head.token.stop
  | some (name, suffix) =>
    let (value, errors) := requiredExpression head suffix
    (.assignment (head.extentTo head.token.stop) name value, bindingErrors name head ++ errors)

/-- The node of an expression tag. -/
def outputNode (token : Token) : Noticing Node :=
  let extent : Extent := ⟨token.span, some token.content⟩
  match Expr.Parser.parse token.bodyStart token.body.toList with
  | .ok expr => (.output extent expr, [])
  | .error error => (.malformed extent error.problem.message, [error])

namespace State

/-- Records problems. -/
def notice (state : State) (errors : List ParseError) : State :=
  { state with errors := state.errors ++ errors }

/-- Adds a finished node to the innermost open construct. A node that continues a choice finishes
it, and so on outwards. -/
def attachTo (children : List Node) (node : Node) : List Frame → List Node × List Frame
  | [] => (children ++ [node], [])
  | .choice head condition body :: outer => (children, .choice head condition (body ++ [node]) :: outer)
  | .otherwise head condition body others :: outer =>
    (children, .otherwise head condition body (others ++ [node]) :: outer)
  | .continued head condition body :: outer =>
    attachTo children
      (.choice (head.extentTo node.span.stop) condition body (some [node])) outer
  | .loop head body :: outer => (children, .loop head (body ++ [node]) :: outer)
  | .block head body :: outer => (children, .block head (body ++ [node]) :: outer)

/-- Adds a finished node with the problems noticed in it. -/
def attach (state : State) (node : Noticing Node) : State :=
  let (children, stack) := attachTo state.children node.1 state.stack
  { state with children := children, stack := stack, errors := state.errors ++ node.2 }

/-- Opens a construct. -/
def push (state : State) (frame : Frame) : State := { state with stack := frame :: state.stack }

/-- Begins a choice, or a further condition of one. -/
def openChoice (state : State) (head : Statement) : State :=
  let (condition, errors) := requiredExpression head head.rest
  (state.push (.choice head condition [])).notice errors

/-- Begins to pass over a block. -/
def openSkip (state : State) (head : Statement) : State :=
  { state with skip := some ⟨head, 1, head.token.stop⟩ }.notice
    [⟨.blocksTooDeep maxDepth, head.span⟩]

/-- Ends passing over a block. -/
def closeSkip (state : State) (skip : Skip) : State :=
  { state with skip := none }.attach
    (.malformed (skip.head.extentTo skip.stop) (Problem.blocksTooDeep maxDepth).message, [])

/-- Passes over one token. -/
def skipToken (state : State) (skip : Skip) (token : Token) : State :=
  let keyword := (Statement.ofToken token).keyword
  let depth :=
    if token.tag? ≠ some .statement then skip.depth
    else if ["if", "for", "block"].contains keyword then skip.depth + 1
    else if ["endif", "endfor", "endblock"].contains keyword then skip.depth - 1
    else skip.depth
  let skip : Skip := { skip with depth := depth, stop := token.stop }
  if depth = 0 then state.closeSkip skip else { state with skip := some skip }

/-- Closes the innermost construct at a place, by a tag or by the end of the text. -/
def close (state : State) (closing : Option Statement) (stop : Position) : State :=
  match state.stack with
  | [] => state
  | .choice head condition body :: outer =>
    ({ state with stack := outer }.notice (closingErrors head closing "endif")).attach
      (.choice (head.extentTo stop) condition body none, [])
  | .otherwise head condition body others :: outer =>
    ({ state with stack := outer }.notice (closingErrors head closing "endif")).attach
      (.choice (head.extentTo stop) condition body (some others), [])
  | .continued head condition body :: outer =>
    { state with stack := outer }.attach (.choice (head.extentTo stop) condition body none, [])
  | .loop head body :: outer =>
    ({ state with stack := outer }.notice (closingErrors head closing "endfor")).attach
      (loopNode head body stop)
  | .block head body :: outer =>
    let name := head.blockName?
    let closed := { state with stack := outer }.notice
      (mismatchErrors name closing ++ closingErrors head closing "endblock")
    { closed.attach (blockNode state.blockNames head body stop) with
      blockNames := name.toList ++ state.blockNames }

/-- Takes a further condition of the choice whose first branch ends here. -/
def takeElif (state : State) (statement : Statement) (head : Statement) (condition : Expr)
    (body : List Node) (outer : List Frame) : State :=
  let continued := { state with stack := .continued head condition body :: outer }
  if maxDepth ≤ state.stack.length then continued.openSkip statement
  else continued.openChoice statement

/-- Takes the beginning of the other branch of a choice. -/
def takeElse (state : State) (statement : Statement) (head : Statement) (condition : Expr)
    (body : List Node) (outer : List Frame) : State :=
  { state with stack := .otherwise head condition body [] :: outer }.notice (bareErrors statement)

/-- Takes a statement that neither continues nor closes the innermost construct. -/
def takeOther (state : State) (statement : Statement) : State :=
  let keyword := statement.keyword
  let tooDeep := maxDepth ≤ state.stack.length
  let malformed (problem : Problem) : State :=
    state.attach (malformedNode problem statement statement.token.stop)
  if keyword = "if" then
    if tooDeep then state.openSkip statement else state.openChoice statement
  else if keyword = "for" then
    if tooDeep then state.openSkip statement else state.push (.loop statement [])
  else if keyword = "block" then
    if tooDeep then state.openSkip statement else state.push (.block statement [])
  else if keyword = "set" then state.attach (assignmentNode statement)
  else if keywords.contains keyword then malformed (.strayKeyword keyword)
  else if keyword.isEmpty then malformed .emptyStatement
  else malformed (.unknownStatement keyword)

/-- Takes a statement tag. -/
def takeStatement (state : State) (statement : Statement) : State :=
  let stop := statement.token.stop
  match statement.keyword, state.stack with
  | "elif", .choice head condition body :: outer =>
    state.takeElif statement head condition body outer
  | "else", .choice head condition body :: outer =>
    state.takeElse statement head condition body outer
  | "endif", .choice _ _ _ :: _ => state.close (some statement) stop
  | "endif", .otherwise _ _ _ _ :: _ => state.close (some statement) stop
  | "endfor", .loop _ _ :: _ => state.close (some statement) stop
  | "endblock", .block _ _ :: _ => state.close (some statement) stop
  | _, _ => state.takeOther statement

/-- Takes one token. Comments leave no trace. -/
def take (state : State) (token : Token) : State :=
  match state.skip with
  | some skip => state.skipToken skip token
  | none =>
    match token.tag? with
    | none => state.attach (.text ⟨token.span, some token.content⟩ token.content, [])
    | some .comment => state
    | some .expression => state.attach (outputNode token)
    | some .statement => state.takeStatement (Statement.ofToken token)

/-- Ends passing over a block at the end of the text. -/
def finishSkip (state : State) : State :=
  match state.skip with
  | some skip => state.closeSkip skip
  | none => state

/-- Closes open constructs at the end of the text, at most `fuel` of them. -/
def finish (stop : Position) : Nat → State → State
  | 0, state => state
  | fuel + 1, state =>
    if state.stack.isEmpty then state else finish stop fuel (state.close none stop)

end State

/-- The region from the first to the last token. -/
def spanOf (tokens : List Token) : Span :=
  match tokens.head?, tokens.getLast? with
  | some first, some last => ⟨first.start, last.stop⟩
  | _, _ => Span.empty

end Template.Parser

open Template.Parser in
/-- The template that a list of tokens makes, always, with what is wrong with it. -/
def parse (tokens : List Token) : ParseResult :=
  let read := (tokens.foldl State.take {}).finishSkip
  let state := State.finish (spanOf tokens).stop read.stack.length read
  { template := ⟨state.children, spanOf tokens⟩, errors := state.errors }

end Stencil
