import Stencil.Lookup
import Stencil.Render.Context
import Stencil.Render.Operators
/-!
# Evaluation of expressions

An expression always has a value. What goes wrong inside of it is reported, and evaluation goes on
with `undefined`, or with the value before a filter that has failed.
-/

namespace Stencil

/-- The source text of a node without white space around it, for messages. -/
def Extent.sourceOr (extent : Extent) (fallback : String) : String :=
  (extent.raw.map Text.trimmed).getD fallback

/-- A step of a path whose key has been evaluated. -/
inductive ResolvedStep where
  | property (name : String)
  | key (key : Value)

namespace ResolvedStep

/-- Takes one step from a value. -/
def apply (value : Value) : ResolvedStep → Value
  | property name => Lookup.property value name
  | key name => Lookup.index value name

/-- Takes all steps from a value. Nothing is inside an absence. -/
def walk (value : Value) : List ResolvedStep → Value
  | [] => value
  | step :: rest => if value.isNullish then .undefined else walk (step.apply value) rest

end ResolvedStep

namespace Render

/-- The value of a root name with the steps of a path. -/
def access (input : RenderInput) (span : Span) (root : String) (steps : List ResolvedStep) :
    Render Value := do
  match (← get).lookup input.data root with
  | some value => return ResolvedStep.walk value steps
  | none =>
    report input ((RenderError.undefinedVariable root).located span)
    return .undefined

/-- Sends a value through a filter. It stays as it is if the filter fails. -/
def applyFilter (input : RenderInput) (name : String) (span : Span) (args : List Value)
    (value : Value) : Render Value := do
  trace input ("filter " ++ name ++ " at " ++ span.start.text ++ " with " ++
    toString args.length ++ " argument(s)")
  match ← call input name value args with
  | .ok result => return result
  | .error error =>
    report input ((RenderError.filterError name error.problem.message name).located span)
    return value

/-- Calls a function with the first argument as the value. The result is undefined if it fails. -/
def applyCall (input : RenderInput) (span : Span) (name source : String) (args : List Value) :
    Render Value := do
  trace input ("call " ++ name ++ " at " ++ span.start.text)
  match ← call input name (args.headD .undefined) args.tail with
  | .ok result => return result
  | .error error =>
    report input ((RenderError.filterError name error.problem.message source).located span)
    return .undefined

/-- Applies an operator to two values. The result is undefined if they do not fit. -/
def applyBinary (input : RenderInput) (span : Span) (op : BinaryOp) (source : String)
    (left right : Value) : Render Value := do
  match op.value? left right with
  | some result => return result
  | none =>
    let message := "cannot apply '" ++ op.symbol ++ "' to " ++ left.kind ++ " and " ++ right.kind
    report input ((RenderError.typeError message source).located span)
    return .undefined

end Render

open Render

mutual

/-- The value of an expression. -/
def evaluate (input : RenderInput) : Expr → Render Value
  | .literal _ value => return value.value
  | .access extent root path => do
    let steps ← evaluatePath input path
    access input extent.span root steps
  | .filter _ inner filters => do
    let value ← evaluate input inner
    evaluateFilters input value filters
  | .call extent name args => do
    let values ← evaluateAll input args
    applyCall input extent.span name (extent.sourceOr name) values
  | .binary extent op left right => do
    let first ← evaluate input left
    match op.settled? first with
    | some value => return value
    | none =>
      let second ← evaluate input right
      applyBinary input extent.span op (extent.sourceOr op.symbol) first second
  | .unary _ op operand => do
    let value ← evaluate input operand
    return op.apply value
  | .array _ items => do
    let values ← evaluateAll input items
    return .array values
  | .object _ entries => do
    let values ← evaluateEntries input entries
    return .object (Entries.ofList values)
  | .paren _ inner => evaluate input inner
  | .ternary _ condition thenBranch elseBranch => do
    let decision ← evaluate input condition
    if decision.truthy then evaluate input thenBranch else evaluate input elseBranch
  | .malformed extent message => do
    note ("skipping malformed expression at " ++ extent.span.start.text ++ ": " ++ message)
    return .undefined

/-- The values of expressions, evaluated in order. -/
def evaluateAll (input : RenderInput) : List Expr → Render (List Value)
  | [] => return []
  | expr :: rest => do
    let value ← evaluate input expr
    let values ← evaluateAll input rest
    return value :: values

/-- The keys of an object with the values of their expressions. -/
def evaluateEntries (input : RenderInput) : List (String × Expr) → Render (List (String × Value))
  | [] => return []
  | (key, expr) :: rest => do
    let value ← evaluate input expr
    let values ← evaluateEntries input rest
    return (key, value) :: values

/-- The steps of a path with the values of their keys. -/
def evaluatePath (input : RenderInput) : List (PathStep Expr) → Render (List ResolvedStep)
  | [] => return []
  | .property name :: rest => do
    let steps ← evaluatePath input rest
    return .property name :: steps
  | .index key :: rest => do
    let value ← evaluate input key
    let steps ← evaluatePath input rest
    return .key value :: steps

/-- Sends a value through filters. -/
def evaluateFilters (input : RenderInput) (value : Value) :
    List (FilterCall Expr) → Render Value
  | [] => return value
  | ⟨name, args, span⟩ :: rest => do
    let values ← evaluateAll input args
    let result ← applyFilter input name span values value
    evaluateFilters input result rest

end

end Stencil
