import Stencil.Render.Evaluation
import Stencil.Template.Basic
/-!
# Rendering

The nodes of a template are rendered in order, and their texts are put together. A render that ends
early has no text, and the problem that ended it is the last one recorded.
-/

namespace Stencil

/-- The text that is shown for a value. -/
def RenderOptions.shown (options : RenderOptions) (value : Value) : String :=
  match value with
  | .undefined => if options.includeUndefinedVars then options.undefinedValue else ""
  | value => value.text

/-- What a loop tells its body about an iteration. -/
def loopInfo (index length : Nat) : Value :=
  .object [("index", .ofNat (index + 1)), ("first", .bool (index == 0)),
    ("last", .bool (index + 1 == length)), ("length", .ofNat length)]

/-- The frame of an iteration. The information about the loop hides an iterator of the same name. -/
def loopFrame (iterator : String) (item : Value) (index length : Nat) : Entries Value :=
  Entries.insert [(iterator, item)] "loop" (loopInfo index length)

namespace Render

/-- Counts an iteration and ends the render if that is one too many. -/
def countIteration (input : RenderInput) (span : Span) (path : String) : Render Unit := do
  modify fun state => { state with iterations := state.iterations + 1 }
  match input.options.maxIterations with
  | none => return ()
  | some limit =>
    if limit < (← get).iterations then
      halt ((RenderError.runtime
        ("render exceeded the budget of " ++ toString limit ++ " loop iterations") path).located span)
    else return ()

/-- Renders a loop body for each element. `start` counts an iteration, and `done` is the text so
far. -/
def iterate (start : Render Unit) (body : Render String) (iterator : String) (length : Nat) :
    Nat → List Value → String → Render String
  | _, [], done => return done
  | index, item :: rest, done => do
    start
    let piece ← within (loopFrame iterator item index length) body
    iterate start body iterator length (index + 1) rest (done ++ piece)

/-- Renders a loop. `items` evaluates what is looped over, at the region `source`, and is left out if
too many loops are inside each other. -/
def loop (input : RenderInput) (span source : Span) (path iterator : String)
    (items : Render Value) (body : Render String) : Render String := do
  if input.options.maxDepth ≤ (← get).depth then
    report input ((RenderError.runtime
      ("loop nesting exceeds the maximum depth of " ++ toString input.options.maxDepth)
      path).located span)
    return ""
  else
    match ← items with
    | .array values =>
      iterate (countIteration input span path) body iterator values.length 0 values ""
    | other =>
      report input ((RenderError.typeError
        ("cannot iterate over a value of type " ++ other.kind) path).located source)
      return ""

end Render

open Render

mutual

def renderNode (input : RenderInput) : Node → Render String
  | .text extent content => do
    trace input ("render text at " ++ extent.span.start.text)
    return content
  | .output extent value => do
    trace input ("render expression at " ++ extent.span.start.text)
    let result ← evaluate input value
    return input.options.shown result
  | .choice extent condition body otherwise => do
    trace input ("render if at " ++ extent.span.start.text)
    let decision ← evaluate input condition
    if decision.truthy then renderNodes input body
    else
      match otherwise with
      | some nodes => renderNodes input nodes
      | none => return ""
  | .loop extent iterator iterable body => do
    trace input ("render for at " ++ extent.span.start.text)
    loop input extent.span iterable.span (iterable.extent.sourceOr iterator) iterator
      (evaluate input iterable) (renderNodes input body)
  | .assignment extent name value => do
    trace input ("render set at " ++ extent.span.start.text)
    let result ← evaluate input value
    modify fun state => state.assign name result
    return ""
  | .block extent _ body => do
    trace input ("render block at " ++ extent.span.start.text)
    renderNodes input body
  | .malformed extent message => do
    trace input ("render error at " ++ extent.span.start.text)
    note ("skipping malformed node at " ++ extent.span.start.text ++ ": " ++ message)
    return ""

/-- The texts of nodes one after another. -/
def renderNodes (input : RenderInput) : List Node → Render String
  | [] => return ""
  | node :: rest => do
    let first ← renderNode input node
    let others ← renderNodes input rest
    return first ++ others

end

/-- What a render gives. -/
structure RenderOutput where
  text : String
  errors : List RenderError
  /-- Whether there has been no problem at all. -/
  success : Bool
deriving Inhabited

/-- The problem that a function has given up with. -/
def panicError (message : String) : RenderError :=
  .runtime ("evaluation panicked: " ++ message) ""

/-- Takes the problems recorded so far out of the state. -/
def RenderState.takeErrors (state : RenderState) : List RenderError × RenderState :=
  (state.errors.toList, { state with errors := #[] })

/-- The end of a render that a problem has ended. Only under the option to do so it is handed back;
otherwise it is among the problems recorded. -/
def endEarly (input : RenderInput) (error : RenderError) (state : RenderState) :
    Except RenderError RenderOutput × RenderState :=
  if input.options.throwOnError then (.error error, state)
  else
    let (errors, state) := state.takeErrors
    (.ok { text := "", errors, success := false }, state)

/-- Renders a template from a state on. -/
def renderFrom (input : RenderInput) (template : Template) (state : RenderState) :
    Except RenderError RenderOutput × RenderState :=
  match (renderNodes input template.children).run.run state with
  | (.ok text, state) =>
    let (errors, state) := state.takeErrors
    (.ok { text, errors, success := errors.isEmpty }, state)
  | (.error (.thrown error), state) => endEarly input error state
  | (.error (.halted error), state) => endEarly input error state
  | (.error (.panicked message), state) =>
    endEarly input (panicError message) (state.recordLast (panicError message))

def render (input : RenderInput) (template : Template) : Except RenderError RenderOutput :=
  (renderFrom input template {}).1

end Stencil
