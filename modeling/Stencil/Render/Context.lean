import Stencil.Function.Registry
import Stencil.Render.Error
import Stencil.Render.Options
/-!
# The state of a render

Names are bound in the frames of loops, in the globals outside of loops, and in the data. Steps that
change the state may be broken off; what they have changed until then stays.
-/

namespace Stencil

/-- What stays the same while rendering. -/
structure RenderInput where
  data : Value
  registry : Registry
  options : RenderOptions

/-- What changes while rendering. -/
structure RenderState where
  /-- The frames of the loops that are running, the innermost first. -/
  frames : List (Entries Value) := []
  /-- What has been bound outside of loops. -/
  globals : Entries Value := []
  /-- The problems recorded so far. -/
  errors : Array RenderError := #[]
  /-- How many frames have been entered. -/
  pushes : Nat := 0
  /-- How many frames have been left. -/
  pops : Nat := 0
  /-- How many loop bodies have been asked for. -/
  iterations : Nat := 0
  /-- The lines of the log. -/
  log : Array String := #[]
deriving Inhabited

namespace RenderState

/-- How many loops are running. -/
def depth (state : RenderState) : Nat := state.frames.length

/-- The value bound to a name: by the innermost frame that has it, else by the globals, else by the
data. -/
def lookup (state : RenderState) (data : Value) (name : String) : Option Value :=
  state.frames.findSome? (fun frame => frame.find? name) <|> state.globals.find? name <|>
    data.object?.bind fun entries => entries.find? name

/-- Binds a name in the innermost frame, or in the globals outside of loops. -/
def assign (state : RenderState) (name : String) (value : Value) : RenderState :=
  match state.frames with
  | frame :: outer => { state with frames := frame.insert name value :: outer }
  | [] => { state with globals := state.globals.insert name value }

def enter (state : RenderState) (frame : Entries Value) : RenderState :=
  { state with frames := frame :: state.frames, pushes := state.pushes + 1 }

/-- Leaves the innermost frame. -/
def leave (state : RenderState) : RenderState :=
  { state with frames := state.frames.tail, pops := state.pops + 1 }

@[simp]
theorem enter_frames (state : RenderState) (frame : Entries Value) :
    (state.enter frame).frames = frame :: state.frames := rfl

@[simp]
theorem enter_globals (state : RenderState) (frame : Entries Value) :
    (state.enter frame).globals = state.globals := rfl

@[simp]
theorem enter_pushes (state : RenderState) (frame : Entries Value) :
    (state.enter frame).pushes = state.pushes + 1 := rfl

@[simp]
theorem enter_pops (state : RenderState) (frame : Entries Value) :
    (state.enter frame).pops = state.pops := rfl

@[simp]
theorem leave_frames (state : RenderState) : state.leave.frames = state.frames.tail := rfl

@[simp]
theorem leave_globals (state : RenderState) : state.leave.globals = state.globals := rfl

@[simp]
theorem leave_pushes (state : RenderState) : state.leave.pushes = state.pushes := rfl

@[simp]
theorem leave_pops (state : RenderState) : state.leave.pops = state.pops + 1 := rfl

/-- Adds lines to the log. -/
def noting (state : RenderState) (lines : List String) : RenderState :=
  { state with log := state.log ++ lines }

/-- Adds a problem to those recorded. -/
def recording (state : RenderState) (error : RenderError) : RenderState :=
  { state with errors := state.errors.push error }

/-- Records a problem that does not end the render. -/
def recordSoftly (state : RenderState) (error : RenderError) : RenderState :=
  (state.noting ["debug render error recorded: " ++ error.text]).recording error

/-- Records the problem that ends the render. -/
def recordLast (state : RenderState) (error : RenderError) : RenderState :=
  (state.noting ["warn render aborted: " ++ error.text]).recording error

end RenderState

/-- Why a render ends early. -/
inductive Interruption where
  /-- A problem that is handed back instead of being recorded. -/
  | thrown (error : RenderError)
  /-- A problem that ends every render. It has been recorded. -/
  | halted (error : RenderError)
  /-- A function has given up without a proper failure. -/
  | panicked (message : String)

/-- Steps of a render. -/
abbrev Render := ExceptT Interruption (StateM RenderState)

namespace Render

/-- Adds a line to the log if the options ask for it. -/
def trace (input : RenderInput) (line : String) : Render Unit :=
  if input.options.debug then modify fun state => state.noting ["debug " ++ line]
  else return ()

/-- Adds a line to the log. -/
def note (line : String) : Render Unit := modify fun state => state.noting ["debug " ++ line]

/-- Records a problem, or hands it back if the options say so. -/
def report (input : RenderInput) (error : RenderError) : Render Unit :=
  if input.options.throwOnError then throw (.thrown error)
  else modify fun state => state.recordSoftly error

/-- Ends the render with a problem. -/
def halt {α : Type} (error : RenderError) : Render α := do
  modify fun state => state.recordLast error
  throw (.halted error)

/-- Does something inside a frame, which is left however that ends. -/
def within {α : Type} (frame : Entries Value) (action : Render α) : Render α :=
  ExceptT.mk do
    modify fun state => state.enter frame
    let outcome ← action.run
    modify fun state => state.leave
    return outcome

/-- Calls a function. What it gives up with ends the render, and its proper failure is the caller's
matter. -/
def call (input : RenderInput) (name : String) (value : Value) (args : List Value) :
    Render (Except FunctionError Value) := do
  let remarks := input.registry.remarks name value args
  modify fun state => state.noting (remarks.map fun remark => "debug " ++ remark)
  match input.registry.call name value args with
  | .ok result => return .ok result
  | .error (.error error) => return .error error
  | .error (.panic message) => throw (.panicked message)

end Render

end Stencil
