import Stencil.Function.Error
import Stencil.Position
/-!
# Problems met while rendering

Most problems are recorded, and rendering goes on without what has failed. A few end it.
-/

namespace Stencil

/-- The kinds of problems. -/
inductive RenderErrorKind where
  | undefinedVariable
  | typeError
  | filterError
  /-- Whatever stops evaluation. -/
  | runtimeError
deriving DecidableEq, Inhabited

def RenderErrorKind.name : RenderErrorKind → String
  | undefinedVariable => "undefined_variable"
  | typeError => "type_error"
  | filterError => "filter_error"
  | runtimeError => "runtime_error"

/-- A problem. -/
structure RenderError where
  kind : RenderErrorKind
  message : String
  /-- The name or the source text that the problem concerns. -/
  path : String
  span : Option Span := none
  /-- The function that has failed. -/
  filter : Option String := none
deriving DecidableEq, Inhabited

namespace RenderError

/-- A root name that is bound nowhere. -/
def undefinedVariable (path : String) : RenderError :=
  { kind := .undefinedVariable, message := "'" ++ path ++ "' is not defined", path }

/-- A value of the wrong kind. -/
def typeError (message path : String) : RenderError := { kind := .typeError, message, path }

/-- A function that has failed. -/
def filterError (filter message path : String) : RenderError :=
  { kind := .filterError, message, path, filter := some filter }

/-- Something that stops evaluation. -/
def runtime (message path : String) : RenderError := { kind := .runtimeError, message, path }

/-- The same problem with a region of the template. -/
def located (error : RenderError) (span : Span) : RenderError := { error with span := some span }

/-- What is said about a problem. -/
def text (error : RenderError) : String :=
  error.kind.name ++ " at '" ++ error.path ++ "': " ++ error.message

end RenderError

end Stencil
