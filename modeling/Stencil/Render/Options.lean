/-!
# Options of a render
-/

namespace Stencil

/-- How a template is rendered. -/
structure RenderOptions where
  /-- Give up at the first problem instead of collecting problems. -/
  throwOnError : Bool := false
  /-- Show `undefinedValue` where an expression is undefined. -/
  includeUndefinedVars : Bool := false
  undefinedValue : String := ""
  /-- How many loops may be inside each other. -/
  maxDepth : Nat := 100
  /-- Log every node, filter and call. -/
  debug : Bool := false
  /-- How many times loop bodies may be rendered in all; without a limit if missing. -/
  maxIterations : Option Nat := none
deriving DecidableEq, Inhabited

end Stencil
