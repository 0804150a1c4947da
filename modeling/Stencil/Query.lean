import Stencil.Function.Registry
import Stencil.Lookup
import Stencil.Path.Parser
/-!
# Queries

A query follows a path through data and, where functions are at hand, sends what it finds through
the path's filters. A strict query fails where a lenient one gives a default value.
-/

namespace Stencil

/-- Why a query fails. -/
inductive QueryError where
  | invalidPath (path : String) (problem : PathProblem)
  /-- There is nothing at a step. -/
  | notFound (path segment : String)
  /-- A step leads into a value that has no parts. -/
  | typeMismatch (path segment kind : String)
  | depthExceeded (path : String) (maxDepth : Nat)
  | filter (error : FunctionError)
  /-- A filter gave up without a proper failure. -/
  | panic (message : String)

/-- What is said about a query that fails. -/
def QueryError.message : QueryError → String
  | invalidPath path problem => "Invalid path '" ++ path ++ "': " ++ problem.message
  | notFound path segment => "Path '" ++ path ++ "' not found: nothing at '" ++ segment ++ "'"
  | typeMismatch path segment kind =>
    "Path '" ++ path ++ "': cannot read '" ++ segment ++ "' of a " ++ kind
  | depthExceeded path maxDepth =>
    "Path '" ++ path ++ "' exceeds the maximum depth of " ++ toString maxDepth ++ " segments"
  | filter error => error.message
  | panic message => message

/-- How a query deals with paths that lead nowhere. -/
structure QueryOptions where
  /-- Fail instead of giving the default value. -/
  strict : Bool := false
  defaultValue : Value := .undefined
  /-- The longest path that is followed. -/
  maxDepth : Nat := 100

/-- What stays the same along a path. -/
structure QueryScope where
  root : Value
  /-- The text of the whole path, for messages. -/
  path : String
  maxDepth : Nat

namespace QueryScope

/-- What is found at a step; nothing there is a failure. -/
def found (scope : QueryScope) (segment : PathSegment) (value : Value) :
    Except QueryError Value :=
  match value with
  | .undefined => .error (.notFound scope.path segment.text)
  | value => .ok value

/-- Refuses paths that are too long. -/
def checkDepth (scope : QueryScope) (segments : List PathSegment) : Except QueryError Unit :=
  if scope.maxDepth < segments.length then .error (.depthExceeded scope.path scope.maxDepth)
  else .ok ()

/-- Refuses steps into values without parts. -/
def checkParts (scope : QueryScope) (segment : PathSegment) : Value → Except QueryError Unit
  | .undefined => .error (.notFound scope.path segment.text)
  | .null => .error (.notFound scope.path segment.text)
  | .bool b => .error (.typeMismatch scope.path segment.text (Value.bool b).kind)
  | .number x => .error (.typeMismatch scope.path segment.text (Value.number x).kind)
  | _ => .ok ()

mutual

/-- Takes one step from a value. -/
def step (scope : QueryScope) (value : Value) : PathSegment → Except QueryError Value
  | .property name => do
    scope.checkParts (.property name) value
    scope.found (.property name) (Lookup.property value name)
  | .index position => do
    scope.checkParts (.index position) value
    scope.found (.index position) (Lookup.index value (.ofNat position))
  | .computed path => do
    scope.checkParts (.computed path) value
    scope.checkDepth path
    let key ← follow scope scope.root path
    scope.found (.computed path) (Lookup.index value key)

/-- Takes all steps of a path from a value. -/
def follow (scope : QueryScope) (value : Value) : List PathSegment → Except QueryError Value
  | [] => .ok value
  | segment :: rest => do
    let next ← step scope value segment
    follow scope next rest

end

/-- Follows a path from the root. -/
def resolve (scope : QueryScope) (segments : List PathSegment) : Except QueryError Value := do
  scope.checkDepth segments
  scope.follow scope.root segments

end QueryScope

namespace Query

def readPath (path : String) : Except QueryError Path :=
  (Path.Parser.parse path.toList).mapError (.invalidPath path)

/-- Puts the default value in the place of a failure, unless the query is strict. -/
def settle (options : QueryOptions) (outcome : Except QueryError Value) :
    Except QueryError Value :=
  match outcome with
  | .ok value => .ok value
  | .error (.panic message) => .error (.panic message)
  | .error error => if options.strict then .error error else .ok options.defaultValue

/-- Follows a path that has no filters. -/
def strictly (data : Value) (path : String) (maxDepth : Nat) : Except QueryError Value := do
  let parsed ← readPath path
  match parsed.filters with
  | [] => QueryScope.resolve ⟨data, path, maxDepth⟩ parsed.segments
  | filter :: _ => .error (.invalidPath path (.filterRefused filter.name))

/-- The result of a query by a path that has no filters. -/
def run (data : Value) (path : String) (options : QueryOptions) : Except QueryError Value :=
  settle options (strictly data path options.maxDepth)

/-- Sends a value through a filter. -/
def applyFilter (registry : Registry) (value : Value) (filter : PathFilter) :
    Except QueryError Value :=
  match registry.call filter.name value filter.args with
  | .ok result => .ok result
  | .error (.error error) => .error (.filter error)
  | .error (.panic message) => .error (.panic message)

/-- The result of a query by a path with any filters. -/
def runWith (registry : Registry) (data : Value) (path : String) (options : QueryOptions) :
    Except QueryError Value :=
  settle options do
    let parsed ← readPath path
    let found ← QueryScope.resolve ⟨data, path, options.maxDepth⟩ parsed.segments
    parsed.filters.foldlM (applyFilter registry) found

/-- The value at a path inside a value; `undefined` if there is none. -/
def valueAt (value : Value) (path : String) : Value :=
  match strictly value path ({} : QueryOptions).maxDepth with
  | .ok found => found
  | .error _ => .undefined

/-- What the log says about a search that found nothing. -/
def fallbackRemark (error : QueryError) : String :=
  "query fell back to its default value: " ++ error.message

/-- What a search for the value at a path leaves in the log. -/
def valueAtRemarks (value : Value) (path : String) : List String :=
  match strictly value path ({} : QueryOptions).maxDepth with
  | .ok _ => []
  | .error error => [fallbackRemark error]

end Query

end Stencil
