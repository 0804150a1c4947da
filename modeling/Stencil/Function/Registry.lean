import Stencil.Function.Error
import Stencil.Value.Basic
/-!
# Functions by name

A registry holds the functions that templates and queries can call, each with a signature for tools
that describe functions without calling them. There is one function for a name, the last that was
registered under it.
-/

namespace Stencil

/-- The groups of functions. -/
inductive Category where
  | string
  | number
  | datetime
  | array
  | object
deriving DecidableEq, Inhabited

namespace Category

/-- All groups in their order. -/
def all : List Category := [string, number, datetime, array, object]

def name : Category → String
  | string => "string"
  | number => "number"
  | datetime => "datetime"
  | array => "array"
  | object => "object"

/-- The place of a group in the order. -/
def rank : Category → Nat
  | string => 0
  | number => 1
  | datetime => 2
  | array => 3
  | object => 4

def ofName? (name : String) : Option Category := all.find? fun category => category.name = name

end Category

/-- A parameter of a function. -/
structure Parameter where
  name : String
  type : String
  optional : Bool
deriving DecidableEq, Inhabited

/-- The description of a function. -/
structure Signature where
  name : String
  category : Category
  description : String
  parameters : List Parameter := []
  returns : String := "any"
  examples : List String := []
deriving DecidableEq, Inhabited

namespace Signature

/-- Adds a required parameter. -/
def param (signature : Signature) (name type : String) : Signature :=
  { signature with parameters := signature.parameters ++ [⟨name, type, false⟩] }

/-- Adds a parameter that may be left out. -/
def optional (signature : Signature) (name type : String) : Signature :=
  { signature with parameters := signature.parameters ++ [⟨name, type, true⟩] }

/-- Sets the type of the result. -/
def returning (signature : Signature) (type : String) : Signature :=
  { signature with returns := type }

/-- Adds an example. -/
def showing (signature : Signature) (usage : String) : Signature :=
  { signature with examples := signature.examples ++ [usage] }

/-- The order of descriptions: by group, then by name. -/
def atMost (first second : Signature) : Bool :=
  first.category.rank < second.category.rank ||
    (first.category.rank == second.category.rank && (compare first.name second.name).isLE)

end Signature

/-- Why a call has no result. -/
inductive CallFailure where
  | error (error : FunctionError)
  /-- The function gave up without a proper failure. -/
  | panic (message : String)

/-- What a call gives. -/
abbrev CallResult := Except CallFailure Value

/-- What a function does with the value sent into it and the arguments. -/
abbrev Handler := Value → List Value → CallResult

/-- A function with its description. -/
structure Function where
  signature : Signature
  handler : Handler
  /-- What a call leaves in the log. -/
  remarks : Value → List Value → List String := fun _ _ => []

/-- Functions by name. -/
structure Registry where
  functions : Entries Function

namespace Registry

/-- The registry without functions. -/
def empty : Registry := ⟨[]⟩

/-- Adds a function in the place of any other of its name. -/
def register (registry : Registry) (function : Function) : Registry :=
  ⟨registry.functions.insert function.signature.name function⟩

/-- Adds functions in order. -/
def registerAll (registry : Registry) (functions : List Function) : Registry :=
  functions.foldl register registry

/-- The function of a name. -/
def get? (registry : Registry) (name : String) : Option Function := registry.functions.find? name

/-- Whether there is a function of a name. -/
def contains (registry : Registry) (name : String) : Bool := (registry.get? name).isSome

/-- The description of the function of a name. -/
def signature? (registry : Registry) (name : String) : Option Signature :=
  (registry.get? name).map Function.signature

/-- How many functions there are. -/
def size (registry : Registry) : Nat := registry.functions.length

/-- All descriptions in order. -/
def signatures (registry : Registry) : List Signature :=
  (registry.functions.map fun function => function.2.signature).mergeSort Signature.atMost

/-- The descriptions of a group in order. -/
def byCategory (registry : Registry) (category : Category) : List Signature :=
  registry.signatures.filter fun signature => signature.category = category

/-- Calls the function of a name. -/
def call (registry : Registry) (name : String) (value : Value) (args : List Value) : CallResult :=
  match registry.get? name with
  | some function => function.handler value args
  | none => .error (.error ⟨name, .unknown⟩)

/-- What a call leaves in the log. -/
def remarks (registry : Registry) (name : String) (value : Value) (args : List Value) :
    List String :=
  match registry.get? name with
  | some function => function.remarks value args
  | none => []

end Registry

end Stencil
