import Stencil.Library.Arguments
import Stencil.Query
import Stencil.Value.Json
/-!
# Functions on objects

Objects keep their keys in order, and so do the objects that these functions make of them.
-/

namespace Stencil.Record

def keys : Body := .totalOnObject "keys" fun entries _ =>
  .array (entries.map fun entry => .string entry.1)

def values : Body := .totalOnObject "values" fun entries _ => .array (entries.map Prod.snd)

/-- An object that holds a key and its value. -/
def pair (entry : String × Value) : Value :=
  .object [("key", .string entry.1), ("value", entry.2)]

/-- An array of objects, each of which holds a key and its value. -/
def pairs : Body := .totalOnObject "entries" fun entries _ => .array (entries.map pair)

/-- The value at a path, or the second argument if there is none. -/
def get : Body := .total fun value args =>
  match Query.valueAt value (args.textOr 0 "") with
  | .undefined => args.get 1
  | found => found

/-- What the log says about a path that leads nowhere. -/
def getRemarks (value : Value) (args : Arguments) : List String :=
  Query.valueAtRemarks value (args.textOr 0 "")

/-- Whether a key is present. -/
def has : Body := .totalOnObject "has" fun entries args =>
  .bool (entries.contains (args.textOr 0 ""))

/-- The names that an argument stands for: those of its elements if it is an array. -/
def namesIn : Value → List String
  | .array items => items.map Value.text
  | other => [other.text]

/-- The names that the arguments stand for. -/
def names (args : Arguments) : List String := args.flatMap namesIn

/-- Keeps the entries with one of the named keys. -/
def pick : Body := .totalOnObject "pick" fun entries args =>
  .object (entries.filter fun entry => (names args).contains entry.1)

/-- Drops the entries with one of the named keys. -/
def without : Body := .totalOnObject "omit" fun entries args =>
  .object (entries.filter fun entry => !(names args).contains entry.1)

/-- Writes the entries of an object over others. -/
def mergeOne (merged : Entries Value) : Value → Except FunctionError (Entries Value)
  | .object entries => .ok (merged.merge entries)
  | other => .error ⟨"merge", .notObject other.kind⟩

/-- Writes the entries of all arguments over those of the value. -/
def merge : Body := .onObject "merge" fun entries args =>
  (args.foldlM mergeOne entries).map .object

/-- The JSON document of a value, indented if the argument is positive. -/
def json : Body := .total fun value args =>
  let document := value.toJson
  .string (if 0.0 < (args.get 0).toNumber then document.pretty 0 else document.compact)

/-- Replaces an absence by the first argument. If the second one is true, whatever counts as false
is replaced too. -/
def default : Body := .total fun value args =>
  if value.isNullish || ((args.get 1).truthy && !value.truthy) then args.get 0 else value

/-- Whether a value is an absence or has no parts. -/
def isEmpty : Body := .total fun value _ =>
  .bool <| match value with
    | .undefined => true
    | .null => true
    | .string s => s.isEmpty
    | .array items => items.isEmpty
    | .object entries => entries.isEmpty
    | .bool _ => false
    | .number _ => false

end Stencil.Record
