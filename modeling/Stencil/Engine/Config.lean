import Stencil.Delimiters
import Stencil.Json.Reading
import Stencil.Render.Options
/-!
# Settings as JSON

Settings are read from a document in which everything may be left out. A record stands in it as an
object with the names of its fields, among which unknown names are passed over, or as an array with
its fields in order.
-/

namespace Stencil

/-- The settings of an engine. -/
structure EngineConfig where
  delimiters : Delimiters := {}
  render : RenderOptions := {}
deriving DecidableEq, Inhabited

namespace Settings

open Json

/-- Puts a field in its place among the fields of the given names. A field must not be there
twice, and one without a place is passed over. -/
def place? (name : String) (field : Draft) :
    List String → List (Option Draft) → Option (List (Option Draft))
  | known :: names, slot :: slots =>
    if known = name then
      match slot with
      | some _ => none
      | none => some (some field :: slots)
    else (place? name field names slots).map (slot :: ·)
  | _, slots => some slots

/-- The fields of a record in the order of their names. -/
def fields? (names : List String) : Draft → Option (List (Option Draft))
  | .array items =>
    if names.length < items.length then none
    else some (items.map some ++ List.replicate (names.length - items.length) none)
  | .object entries =>
    entries.foldlM (fun slots entry => do
      let name ← unescape? entry.1
      place? (String.ofList name) entry.2 names slots) (names.map fun _ => none)
  | _ => none

/-- Reads a field, or gives the default if it is left out. -/
def readOr {α : Type} (default : α) (read : Draft → Option α) : Option Draft → Option α
  | none => some default
  | some draft => read draft

def text? : Draft → Option String
  | .string written => (unescape? written).map String.ofList
  | _ => none

/-- Reads a truth value. -/
def flag? : Draft → Option Bool
  | .bool b => some b
  | _ => none

/-- Reads a count of 64 bits. -/
def count? : Draft → Option Nat
  | .integer n => if 0 ≤ n then some n.toNat else none
  | _ => none

/-- Reads a count, or `null` for none. -/
def limit? : Draft → Option (Option Nat)
  | .null => some none
  | draft => (count? draft).map some

/-- Reads the markers of tags. -/
def delimiters? (draft : Draft) : Option Delimiters := do
  let slots ← fields? ["statementOpen", "statementClose", "expressionOpen", "expressionClose",
    "commentOpen", "commentClose"] draft
  let default : Delimiters := {}
  match slots with
  | [statementOpen, statementClose, expressionOpen, expressionClose, commentOpen, commentClose] =>
    some
      { statement :=
          ⟨← readOr default.statement.opening text? statementOpen,
            ← readOr default.statement.closing text? statementClose⟩
        expression :=
          ⟨← readOr default.expression.opening text? expressionOpen,
            ← readOr default.expression.closing text? expressionClose⟩
        comment :=
          ⟨← readOr default.comment.opening text? commentOpen,
            ← readOr default.comment.closing text? commentClose⟩ }
  | _ => none

def renderOptions? (draft : Draft) : Option RenderOptions := do
  let slots ← fields? ["throwOnError", "includeUndefinedVars", "undefinedValue", "maxDepth",
    "debug", "maxIterations"] draft
  let default : RenderOptions := {}
  match slots with
  | [throwOnError, includeUndefinedVars, undefinedValue, maxDepth, debug, maxIterations] =>
    some
      { throwOnError := ← readOr default.throwOnError flag? throwOnError
        includeUndefinedVars := ← readOr default.includeUndefinedVars flag? includeUndefinedVars
        undefinedValue := ← readOr default.undefinedValue text? undefinedValue
        maxDepth := ← readOr default.maxDepth count? maxDepth
        debug := ← readOr default.debug flag? debug
        maxIterations := ← readOr default.maxIterations limit? maxIterations }
  | _ => none

/-- Reads all settings. -/
def config? (draft : Draft) : Option EngineConfig := do
  let slots ← fields? ["delimiters", "render"] draft
  match slots with
  | [delimiters, render] =>
    some
      { delimiters := ← readOr {} delimiters? delimiters
        render := ← readOr {} renderOptions? render }
  | _ => none

end Settings

/-- Reads settings from the text of a document. -/
def EngineConfig.ofText? (text : String) : Option EngineConfig :=
  (Json.draftOfText? text).bind Settings.config?

end Stencil
