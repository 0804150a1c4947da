import Stencil.Regex.Charset
/-!
# Patterns

A pattern says which texts match and which parts of them are captured. Where several matches begin
at one place, the order of the alternatives decides.
-/

namespace Stencil.Regex

/-- Conditions on the surroundings of a place in a text. -/
inductive Look where
  | startText
  | endText
  | startLine
  | endLine
  /-- The start of a line where a carriage return ends a line too. -/
  | startLineReturn
  | endLineReturn
  | boundary (unicode : Bool)
  | noBoundary (unicode : Bool)
  | wordStart (unicode : Bool)
  | wordEnd (unicode : Bool)
  | wordStartHalf (unicode : Bool)
  | wordEndHalf (unicode : Bool)
deriving DecidableEq

/-- The parts of a pattern. -/
inductive Node where
  | chars (set : Charset)
  | look (condition : Look)
  | capture (index : Nat) (inner : Node)
  /-- An inner pattern several times, without a limit if `most` is missing. -/
  | repetition (least : Nat) (most : Option Nat) (greedy : Bool) (inner : Node)
  | sequence (nodes : List Node)
  | alternatives (nodes : List Node)
deriving Inhabited

namespace Node

mutual

/-- Whether a pattern can match the empty text. -/
def nullable : Node → Bool
  | chars _ => false
  | look _ => true
  | capture _ inner => nullable inner
  | repetition least _ _ inner => least == 0 || nullable inner
  | sequence nodes => allNullable nodes
  | alternatives nodes => anyNullable nodes

/-- Whether all of some patterns can match the empty text. -/
def allNullable : List Node → Bool
  | [] => true
  | node :: rest => nullable node && allNullable rest

/-- Whether one of some patterns can match the empty text. -/
def anyNullable : List Node → Bool
  | [] => false
  | node :: rest => nullable node || anyNullable rest

end

mutual

/-- Whether a pattern can match the empty text and nothing else. -/
def onlyEmpty : Node → Bool
  | chars _ => false
  | look _ => true
  | capture _ inner => onlyEmpty inner
  | repetition _ most _ inner => most == some 0 || onlyEmpty inner
  | sequence nodes => allOnlyEmpty nodes
  | alternatives nodes => allOnlyEmpty nodes

/-- Whether all of some patterns can match the empty text and nothing else. -/
def allOnlyEmpty : List Node → Bool
  | [] => true
  | node :: rest => onlyEmpty node && allOnlyEmpty rest

end

/-- The pattern that matches nothing but the empty text. -/
def empty : Node := .sequence []

/-- A pattern several times. What can match nothing but the empty text is tried once at most, as more
would change nothing. -/
def repeated (least : Nat) (most : Option Nat) (greedy : Bool) (inner : Node) : Node :=
  if inner.onlyEmpty then
    if most = some 0 then empty
    else if least = 0 then .repetition 0 (some 1) greedy inner
    else inner
  else if most = some 0 then empty
  else if least = 1 ∧ most = some 1 then inner
  else .repetition least most greedy inner

end Node

/-- A pattern with the names of its captures. -/
structure Pattern where
  node : Node
  /-- The names of captures with their numbers. -/
  names : List (String × Nat)
  /-- The number of captures. -/
  captures : Nat

/-- How the letters of a pattern are read. -/
structure Flags where
  ignoreCase : Bool := false
  multiLine : Bool := false
  dotAll : Bool := false
  swapGreed : Bool := false
  unicode : Bool := true
  returns : Bool := false
  /-- Whether white space and comments in the pattern count for nothing. -/
  verbose : Bool := false

end Stencil.Regex
