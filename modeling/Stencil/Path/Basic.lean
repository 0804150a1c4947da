import Stencil.Value.Basic
/-!
# Paths

A path leads from the root of some data to a part of it: names, positions, and keys that are
themselves found by a path. Filters with constant arguments may follow.
-/

namespace Stencil

/-- A step of a path. -/
inductive PathSegment where
  | property (name : String)
  | index (position : Nat)
  /-- A key that is the value at another path from the root. -/
  | computed (path : List PathSegment)
deriving Inhabited

namespace PathSegment

/-- Whether a step is a name. -/
def isProperty : PathSegment → Bool
  | property _ => true
  | _ => false

mutual

/-- How a step is shown in messages. -/
def text : PathSegment → String
  | property name => name
  | index position => "[" ++ toString position ++ "]"
  | computed [] => "[]"
  | computed (first :: rest) => "[" ++ text first ++ textAfter rest ++ "]"

/-- How further steps are shown: names with a point in front of them. -/
def textAfter : List PathSegment → String
  | [] => ""
  | segment :: rest =>
    (if segment.isProperty then "." else "") ++ text segment ++ textAfter rest

end

end PathSegment

/-- A filter of a path. -/
structure PathFilter where
  name : String
  args : List Value
deriving Inhabited

/-- A path with its filters. No steps at all address the root. -/
structure Path where
  segments : List PathSegment
  filters : List PathFilter
deriving Inhabited

end Stencil
