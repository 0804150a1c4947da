import Stencil.Expr.Basic
/-!
# Expressions without places

Two readings of an expression can differ in the places that their nodes come from and be the same
expression. `Expr.bare` forgets the places of all nodes.
-/

namespace Stencil

/-- The extent of a node whose place has been forgotten. -/
def Extent.nowhere : Extent := ⟨Span.empty, none⟩

mutual

/-- An expression without places. -/
def Expr.bare : Expr → Expr
  | .literal _ value => .literal Extent.nowhere value
  | .access _ root path => .access Extent.nowhere root (barePath path)
  | .filter _ input filters => .filter Extent.nowhere input.bare (bareFilters filters)
  | .call _ name args => .call Extent.nowhere name (bareAll args)
  | .binary _ op left right => .binary Extent.nowhere op left.bare right.bare
  | .unary _ op operand => .unary Extent.nowhere op operand.bare
  | .array _ items => .array Extent.nowhere (bareAll items)
  | .object _ entries => .object Extent.nowhere (bareEntries entries)
  | .paren _ inner => .paren Extent.nowhere inner.bare
  | .ternary _ condition thenBranch elseBranch =>
    .ternary Extent.nowhere condition.bare thenBranch.bare elseBranch.bare
  | .malformed _ message => .malformed Extent.nowhere message

def Expr.bareAll : List Expr → List Expr
  | [] => []
  | expr :: rest => expr.bare :: bareAll rest

def Expr.bareEntries : List (String × Expr) → List (String × Expr)
  | [] => []
  | (key, expr) :: rest => (key, expr.bare) :: bareEntries rest

def Expr.barePath : List (PathStep Expr) → List (PathStep Expr)
  | [] => []
  | .property name :: rest => .property name :: barePath rest
  | .index key :: rest => .index key.bare :: barePath rest

def Expr.bareFilters : List (FilterCall Expr) → List (FilterCall Expr)
  | [] => []
  | ⟨name, args, _⟩ :: rest => ⟨name, bareAll args, Span.empty⟩ :: bareFilters rest

end

namespace Expr

theorem isEmpty_bareFilters (filters : List (FilterCall Expr)) :
    (bareFilters filters).isEmpty = filters.isEmpty := by
  cases filters with
  | nil => rfl
  | cons first others => rfl

variable {expr : Expr} {extent : Extent}

theorem literal_of_bare {value : Literal} (bare : expr.bare = .literal extent value) :
    ∃ place, expr = .literal place value := by
  cases expr with
  | literal place here =>
      rw [Expr.bare] at bare
      cases bare
      exact ⟨place, rfl⟩
  | _ => cases bare

theorem access_of_bare {root : String} {steps : List (PathStep Expr)}
    (bare : expr.bare = .access extent root steps) :
    ∃ place path, expr = .access place root path ∧ barePath path = steps := by
  cases expr with
  | access place here path =>
      rw [Expr.bare] at bare
      cases bare
      exact ⟨place, path, rfl, rfl⟩
  | _ => cases bare

theorem unary_of_bare {op : UnaryOp} {operand : Expr}
    (bare : expr.bare = .unary extent op operand) :
    ∃ place inner, expr = .unary place op inner ∧ inner.bare = operand := by
  cases expr with
  | unary place here inner =>
      rw [Expr.bare] at bare
      cases bare
      exact ⟨place, inner, rfl, rfl⟩
  | _ => cases bare

theorem filter_of_bare {input : Expr} {filters : List (FilterCall Expr)}
    (bare : expr.bare = .filter extent input filters) :
    ∃ place inner calls, expr = .filter place inner calls ∧ inner.bare = input ∧
      bareFilters calls = filters := by
  cases expr with
  | filter place inner calls =>
      rw [Expr.bare] at bare
      cases bare
      exact ⟨place, inner, calls, rfl, rfl, rfl⟩
  | _ => cases bare

variable {path rest : List (PathStep Expr)}

theorem path_nil_of_bare (bare : barePath path = []) : path = [] := by
  cases path with
  | nil => rfl
  | cons step others => cases step <;> cases bare

theorem path_property_of_bare {name : String} (bare : barePath path = .property name :: rest) :
    ∃ others, path = .property name :: others ∧ barePath others = rest := by
  cases path with
  | nil => cases bare
  | cons step others =>
      cases step with
      | property here =>
          rw [barePath] at bare
          cases bare
          exact ⟨others, rfl, rfl⟩
      | index key => cases bare

theorem path_index_of_bare {key : Expr} (bare : barePath path = .index key :: rest) :
    ∃ inner others, path = .index inner :: others ∧ inner.bare = key ∧
      barePath others = rest := by
  cases path with
  | nil => cases bare
  | cons step others =>
      cases step with
      | property name => cases bare
      | index inner =>
          rw [barePath] at bare
          cases bare
          exact ⟨inner, others, rfl, rfl, rfl⟩

theorem all_nil_of_bare {args : List Expr} (bare : bareAll args = []) : args = [] := by
  cases args with
  | nil => rfl
  | cons arg others => cases bare

theorem all_cons_of_bare {args others : List Expr} {first : Expr}
    (bare : bareAll args = first :: others) :
    ∃ arg later, args = arg :: later ∧ arg.bare = first ∧ bareAll later = others := by
  cases args with
  | nil => cases bare
  | cons arg later =>
      rw [bareAll] at bare
      cases bare
      exact ⟨arg, later, rfl, rfl, rfl⟩

theorem filters_nil_of_bare {calls : List (FilterCall Expr)} (bare : bareFilters calls = []) :
    calls = [] := by
  cases calls with
  | nil => rfl
  | cons call others => cases bare

theorem filters_cons_of_bare {calls others : List (FilterCall Expr)} {first : FilterCall Expr}
    (bare : bareFilters calls = first :: others) :
    ∃ args span later, calls = ⟨first.name, args, span⟩ :: later ∧ bareAll args = first.args ∧
      bareFilters later = others := by
  cases calls with
  | nil => cases bare
  | cons call later =>
      rw [bareFilters] at bare
      cases bare
      exact ⟨call.args, call.span, later, rfl, rfl, rfl⟩

end Expr

end Stencil
