import Stencil.Expr.Lexeme
/-!
# Precedence

How tightly the forms of expressions hold together, as a table, and what the table asks of the nodes
of a tree. An operator of a chain holds its left operand as tightly as itself and its right operand
more tightly, so chains lean to the left; a conditional holds its else branch as tightly as itself,
so conditionals lean to the right.
-/

namespace Stencil

/-- The forms of expressions, from the loosest to the tightest. -/
inductive Precedence where
  | filter | ternary
  | or | and | equality | relational | additive | multiplicative
  | unary | primary
deriving DecidableEq

def Precedence.rank : Precedence → Nat
  | filter => 0
  | ternary => 1
  | or => 2
  | and => 3
  | equality => 4
  | relational => 5
  | additive => 6
  | multiplicative => 7
  | unary => 8
  | primary => 9

def BinaryOp.precedence : BinaryOp → Precedence
  | .or => .or
  | .and => .and
  | .equal | .notEqual | .strictEqual | .strictNotEqual => .equality
  | .less | .lessOrEqual | .greater | .greaterOrEqual => .relational
  | .add | .subtract => .additive
  | .multiply | .divide | .modulo => .multiplicative

def BinaryOp.rank (op : BinaryOp) : Nat := op.precedence.rank

namespace Expr

def precedence : Expr → Precedence
  | filter _ _ _ => .filter
  | ternary _ _ _ _ => .ternary
  | binary _ op _ _ => op.precedence
  | unary _ _ _ => .unary
  | literal _ _ | access _ _ _ | call _ _ _ | array _ _ | object _ _ | paren _ _ => .primary
  | malformed _ _ => .primary

def rank (expr : Expr) : Nat := expr.precedence.rank

mutual

/-- An expression and all expressions inside it, each before those inside it. -/
def walk : Expr → List Expr
  | literal extent value => [literal extent value]
  | access extent root path => access extent root path :: walkPath path
  | filter extent input filters =>
    filter extent input filters :: (walk input ++ walkFilters filters)
  | call extent name args => call extent name args :: walkAll args
  | binary extent op left right => binary extent op left right :: (walk left ++ walk right)
  | unary extent op operand => unary extent op operand :: walk operand
  | array extent items => array extent items :: walkAll items
  | object extent entries => object extent entries :: walkEntries entries
  | paren extent inner => paren extent inner :: walk inner
  | ternary extent condition thenBranch elseBranch =>
    ternary extent condition thenBranch elseBranch ::
      (walk condition ++ (walk thenBranch ++ walk elseBranch))
  | malformed extent message => [malformed extent message]

def walkAll : List Expr → List Expr
  | [] => []
  | expr :: rest => walk expr ++ walkAll rest

def walkEntries : List (String × Expr) → List Expr
  | [] => []
  | (_, expr) :: rest => walk expr ++ walkEntries rest

def walkPath : List (PathStep Expr) → List Expr
  | [] => []
  | .property _ :: rest => walkPath rest
  | .index key :: rest => walk key ++ walkPath rest

def walkFilters : List (FilterCall Expr) → List Expr
  | [] => []
  | ⟨_, args, _⟩ :: rest => walkAll args ++ walkFilters rest

end

/-- What the table asks of a node: no operand is looser than its place allows. Filters form one
chain, and no source is passed over. -/
def WellPlaced : Expr → Prop
  | filter _ input filters => Precedence.ternary.rank ≤ input.rank ∧ filters.isEmpty = false
  | binary _ op left right => op.rank ≤ left.rank ∧ op.rank < right.rank
  | unary _ _ operand => Precedence.unary.rank ≤ operand.rank
  | ternary _ condition _ elseBranch =>
    Precedence.or.rank ≤ condition.rank ∧ Precedence.ternary.rank ≤ elseBranch.rank
  | malformed _ _ => False
  | literal _ _ | access _ _ _ | call _ _ _ | array _ _ | object _ _ | paren _ _ => True

instance : DecidablePred WellPlaced
  | filter _ _ _ | binary _ _ _ _ | ternary _ _ _ _ => inferInstanceAs (Decidable (_ ∧ _))
  | unary _ _ _ => inferInstanceAs (Decidable (_ ≤ _))
  | malformed _ _ => inferInstanceAs (Decidable False)
  | literal _ _ | access _ _ _ | call _ _ _ | array _ _ | object _ _ | paren _ _ =>
    inferInstanceAs (Decidable True)

theorem isMalformed_of_wellPlaced {expr : Expr} (placed : expr.WellPlaced) :
    expr.isMalformed = false := by
  cases expr with
  | malformed extent message => exact absurd placed id
  | _ => rfl

/-- That the sources of two operands are all that their operator's source is made of, but for the
symbol and the white space around it. -/
def Joined : Expr → Prop
  | binary extent op left right =>
    ∃ first before after second : String, left.raw = some first ∧ right.raw = some second ∧
      (∀ c ∈ before.toList, Text.isBlank c = true) ∧ (∀ c ∈ after.toList, Text.isBlank c = true) ∧
        extent.raw = some (first ++ (before ++ op.symbol ++ after) ++ second)
  | _ => True

theorem self_mem_walk (expr : Expr) : expr ∈ expr.walk := by
  cases expr <;> simp [walk]

end Expr

namespace Lexeme.Level

def precedence : Level → Precedence
  | or => .or
  | and => .and
  | equality => .equality
  | relational => .relational
  | additive => .additive
  | multiplicative => .multiplicative

def rank (level : Level) : Nat := level.precedence.rank

/-- The rank that an operand of the given levels has at least, the loosest of them first. -/
def leastRank : List Level → Nat
  | [] => Precedence.unary.rank
  | level :: _ => level.rank

theorem rank_of_mem_operators {level : Level} {op : BinaryOp} (member : op ∈ level.operators) :
    op.rank = level.rank := by
  cases level <;> simp only [operators, List.mem_cons, List.not_mem_nil, or_false] at member
  case or | and => subst member; rfl
  case additive => rcases member with rfl | rfl <;> rfl
  case multiplicative => rcases member with rfl | rfl | rfl <;> rfl
  case equality | relational => rcases member with rfl | rfl | rfl | rfl <;> rfl

theorem mem_operators_of_rank {level : Level} {op : BinaryOp} (same : op.rank = level.rank) :
    op ∈ level.operators := by
  revert same
  cases level <;> cases op <;> decide

/-- In the order of the table, each level is followed by the next tighter one. -/
theorem leastRank_of_suffix {level : Level} {tighter : List Level}
    (ordered : level :: tighter <:+ all) : leastRank tighter = level.rank + 1 := by
  rcases ordered with ⟨before, whole⟩
  have tail : all.drop before.length = level :: tighter := by rw [← whole, List.drop_left]
  have few : before.length < 6 := by
    have sizes := congrArg List.length whole
    simp only [List.length_append, List.length_cons, all, List.length_nil] at sizes
    omega
  have steps : ∀ index < 6, ∀ level ∈ (all.drop index).head?,
      leastRank (all.drop index).tail = level.rank + 1 := by
    decide
  have here := steps before.length few level
  rw [tail] at here
  exact here rfl

end Lexeme.Level

end Stencil
