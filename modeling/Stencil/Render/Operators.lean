import Stencil.Expr.Basic
import Stencil.Text.Blank
import Stencil.Value.Compare
/-!
# Operators on values

Arithmetic works on whatever stands for a number; a plus sign joins texts unless both of its
operands are numbers. Comparisons never fail.
-/

namespace Stencil

/-- The number that a value stands for in arithmetic, if it stands for one. -/
def Value.operand? : Value → Option Float
  | .number x => some x
  | .bool b => some (Value.ofBoolean b)
  | .null => some 0.0
  | .string s =>
    let x := Number.ofText s
    if s.toList.all Text.isBlank || x.isNaN then none else some x
  | _ => none

namespace BinaryOp

/-- The result of an operator that is settled by its left operand alone. -/
def settled? (op : BinaryOp) (left : Value) : Option Value :=
  match op with
  | and => if left.truthy then none else some left
  | or => if left.truthy then some left else none
  | _ => none

/-- Arithmetic on two numbers. -/
def calculate (op : BinaryOp) (a b : Float) : Float :=
  match op with
  | add => a + b
  | subtract => a - b
  | multiply => a * b
  | divide => a / b
  | _ => Number.remainder a b

/-- An arithmetic operator on two values, if both stand for numbers. -/
def arithmetic? (op : BinaryOp) (left right : Value) : Option Value := do
  let a ← left.operand?
  let b ← right.operand?
  some (.number (op.calculate a b))

/-- Whether two values compare in a way that is wanted. -/
def ordered (wanted : Ordering → Bool) (left right : Value) : Value :=
  .bool ((left.compare? right).any wanted)

/-- The result of an operator on two values; none if it is arithmetic and one of them does not stand
for a number. -/
def value? (op : BinaryOp) (left right : Value) : Option Value :=
  match op with
  | and => some right
  | or => some right
  | equal => some (.bool (left.looseEq right))
  | notEqual => some (.bool !(left.looseEq right))
  | strictEqual => some (.bool (left.strictEq right))
  | strictNotEqual => some (.bool !(left.strictEq right))
  | less => some (ordered Ordering.isLT left right)
  | lessOrEqual => some (ordered Ordering.isLE left right)
  | greater => some (ordered Ordering.isGT left right)
  | greaterOrEqual => some (ordered Ordering.isGE left right)
  | add =>
    if left.isNumber && right.isNumber then op.arithmetic? left right
    else some (.string (left.text ++ right.text))
  | subtract => op.arithmetic? left right
  | multiply => op.arithmetic? left right
  | divide => op.arithmetic? left right
  | modulo => op.arithmetic? left right

end BinaryOp

/-- The result of an operator in front of a value. Only numbers change their sign. -/
def UnaryOp.apply (op : UnaryOp) (value : Value) : Value :=
  match op, value with
  | .not, value => .bool !value.truthy
  | .minus, .number x => .number (-x)
  | .minus, value => value
  | .plus, value => value

def Literal.value : Literal → Value
  | .string s => .string s
  | .number x => .number x
  | .bool b => .bool b
  | .null => .null

end Stencil
