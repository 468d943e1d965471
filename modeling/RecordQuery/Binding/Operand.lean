import RecordQuery.Expr.Basic
import RecordQuery.ParseError

/-!
# Fitting operands together

The operands of an operator get one type. An untyped null takes the type of the other side, and the
narrower of two numeric operands is converted to the wider type.

## Main definitions

* `Binding.unify`: one type for two operands.
* `Binding.coerce`: an argument of a parameter type.
* `Binding.expectBoolean`: an operand that is a truth value.
* `Binding.binary`, `Binding.unary`: operations on fitted operands.
-/

namespace RecordQuery.Binding

/-- What a step of binding gives. -/
abbrev Result (α : Type) := Except ParseError α

/-- Convert an operand to a numeric type unless it has that type. -/
def widen (e : Expr) (target : PrimitiveType) : Expr :=
  if e.type.primitive? == some target then e else .convert target e

/-- Give two operands one primitive type, or leave both untyped. -/
def unify (left right : Expr) (position : Nat) : Result (Expr × Expr) :=
  match left.type, right.type with
  | .null, .null => .ok (left, right)
  | .null, .primitive p => .ok (left.withType (.primitive p), right)
  | .primitive p, .null => .ok (left, right.withType (.primitive p))
  | .primitive a, .primitive b =>
    if a = b then .ok (left, right)
    else match PrimitiveType.promote? a b with
      | some target => .ok (widen left target, widen right target)
      | none => .error (.typeMismatch (.type a) right.type position)
  | .primitive _, other | .null, other | other, _ =>
    .error (.typeMismatch .primitiveOperand other position)

/-- Fit an argument to the type of its parameter. -/
def coerce (e : Expr) (param : PrimitiveType) (position : Nat) : Result Expr :=
  match e.type with
  | .null => .ok (e.withType (.primitive param))
  | .primitive p =>
    if p = param then .ok e
    else if p.widensTo param then .ok (.convert param e)
    else .error (.typeMismatch (.type param) e.type position)
  | _ => .error (.typeMismatch (.type param) e.type position)

/-- Require a truth value. -/
def expectBoolean (e : Expr) (position : Nat) : Result Expr :=
  match e.type with
  | .primitive .boolean => .ok e
  | .null => .ok (e.withType .boolean)
  | _ => .error (.typeMismatch (.type .boolean) e.type position)

/-- The operation of a binary operator at a position. -/
def binary (op : BinaryOperator) (left right : Expr) (position : Nat) : Result Expr :=
  if op = .and ∨ op = .or then do
    let left ← expectBoolean left position
    let right ← expectBoolean right position
    return .binary .boolean op left right
  else do
    let (left, right) ← unify left right position
    if op.isComparison then return .binary .boolean op left right
    else match left.type with
      | .primitive p =>
        if p.isNumeric then return .binary (.primitive p) op left right
        else .error (.typeMismatch .numericOperands left.type position)
      | _ => .error (.typeMismatch .numericOperands left.type position)

/-- The operation of a unary operator at a position. -/
def unary (op : UnaryOperator) (operand : Expr) (position : Nat) : Result Expr :=
  match op with
  | .not => do
    let operand ← expectBoolean operand position
    return .unary .boolean .not operand
  | .negate =>
    match operand.type with
    | .primitive p =>
      if p.isNumeric then return .unary (.primitive p) .negate operand
      else .error (.typeMismatch .numericOperand operand.type position)
    | _ => .error (.typeMismatch .numericOperand operand.type position)

end RecordQuery.Binding
