import RecordQuery.Expr.Operator
import RecordQuery.Power
import RecordQuery.Value.Cast
import RecordQuery.Value.Compare

/-!
# Operators on values

An operation that has no result gives null: arithmetic with a null operand or out of range, and
division by zero. Comparisons always give a truth value; an ordering of values that do not compare
does not hold.

## Main definitions

* `Evaluate.comparison`: the comparisons.
* `Evaluate.checkedResult?`: arithmetic on integers in 64 bits.
* `Evaluate.arithmetic`: the arithmetic operators at a type.
* `Evaluate.negation`, `Evaluate.complement`: the unary operators.
-/

namespace RecordQuery.Evaluate

/-! ## Comparisons -/

/-- Whether an ordering operator admits the order of its operands. -/
def admits (op : BinaryOperator) (order : Ordering) : Bool :=
  match op with
  | .gt => order == .gt
  | .ge => order != .lt
  | .lt => order == .lt
  | .le => order != .gt
  | _ => false

/-- Whether a comparison holds. -/
def comparison (op : BinaryOperator) (left right : Value) : Bool :=
  match op with
  | .eq => left.looselyEquals right
  | .ne => !left.looselyEquals right
  | _ =>
    match left.compare? right with
    | some order => admits op order
    | none => false

/-! ## Arithmetic -/

/-- An integer in 64 bits, unless it overflows. -/
def checked (n : Int) : Option Int64 :=
  if -(2 ^ 63) ≤ n ∧ n ≤ 2 ^ 63 - 1 then some (Int64.ofInt n) else none

/-- Arithmetic on integers in 64 bits. Quotients are truncated toward zero. The remainder of the
least number by minus one overflows, like the quotient. -/
def checkedResult? (op : BinaryOperator) (a b : Int) : Option Int64 :=
  match op with
  | .add => checked (a + b)
  | .sub => checked (a - b)
  | .mul => checked (a * b)
  | .div => if b = 0 then none else checked (a.tdiv b)
  | .mod => if b = 0 ∨ (a = -(2 ^ 63) ∧ b = -1) then none else checked (a.tmod b)
  | _ => none

/-- Arithmetic on doubles. -/
def doubleResult? (op : BinaryOperator) (x y : Binary64) : Option Binary64 :=
  match op with
  | .add => some (x.add y)
  | .sub => some (x.sub y)
  | .mul => some (x.mul y)
  | .div => some (x.div y)
  | .mod => some (x.rem y)
  | _ => none

/-- An arithmetic operation on two values at a type. All integers are computed in 64 bits, and the
result is narrowed to the type. -/
def arithmeticAt? (type : PrimitiveType) (op : BinaryOperator) (left right : Value) :
    Option Value :=
  if type = .double then do
    let x ← left.double?
    let y ← right.double?
    let z ← doubleResult? op x y
    return .double z
  else do
    let a ← left.int?
    let b ← right.int?
    let c ← checkedResult? op a b
    return (Value.int64 c).castOrNull type

/-- An arithmetic operation on two values, for a node of a type. -/
def arithmetic (type : TypeRef) (op : BinaryOperator) (left right : Value) : Value :=
  match type.primitive? with
  | some p => (arithmeticAt? p op left right).getD .null
  | none => .null

/-- The number with the other sign, in the same type. -/
def negation : Value → Value
  | .int16 n => (Value.ofInt? .int16 (-n.toInt)).getD .null
  | .int32 n => (Value.ofInt? .int32 (-n.toInt)).getD .null
  | .int64 n => (Value.ofInt? .int64 (-n.toInt)).getD .null
  | .double x => .double x.neg
  | _ => .null

/-- The other truth value. -/
def complement : Value → Value
  | .bool b => .bool (!b)
  | _ => .null

/-- A unary operation. -/
def unary (op : UnaryOperator) (v : Value) : Value :=
  match op with
  | .not => complement v
  | .negate => negation v

end RecordQuery.Evaluate
