/-!
# Operators

## Main definitions

* `BinaryOperator`, `UnaryOperator`: the operators, with their texts.
* `BinaryOperator.isComparison`, `BinaryOperator.isArithmetic`: the classes of binary operators.
* `OrderDirection`: ascending or descending.
-/

namespace RecordQuery

inductive BinaryOperator where
  | eq
  | ne
  | gt
  | ge
  | lt
  | le
  | and
  | or
  | add
  | sub
  | mul
  | div
  | mod
  deriving DecidableEq, Repr, Inhabited

namespace BinaryOperator

/-- All binary operators. -/
def all : List BinaryOperator := [eq, ne, gt, ge, lt, le, and, or, add, sub, mul, div, mod]

/-- The word for an operator. -/
def text : BinaryOperator → String
  | eq => "eq"
  | ne => "ne"
  | gt => "gt"
  | ge => "ge"
  | lt => "lt"
  | le => "le"
  | and => "and"
  | or => "or"
  | add => "add"
  | sub => "sub"
  | mul => "mul"
  | div => "div"
  | mod => "mod"

/-- The operator for a word. -/
def ofText? (text : String) : Option BinaryOperator := all.find? (·.text == text)

def isArithmetic : BinaryOperator → Bool
  | add | sub | mul | div | mod => true
  | _ => false

/-- Comparisons and connectives. -/
def isLogical (op : BinaryOperator) : Bool := !op.isArithmetic

def isComparison : BinaryOperator → Bool
  | eq | ne | gt | ge | lt | le => true
  | _ => false

/-- The comparison that holds of the operands in the other order. -/
def converse : BinaryOperator → BinaryOperator
  | gt => lt
  | ge => le
  | lt => gt
  | le => ge
  | op => op

@[simp] theorem converse_converse (op : BinaryOperator) : op.converse.converse = op := by
  cases op <;> rfl

end BinaryOperator

inductive UnaryOperator where
  | not
  | negate
  deriving DecidableEq, Repr, Inhabited

/-- The name of an operator. -/
def UnaryOperator.text : UnaryOperator → String
  | not => "not"
  | negate => "negate"

/-- The operator with a name. -/
def UnaryOperator.ofText? (text : String) : Option UnaryOperator :=
  [not, negate].find? (·.text == text)

inductive OrderDirection where
  | ascending
  | descending
  deriving DecidableEq, Repr, Inhabited

def OrderDirection.text : OrderDirection → String
  | ascending => "ascending"
  | descending => "descending"

end RecordQuery
