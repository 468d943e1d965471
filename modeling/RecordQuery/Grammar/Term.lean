import RecordQuery.Expr.Operator

/-!
# Terms

The shape of a query text before its names are looked up. Terms keep the byte positions at which
errors are reported, and the texts of literals as they were written.

## Main definitions

* `Grammar.Term`: the terms.
* `Grammar.Term.start`: where a term starts.
* `Grammar.OrderTerm`: a term to order by.
-/

namespace RecordQuery.Grammar

/-- One segment of a path: the name of a property or a range variable, or a cast to a type. -/
inductive Segment where
  | member (position : Nat) (name : List Char)
  | cast (position : Nat) (type : List Char)
  deriving DecidableEq, Repr, Inhabited

namespace Segment

def position : Segment → Nat
  | member position _ => position
  | cast position _ => position

/-- The text of a segment. -/
def text : Segment → List Char
  | member _ name => name
  | cast _ type => type

end Segment

/-- Whether a condition holds of some item or of every item of a collection. -/
inductive Quantifier where
  | any
  | all
  deriving DecidableEq, Repr, Inhabited

/-- An expression of the query language as it is written. -/
inductive Term where
  | null (start : Nat)
  | bool (start : Nat) (value : Bool)
  | string (start : Nat) (body : List Char)
  | guid (start : Nat) (body : List Char)
  | dateTime (start : Nat) (body : List Char)
  | number (start : Nat) (text : List Char)
  | path (first : Segment) (rest : List Segment)
  | quantified (first : Segment) (rest : List Segment) (quantifier : Quantifier) (position : Nat)
  | lambda (first : Segment) (rest : List Segment) (quantifier : Quantifier) (position : Nat)
      (boundAt : Nat) (bound : List Char) (body : Term)
  | call (start : Nat) (function : List Char) (args : List Term)
  | unary (position : Nat) (op : UnaryOperator) (operand : Term)
  | binary (position : Nat) (op : BinaryOperator) (left right : Term)
  | group (start : Nat) (inner : Term)
  deriving Inhabited

/-- The byte position at which a term starts. -/
def Term.start : Term → Nat
  | null start | bool start _ | string start _ | guid start _ | dateTime start _ | number start _
  | call start _ _ | unary start _ _ | group start _ => start
  | path first _ | quantified first _ _ _ | lambda first _ _ _ _ _ _ => first.position
  | binary _ _ left _ => left.start

/-- A term to order by. -/
structure OrderTerm where
  term : Term
  direction : OrderDirection
  deriving Inhabited

end RecordQuery.Grammar
