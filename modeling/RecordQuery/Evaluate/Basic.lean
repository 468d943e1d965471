import RecordQuery.Evaluate.Arithmetic
import RecordQuery.Evaluate.Function
import RecordQuery.Expr.Basic
import RecordQuery.Record

/-!
# Evaluation

The value of an expression for a record. Evaluation never fails: what has no value is null. A
filter accepts a record if its value is `true`, so null and `false` both reject.

A property of the element is read from the record, unless the element was cast to a type that the
record is not of; then it is null. A property of any other value is a member of that value, and a
cast of it has no effect, since values do not know their types.

## Main definitions

* `evaluate`: the value of an expression.
* `evaluatePredicate`: whether a filter accepts a record.
* `Evaluate.elementCast?`: whether a record passes the casts of an expression that is the element.
-/

namespace RecordQuery

namespace Evaluate

/-- The items that the range variables of enclosing quantifiers stand for, the innermost first. -/
abbrev Bindings := List (String × Value)

/-- If an expression is the element through casts, whether a record is of the types of all of
them. -/
def elementCast? (r : Record) (m : Model) : Expr → Option Bool
  | .range _ name => if name = elementName then some true else none
  | .cast _ source target => (elementCast? r m source).map (· && r.passesCast m target)
  | _ => none

/-- The property of a record that passed its casts or did not, or a member of another value. -/
def readProperty (r : Record) (passed : Option Bool) (source : Value) (name : String) : Value :=
  match passed with
  | some true => r.read name
  | some false => .null
  | none => (source.member? name).getD .null

mutual

/-- The value of an expression under some bindings. -/
def value (r : Record) (m : Model) (bindings : Bindings) : Expr → Value
  | .constant _ v => v
  | .range _ name => (bindings.lookup name).getD .null
  | .property _ source p =>
    readProperty r (elementCast? r m source) (value r m bindings source) p.name
  | .cast _ source _ =>
    match elementCast? r m source with
    | some _ => .null
    | none => value r m bindings source
  | .binary type op left right =>
    let a := value r m bindings left
    let b := value r m bindings right
    if op = .and then .bool (a.isTrue && b.isTrue)
    else if op = .or then .bool (a.isTrue || b.isTrue)
    else if op.isComparison then .bool (comparison op a b)
    else arithmetic type op a b
  | .unary _ op operand => unary op (value r m bindings operand)
  | .call _ f args => function f (values r m bindings args)
  | .convert target operand => (value r m bindings operand).castOrNull target
  | .any _ source (some bound) (some body) =>
    .bool ((value r m bindings source).items.any fun item =>
      (value r m ((bound, item) :: bindings) body).isTrue)
  | .any _ source _ _ => .bool !(value r m bindings source).items.isEmpty
  | .all _ source bound body =>
    .bool ((value r m bindings source).items.all fun item =>
      (value r m ((bound, item) :: bindings) body).isTrue)

/-- The values of some expressions. -/
def values (r : Record) (m : Model) (bindings : Bindings) : List Expr → List Value
  | [] => []
  | e :: rest => value r m bindings e :: values r m bindings rest

end

end Evaluate

/-- The value of an expression for a record. -/
def evaluate (r : Record) (e : Expr) (m : Model) : Value := Evaluate.value r m [] e

/-- Whether a filter accepts a record. -/
def evaluatePredicate (r : Record) (e : Expr) (m : Model) : Bool := (evaluate r e m).isTrue

end RecordQuery
