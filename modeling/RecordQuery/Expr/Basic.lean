import RecordQuery.Expr.Builtin
import RecordQuery.Expr.Operator
import RecordQuery.Schema.Model
import RecordQuery.Value.Basic

/-!
# Expressions

An expression whose names have been resolved against a schema. Every node carries its type. A
conversion is the one kind of node without a type of its own: it has the type that it converts to.

The element that a query is about is the range variable `$it`. A path is a chain of property
accesses and casts on a range variable.

## Main definitions

* `Expr`: the expressions.
* `Expr.type`, `Expr.withType`: the type of a node.
* `Expr.depth`: the length of the longest path to a leaf.
* `Expr.isElement`: whether an expression is the element itself, through any casts.
-/

namespace RecordQuery

/-- The name of the range variable that stands for the element of a query. -/
def elementName : String := "$it"

/-- An expression with resolved names and types. -/
inductive Expr where
  | constant (type : TypeRef) (value : Value)
  | range (type : TypeRef) (name : String)
  | property (type : TypeRef) (source : Expr) (property : Property)
  | cast (type : TypeRef) (source : Expr) (target : String)
  | binary (type : TypeRef) (op : BinaryOperator) (left right : Expr)
  | unary (type : TypeRef) (op : UnaryOperator) (operand : Expr)
  | call (type : TypeRef) (function : Builtin) (args : List Expr)
  | convert (target : PrimitiveType) (operand : Expr)
  | any (type : TypeRef) (source : Expr) (bound : Option String) (body : Option Expr)
  | all (type : TypeRef) (source : Expr) (bound : String) (body : Expr)
  deriving Inhabited

namespace Expr

/-! ## Types -/

/-- The type of an expression. -/
def type : Expr → TypeRef
  | constant t _ | range t _ | property t _ _ | cast t _ _ | binary t _ _ _ | unary t _ _
  | call t _ _ | any t _ _ _ | all t _ _ _ => t
  | convert target _ => .primitive target

/-- The same expression with another type. A conversion keeps the type that it converts to. -/
def withType (t : TypeRef) : Expr → Expr
  | constant _ v => constant t v
  | range _ name => range t name
  | property _ source p => property t source p
  | cast _ source target => cast t source target
  | binary _ op left right => binary t op left right
  | unary _ op operand => unary t op operand
  | call _ f args => call t f args
  | convert target operand => convert target operand
  | any _ source v body => any t source v body
  | all _ source v body => all t source v body

/-- A constant of the type of its value; null and values without a primitive type have none. -/
def ofValue (v : Value) : Expr :=
  constant (match v.primitiveType? with
    | some p => .primitive p
    | none => .null) v

/-- The element of a query. -/
def element (type : TypeRef) : Expr := range type elementName

/-! ## Shape -/

mutual

/-- The number of nodes on the longest path from an expression down to a leaf. -/
def depth : Expr → Nat
  | constant .. | range .. => 1
  | property _ source _ => 1 + depth source
  | cast _ source _ => 1 + depth source
  | binary _ _ left right => 1 + max (depth left) (depth right)
  | unary _ _ operand => 1 + depth operand
  | call _ _ args => 1 + depthOfAll args
  | convert _ operand => 1 + depth operand
  | any _ source _ none => 1 + depth source
  | any _ source _ (some body) => 1 + max (depth source) (depth body)
  | all _ source _ body => 1 + max (depth source) (depth body)

/-- The greatest depth of some expressions. -/
def depthOfAll : List Expr → Nat
  | [] => 0
  | e :: rest => max (depth e) (depthOfAll rest)

end

/-- Whether an expression accesses a property whose values are collections. -/
def isCollectionAccess : Expr → Bool
  | property _ _ p => p.isCollection
  | _ => false

/-- Whether an expression is the element of the query, through any number of casts. -/
def isElement : Expr → Bool
  | range _ name => name == elementName
  | cast _ source _ => isElement source
  | _ => false

@[simp] theorem depth_pos (e : Expr) : 0 < e.depth := by
  cases e with
  | any _ _ _ body => cases body <;> (simp only [depth]; omega)
  | _ => simp only [depth]; omega

@[simp] theorem depth_withType (t : TypeRef) (e : Expr) : (e.withType t).depth = e.depth := by
  cases e with
  | any _ source v body => cases body <;> rfl
  | _ => rfl

end Expr

end RecordQuery
