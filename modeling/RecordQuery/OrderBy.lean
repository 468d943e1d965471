import RecordQuery.Expr.Text

/-!
# Order clauses

A clause lists expressions to order by, the primary one first. Records can be ordered by the
properties of the element only, so a clause has sort properties if each of its terms is a primitive
property of the element, perhaps through casts of the element.

## Main definitions

* `OrderByTerm`, `OrderByClause`: a clause and its terms.
* `SortProperty`: a property with a direction.
* `OrderByClause.sortProperties`: the sort properties of a clause.
-/

namespace RecordQuery

/-- An expression to order by. -/
structure OrderByTerm where
  expr : Expr
  direction : OrderDirection
  deriving Inhabited

/-- Expressions to order by, the primary one first. -/
structure OrderByClause where
  terms : List OrderByTerm
  deriving Inhabited

/-- The clause with one ascending term. -/
def OrderByClause.single (e : Expr) : OrderByClause := ⟨[⟨e, .ascending⟩]⟩

/-- Why a clause gives no order. -/
inductive OrderByError where
  | notAProperty (index : Nat) (term : String)
  | duplicateProperty (name : String)
  | noProperties
  deriving DecidableEq, Repr

def OrderByError.message : OrderByError → String
  | notAProperty index term =>
    "$orderby term " ++ toString index ++ " ('" ++ term ++ "') is not a property"
  | duplicateProperty name => "duplicate property '" ++ name ++ "' in $orderby"
  | noProperties => "$orderby has no terms"

/-- A property to sort by. -/
structure SortProperty where
  property : Property
  direction : OrderDirection
  deriving DecidableEq, Repr, Inhabited

/-- The primitive property of the element that an expression accesses. -/
def Expr.sortProperty? : Expr → Option Property
  | property _ source p => if p.type.primitive?.isSome && source.isElement then some p else none
  | _ => none

/-- The sort properties of terms, of which the first one has an index in its clause. -/
def sortPropertiesFrom (index : Nat) : List OrderByTerm → Except OrderByError (List SortProperty)
  | [] => .ok []
  | t :: rest =>
    match t.expr.sortProperty? with
    | none => .error (.notAProperty index t.expr.text)
    | some p => do
      let more ← sortPropertiesFrom (index + 1) rest
      return ⟨p, t.direction⟩ :: more

/-- The sort properties of a clause, one for every term. -/
def OrderByClause.sortProperties (clause : OrderByClause) :
    Except OrderByError (List SortProperty) :=
  if clause.terms.isEmpty then .error .noProperties else sortPropertiesFrom 0 clause.terms

end RecordQuery
