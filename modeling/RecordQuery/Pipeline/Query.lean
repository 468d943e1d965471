import RecordQuery.Evaluate.Basic
import RecordQuery.OrderBy
import RecordQuery.Pipeline.Basic
import RecordQuery.Schema.Build

/-!
# Queries on sources

The expression of a filter becomes a filter of a source, and the sort properties of a clause become
sort keys. A property may occur once only, however it was reached.

## Main definitions

* `HasRecord`: items that can be read as records.
* `applyFilter`, `applyOrderBy`: queries on a source.
-/

namespace RecordQuery

/-- Items that can be read as records. -/
class HasRecord (α : Type) where
  record : α → Record

instance : HasRecord Record := ⟨id⟩

variable {σ ο α : Type} [Queryable σ ο α] [HasRecord α]

/-- Whether a filter accepts an item. -/
def accepts (e : Expr) (m : Model) (a : α) : Bool := evaluatePredicate (HasRecord.record a) e m

/-- Keep the items of a source that a filter accepts. -/
def applyFilter (e : Expr) (context : QueryContext) (source : σ) : σ :=
  Queryable.filter (accepts e context.model) source

/-- The key for a name: the value that a record has for it, or null. -/
def SortKey.ofName (direction : OrderDirection) (name : String) : SortKey α :=
  ⟨direction, fun a => (HasRecord.record a).read name⟩

/-- The key for a property. -/
def SortProperty.key (p : SortProperty) : SortKey α := .ofName p.direction p.property.name

/-- The name of the first property that occurs again. -/
def repeatedProperty? (properties : List SortProperty) : Option String :=
  (firstRepeat? [] (properties.map (·.property.identity))).map (·.2)

/-- Order a source by properties, each of which breaks the ties of those before it. -/
def applyOrderBy (properties : List SortProperty) (source : σ) : Except OrderByError ο :=
  match repeatedProperty? properties with
  | some name => .error (.duplicateProperty name)
  | none =>
    match properties with
    | [] => .error .noProperties
    | first :: rest =>
      .ok (rest.foldl (fun ordered p => Queryable.thenBy σ p.key ordered)
        (Queryable.orderBy first.key source))

end RecordQuery
