import RecordQuery.Expr.Operator
import RecordQuery.Value.Compare

/-!
# Sorting by keys

Items are sorted by insertion: each one in turn moves back past the items that it is less than.
Items that tie on every key keep their order.

## Main definitions

* `SortKey`: a value of an item to sort by, and a direction.
* `compareByKeys`: the order of two items by several keys, the first of which is the primary one.
* `insertionSort`: the sort.
-/

namespace RecordQuery

/-- A value of an item to sort by. -/
structure SortKey (α : Type) where
  direction : OrderDirection
  key : α → Value

/-- The order in a direction. -/
def OrderDirection.apply (d : OrderDirection) (order : Ordering) : Ordering :=
  match d with
  | .ascending => order
  | .descending => order.swap

variable {α : Type}

/-- The order of two items by a key. Nulls come first ascending and last descending. -/
def SortKey.compare (k : SortKey α) (a b : α) : Ordering :=
  k.direction.apply ((k.key a).sortOrder (k.key b))

/-- The order of two items by several keys: the first key on which they differ decides. -/
def compareByKeys : List (SortKey α) → α → α → Ordering
  | [], _, _ => .eq
  | k :: rest, a, b => (k.compare a b).then (compareByKeys rest a b)

/-- Insert an item into sorted items, both given from the last to the first. -/
def insertBack (order : α → α → Ordering) (a : α) : List α → List α
  | [] => [a]
  | b :: rest => if order a b == .lt then b :: insertBack order a rest else a :: b :: rest

/-- Sort items, keeping the order of those that tie. -/
def insertionSort (order : α → α → Ordering) (items : List α) : List α :=
  (items.foldl (fun sorted a => insertBack order a sorted) []).reverse

end RecordQuery
