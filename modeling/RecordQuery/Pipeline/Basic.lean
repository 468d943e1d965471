import RecordQuery.Pipeline.Sort

/-!
# Pipelines

A source of items that can be filtered, ordered and cut, and a pipeline in memory that records these
operations and runs them in turn when it is executed. An ordering can be refined by further keys;
when items were filtered or cut since it was recorded, a refined ordering is recorded again, which
only breaks ties.

## Main definitions

* `Queryable`: the sources.
* `Pipeline`, `Pipeline.execute`: a source in memory.
* `OrderedPipeline`, `OrderedPipeline.thenBy`: a pipeline with an ordering.
-/

namespace RecordQuery

/-- A source of items. Ordering it gives a source that can be refined, and that can be used as a
plain one again. -/
class Queryable (source : Type) (ordered : outParam Type) (item : outParam Type) where
  filter : (item → Bool) → source → source
  skip : Nat → source → source
  take : Nat → source → source
  orderBy : SortKey item → source → ordered
  thenBy : SortKey item → ordered → ordered
  plain : ordered → source

variable {α : Type}

/-- A recorded operation. -/
inductive Operation (α : Type) where
  | filter (accepts : α → Bool)
  | order (keys : List (SortKey α))
  | skip (count : Nat)
  | take (count : Nat)

/-- What an operation makes of some items. -/
def Operation.run : Operation α → List α → List α
  | filter accepts, items => items.filter accepts
  | order keys, items => insertionSort (compareByKeys keys) items
  | skip count, items => items.drop count
  | take count, items => items.take count

/-- Items and the operations to run on them. -/
structure Pipeline (α : Type) where
  source : List α
  operations : List (Operation α)

namespace Pipeline

/-- The pipeline of some items without operations. -/
def ofItems (items : List α) : Pipeline α := ⟨items, []⟩

/-- Run the recorded operations in turn. -/
def execute (q : Pipeline α) : List α := q.operations.foldl (fun items op => op.run items) q.source

/-- Record an operation. -/
def record (q : Pipeline α) (op : Operation α) : Pipeline α :=
  { q with operations := q.operations ++ [op] }

def filter (accepts : α → Bool) (q : Pipeline α) : Pipeline α := q.record (.filter accepts)

def skip (count : Nat) (q : Pipeline α) : Pipeline α := q.record (.skip count)

def take (count : Nat) (q : Pipeline α) : Pipeline α := q.record (.take count)

@[simp] theorem execute_record (q : Pipeline α) (op : Operation α) :
    (q.record op).execute = op.run q.execute := by
  simp [execute, record, List.foldl_append]

end Pipeline

/-- A pipeline with an ordering, the primary key first. -/
structure OrderedPipeline (α : Type) where
  pipeline : Pipeline α
  keys : List (SortKey α)

/-- Start an ordering. -/
def Pipeline.orderBy (key : SortKey α) (q : Pipeline α) : OrderedPipeline α :=
  ⟨q.record (.order [key]), [key]⟩

/-- Make an ordering the last operation, in place of an ordering that is the last one already. -/
def reorderLast (keys : List (SortKey α)) : List (Operation α) → List (Operation α)
  | [] => [.order keys]
  | [.order _] => [.order keys]
  | op :: rest => op :: reorderLast keys rest

namespace OrderedPipeline

def execute (q : OrderedPipeline α) : List α := q.pipeline.execute

def filter (accepts : α → Bool) (q : OrderedPipeline α) : OrderedPipeline α :=
  { q with pipeline := q.pipeline.filter accepts }

def skip (count : Nat) (q : OrderedPipeline α) : OrderedPipeline α :=
  { q with pipeline := q.pipeline.skip count }

def take (count : Nat) (q : OrderedPipeline α) : OrderedPipeline α :=
  { q with pipeline := q.pipeline.take count }

/-- Start a new ordering. -/
def orderBy (key : SortKey α) (q : OrderedPipeline α) : OrderedPipeline α :=
  q.pipeline.orderBy key

/-- Break the ties of the ordering by a further key. -/
def thenBy (key : SortKey α) (q : OrderedPipeline α) : OrderedPipeline α :=
  let keys := q.keys ++ [key]
  ⟨{ q.pipeline with operations := reorderLast keys q.pipeline.operations }, keys⟩

end OrderedPipeline

instance : Queryable (Pipeline α) (OrderedPipeline α) α where
  filter := Pipeline.filter
  skip := Pipeline.skip
  take := Pipeline.take
  orderBy := Pipeline.orderBy
  thenBy := OrderedPipeline.thenBy
  plain := OrderedPipeline.pipeline

instance : Queryable (OrderedPipeline α) (OrderedPipeline α) α where
  filter := OrderedPipeline.filter
  skip := OrderedPipeline.skip
  take := OrderedPipeline.take
  orderBy := OrderedPipeline.orderBy
  thenBy := OrderedPipeline.thenBy
  plain := id

end RecordQuery
