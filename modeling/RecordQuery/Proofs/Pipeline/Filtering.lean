import RecordQuery.Proofs.Pipeline.Refinement

/-!
# Filters and orderings

A filter leaves out items and keeps the others in their order, whatever that is. A stable sort moves
items by their keys alone. So it does not matter where a filter stands in a chain of keys: before
it, behind it or inside it, where it makes the next key record a second ordering.

What carries the proof is that a chain always gives the stable sort, by the keys so far, of those
items that the filters so far accept. Each step keeps that, so the filters count only together and
the keys only in their order.

## Main definitions

* `MemorySource`: the sources in memory, with an ordering or without one.
* `Refinement`, `OrderedPipeline.refine`: the steps of a chain.
* `OrderedPipeline.Orders`: whether a pipeline gives some items sorted by its keys.

## Main statements

* `filter_insertionSort`: a filter and a stable sort can be exchanged.
* `OrderedPipeline.Orders.filter`, `OrderedPipeline.Orders.thenBy`,
  `OrderedPipeline.Orders.refine`: what a step and a chain keep.
* `filter_chain_comm`: filters can be moved, exchanged and joined.
-/

namespace RecordQuery

variable {α : Type} {items : List α} {order : α → α → Ordering}

/-! ## Sources in memory -/

/-- A source in memory has a pipeline, into which filters and orderings go. -/
class MemorySource (σ : Type) (α : outParam Type) extends Queryable σ (OrderedPipeline α) α where
  pipeline : σ → Pipeline α
  pipeline_filter : ∀ accepts s, pipeline (filter accepts s) = (pipeline s).filter accepts
  orderBy_eq : ∀ key s, orderBy key s = (pipeline s).orderBy key

instance : MemorySource (Pipeline α) α where
  pipeline := id
  pipeline_filter _ _ := rfl
  orderBy_eq _ _ := rfl

instance : MemorySource (OrderedPipeline α) α where
  pipeline := OrderedPipeline.pipeline
  pipeline_filter _ _ := rfl
  orderBy_eq _ _ := rfl

/-! ## Chains -/

/-- A step of a chain: a filter, or a further key. -/
inductive Refinement (α : Type) where
  | filter (accepts : α → Bool)
  | thenBy (key : SortKey α)

namespace Refinement

def apply : Refinement α → OrderedPipeline α → OrderedPipeline α
  | filter accepts, q => q.filter accepts
  | thenBy key, q => q.thenBy key

/-- The filters of some steps. -/
def filters : List (Refinement α) → List (α → Bool)
  | [] => []
  | filter accepts :: rest => accepts :: filters rest
  | thenBy _ :: rest => filters rest

/-- The further keys of some steps. -/
def keys : List (Refinement α) → List (SortKey α)
  | [] => []
  | filter _ :: rest => keys rest
  | thenBy key :: rest => key :: keys rest

@[simp] theorem filters_append (steps more : List (Refinement α)) :
    filters (steps ++ more) = filters steps ++ filters more := by
  fun_induction filters steps <;> simp_all [filters]

@[simp] theorem keys_append (steps more : List (Refinement α)) :
    keys (steps ++ more) = keys steps ++ keys more := by
  fun_induction keys steps <;> simp_all [keys]

@[simp] theorem filters_map_thenBy (more : List (SortKey α)) : filters (more.map thenBy) = [] := by
  induction more with
  | nil => rfl
  | cons key rest ih => exact ih

@[simp] theorem keys_map_thenBy (more : List (SortKey α)) : keys (more.map thenBy) = more := by
  induction more with
  | nil => rfl
  | cons key rest ih => rw [List.map_cons, keys, ih]

end Refinement

/-- Whether all of some filters accept an item. -/
def acceptsAll (filters : List (α → Bool)) (a : α) : Bool := filters.all (· a)

theorem filter_filter_comm (accepts accepts' : α → Bool) (items : List α) :
    (items.filter accepts).filter accepts' = (items.filter accepts').filter accepts := by
  rw [List.filter_filter, List.filter_filter]
  exact List.filter_congr fun a _ => Bool.and_comm ..

theorem filter_acceptsAll_nil (items : List α) : items.filter (acceptsAll []) = items :=
  List.filter_eq_self.2 fun _ _ => rfl

theorem filter_acceptsAll_append (filters more : List (α → Bool)) (items : List α) :
    items.filter (acceptsAll (filters ++ more)) =
      (items.filter (acceptsAll filters)).filter (acceptsAll more) := by
  rw [filter_filter_comm, List.filter_filter]
  exact List.filter_congr fun a _ => List.all_append

theorem filter_acceptsAll_cons (accepts : α → Bool) (filters : List (α → Bool)) (items : List α) :
    items.filter (acceptsAll (accepts :: filters)) =
      (items.filter accepts).filter (acceptsAll filters) := by
  rw [filter_filter_comm, List.filter_filter]
  rfl

/-- A source behind some filters. -/
def filterAll {σ : Type} [MemorySource σ α] (filters : List (α → Bool)) (s : σ) : σ :=
  filters.foldl (fun s accepts => Queryable.filter accepts s) s

namespace OrderedPipeline

/-- A pipeline after some steps of a chain. -/
def refine (q : OrderedPipeline α) (steps : List (Refinement α)) : OrderedPipeline α :=
  steps.foldl (fun q step => step.apply q) q

/-- A pipeline with some further keys. -/
def thenByAll (q : OrderedPipeline α) (more : List (SortKey α)) : OrderedPipeline α :=
  q.refine (more.map .thenBy)

theorem refine_append (q : OrderedPipeline α) (steps more : List (Refinement α)) :
    q.refine (steps ++ more) = (q.refine steps).refine more := List.foldl_append

end OrderedPipeline

/-! ## What chains give -/

/-- A filter and a stable sort can be exchanged. -/
theorem filter_insertionSort (total : OrdersTotally order items) (accepts : α → Bool) :
    (insertionSort order items).filter accepts = insertionSort order (items.filter accepts) := by
  have sorts := insertionSort_sortsStably total
  have kept : OrdersTotally order (items.filter accepts) :=
    total.subset fun _ mem => (List.mem_filter.1 mem).1
  refine SortsStably.unique kept ⟨sorts.perm.filter accepts, sorts.sorted.filter accepts, ?_⟩
    (insertionSort_sortsStably kept)
  intro a mem
  rw [filter_filter_comm, sorts.stable a (List.mem_filter.1 mem).1, filter_filter_comm]

namespace OrderedPipeline

variable {q : OrderedPipeline α}

/-- Whether a pipeline gives some items of its source, sorted by the keys of the ordering that it
has recorded last. -/
structure Orders (q : OrderedPipeline α) (items : List α) : Prop where
  last : q.OrdersLast
  subset : items ⊆ q.pipeline.source
  execute_eq : q.execute = insertionSort (compareByKeys q.keys) items

theorem orders_orderBy (key : SortKey α) (p : Pipeline α) : (p.orderBy key).Orders p.execute where
  last := ordersLast_orderBy key p
  subset := p.execute_subset
  execute_eq := execute_last [key] p

namespace Orders

theorem filter (h : q.Orders items)
    (total : ∀ k ∈ q.keys, OrdersTotally k.compare q.pipeline.source) (accepts : α → Bool) :
    (q.filter accepts).Orders (items.filter accepts) where
  last := h.last.cut trivial
  subset := List.Subset.trans List.filter_sublist.subset h.subset
  execute_eq := by
    have here : (q.filter accepts).execute = q.execute.filter accepts :=
      Pipeline.execute_record q.pipeline _
    rw [here, h.execute_eq]
    exact filter_insertionSort ((compareByKeys_ordersTotally total).subset h.subset) accepts

theorem thenBy (h : q.Orders items) (key : SortKey α)
    (total : ∀ k ∈ q.keys ++ [key], OrdersTotally k.compare q.pipeline.source) :
    (q.thenBy key).Orders items where
  last := h.last.thenBy key
  subset := h.subset
  execute_eq := by
    have fine := (compareByKeys_ordersTotally total).subset h.subset
    have coarse := (compareByKeys_ordersTotally fun k hk =>
      total k (List.mem_append_left _ hk)).subset h.subset
    rw [h.last.execute_thenBy_eq key total, h.execute_eq]
    exact insertionSort_insertionSort (fun _ _ => compareByKeys_eq_of_append) coarse fine

/-- A chain sorts those items that all its filters accept, by all its keys. -/
theorem refine {steps : List (Refinement α)} (h : q.Orders items)
    (total : ∀ k ∈ q.keys ++ Refinement.keys steps, OrdersTotally k.compare q.pipeline.source) :
    (q.refine steps).execute = insertionSort (compareByKeys (q.keys ++ Refinement.keys steps))
      (items.filter (acceptsAll (Refinement.filters steps))) := by
  induction steps generalizing q items with
  | nil =>
    rw [Refinement.filters, Refinement.keys, filter_acceptsAll_nil, List.append_nil]
    exact h.execute_eq
  | cons step rest ih =>
    cases step with
    | filter accepts =>
      have here : ∀ k ∈ q.keys, OrdersTotally k.compare q.pipeline.source :=
        fun k mem => total k (List.mem_append_left _ mem)
      rw [Refinement.filters, filter_acceptsAll_cons]
      exact ih (h.filter here accepts) total
    | thenBy key =>
      have here : ∀ k ∈ q.keys ++ [key], OrdersTotally k.compare q.pipeline.source :=
        fun k mem => total k (by
          rw [Refinement.keys, List.append_cons]
          exact List.mem_append_left _ mem)
      have onward := ih (h.thenBy key here)
      rw [Refinement.keys, List.append_cons]
      exact onward (by simpa [OrderedPipeline.thenBy, Refinement.keys] using total)

end Orders

end OrderedPipeline

/-! ## Filters anywhere -/

section Sources

variable {σ : Type} [MemorySource σ α]

open MemorySource (pipeline)

theorem execute_filterAll (filters : List (α → Bool)) (s : σ) :
    (pipeline (filterAll filters s)).execute =
      (pipeline s).execute.filter (acceptsAll filters) := by
  induction filters generalizing s with
  | nil => exact (filter_acceptsAll_nil _).symm
  | cons accepts rest ih =>
    have here : (pipeline (Queryable.filter accepts s)).execute =
        (pipeline s).execute.filter accepts := by
      rw [MemorySource.pipeline_filter]
      exact Pipeline.execute_record _ _
    rw [filter_acceptsAll_cons, ← here]
    exact ih _

theorem source_filterAll (filters : List (α → Bool)) (s : σ) :
    (pipeline (filterAll filters s)).source = (pipeline s).source := by
  induction filters generalizing s with
  | nil => rfl
  | cons accepts rest ih =>
    refine (ih _).trans ?_
    rw [MemorySource.pipeline_filter]
    rfl

/-- A chain of keys alone sorts what a source gives. -/
theorem execute_thenByAll (first : SortKey α) (more : List (SortKey α)) (s : σ) :
    ((Queryable.orderBy first s).thenByAll more).execute =
      insertionSort (compareByKeys (first :: more)) (pipeline s).execute := by
  have chain := OrderedPipeline.foldl_thenBy_last more [first] (pipeline s)
  rw [MemorySource.orderBy_eq, OrderedPipeline.thenByAll, OrderedPipeline.refine, List.foldl_map]
  exact (congrArg OrderedPipeline.execute chain).trans (OrderedPipeline.execute_last _ _)

/-- A chain on a source behind some filters sorts the items that all filters accept, wherever these
stand, by all keys. -/
theorem execute_refine_orderBy (before : List (α → Bool)) (first : SortKey α)
    (steps : List (Refinement α)) (s : σ)
    (total : ∀ k ∈ first :: Refinement.keys steps, OrdersTotally k.compare (pipeline s).source) :
    ((Queryable.orderBy first (filterAll before s)).refine steps).execute =
      insertionSort (compareByKeys (first :: Refinement.keys steps))
        ((pipeline s).execute.filter (acceptsAll (before ++ Refinement.filters steps))) := by
  rw [← source_filterAll before s] at total
  have orders := OrderedPipeline.orders_orderBy first (pipeline (filterAll before s))
  rw [MemorySource.orderBy_eq, orders.refine total, execute_filterAll, filter_acceptsAll_append]
  rfl

/-- A filter gives the same before a chain of keys, behind it and between any two of its steps. Only
what all filters accept together counts, so filters can be exchanged, and several of them can be
joined into one, in a chain as well as without an ordering. -/
theorem filter_chain_comm (s : σ) (first : SortKey α) (more : List (SortKey α))
    (total : ∀ k ∈ first :: more, OrdersTotally k.compare (pipeline s).source) :
    (∀ accepts earlier later, earlier ++ later = more →
      ((((Queryable.orderBy first s).thenByAll earlier).filter accepts).thenByAll later).execute =
        ((Queryable.orderBy first (Queryable.filter accepts s)).thenByAll more).execute) ∧
    (∀ before before' steps steps',
      Refinement.keys steps = more → Refinement.keys steps' = more →
      (∀ a ∈ (pipeline s).source, acceptsAll (before ++ Refinement.filters steps) a =
        acceptsAll (before' ++ Refinement.filters steps') a) →
      ((Queryable.orderBy first (filterAll before s)).refine steps).execute =
        ((Queryable.orderBy first (filterAll before' s)).refine steps').execute) ∧
    ∀ filters filters', (∀ a ∈ (pipeline s).source, acceptsAll filters a = acceptsAll filters' a) →
      (pipeline (filterAll filters s)).execute = (pipeline (filterAll filters' s)).execute := by
  have alike {accepts accepts' : α → Bool}
      (same : ∀ a ∈ (pipeline s).source, accepts a = accepts' a) :
      (pipeline s).execute.filter accepts = (pipeline s).execute.filter accepts' :=
    List.filter_congr fun a mem => same a ((pipeline s).execute_subset mem)
  have rearranged (before before' : List (α → Bool)) (steps steps' : List (Refinement α))
      (keys : Refinement.keys steps = more) (keys' : Refinement.keys steps' = more)
      (same : ∀ a ∈ (pipeline s).source, acceptsAll (before ++ Refinement.filters steps) a =
        acceptsAll (before' ++ Refinement.filters steps') a) :
      ((Queryable.orderBy first (filterAll before s)).refine steps).execute =
        ((Queryable.orderBy first (filterAll before' s)).refine steps').execute := by
    rw [execute_refine_orderBy before first steps s (keys ▸ total),
      execute_refine_orderBy before' first steps' s (keys' ▸ total), keys, keys', alike same]
  refine ⟨fun accepts earlier later split => ?_, rearranged, fun filters filters' same => ?_⟩
  · have inside := rearranged [] [accepts]
      (earlier.map .thenBy ++ .filter accepts :: later.map .thenBy) (more.map .thenBy)
      (by simp [Refinement.keys, split]) (by simp) (by simp [Refinement.filters])
    rw [OrderedPipeline.refine_append] at inside
    exact inside
  · rw [execute_filterAll, execute_filterAll, alike same]

end Sources

theorem ordersTotally_columns :
    ∀ k ∈ [secondColumn, firstColumn], OrdersTotally k.compare rows := by
  have first : firstColumn.Uniform rows := ⟨.int32, by decide⟩
  have second : secondColumn.Uniform rows := ⟨.int32, by decide⟩
  simp [first.ordersTotally, second.ordersTotally]

/-- Two filters on rows that have an ordering already, one of them between two new keys. -/
theorem filter_chain_comm_lowRows : (∀ k ∈ [secondColumn, firstColumn],
      OrdersTotally k.compare (MemorySource.pipeline lowRows).source) ∧
    ((((Queryable.orderBy secondColumn lowRows).filter fun row => row.2 < 3).thenBy
      firstColumn).filter fun row => row != (1, 1)).execute = [(1, 2), (2, 1)] := by
  refine ⟨ordersTotally_columns, ?_⟩
  have moved := (filter_chain_comm lowRows secondColumn [firstColumn] ordersTotally_columns).2.1 []
    [fun row => row != (1, 1) && row.2 < 3]
    [.filter fun row => row.2 < 3, .thenBy firstColumn, .filter fun row => row != (1, 1)]
    [.thenBy firstColumn] rfl rfl (by decide)
  exact moved.trans (by decide)

end RecordQuery
