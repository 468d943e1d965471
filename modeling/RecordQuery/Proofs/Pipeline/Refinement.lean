import RecordQuery.Proofs.Pipeline.Ordering
import RecordQuery.Proofs.Pipeline.StableSort

/-!
# Refining an ordering

A further key breaks the ties of an ordering and leaves everything else as it is. When nothing was
recorded since the ordering, the ordering itself is replaced; otherwise a second one is recorded.
Both come to the same, since a sort by more keys makes up for an earlier one by fewer.

What carries the proof is that every pipeline with an ordering has recorded this ordering, by just
the keys that it holds, and that it has only left out items since.

## Main definitions

* `Pipeline.BuiltFrom`, `OrderedPipeline.BuiltFrom`: the pipelines that items can be built into.
* `OrderedPipeline.OrdersLast`: whether the last recorded ordering is the one by a pipeline's keys.

## Main statements

* `SortsStably.of_coarser`: a sort by fewer keys does not change what a sort by more keys gives.
* `OrderedPipeline.BuiltFrom.ordersLast`: what can be built has recorded its ordering last.
* `OrderedPipeline.execute_thenBy`: a further key only breaks ties.
-/

namespace RecordQuery

variable {α : Type} {items : List α}

/-! ## What can be built -/

mutual

/-- The pipelines that can be built from some items. -/
inductive Pipeline.BuiltFrom (items : List α) : Pipeline α → Prop where
  | ofItems : Pipeline.BuiltFrom items (.ofItems items)
  | filter {q : Pipeline α} (accepts : α → Bool) (built : Pipeline.BuiltFrom items q) :
      Pipeline.BuiltFrom items (q.filter accepts)
  | skip {q : Pipeline α} (count : Nat) (built : Pipeline.BuiltFrom items q) :
      Pipeline.BuiltFrom items (q.skip count)
  | take {q : Pipeline α} (count : Nat) (built : Pipeline.BuiltFrom items q) :
      Pipeline.BuiltFrom items (q.take count)
  | plain {q : OrderedPipeline α} (built : OrderedPipeline.BuiltFrom items q) :
      Pipeline.BuiltFrom items q.pipeline

/-- The pipelines with an ordering that can be built from some items. -/
inductive OrderedPipeline.BuiltFrom (items : List α) : OrderedPipeline α → Prop where
  | ofPipeline {q : Pipeline α} (key : SortKey α) (built : Pipeline.BuiltFrom items q) :
      OrderedPipeline.BuiltFrom items (q.orderBy key)
  | filter {q : OrderedPipeline α} (accepts : α → Bool)
      (built : OrderedPipeline.BuiltFrom items q) :
      OrderedPipeline.BuiltFrom items (q.filter accepts)
  | skip {q : OrderedPipeline α} (count : Nat) (built : OrderedPipeline.BuiltFrom items q) :
      OrderedPipeline.BuiltFrom items (q.skip count)
  | take {q : OrderedPipeline α} (count : Nat) (built : OrderedPipeline.BuiltFrom items q) :
      OrderedPipeline.BuiltFrom items (q.take count)
  | orderBy {q : OrderedPipeline α} (key : SortKey α)
      (built : OrderedPipeline.BuiltFrom items q) :
      OrderedPipeline.BuiltFrom items (q.orderBy key)
  | thenBy {q : OrderedPipeline α} (key : SortKey α)
      (built : OrderedPipeline.BuiltFrom items q) :
      OrderedPipeline.BuiltFrom items (q.thenBy key)

end

mutual

/-- A pipeline has the items that it was built from. -/
theorem Pipeline.BuiltFrom.source_eq {q : Pipeline α} : q.BuiltFrom items → q.source = items
  | .ofItems => rfl
  | .filter _ built | .skip _ built | .take _ built => built.source_eq
  | .plain built => built.source_eq

theorem OrderedPipeline.BuiltFrom.source_eq {q : OrderedPipeline α} :
    q.BuiltFrom items → q.pipeline.source = items
  | .ofPipeline _ built => built.source_eq
  | .filter _ built | .skip _ built | .take _ built | .orderBy _ built | .thenBy _ built =>
    built.source_eq

end

/-! ## What operations keep -/

/-- Whether an operation leaves out items and keeps the order of the others. -/
def Operation.IsCut : Operation α → Prop
  | order _ => False
  | filter _ | skip _ | take _ => True

theorem Operation.IsCut.run_sublist {op : Operation α} (cut : op.IsCut) (items : List α) :
    (op.run items).Sublist items := by
  cases op with
  | filter accepts => exact List.filter_sublist
  | order keys => exact cut.elim
  | skip count => exact List.drop_sublist count items
  | take count => exact List.take_sublist count items

theorem foldl_run_sublist {cuts : List (Operation α)} (cut : ∀ op ∈ cuts, op.IsCut)
    (items : List α) : (cuts.foldl (fun items op => op.run items) items).Sublist items := by
  induction cuts generalizing items with
  | nil => exact .refl items
  | cons op rest ih =>
    obtain ⟨first, others⟩ := List.forall_mem_cons.1 cut
    exact (ih others _).trans (first.run_sublist items)

theorem Operation.run_subset (op : Operation α) (items : List α) : op.run items ⊆ items := by
  cases op with
  | order keys => exact (perm_insertionSort _ items).subset
  | filter accepts => exact List.filter_sublist.subset
  | skip count => exact List.drop_subset count items
  | take count => exact List.take_subset count items

/-- A pipeline gives items of its source. -/
theorem Pipeline.execute_subset (q : Pipeline α) : q.execute ⊆ q.source := by
  obtain ⟨source, operations⟩ := q
  change operations.foldl (fun items op => op.run items) source ⊆ source
  induction operations generalizing source with
  | nil => exact List.Subset.refl source
  | cons op rest ih => exact List.Subset.trans (ih _) (op.run_subset source)

/-! ## The last ordering -/

theorem reorderLast_of_isCut (keys : List (SortKey α)) {op : Operation α} (cut : op.IsCut)
    (before : List (Operation α)) :
    reorderLast keys (before ++ [op]) = before ++ [op] ++ [.order keys] := by
  induction before with
  | nil =>
    cases op with
    | order => exact cut.elim
    | filter accepts | skip count | take count => rfl
  | cons first rest ih =>
    rw [List.cons_append, reorderLast, ih]
    · rfl
    · simp

namespace OrderedPipeline

/-- Whether the ordering that was recorded last is the one by the keys of a pipeline: since then it
has only left out items. -/
def OrdersLast (q : OrderedPipeline α) : Prop :=
  ∃ before cuts, q.pipeline.operations = before ++ .order q.keys :: cuts ∧ ∀ op ∈ cuts, op.IsCut

theorem ordersLast_orderBy (key : SortKey α) (q : Pipeline α) : (q.orderBy key).OrdersLast :=
  ⟨q.operations, [], rfl, nofun⟩

namespace OrdersLast

variable {q : OrderedPipeline α}

theorem cut (last : q.OrdersLast) {op : Operation α} (cut : op.IsCut) :
    OrdersLast ⟨q.pipeline.record op, q.keys⟩ := by
  obtain ⟨before, cuts, split, cut_all⟩ := last
  refine ⟨before, cuts ++ [op], by simp [Pipeline.record, split], fun op' mem => ?_⟩
  obtain mem | mem := List.mem_append.1 mem
  · exact cut_all op' mem
  · exact List.mem_singleton.1 mem ▸ cut

/-- The operations with a further key: it comes into the last ordering if that is the last
operation, and a new ordering is recorded otherwise. -/
theorem reorderLast_eq (last : q.OrdersLast) (keys : List (SortKey α)) :
    (∃ before, q.pipeline.operations = before ++ [.order q.keys] ∧
      reorderLast keys q.pipeline.operations = before ++ [.order keys]) ∨
    reorderLast keys q.pipeline.operations = q.pipeline.operations ++ [.order keys] := by
  obtain ⟨before, cuts, split, cut⟩ := last
  obtain rfl | ⟨cuts, op, rfl⟩ := List.eq_nil_or_concat cuts
  · exact .inl ⟨before, split, split ▸ reorderLast_append keys q.keys before⟩
  · right
    have concat : q.pipeline.operations = (before ++ .order q.keys :: cuts) ++ [op] := by
      simp [split]
    rw [concat]
    exact reorderLast_of_isCut keys (cut op (by simp)) _

theorem thenBy (last : q.OrdersLast) (key : SortKey α) : (q.thenBy key).OrdersLast := by
  obtain ⟨before, -, again⟩ | again := last.reorderLast_eq (q.keys ++ [key])
  · exact ⟨before, [], again, nofun⟩
  · exact ⟨q.pipeline.operations, [], again, nofun⟩

/-- What the pipeline gives is sorted by its keys. -/
theorem sorted (last : q.OrdersLast)
    (total : OrdersTotally (compareByKeys q.keys) q.pipeline.source) :
    q.execute.Pairwise fun a b => compareByKeys q.keys a b ≠ .gt := by
  obtain ⟨before, cuts, split, cut⟩ := last
  have here : q.execute = cuts.foldl (fun items op => op.run items)
      (insertionSort (compareByKeys q.keys) (Pipeline.execute ⟨q.pipeline.source, before⟩)) := by
    simp [execute, Pipeline.execute, split, Operation.run]
  rw [here]
  have all := total.subset (Pipeline.execute_subset ⟨q.pipeline.source, before⟩)
  exact (insertionSort_sortsStably all).sorted.sublist (foldl_run_sublist cut _)

end OrdersLast

/-- Whatever was built has recorded its ordering last. -/
theorem BuiltFrom.ordersLast {q : OrderedPipeline α} : q.BuiltFrom items → q.OrdersLast
  | .ofPipeline key _ | .orderBy key _ => ordersLast_orderBy key _
  | .filter _ built | .skip _ built | .take _ built => built.ordersLast.cut trivial
  | .thenBy key built => built.ordersLast.thenBy key

end OrderedPipeline

/-! ## Sorting again -/

/-- A further key decides between the items that tie on the others. -/
theorem compareByKeys_append (keys more : List (SortKey α)) (a b : α) :
    compareByKeys (keys ++ more) a b = (compareByKeys keys a b).then (compareByKeys more a b) := by
  induction keys with
  | nil => rfl
  | cons k rest ih => rw [List.cons_append, compareByKeys, ih, compareByKeys, Ordering.then_assoc]

theorem compareByKeys_eq_of_append {keys more : List (SortKey α)} {a b : α}
    (tie : compareByKeys (keys ++ more) a b = .eq) : compareByKeys keys a b = .eq := by
  rw [compareByKeys_append] at tie
  exact (Ordering.then_eq_eq.1 tie).1

theorem compareByKeys_eq_eq_iff {keys : List (SortKey α)} {a b : α} :
    compareByKeys keys a b = .eq ↔ ∀ k ∈ keys, k.compare a b = .eq := by
  induction keys with
  | nil => simp [compareByKeys]
  | cons k rest ih => rw [compareByKeys, Ordering.then_eq_eq, ih, List.forall_mem_cons]

/-- A sort by a comparison gives the same after a sort by a coarser one, which ties all items that
it ties. -/
theorem SortsStably.of_coarser {coarse fine : α → α → Ordering} {input first output : List α}
    (ties : ∀ a b, fine a b = .eq → coarse a b = .eq) (before : SortsStably coarse input first)
    (h : SortsStably fine input output) : SortsStably fine first output where
  perm := h.perm.trans before.perm.symm
  sorted := h.sorted
  stable a ha := by
    have mem : a ∈ input := before.perm.subset ha
    have narrow (list : List α) : list.filter (fine a · == .eq) =
        (list.filter (coarse a · == .eq)).filter (fine a · == .eq) := by
      rw [List.filter_filter]
      refine List.filter_congr fun b _ => ?_
      by_cases tie : fine a b = .eq
      · simp [tie, ties a b tie]
      · simp [tie]
    rw [h.stable a mem, narrow input, narrow first, before.stable a mem]

theorem insertionSort_insertionSort {coarse fine : α → α → Ordering}
    (ties : ∀ a b, fine a b = .eq → coarse a b = .eq) (coarse_total : OrdersTotally coarse items)
    (fine_total : OrdersTotally fine items) :
    insertionSort fine (insertionSort coarse items) = insertionSort fine items := by
  have before := insertionSort_sortsStably coarse_total
  have total : OrdersTotally fine (insertionSort coarse items) :=
    fine_total.subset before.perm.subset
  exact (insertionSort_sortsStably total).unique total
    (before.of_coarser ties (insertionSort_sortsStably fine_total))

/-- In a sorted list, an item comes before another one that it does not tie with if it is less. -/
theorem sublist_pair_iff_of_sorted {order : α → α → Ordering} {sorted : List α}
    (total : OrdersTotally order sorted) (h : sorted.Pairwise fun a b => order a b ≠ .gt) {a b : α}
    (apart : order a b ≠ .eq) :
    [a, b].Sublist sorted ↔ a ∈ sorted ∧ b ∈ sorted ∧ order a b = .lt := by
  constructor
  · intro sub
    have ha : a ∈ sorted := sub.subset (by simp)
    have hb : b ∈ sorted := sub.subset (by simp)
    have le : order a b ≠ .gt := by simpa using h.sublist sub
    refine ⟨ha, hb, ?_⟩
    cases eq : order a b <;> simp_all
  · rintro ⟨ha, hb, lt⟩
    obtain ⟨before, after, rfl⟩ := List.append_of_mem ha
    obtain hb | hb := List.mem_append.1 hb
    · have le : order b a ≠ .gt := (List.pairwise_append.1 h).2.2 b hb a List.mem_cons_self
      rw [total.swap a ha b (List.mem_append_left _ hb), lt] at le
      exact (le rfl).elim
    · obtain rfl | hb := List.mem_cons.1 hb
      · exact (apart (total.refl ha)).elim
      · exact ((List.singleton_sublist.2 hb).cons_cons a).trans (List.sublist_append_right ..)

/-- A further key gives what a sort of the present items by all keys gives. -/
theorem OrderedPipeline.OrdersLast.execute_thenBy_eq {q : OrderedPipeline α} (last : q.OrdersLast)
    (key : SortKey α)
    (total : ∀ k ∈ q.keys ++ [key], OrdersTotally k.compare q.pipeline.source) :
    (q.thenBy key).execute = insertionSort (compareByKeys (q.keys ++ [key])) q.execute := by
  obtain ⟨before, split, again⟩ | again := last.reorderLast_eq (q.keys ++ [key])
  · let earlier : Pipeline α := ⟨q.pipeline.source, before⟩
    have ordered : q = .last q.keys earlier := by
      obtain ⟨⟨source, operations⟩, keys⟩ := q
      simp [OrderedPipeline.last, Pipeline.record, earlier, ← split]
    have refined : q.thenBy key = .last (q.keys ++ [key]) earlier := by
      rw [OrderedPipeline.thenBy, again]; rfl
    have fine : OrdersTotally (compareByKeys (q.keys ++ [key])) earlier.execute :=
      (compareByKeys_ordersTotally total).subset earlier.execute_subset
    have coarse : OrdersTotally (compareByKeys q.keys) earlier.execute :=
      (compareByKeys_ordersTotally fun k hk => total k (List.mem_append_left _ hk)).subset
        earlier.execute_subset
    have before : q.execute = insertionSort (compareByKeys q.keys) earlier.execute := by
      rw [ordered]
      exact execute_last q.keys earlier
    rw [refined, execute_last, before,
      insertionSort_insertionSort (fun _ _ => compareByKeys_eq_of_append) coarse fine]
  · have recorded : q.thenBy key =
        ⟨q.pipeline.record (.order (q.keys ++ [key])), q.keys ++ [key]⟩ := by
      rw [OrderedPipeline.thenBy, again]; rfl
    rw [recorded]
    exact Pipeline.execute_record q.pipeline _

/-- A further key gives the stable sort of what a pipeline gave before, by all keys. So it moves
only items that tie, and a second ordering would have done the same as a change of the last one. -/
theorem OrderedPipeline.execute_thenBy {q : OrderedPipeline α} (built : q.BuiltFrom items)
    (key : SortKey α) (total : ∀ k ∈ q.keys ++ [key], OrdersTotally k.compare items) :
    (∀ result, SortsStably (compareByKeys (q.keys ++ [key])) q.execute result ↔
      result = (q.thenBy key).execute) ∧
    (q.thenBy key).execute.Perm q.execute ∧
    (∀ a b, (∃ k ∈ q.keys, k.compare a b ≠ .eq) →
      ([a, b].Sublist (q.thenBy key).execute ↔ [a, b].Sublist q.execute)) ∧
    (q.thenBy key).execute = (q.pipeline.record (.order (q.keys ++ [key]))).execute := by
  obtain rfl := built.source_eq
  have again := built.ordersLast.execute_thenBy_eq key total
  have fine := (compareByKeys_ordersTotally total).subset q.pipeline.execute_subset
  have coarse : OrdersTotally (compareByKeys q.keys) q.pipeline.source :=
    compareByKeys_ordersTotally fun k hk => total k (List.mem_append_left _ hk)
  have sorts : SortsStably (compareByKeys (q.keys ++ [key])) q.execute (q.thenBy key).execute :=
    again ▸ insertionSort_sortsStably fine
  refine ⟨fun result => ⟨fun h => h.unique fine sorts, fun h => h ▸ sorts⟩, sorts.perm, ?_, ?_⟩
  · rintro a b ⟨k, hk, differ⟩
    have apart : compareByKeys q.keys a b ≠ .eq := fun tie =>
      differ (compareByKeys_eq_eq_iff.1 tie k hk)
    have before : OrdersTotally (compareByKeys q.keys) q.execute :=
      coarse.subset q.pipeline.execute_subset
    have after := before.subset sorts.perm.subset
    -- the old keys still sort the items, since they decide first
    have sorted : (q.thenBy key).execute.Pairwise fun a b => compareByKeys q.keys a b ≠ .gt :=
      sorts.sorted.imp fun le gt => le (by rw [compareByKeys_append, gt]; rfl)
    rw [sublist_pair_iff_of_sorted after sorted apart,
      sublist_pair_iff_of_sorted before (built.ordersLast.sorted coarse) apart,
      sorts.perm.mem_iff, sorts.perm.mem_iff]
  · rw [Pipeline.execute_record]
    exact again

/-- Rows of two numbers, which have keys for both columns. -/
def rows : List (Nat × Nat) := [(2, 3), (1, 2), (2, 1), (1, 1), (3, 0)]

def firstColumn : SortKey (Nat × Nat) := ⟨.ascending, fun row => .int32 (.ofNat row.1)⟩

def secondColumn : SortKey (Nat × Nat) := ⟨.descending, fun row => .int32 (.ofNat row.2)⟩

/-- The rows by their first column, without the last one. -/
def lowRows : OrderedPipeline (Nat × Nat) :=
  (Pipeline.ofItems rows |>.orderBy firstColumn).filter fun row => row.1 < 3

theorem lowRows_builtFrom : lowRows.BuiltFrom rows :=
  .filter _ (.ofPipeline firstColumn .ofItems)

theorem execute_thenBy_lowRows :
    SortsStably (compareByKeys [firstColumn, secondColumn]) lowRows.execute
      [(1, 2), (1, 1), (2, 3), (2, 1)] := by
  have total : ∀ k ∈ lowRows.keys ++ [secondColumn], OrdersTotally k.compare rows := by
    have first : firstColumn.Uniform rows := ⟨.int32, by decide⟩
    have second : secondColumn.Uniform rows := ⟨.int32, by decide⟩
    simp [lowRows, OrderedPipeline.filter, Pipeline.orderBy, first.ordersTotally,
      second.ordersTotally]
  have refined := (OrderedPipeline.execute_thenBy lowRows_builtFrom secondColumn total).1
  exact (refined _).2 (by decide)

end RecordQuery
