import RecordQuery.Proofs.Pipeline.Filtering

/-!
# Ordering again

A new ordering does not take the place of an earlier one: both sorts run, one after the other. Since
they are stable, the keys of the earlier ordering break the ties of the new key, just as if they had
been added to it. The earlier ordering shows unless the items that tie on the new key were in its
order before.

## Main statements

* `SortsStably.lex_iff`: when a stable sort by one order is one by two orders.
* `insertionSort_behind`: two stable sorts, one behind the other, are one by both orders.
* `execute_orderBy_again`: what an ordering behind another one gives.
-/

namespace RecordQuery

variable {α : Type} {items : List α} {order next : α → α → Ordering}

/-! ## Sorts by two orders -/

/-- Items that tie are in the same order before and behind a stable sort. -/
theorem SortsStably.pair_sublist_iff {input output : List α} (total : OrdersTotally order input)
    (h : SortsStably order input output) {a b : α} (ha : a ∈ input) (tie : order a b = .eq) :
    [a, b].Sublist output ↔ [a, b].Sublist input := by
  have ties : [a, b].filter (order a · == .eq) = [a, b] := by simp [total.refl ha, tie]
  have among (list : List α) :
      [a, b].Sublist list ↔ [a, b].Sublist (list.filter (order a · == .eq)) :=
    ⟨fun sub => ties ▸ sub.filter _, fun sub => sub.trans List.filter_sublist⟩
  rw [among output, h.stable a ha, ← among input]

/-- A stable sort sorts by a second order as well if and only if the items that tie on the first one
are in the second one already. -/
theorem SortsStably.lex_iff {input output : List α} (total : OrdersTotally order input)
    (h : SortsStably order input output) :
    SortsStably (fun a b => (order a b).then (next a b)) input output ↔
      input.Pairwise fun a b => order a b = .eq → next a b ≠ .gt := by
  have decides {a b : α} : (order a b).then (next a b) ≠ .gt ↔
      order a b ≠ .gt ∧ (order a b = .eq → next a b ≠ .gt) := by
    cases order a b <;> simp
  constructor
  · intro sorts
    refine List.pairwise_iff_forall_sublist.2 fun {a b} sub tie => ?_
    have ha : a ∈ input := sub.subset (by simp)
    have moved := (h.pair_sublist_iff total ha tie).2 sub
    exact (decides.1 (List.pairwise_iff_forall_sublist.1 sorts.sorted moved)).2 tie
  · intro sorted
    refine ⟨h.perm, List.pairwise_iff_forall_sublist.2 fun {a b} sub => ?_, fun a ha => ?_⟩
    · have ha : a ∈ input := h.perm.subset (sub.subset (by simp))
      refine decides.2 ⟨List.pairwise_iff_forall_sublist.1 h.sorted sub, fun tie => ?_⟩
      have before := (h.pair_sublist_iff total ha tie).1 sub
      exact List.pairwise_iff_forall_sublist.1 sorted before tie
    · have both : (fun b => (order a b).then (next a b) == .eq) =
          fun b => order a b == .eq && next a b == .eq :=
        funext fun b => by cases order a b <;> cases next a b <;> rfl
      rw [both, ← List.filter_filter, ← List.filter_filter, filter_filter_comm, h.stable a ha,
        filter_filter_comm]

/-- A second order makes no difference to a sort if and only if ties are in that order already. -/
theorem insertionSort_lex_iff (total : OrdersTotally order items)
    (next_total : OrdersTotally next items) :
    insertionSort order items = insertionSort (fun a b => (order a b).then (next a b)) items ↔
      items.Pairwise fun a b => order a b = .eq → next a b ≠ .gt := by
  have both := total.lex next_total
  have sorts := insertionSort_sortsStably both
  rw [← (insertionSort_sortsStably total).lex_iff total]
  exact ⟨fun same => same ▸ sorts, fun h => h.unique both sorts⟩

/-- A sort behind another one is a sort by both orders, of which the later one decides first. -/
theorem insertionSort_behind (total : OrdersTotally order items)
    (next_total : OrdersTotally next items) :
    insertionSort order (insertionSort next items) =
      insertionSort (fun a b => (order a b).then (next a b)) items := by
  have sorts := insertionSort_sortsStably next_total
  have among := sorts.perm.subset
  have ties : (insertionSort next items).Pairwise fun a b => order a b = .eq → next a b ≠ .gt :=
    sorts.sorted.imp fun {_ _} le => fun _ => le
  rw [(insertionSort_lex_iff (total.subset among) (next_total.subset among)).2 ties]
  exact insertionSort_insertionSort (fun _ _ tie => (Ordering.then_eq_eq.1 tie).2) next_total
    (total.lex next_total)

/-! ## Orderings behind orderings -/

section Sources

variable {σ : Type} [MemorySource σ α]

open MemorySource (pipeline)

/-- A new ordering sorts what the pipeline gave before by the new key alone. -/
theorem OrderedPipeline.execute_orderBy (q : OrderedPipeline α) (key : SortKey α) :
    (q.orderBy key).execute = insertionSort key.compare q.execute := by
  have alone : compareByKeys [key] = key.compare :=
    funext fun a => funext fun b => by
      show (key.compare a b).then .eq = _
      cases key.compare a b <;> rfl
  rw [← alone]
  exact Pipeline.execute_record q.pipeline _

/-- An ordering behind an earlier one gives what the new key gives with the earlier keys as further
ones. So it is the same as without the earlier ordering if and only if the items that tie on the new
key are in that order anyway. -/
theorem execute_orderBy_again (s : σ) (first : SortKey α) (more : List (SortKey α))
    (key : SortKey α)
    (total : ∀ k ∈ key :: first :: more, OrdersTotally k.compare (pipeline s).source) :
    let again := ((Queryable.orderBy first s).thenByAll more).orderBy key
    again.execute = ((Queryable.orderBy key s).thenByAll (first :: more)).execute ∧
    (again.execute = (Queryable.orderBy key s).execute ↔ (pipeline s).execute.Pairwise fun a b =>
      key.compare a b = .eq → compareByKeys (first :: more) a b ≠ .gt) := by
  intro again
  obtain ⟨key_total, earlier_total⟩ := List.forall_mem_cons.1 total
  have subset := (pipeline s).execute_subset
  have coarse := key_total.subset subset
  have earlier := (compareByKeys_ordersTotally earlier_total).subset subset
  have refined : again.execute =
      insertionSort (compareByKeys (key :: first :: more)) (pipeline s).execute := by
    have here := OrderedPipeline.execute_orderBy ((Queryable.orderBy first s).thenByAll more) key
    rw [execute_thenByAll] at here
    exact here.trans (insertionSort_behind coarse earlier)
  have alone : (Queryable.orderBy key s).execute =
      insertionSort key.compare (pipeline s).execute := by
    rw [MemorySource.orderBy_eq]
    exact OrderedPipeline.execute_orderBy ⟨pipeline s, []⟩ key
  refine ⟨refined.trans (execute_thenByAll key (first :: more) s).symm, ?_⟩
  rw [refined, alone, ← insertionSort_lex_iff coarse earlier]
  exact eq_comm

end Sources

/-- The rows by their second column, with their order by the first one still in them. -/
theorem execute_orderBy_again_rows :
    (∀ k ∈ [secondColumn, firstColumn],
      OrdersTotally k.compare (MemorySource.pipeline lowRows).source) ∧
    ((Queryable.orderBy firstColumn lowRows).orderBy secondColumn).execute =
      ((Queryable.orderBy secondColumn lowRows).thenBy firstColumn).execute ∧
    ((Queryable.orderBy firstColumn lowRows).orderBy secondColumn).execute =
      [(2, 3), (1, 2), (1, 1), (2, 1)] :=
  have again := execute_orderBy_again lowRows firstColumn [] secondColumn ordersTotally_columns
  ⟨ordersTotally_columns, again.1, by decide⟩

/-- Rows that tie on the new key. -/
def tiedRows : List (Nat × Nat) := [(2, 1), (1, 1)]

theorem execute_orderBy_again_tiedRows :
    (∀ k ∈ [firstColumn, secondColumn], OrdersTotally k.compare tiedRows) ∧
    (((Pipeline.ofItems tiedRows).orderBy firstColumn).orderBy secondColumn).execute ≠
      ((Pipeline.ofItems tiedRows).orderBy secondColumn).execute := by
  have first : firstColumn.Uniform tiedRows := ⟨.int32, by decide⟩
  have second : secondColumn.Uniform tiedRows := ⟨.int32, by decide⟩
  exact ⟨by simp [first.ordersTotally, second.ordersTotally], by decide⟩

end RecordQuery
