import RecordQuery.Proofs.Evaluate.RuntimeType
import RecordQuery.Proofs.Options.Application

/-!
# Ordering by the values of terms

Items are ordered by the properties that the terms of a clause name, without a look at the casts
before them. That is the order of the values that the terms have for the records without their types.
It is the order of the values for the records themselves if every record that fails a cast of a term
has no value for its property anyway.

## Main definitions

* `OrderByClause.order`: the order of two items by the values of terms.
* `OrderByClause.Uniform`: whether each term has nulls and values of one type.

## Main statements

* `execute_applyOrderBy`: ordered items are sorted by the values of terms.
-/

namespace RecordQuery

variable {α : Type} {context : QueryContext} {text : String} {clause : OrderByClause}
  {columns : List SortProperty} {items : List α} {view : α → Record} {m : Model}

namespace OrderByClause

/-- The order of two items by the values that the terms of a clause have for their records: the first
term on which they differ decides. Nulls come first ascending and last descending. -/
def order (clause : OrderByClause) (m : Model) (view : α → Record) (a b : α) : Ordering :=
  let value (a : α) (t : OrderByTerm) := evaluate (view a) t.expr m
  ((clause.terms.map fun t => t.direction.apply ((value a t).sortOrder (value b t))).find?
    (· ≠ .eq)).getD .eq

/-- Whether each term of a clause has nulls and values of one type for some items, without NaN. -/
def Uniform (clause : OrderByClause) (m : Model) (view : α → Record) (items : List α) : Prop :=
  ∀ t ∈ clause.terms, ∃ type, ∀ a ∈ items, (evaluate (view a) t.expr m).Orderable type

end OrderByClause

/-! ## Terms and columns -/

section Columns

variable [HasRecord α]

/-- Whether the terms of a clause have the values of their properties for some items. -/
def OrderByClause.ReadsColumns (clause : OrderByClause) (m : Model) (view : α → Record)
    (items : List α) : Prop :=
  ∀ a ∈ items, ∀ t ∈ clause.terms, ∀ q, t.expr.SortsBy q →
    evaluate (view a) t.expr m = (HasRecord.record a).read q.name

/-- Terms without regard to the types of records have the values of their properties. -/
theorem OrderByClause.readsColumns_untyped (clause : OrderByClause) (m : Model) (items : List α) :
    clause.ReadsColumns m (fun a => (HasRecord.record a).untyped) items := by
  rintro a - t - q ⟨type, source, prim, expr, -, element⟩
  rw [expr]
  exact evaluate_of_passes element fun target _ => Record.passesCast_of_none rfl m target

theorem map_eq_map_of_gives {β : Type} {terms : List OrderByTerm} {f : OrderByTerm → β}
    {g : SortProperty → β} (gives : List.Forall₂ OrderByTerm.Gives terms columns)
    (same : ∀ t ∈ terms, ∀ p, t.Gives p → f t = g p) : terms.map f = columns.map g := by
  induction gives with
  | nil => rfl
  | @cons t p _ _ here _ ih =>
    obtain ⟨first, others⟩ := List.forall_mem_cons.1 same
    rw [List.map_cons, List.map_cons, first p here, ih others]

/-- Terms that have the values of their properties order items like the columns of a clause. -/
theorem OrderByClause.ReadsColumns.order_eq (reads : clause.ReadsColumns m view items)
    (gives : List.Forall₂ OrderByTerm.Gives clause.terms columns) :
    ∀ a ∈ items, ∀ b ∈ items, clause.order m view a b = rowOrder columns a b := by
  intro a ha b hb
  unfold OrderByClause.order rowOrder
  dsimp only
  rw [map_eq_map_of_gives gives fun t ht p here => ?_]
  rw [reads a ha t ht _ here.1, reads b hb t ht _ here.1, here.2]

theorem OrderByClause.ReadsColumns.ordersTotally (reads : clause.ReadsColumns m view items)
    (gives : List.Forall₂ OrderByTerm.Gives clause.terms columns)
    (uniform : clause.Uniform m view items) : OrdersTotally (rowOrder columns) items := by
  rw [rowOrder_eq]
  refine compareByKeys_ordersTotally (List.forall_mem_map.2 fun p hp => ?_)
  obtain ⟨before, after, rfl⟩ := List.append_of_mem hp
  obtain ⟨_, t, _, split, _, here⟩ := forall₂_split gives
  have ht : t ∈ clause.terms := by simp [split]
  obtain ⟨type, orderable⟩ := uniform t ht
  refine SortKey.Uniform.ordersTotally ⟨type, fun a ha => ?_⟩
  have value := orderable a ha
  rwa [reads a ha t ht _ here.1] at value

/-- The items that an ordering of a pipeline gives are sorted by the values of terms, if these are
the values of the properties to sort by. -/
theorem OrderByClause.ReadsColumns.sorts (reads : clause.ReadsColumns m view items)
    (gives : List.Forall₂ OrderByTerm.Gives clause.terms columns)
    (uniform : clause.Uniform m view items) {ordered : OrderedPipeline α}
    (applied : applyOrderBy columns (Pipeline.ofItems items) = .ok ordered) (result : List α) :
    SortsStably (clause.order m view) items result ↔ result = ordered.execute := by
  have total := reads.ordersTotally gives uniform
  have sorted : SortsStably (rowOrder columns) items ordered.execute := by
    rw [applyOrderBy_eq_ok applied, OrderedPipeline.execute_last, ← rowOrder_eq]
    exact insertionSort_sortsStably total
  rw [SortsStably.congr (reads.order_eq gives)]
  exact ⟨fun h => h.unique total sorted, fun h => h ▸ sorted⟩

theorem gives_of_sortProperties (parsed : parseOrderBy text context = .ok clause)
    (found : clause.sortProperties = .ok columns) :
    List.Forall₂ OrderByTerm.Gives clause.terms columns :=
  sortPropertiesFrom_eq_ok_iff.1 ((sortProperties_of_parseOrderBy parsed).symm.trans found)

theorem distinct_of_applyOrderBy (parsed : parseOrderBy text context = .ok clause)
    (found : clause.sortProperties = .ok columns) {ordered : OrderedPipeline α}
    (applied : applyOrderBy columns (Pipeline.ofItems items) = .ok ordered) : clause.Distinct :=
  (applyOrderBy_eq_ok_iff (terms_ne_nil_of_parseOrderBy parsed)
    (gives_of_sortProperties parsed found) (Pipeline.ofItems items)).1 ⟨ordered, applied⟩

end Columns

/-- Ordering a pipeline sorts its items by the values that terms have when no record has a type of its
own. These are the values for the items themselves if an item that fails a cast has no value there. -/
theorem execute_applyOrderBy [HasRecord α] (parsed : parseOrderBy text context = .ok clause)
    (found : clause.sortProperties = .ok columns) (distinct : clause.Distinct) (items : List α) :
    ∃ ordered : OrderedPipeline α, applyOrderBy columns (Pipeline.ofItems items) = .ok ordered ∧
      (clause.Uniform context.model (fun a => (HasRecord.record a).untyped) items →
        ∀ result, SortsStably (clause.order context.model fun a => (HasRecord.record a).untyped)
          items result ↔ result = ordered.execute) ∧
      (clause.Uniform context.model HasRecord.record items →
        (∀ a ∈ items, ∀ t ∈ clause.terms,
          (∀ target, t.expr.CastsTo target →
            (HasRecord.record a).passesCast context.model target) ∨
          ∀ q, t.expr.SortsBy q → (HasRecord.record a).read q.name = .null) →
        ∀ result, SortsStably (clause.order context.model HasRecord.record) items result ↔
          result = ordered.execute) := by
  have gives := gives_of_sortProperties parsed found
  obtain ⟨ordered, applied⟩ := (applyOrderBy_eq_ok_iff (terms_ne_nil_of_parseOrderBy parsed) gives
    (Pipeline.ofItems items)).2 distinct
  refine ⟨ordered, applied, fun uniform result => ?_, fun uniform passes result => ?_⟩
  · exact (clause.readsColumns_untyped context.model items).sorts gives uniform applied result
  · refine OrderByClause.ReadsColumns.sorts ?_ gives uniform applied result
    rintro a ha t ht q ⟨type, source, prim, expr, primitive, element⟩
    rw [expr]
    obtain passes | missing := passes a ha t ht
    · exact evaluate_of_passes element fun target casts =>
        passes target (expr ▸ casts.child List.mem_cons_self)
    · have null := missing q ⟨type, source, prim, expr, primitive, element⟩
      rw [null, evaluate_of_null element null]

/-- A contractor and an employee, who is paid less. -/
def paid : List Record := [rated (some "Pay.Contractor") 5, rated (some "Pay.Employee") 2]

/-- The rate of employees is a term that has a sort property, with numbers and nulls for values. The
contractor comes behind the employee, although the rate of a contractor as an employee is null. -/
theorem sorts_employeeRate : ∃ clause columns, ∃ ordered : OrderedPipeline Record,
    parseOrderBy "Pay.Employee/Rate" payContext = .ok clause ∧
    clause.sortProperties = .ok columns ∧
    applyOrderBy columns (Pipeline.ofItems paid) = .ok ordered ∧
    (∀ t ∈ clause.terms, ∀ a ∈ paid,
      (evaluate a t.expr payContext.model).Orderable .int32 ∧
      (evaluate a.untyped t.expr payContext.model).Orderable .int32) ∧
    ¬ ordered.execute.Pairwise fun a b => clause.order payContext.model id a b ≠ .gt := by
  have known : (parseOrderBy "Pay.Employee/Rate" payContext).toOption.any (fun clause =>
      clause.sortProperties.toOption.any fun columns =>
        (applyOrderBy columns (Pipeline.ofItems paid)).toOption.any fun ordered =>
          decide (∀ t ∈ clause.terms, ∀ a ∈ paid,
            (evaluate a t.expr payContext.model).Orderable .int32 ∧
            (evaluate a.untyped t.expr payContext.model).Orderable .int32) &&
          !decide (ordered.execute.Pairwise fun a b =>
            clause.order payContext.model id a b ≠ .gt)) = true := by decide +kernel
  obtain ⟨clause, parsed, known⟩ := Except.any_toOption.1 known
  obtain ⟨columns, found, known⟩ := Except.any_toOption.1 known
  obtain ⟨ordered, applied, known⟩ := Except.any_toOption.1 known
  obtain ⟨orderable, unsorted⟩ := Bool.and_eq_true_iff.1 known
  exact ⟨clause, columns, ordered, parsed, found, applied, of_decide_eq_true orderable,
    by simpa using unsorted⟩

theorem execute_applyOrderBy_rate : ∃ clause columns, ∃ ordered : OrderedPipeline Record,
    parseOrderBy "Pay.Employee/Rate" payContext = .ok clause ∧
    clause.sortProperties = .ok columns ∧ clause.Distinct ∧
    applyOrderBy columns (Pipeline.ofItems paid) = .ok ordered ∧
    ∀ result, SortsStably (clause.order payContext.model Record.untyped) paid result ↔
      result = ordered.execute := by
  obtain ⟨clause, columns, ordered, parsed, found, applied, orderable, -⟩ := sorts_employeeRate
  have distinct := distinct_of_applyOrderBy parsed found applied
  obtain ⟨ordered', applied', sorts, -⟩ := execute_applyOrderBy parsed found distinct paid
  cases applied.symm.trans applied'
  exact ⟨clause, columns, ordered, parsed, found, distinct, applied,
    sorts fun t ht => ⟨.int32, fun a ha => (orderable t ht a ha).2⟩⟩

/-- The records are not sorted by the values that the term has for them. -/
theorem execute_applyOrderBy_contractor : Model.build payTypes = .ok payContext.model ∧
    ∃ clause columns, ∃ ordered : OrderedPipeline Record,
      parseOrderBy "Pay.Employee/Rate" payContext = .ok clause ∧
      clause.sortProperties = .ok columns ∧ clause.Distinct ∧
      clause.Uniform payContext.model HasRecord.record paid ∧
      applyOrderBy columns (Pipeline.ofItems paid) = .ok ordered ∧
      ¬ SortsStably (clause.order payContext.model HasRecord.record) paid ordered.execute := by
  obtain ⟨clause, columns, ordered, parsed, found, applied, orderable, unsorted⟩ :=
    sorts_employeeRate
  exact ⟨build_payTypes, clause, columns, ordered, parsed, found,
    distinct_of_applyOrderBy parsed found applied,
    fun t ht => ⟨.int32, fun a ha => (orderable t ht a ha).1⟩, applied,
    fun sorts => unsorted sorts.sorted⟩

end RecordQuery
