import RecordQuery.Pipeline.Query
import RecordQuery.Proofs.Value.SortOrder

/-!
# Ordering a pipeline

A chain of keys orders items by the first key on which they differ. Each further key rewrites the
ordering that was recorded last, so a chain of any length records one operation.

## Main definitions

* `SortKey.Uniform`: whether a key gives some items nulls and values of one type.

## Main statements

* `compareByKeys_eq`: the order by several keys is that of the first key that tells items apart.
* `compareByKeys_ordersTotally`: uniform keys order items totally.
* `applyOrderBy_eq_ok`: what ordering a pipeline by properties records.
-/

namespace RecordQuery

variable {α : Type} {items : List α}

/-! ## Keys -/

/-- The first key on which two items differ decides their order. -/
theorem compareByKeys_eq (keys : List (SortKey α)) (a b : α) : compareByKeys keys a b =
    ((keys.map (·.compare a b)).find? (· ≠ .eq)).getD .eq := by
  induction keys with
  | nil => rfl
  | cons k rest ih =>
    rw [compareByKeys, List.map_cons, List.find?_cons, ih]
    cases k.compare a b <;> rfl

/-- Whether a key gives nulls and values of one primitive type for some items, but no NaN. -/
def SortKey.Uniform (k : SortKey α) (items : List α) : Prop :=
  ∃ p, ∀ a ∈ items, (k.key a).Orderable p

theorem SortKey.Uniform.ordersTotally {k : SortKey α} (h : k.Uniform items) :
    OrdersTotally k.compare items := by
  obtain ⟨p, orderable⟩ := h
  have total : OrdersTotally (fun a b => (k.key a).sortOrder (k.key b)) items :=
    (Value.sortOrder_ordersTotally (List.forall_mem_map.2 orderable)).comap k.key
  obtain ⟨direction, key⟩ := k
  cases direction with
  | ascending => exact total
  | descending => exact total.reverse

/-- Keys that order items totally do so together. -/
theorem compareByKeys_ordersTotally {keys : List (SortKey α)}
    (h : ∀ k ∈ keys, OrdersTotally k.compare items) : OrdersTotally (compareByKeys keys) items := by
  induction keys with
  | nil => exact .ties items
  | cons k rest ih =>
    obtain ⟨first, more⟩ := List.forall_mem_cons.1 h
    exact first.lex (ih more)

/-! ## Recorded orderings -/

theorem reorderLast_append (keys old : List (SortKey α)) (before : List (Operation α)) :
    reorderLast keys (before ++ [.order old]) = before ++ [.order keys] := by
  induction before with
  | nil => rfl
  | cons op rest ih =>
    rw [List.cons_append, reorderLast, ih]
    · rfl
    · simp

namespace OrderedPipeline

/-- The pipeline whose last operation is an ordering. -/
def last (keys : List (SortKey α)) (q : Pipeline α) : OrderedPipeline α :=
  ⟨q.record (.order keys), keys⟩

theorem execute_last (keys : List (SortKey α)) (q : Pipeline α) :
    (last keys q).execute = insertionSort (compareByKeys keys) q.execute :=
  Pipeline.execute_record q _

theorem thenBy_last (k : SortKey α) (keys : List (SortKey α)) (q : Pipeline α) :
    (last keys q).thenBy k = last (keys ++ [k]) q := by
  simp [last, thenBy, Pipeline.record, reorderLast_append]

theorem foldl_thenBy_last (more keys : List (SortKey α)) (q : Pipeline α) :
    more.foldl (fun ordered k => ordered.thenBy k) (last keys q) = last (keys ++ more) q := by
  induction more generalizing keys with
  | nil => simp
  | cons k rest ih => rw [List.foldl_cons, thenBy_last, ih, List.append_assoc]; rfl

end OrderedPipeline

/-- Ordering a pipeline by properties records one ordering by all their keys. -/
theorem applyOrderBy_eq_ok [HasRecord α] {properties : List SortProperty} {q : Pipeline α}
    {ordered : OrderedPipeline α} (h : applyOrderBy properties q = .ok ordered) :
    ordered = .last (properties.map SortProperty.key) q := by
  unfold applyOrderBy at h
  split at h
  case h_1 => cases h
  case h_2 =>
    split at h
    case h_1 => cases h
    case h_2 first rest _ =>
      cases h
      have chain := OrderedPipeline.foldl_thenBy_last (rest.map SortProperty.key) [first.key] q
      rw [List.foldl_map] at chain
      exact chain

end RecordQuery
