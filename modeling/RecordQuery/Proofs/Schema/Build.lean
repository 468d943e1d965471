import RecordQuery.Schema.Build

/-!
# Declarations

A list is searched for an item that occurred before, among some items seen earlier or in the list
itself. The first one is found, and none if the items differ from each other and from those seen.
Declarations that stand in the order of their names are the types of their model as they are.

## Main statements

* `firstRepeat?_eq_some_iff`, `firstRepeat?_eq_none_iff`: which item is found.
* `Model.ofDeclarations_of_sorted`: the types of declarations in order.
-/

namespace RecordQuery

variable {α : Type} [BEq α] [LawfulBEq α] {seen as : List α}

theorem firstRepeat?_cons (a : α) (rest : List α) :
    firstRepeat? seen (a :: rest) = if a ∈ seen then some a else firstRepeat? (a :: seen) rest := by
  simp [firstRepeat?]

theorem firstRepeat?_eq_none_iff :
    firstRepeat? seen as = none ↔ as.Nodup ∧ ∀ a ∈ as, a ∉ seen := by
  induction as generalizing seen with
  | nil => simp [firstRepeat?]
  | cons a rest ih =>
    rw [firstRepeat?_cons, List.nodup_cons, List.forall_mem_cons]
    by_cases old : a ∈ seen
    · rw [if_pos old]
      exact iff_of_false nofun fun h => h.2.1 old
    · rw [if_neg old, ih]
      simp only [List.mem_cons, not_or]
      constructor
      · rintro ⟨distinct, fresh⟩
        exact ⟨⟨fun mem => (fresh a mem).1 rfl, distinct⟩, old, fun b mem => (fresh b mem).2⟩
      · rintro ⟨⟨new, distinct⟩, -, fresh⟩
        exact ⟨distinct, fun b mem => ⟨fun same => new (same ▸ mem), fresh b mem⟩⟩

/-- What is found is the first item that is among those seen or those before it. -/
theorem firstRepeat?_eq_some_iff {a : α} :
    firstRepeat? seen as = some a ↔ ∃ before after, as = before ++ a :: after ∧
      (a ∈ seen ∨ a ∈ before) ∧ before.Nodup ∧ ∀ b ∈ before, b ∉ seen := by
  induction as generalizing seen with
  | nil => simp [firstRepeat?]
  | cons c rest ih =>
    rw [firstRepeat?_cons]
    by_cases old : c ∈ seen
    · rw [if_pos old]
      constructor
      · intro h
        cases h
        exact ⟨[], rest, rfl, .inl old, .nil, nofun⟩
      · rintro ⟨before, after, split, -, -, fresh⟩
        cases before with
        | nil =>
          cases split
          rfl
        | cons b before =>
          cases split
          exact (fresh _ List.mem_cons_self old).elim
    · rw [if_neg old, ih]
      constructor
      · rintro ⟨before, after, rfl, repeated, distinct, fresh⟩
        refine ⟨c :: before, after, rfl, ?_, ?_, ?_⟩
        · simpa only [List.mem_cons, or_left_comm, ← or_assoc, or_comm] using repeated
        · exact List.nodup_cons.2 ⟨fun mem => fresh c mem List.mem_cons_self, distinct⟩
        · exact List.forall_mem_cons.2
            ⟨old, fun b mem earlier => fresh b mem (List.mem_cons_of_mem _ earlier)⟩
      · rintro ⟨before, after, split, repeated, distinct, fresh⟩
        cases before with
        | nil =>
          cases split
          simp [old] at repeated
        | cons b before =>
          cases split
          obtain ⟨new, distinct⟩ := List.nodup_cons.1 distinct
          refine ⟨before, after, rfl, ?_, distinct, fun d mem earlier => ?_⟩
          · simpa only [List.mem_cons, or_left_comm, ← or_assoc, or_comm] using repeated
          · obtain rfl | earlier := List.mem_cons.1 earlier
            · exact new mem
            · exact (List.forall_mem_cons.1 fresh).2 d mem earlier

/-! ## Declarations in order -/

theorem Model.ofDeclarations_of_sorted {declarations : List TypeDeclaration}
    (sorted : declarations.Pairwise fun d d' => d.name ≤ d'.name) :
    ofDeclarations declarations = ⟨declarations.map TypeDeclaration.toType⟩ := by
  have ordered : (declarations.map TypeDeclaration.toType).Pairwise fun t u =>
      decide (t.name ≤ u.name) :=
    List.pairwise_map.2 (sorted.imp fun le => decide_eq_true le)
  rw [ofDeclarations, List.mergeSort_of_pairwise ordered]

end RecordQuery
