import RecordQuery.Proofs.Schema.WellFormed

/-!
# Errors of declarations

An error of declarations names a defect that they have. The names in it are those of the declarations
at fault, with one exception: the walk along the bases of a type that comes back to where it was is
reported under the name it started from, and this type need not be on the cycle. Types are checked in
the order of their names, so it is the first of all types on cycles or comes before them.

## Main statements

* `Model.build_error_defect`: what an error says about the declarations.
* `Model.build_error_aside`: a cycle is reported for a type that is not on it.
-/

namespace RecordQuery

open Relation (TransGen)

variable {types types' : List StructuredType} {e : SchemaError}

/-- The order of types does not matter for a defect. -/
theorem Defect.perm (h : Defect types e) (perm : types.Perm types') : Defect types' e := by
  have names := perm.map (·.name)
  cases e with
  | duplicateType name =>
    refine List.duplicate_iff_two_le_count.2 ?_
    rw [← names.count_eq name]
    exact List.duplicate_iff_two_le_count.1 h
  | unknownType => exact h
  | unknownBaseType | unknownPropertyType | duplicateProperty | inheritanceCycle =>
    simpa only [Defect, extends_perm perm, declared_perm perm, ← perm.mem_iff] using h

namespace Model

variable {declarations : List TypeDeclaration} {m : Model}

theorem pairwise_ofDeclarations (declarations : List TypeDeclaration) :
    (ofDeclarations declarations).types.Pairwise fun t u => t.name ≤ u.name := by
  have sorted : (ofDeclarations declarations).types.Pairwise fun t u => decide (t.name ≤ u.name) :=
    List.pairwise_mergeSort (fun t u v => by simpa using String.le_trans)
      (fun t u => by simpa using String.le_total t.name u.name) _
  exact sorted.imp of_decide_eq_true

/-- A cycle is reported for the type that the walk started from. -/
theorem Checks.owner_of_cycle {owner name : String} {seenTypes seenProperties : List String}
    {t : StructuredType}
    (h : m.Checks owner seenTypes seenProperties t (.error (.inheritanceCycle name))) :
    name = owner := by
  generalize fails : Except.error (SchemaError.inheritanceCycle name) = result at h
  induction h with
  | cycle =>
    cases fails
    rfl
  | fault new failed =>
    cases fails
    obtain ⟨_, -, other, -⟩ | ⟨_, -, _, other, -⟩ := checkProperties_failed failed <;> cases other
  | root | missing => cases fails
  | derived new passed named found more ih => exact ih fails

/-- The first check that fails says what is wrong. If it finds a cycle, no type with a smaller name
is on one. -/
theorem defect_of_checkTypes (names : (m.types.map (·.name)).Nodup)
    (sorted : m.types.Pairwise fun t u => t.name ≤ u.name)
    (failed : m.types.forM m.checkType = .error e) :
    Defect m.types e ∧ ∀ name, e = .inheritanceCycle name →
      ∀ member, TransGen (Extends m.types) member member → name ≤ member := by
  obtain ⟨before, t, after, split, fails, passed⟩ := Except.forM_eq_error.1 failed
  have ht : t ∈ m.types := by simp [split]
  have checks := checks_checkType ht
  rw [fails] at checks
  refine ⟨checks.defect ⟨ht, .refl, nofun, nofun⟩, fun name cyclic member cycle => ?_⟩
  subst cyclic
  obtain rfl : name = t.name := checks.owner_of_cycle
  obtain ⟨u, hu, rfl⟩ := declared_of_transGen cycle
  have later : u ∈ t :: after := by
    have here : u ∈ before ++ t :: after := split ▸ hu
    refine (List.mem_append.1 here).resolve_left fun earlier => ?_
    exact acyclic_of_checkType names hu (passed u earlier) cycle
  rw [split] at sorted
  obtain rfl | behind := List.mem_cons.1 later
  · exact String.le_refl _
  · exact (List.pairwise_cons.1 (List.pairwise_append.1 sorted).2.1).1 u behind

/-- An error of declarations names a defect that they have. A cycle is reported for a type that leads
to one, and no type on a cycle has a smaller name. -/
theorem build_error_defect (failed : build declarations = .error e) :
    Defect (declarations.map TypeDeclaration.toType) e ∧
    ∀ name, e = .inheritanceCycle name → ∀ member,
      TransGen (Extends (declarations.map TypeDeclaration.toType)) member member →
        name ≤ member := by
  have perm := ofDeclarations_perm declarations
  have names : ((declarations.map TypeDeclaration.toType).map (·.name)) =
      declarations.map (·.name) := List.map_map
  unfold build at failed
  cases repeated : firstRepeat? [] (declarations.map (·.name)) with
  | some name =>
    rw [repeated] at failed
    cases failed
    obtain ⟨before, after, split, old | earlier, -⟩ := firstRepeat?_eq_some_iff.1 repeated
    · cases old
    · refine ⟨?_, nofun⟩
      have twice : 2 ≤ ((declarations.map (·.name)).count name) := by
        rw [split, List.count_append, List.count_cons_self]
        have once := List.count_pos_iff.2 earlier
        omega
      rw [Defect, names]
      exact List.duplicate_iff_two_le_count.2 twice
  | none =>
    rw [repeated] at failed
    obtain failed | ⟨-, -, impossible⟩ := Except.bind_eq_error.1 failed
    · have distinct : ((ofDeclarations declarations).types.map (·.name)).Nodup := by
        rw [(perm.map (·.name)).nodup_iff, names]
        exact (firstRepeat?_eq_none_iff.1 repeated).1
      rw [← extends_perm perm.symm]
      obtain ⟨defect, first⟩ :=
        defect_of_checkTypes distinct (pairwise_ofDeclarations declarations) failed
      exact ⟨defect.perm perm, first⟩
    · cases impossible

end Model

/-- Apprentices are workers, who have a rate of their own next to that of persons. -/
def ratedTypes : List TypeDeclaration :=
  [⟨"Staff.Apprentice", .entity, some "Staff.Worker", []⟩,
    ⟨"Staff.Person", .entity, none, [("Rate", .primitive .int32)]⟩,
    ⟨"Staff.Worker", .entity, some "Staff.Person", [("Rate", .primitive .int32)]⟩]

/-- A property that two bases declare is reported for the type that inherits it twice. -/
theorem Model.build_error_defect_rate :
    Model.build ratedTypes = .error (.duplicateProperty "Staff.Apprentice" "Rate") ∧
      Defect (ratedTypes.map TypeDeclaration.toType)
        (.duplicateProperty "Staff.Apprentice" "Rate") := by
  have failed : Model.build ratedTypes =
      .error (.duplicateProperty "Staff.Apprentice" "Rate") := by
    rw [Model.build, Model.ofDeclarations_of_sorted (by decide)]
    rfl
  exact ⟨failed, (Model.build_error_defect failed).1⟩

/-- Contractors are derived from themselves, and apprentices from contractors. -/
def loopedTypes : List TypeDeclaration :=
  [⟨"Staff.Apprentice", .entity, some "Staff.Contractor", []⟩,
    ⟨"Staff.Contractor", .entity, some "Staff.Contractor", []⟩]

/-- A cycle is reported for a type that is not on it: no type is derived from apprentices. -/
theorem Model.build_error_aside :
    Model.build loopedTypes = .error (.inheritanceCycle "Staff.Apprentice") ∧
      ¬ TransGen (Extends (loopedTypes.map TypeDeclaration.toType))
        "Staff.Apprentice" "Staff.Apprentice" := by
  refine ⟨?_, fun cycle => ?_⟩
  · rw [Model.build, Model.ofDeclarations_of_sorted (by decide)]
    rfl
  · obtain ⟨_, -, t, ht, -, named⟩ := TransGen.tail'_iff.1 cycle
    have based : ∀ t ∈ loopedTypes.map TypeDeclaration.toType,
        t.base = some "Staff.Contractor" := by decide
    exact absurd ((based t ht).symm.trans named) (by decide)

end RecordQuery
