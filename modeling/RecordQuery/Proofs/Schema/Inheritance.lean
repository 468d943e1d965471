import RecordQuery.Proofs.Schema.WellFormed

/-!
# Inheritance

A type derives from itself, its base, the base of that one and so on. In a model that was built this
is a partial order, and a property has one meaning on all types that derive from the one that
declares it.

## Main statements

* `Model.isSubtype_iff`: the types that a type derives from.
* `Model.resolveProperty?_of_isSubtype`: a property is inherited as it is.
* `Model.inheritance_consistent`: both facts about a model that was built.
-/

namespace RecordQuery

open Relation (ReflTransGen TransGen)

/-- An item is alone in a list with a key of its own. -/
theorem filter_eq_singleton {α κ : Type} [DecidableEq κ] {key : α → κ} {as : List α}
    (distinct : (as.map key).Nodup) {a : α} (mem : a ∈ as) :
    as.filter (key · == key a) = [a] := by
  induction as with
  | nil => cases mem
  | cons b rest ih =>
    obtain ⟨new, distinct⟩ := List.nodup_cons.1 distinct
    rw [List.filter_cons]
    obtain rfl | mem := List.mem_cons.1 mem
    · have none_left : rest.filter (key · == key a) = [] := by
        refine List.filter_eq_nil_iff.2 fun c hc same => new ?_
        exact List.mem_map.2 ⟨c, hc, eq_of_beq same⟩
      rw [none_left]
      simp
    · have other : key b ≠ key a := fun same => new (same ▸ List.mem_map_of_mem mem)
      simp [other, ih distinct mem]

namespace Model

variable {m : Model} {derived base name : String} {p : Property}

/-- The properties of a type and those that it inherits, its own first. -/
def allProperties (m : Model) (name : String) : List Property :=
  (m.hierarchy name).flatMap (·.properties)

theorem resolveProperty?_eq (m : Model) (owner name : String) :
    m.resolveProperty? owner name = (m.allProperties owner).find? (·.name == name) :=
  List.find?_flatMap.symm

variable (wellFormed : WellFormed m.types)

include wellFormed

/-- A declared type derives from what bases lead to. -/
theorem isSubtype_iff : m.isSubtype derived base ↔
    Declared m.types derived ∧ ReflTransGen (Extends m.types) derived base := by
  have lineage := (hierarchy_spec wellFormed derived).1
  simp only [isSubtype, List.any_eq_true, beq_iff_eq, lineage.mem_iff wellFormed.names]
  constructor
  · rintro ⟨u, ⟨hu, derives⟩, rfl⟩
    refine ⟨?_, derives⟩
    obtain same | derives := Relation.reflTransGen_iff_eq_or_transGen.1 derives
    · exact ⟨u, hu, same⟩
    · exact declared_of_transGen derives
  · rintro ⟨declared, derives⟩
    have base_declared : Declared m.types base := by
      cases derives with
      | refl => exact declared
      | tail _ last =>
        obtain ⟨t, ht, -, named⟩ := last
        exact wellFormed.bases t ht base named
    obtain ⟨u, hu, rfl⟩ := base_declared
    exact ⟨u, ⟨hu, derives⟩, rfl⟩

theorem isSubtype_refl {t : StructuredType} (ht : t ∈ m.types) : m.isSubtype t.name t.name :=
  (isSubtype_iff wellFormed).2 ⟨⟨t, ht, rfl⟩, .refl⟩

theorem isSubtype_trans {top : String} (h : m.isSubtype derived base)
    (h' : m.isSubtype base top) : m.isSubtype derived top := by
  rw [isSubtype_iff wellFormed] at h h' ⊢
  exact ⟨h.1, h.2.trans h'.2⟩

theorem isSubtype_antisymm (h : m.isSubtype derived base) (h' : m.isSubtype base derived) :
    derived = base := by
  rw [isSubtype_iff wellFormed] at h h'
  obtain ⟨⟨t, ht, rfl⟩, up⟩ := h
  obtain same | up := Relation.reflTransGen_iff_eq_or_transGen.1 up
  · exact same.symm
  · exact (wellFormed.acyclic t ht (up.trans_left h'.2)).elim

theorem allProperties_subset (h : m.isSubtype derived base) :
    ∀ q ∈ m.allProperties base, q ∈ m.allProperties derived := by
  intro q mem
  obtain ⟨u, hu, hq⟩ := List.mem_flatMap.1 mem
  refine List.mem_flatMap.2 ⟨u, ?_, hq⟩
  have derives := ((isSubtype_iff wellFormed).1 h).2
  rw [(hierarchy_spec wellFormed base).1.mem_iff wellFormed.names] at hu
  rw [(hierarchy_spec wellFormed derived).1.mem_iff wellFormed.names]
  exact ⟨hu.1, derives.trans hu.2⟩

/-- A property of a type is a property of the types that derive from it, and the only one of its
name there. -/
theorem resolveProperty?_of_isSubtype (h : m.isSubtype derived base)
    (resolved : m.resolveProperty? base name = some p) :
    m.resolveProperty? derived name = some p ∧
      (m.allProperties derived).filter (·.name == name) = [p] := by
  rw [resolveProperty?_eq] at resolved ⊢
  obtain rfl : p.name = name := by simpa using List.find?_some resolved
  have mem := allProperties_subset wellFormed h p (List.mem_of_find?_eq_some resolved)
  have distinct := (hierarchy_spec wellFormed derived).2.2
  have alone : (m.allProperties derived).filter (·.name == p.name) = [p] :=
    filter_eq_singleton distinct mem
  exact ⟨by rw [← List.head?_filter, alone]; rfl, alone⟩

end Model

/-- In a model that was built, derivation is a partial order on the types, and a property of a type
stands for itself on all types that derive from it, where no other property has its name. -/
theorem Model.inheritance_consistent {declarations : List TypeDeclaration} {m : Model}
    (built : Model.build declarations = .ok m) :
    (∀ t ∈ m.types, m.isSubtype t.name t.name) ∧
    (∀ a b, m.isSubtype a b → m.isSubtype b a → a = b) ∧
    (∀ a b c, m.isSubtype a b → m.isSubtype b c → m.isSubtype a c) ∧
    ∀ derived base name p, m.isSubtype derived base → m.resolveProperty? base name = some p →
      m.resolveProperty? derived name = some p ∧
      ((m.hierarchy derived).flatMap (·.properties)).filter (·.name == name) = [p] := by
  have wellFormed := (build_eq_ok_iff.1 built).2
  exact ⟨fun t ht => isSubtype_refl wellFormed ht,
    fun a b up down => isSubtype_antisymm wellFormed up down,
    fun a b c first second => isSubtype_trans wellFormed first second,
    fun derived base name p derives resolved =>
      resolveProperty?_of_isSubtype wellFormed derives resolved⟩

/-- Managers inherit the name of persons, whom no person derives from but themselves. -/
theorem Model.inheritance_consistent_staff :
    Model.build staffTypes = .ok staffModel ∧
    staffModel.isSubtype "Staff.Manager" "Staff.Person" ∧
    staffModel.resolveProperty? "Staff.Person" "Name" =
      some ⟨"Staff.Person", "Name", .primitive .string⟩ ∧
    staffModel.resolveProperty? "Staff.Manager" "Name" =
      some ⟨"Staff.Person", "Name", .primitive .string⟩ ∧
    ¬ staffModel.isSubtype "Staff.Person" "Staff.Manager" := by
  obtain ⟨-, antisymm, -, inherits⟩ := inheritance_consistent build_staffTypes
  have derives : staffModel.isSubtype "Staff.Manager" "Staff.Person" := by decide
  have resolved : staffModel.resolveProperty? "Staff.Person" "Name" =
      some ⟨"Staff.Person", "Name", .primitive .string⟩ := by decide
  refine ⟨build_staffTypes, derives, resolved, (inherits _ _ _ _ derives resolved).1,
    fun down => ?_⟩
  exact absurd (antisymm _ _ derives down) (by decide)

end RecordQuery
