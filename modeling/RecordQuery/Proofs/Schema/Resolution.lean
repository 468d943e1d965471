import RecordQuery.Schema.Path

/-!
# What names resolve to

A name resolves to a property of that name which some type of the model declares, and a cast leads
to a declared type on a chain with the type it starts from.

## Main definitions

* `Model.Declares`: whether some type of a model declares a property.

## Main statements

* `Model.resolveProperty?_spec`, `Model.resolveCast_spec`: what names and casts resolve to.
-/

namespace RecordQuery

/-- A structured type behind at most one collection is such a type or a collection of it. -/
theorem TypeRef.structuredName?_eq_some_iff {type : TypeRef} {name : String} :
    type.structuredName? = some name ↔
      type = .structured name ∨ type = .collection (.structured name) := by
  unfold structuredName?
  split <;> simp_all

namespace Model

/-- Whether some type of a model declares a property. -/
def Declares (m : Model) (p : Property) : Prop := ∃ t ∈ m.types, p ∈ t.properties

theorem name_of_find? {m : Model} {name : String} {t : StructuredType}
    (h : m.find? name = some t) : t.name = name := by
  simpa using List.find?_some h

theorem mem_types_of_mem_chain {m : Model} {t : StructuredType} (fuel : Nat) {name : String}
    (h : t ∈ m.chain fuel name) : t ∈ m.types := by
  induction fuel generalizing name with
  | zero => cases h
  | succ fuel ih =>
    unfold chain at h
    split at h
    case h_1 => cases h
    case h_2 first found =>
      obtain rfl | h := List.mem_cons.1 h
      · exact List.mem_of_find?_eq_some found
      · split at h
        · cases h
        · exact ih h

theorem resolveProperty?_spec {m : Model} {owner name : String} {p : Property}
    (h : m.resolveProperty? owner name = some p) : p.name = name ∧ m.Declares p := by
  obtain ⟨t, ht, hp⟩ := List.exists_of_findSome?_eq_some h
  refine ⟨by simpa using List.find?_some hp, t, ?_, List.mem_of_find?_eq_some hp⟩
  exact mem_types_of_mem_chain _ ht

theorem resolveCast_spec {m : Model} {source target : String} {position : Nat}
    {t : StructuredType} (h : m.resolveCast source target position = .ok t) :
    t.name = target ∧ (m.find? target).isSome ∧ m.related target source := by
  unfold resolveCast at h
  split at h
  case h_1 => cases h
  case h_2 found =>
    split at h
    case isTrue related =>
      cases h
      exact ⟨name_of_find? found, by simp [found], related⟩
    case isFalse => cases h

end Model

end RecordQuery
