import RecordQuery.Proofs.Evaluate.Preservation
import RecordQuery.Proofs.Evaluate.RuntimeType
import RecordQuery.Proofs.Options.SortProperties
import RecordQuery.Proofs.Schema.Inheritance

/-!
# Properties of the element and of records

Binding resolves a property of the element by the type that the path before it leads to, and
evaluation reads the property by its bare name from a record of any type. Both mean the same property.
The type that a path of casts leads to is the type of the element or a target of one of the casts, in
whatever order the casts go up and down the hierarchy. A record of a type that derives from all of
these inherits the property as it is, and has no other property of its name.

## Main statements

* `WellTyped.type_castOfElement`: the type that casts of the element lead to.
* `Accepted.value_property`: what a property of the element is for a record of a derived type.
-/

namespace RecordQuery

open Binding (Scope)
open Evaluate (Bindings value)

variable {context : QueryContext} {scope inner middle : Scope} {e n c source : Expr}
  {type : TypeRef} {p : Property} {r : Record} {actual : String}

/-! ## The element in scope -/

theorem WellTyped.hasElement_child (h : WellTyped context scope e)
    (grounded : scope.HasElement context) (mem : (middle, c) ∈ e.childrenIn scope) :
    middle.HasElement context := by
  unfold Expr.childrenIn at mem
  -- only the body of a quantifier has a scope of its own, with a name that is new there
  split at mem
  case h_1 | h_2 =>
    obtain same | same := List.mem_pair.1 mem
    · obtain ⟨rfl, rfl⟩ := Prod.mk.inj same
      exact grounded
    · obtain ⟨rfl, rfl⟩ := Prod.mk.inj same
      cases h
      exact grounded.cons ‹_›
  case h_3 =>
    obtain ⟨_, _, same⟩ := List.mem_map.1 mem
    obtain ⟨rfl, rfl⟩ := Prod.mk.inj same
    exact grounded

/-- The element is in the scope of every node, with its own type. -/
theorem WellTyped.hasElement (h : WellTyped context scope e) (grounded : scope.HasElement context)
    (occurs : e.OccursIn scope inner n) : inner.HasElement context := by
  induction occurs with
  | self => exact grounded
  | child mem _ ih => exact ih (h.child mem) (h.hasElement_child grounded mem)

/-- Casts of the element lead to its own type, or to the target of one of them. -/
theorem WellTyped.type_castOfElement (h : WellTyped context scope source)
    (grounded : scope.HasElement context) (element : source.CastOfElement) :
    ∃ owner, source.type = .structured owner ∧
      (owner = context.element.name ∨ source.CastsTo owner) := by
  induction element with
  | element type =>
    cases h with
    | range bound adopts =>
      cases bound.symm.trans grounded
      cases adopts
      exact ⟨_, rfl, .inl rfl⟩
  | @cast source type target element ih =>
    cases h with
    | cast => exact ⟨target, rfl, .inr ⟨_, source, .self _, element⟩⟩
    | castItems typed items =>
      obtain ⟨owner, single, -⟩ := ih typed
      cases items.symm.trans single

/-! ## Records of derived types -/

/-- A property of the element is for a record of a derived type what the record has under its name, if
the type derives from the targets of all casts before the property; then the property stands for
itself on that type. Otherwise it is null. -/
theorem Accepted.value_property {declarations : List TypeDeclaration}
    (built : Model.build declarations = .ok context.model) (accepted : Accepted context e)
    (part : (Expr.property type source p).Part e) (element : source.CastOfElement)
    (own : r.runtimeType = some actual)
    (derives : context.model.isSubtype actual context.element.name) (bindings : Bindings) :
    ((∀ target, source.CastsTo target → context.model.isSubtype actual target) →
      value r context.model bindings (.property type source p) = r.read p.name ∧
        context.model.resolveProperty? actual p.name = some p) ∧
    ((∃ target, source.CastsTo target ∧ context.model.isSubtype actual target = false) →
      value r context.model bindings (.property type source p) = .null) := by
  have passes_iff : ∀ target, r.passesCast context.model target =
      context.model.isSubtype actual target := fun target => by rw [Record.passesCast, own]
  constructor
  · intro all
    refine ⟨Evaluate.value_of_passes element (fun target casts => ?_) bindings, ?_⟩
    · rw [passes_iff]
      exact all target casts
    · obtain ⟨scope, occurs⟩ := (Expr.exists_occursIn_iff_part (.top context)).2 part
      have grounded := accepted.wellTyped.hasElement (Scope.hasElement_top context) occurs
      cases accepted.wellTyped.node occurs with
      | @property _ _ owner _ _ typed single resolved =>
        obtain ⟨_, leads, reached⟩ := typed.type_castOfElement grounded element
        obtain rfl := TypeRef.structured.inj (single.symm.trans leads)
        have inherits : context.model.isSubtype actual owner := by
          obtain rfl | casts := reached
          · exact derives
          · exact all owner casts
        have wellFormed := (Model.build_eq_ok_iff.1 built).2
        exact (Model.resolveProperty?_of_isSubtype wellFormed inherits resolved).1
  · rintro ⟨target, casts, fails⟩
    exact Evaluate.value_of_fails element casts ((passes_iff target).trans fails) bindings

/-- The rate of an employee, after casts down, up and down again. It is null for a contractor, who has
a rate as well. -/
theorem Accepted.value_property_rate : Model.build payTypes = .ok payContext.model ∧
    payContext.model.isSubtype "Pay.Employee" "Pay.Person" ∧
    payContext.model.isSubtype "Pay.Contractor" "Pay.Person" ∧
    ∃ e type source, parseFilter "Pay.Employee/Pay.Person/Pay.Employee/Rate eq 5" payContext = .ok e ∧
      (Expr.property type source ⟨"Pay.Employee", "Rate", .primitive .int32⟩).Part e ∧
      source.CastOfElement ∧ source.castTargets = ["Pay.Employee", "Pay.Person", "Pay.Employee"] ∧
      value (rated (some "Pay.Employee") 5) payContext.model []
        (.property type source ⟨"Pay.Employee", "Rate", .primitive .int32⟩) = .int32 5 ∧
      payContext.model.resolveProperty? "Pay.Employee" "Rate" =
        some ⟨"Pay.Employee", "Rate", .primitive .int32⟩ ∧
      value (rated (some "Pay.Contractor") 5) payContext.model []
        (.property type source ⟨"Pay.Employee", "Rate", .primitive .int32⟩) = .null := by
  have known : (parseFilter "Pay.Employee/Pay.Person/Pay.Employee/Rate eq 5"
      payContext).toOption.any (fun e => e.children.any fun n =>
        n.sortProperty? == some ⟨"Pay.Employee", "Rate", .primitive .int32⟩ &&
        n.castTargets == ["Pay.Employee", "Pay.Person", "Pay.Employee"]) = true := by decide +kernel
  obtain ⟨e, parsed, known⟩ := Except.any_toOption.1 known
  obtain ⟨n, mem, known⟩ := List.any_eq_true.1 known
  rw [Bool.and_eq_true, beq_iff_eq, beq_iff_eq] at known
  obtain ⟨sorts, targets⟩ := known
  obtain ⟨type, source, _, rfl, -, element⟩ := Expr.sortProperty?_eq_some_iff.1 sorts
  have targets : source.castTargets = ["Pay.Employee", "Pay.Person", "Pay.Employee"] := by
    simpa [Expr.castTargets, Expr.preorder] using targets
  have part : (Expr.property type source ⟨"Pay.Employee", "Rate", .primitive .int32⟩).Part e :=
    .child mem (.self _)
  have person : payContext.model.isSubtype "Pay.Employee" "Pay.Person" := by decide
  have person' : payContext.model.isSubtype "Pay.Contractor" "Pay.Person" := by decide
  have employee : payContext.model.isSubtype "Pay.Contractor" "Pay.Employee" = false := by decide
  have passes : ∀ target, source.CastsTo target →
      payContext.model.isSubtype "Pay.Employee" target := by
    simp only [← Expr.mem_castTargets, targets]
    decide
  have casts : source.CastsTo "Pay.Employee" := by simp [← Expr.mem_castTargets, targets]
  obtain ⟨reads, resolved⟩ := (Accepted.value_property build_payTypes (.inl ⟨_, parsed⟩) part
    element (r := rated (some "Pay.Employee") 5) rfl person []).1 passes
  have fails := (Accepted.value_property build_payTypes (.inl ⟨_, parsed⟩) part
    element (r := rated (some "Pay.Contractor") 5) rfl person' []).2 ⟨_, casts, employee⟩
  exact ⟨build_payTypes, person, person', e, type, source, parsed, part, element, targets,
    reads, resolved, fails⟩

end RecordQuery
