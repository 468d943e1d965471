import RecordQuery.Evaluate.Basic
import RecordQuery.Parse
import RecordQuery.Proofs.Except
import RecordQuery.Proofs.Expr.Part
import RecordQuery.Proofs.Schema.Build

/-!
# Evaluation and the types of records

Evaluation looks at the type of a record in one place only, at the casts of the element. So records
with the same values evaluate alike if they pass the same casts. A record without a type of its own
passes every cast: it evaluates like a record of a type that derives from all their targets.

## Main definitions

* `Expr.CastsTo`, `Expr.castTargets`: the types that the element is cast to anywhere in an
  expression.
* `Expr.AgreeOn`: whether two records agree on what an expression reads and on its casts.
* `Expr.SeesAlike`: whether two records have the same values and pass the same casts.

## Main statements

* `Expr.AgreeOn.value_eq`, `Expr.SeesAlike.value_eq`: such records evaluate alike.
* `Evaluate.value_of_passes`, `Evaluate.value_of_fails`: the value of a property of the element.
* `evaluate_of_none`: how a record without a type evaluates.
-/

namespace RecordQuery

open Evaluate (Bindings elementCast? readProperty value values)

variable {r r' : Record} {m : Model} {c e source : Expr} {type : TypeRef} {target other : String}

/-! ## Casts of the element -/

namespace Expr

/-- Whether the element is cast to a type anywhere in an expression. -/
def CastsTo (e : Expr) (target : String) : Prop :=
  ∃ type source, Part (.cast type source target) e ∧ source.CastOfElement

/-- The targets of the casts of the element that are anywhere in an expression. -/
def castTargets (e : Expr) : List String :=
  e.preorder.filterMap fun
    | .cast _ source target => if source.isElement then some target else none
    | _ => none

theorem mem_castTargets : target ∈ e.castTargets ↔ e.CastsTo target := by
  simp only [castTargets, CastsTo, List.mem_filterMap, mem_preorder, ← isElement_iff]
  constructor
  · rintro ⟨n, part, found⟩
    split at found
    · split at found <;> cases found
      exact ⟨_, _, part, ‹_›⟩
    · cases found
  · rintro ⟨type, source, part, element⟩
    exact ⟨_, part, if_pos element⟩

theorem CastsTo.child (mem : c ∈ e.children) (h : c.CastsTo target) : e.CastsTo target := by
  obtain ⟨type, source, part, element⟩ := h
  exact ⟨type, source, .child mem part, element⟩

theorem not_castsTo_range {name : String} : ¬ (range type name).CastsTo target := by
  rintro ⟨_, _, part, _⟩
  cases part with
  | child mem => cases mem

theorem castsTo_cast_iff (element : source.CastOfElement) :
    (cast type source other).CastsTo target ↔ target = other ∨ source.CastsTo target := by
  constructor
  · rintro ⟨t, s, part, inner⟩
    cases part with
    | self => exact .inl rfl
    | child mem part =>
      cases List.mem_singleton.1 mem
      exact .inr ⟨t, s, part, inner⟩
  · rintro (rfl | earlier)
    · exact ⟨type, source, .self _, element⟩
    · exact earlier.child List.mem_cons_self

end Expr

namespace Evaluate

theorem castOfElement_of_elementCast? {passed : Bool} (h : elementCast? r m e = some passed) :
    e.CastOfElement := by
  fun_induction elementCast? r m e generalizing passed with
  | case1 => exact .element _
  | case2 => cases h
  | case3 type source target ih =>
    obtain ⟨before, found, -⟩ := Option.map_eq_some_iff.1 h
    exact .cast type target (ih found)
  | case4 => cases h

/-- What is the element through casts is there if the record passes all of them. -/
theorem elementCast?_of_castOfElement (r : Record) (m : Model) (element : e.CastOfElement) :
    ∃ passed, elementCast? r m e = some passed ∧
      (passed = true ↔ ∀ target, e.CastsTo target → r.passesCast m target) := by
  induction element with
  | element => exact ⟨true, rfl, iff_of_true rfl fun _ h => (Expr.not_castsTo_range h).elim⟩
  | @cast source type target inner ih =>
    obtain ⟨passed, found, passes⟩ := ih
    refine ⟨passed && r.passesCast m target, by rw [elementCast?, found, Option.map_some], ?_⟩
    simp only [Bool.and_eq_true, passes, Expr.castsTo_cast_iff inner, forall_eq_or_imp, and_comm]

theorem values_eq_map (bindings : Bindings) (args : List Expr) :
    values r m bindings args = args.map (value r m bindings) := by
  induction args with
  | nil => rfl
  | cons e rest ih => rw [Evaluate.values, ih, List.map_cons]

end Evaluate

/-! ## Records that are seen alike -/

/-- Whether a property of the element is read under a name anywhere in an expression. -/
def Expr.ReadsElement (e : Expr) (name : String) : Prop :=
  ∃ type source p, Part (.property type source p) e ∧ source.CastOfElement ∧ p.name = name

/-- Whether two records read alike wherever an expression reads a property of the element, and pass
the same casts that it makes of the element. -/
structure Expr.AgreeOn (e : Expr) (m : Model) (r r' : Record) : Prop where
  reads : ∀ name, e.ReadsElement name → r.read name = r'.read name
  casts : ∀ target, e.CastsTo target → r.passesCast m target = r'.passesCast m target

namespace Expr.AgreeOn

theorem child (h : e.AgreeOn m r r') (mem : c ∈ e.children) : c.AgreeOn m r r' where
  reads name := fun ⟨type, source, p, part, element, same⟩ =>
    h.reads name ⟨type, source, p, .child mem part, element, same⟩
  casts target casts := h.casts target (casts.child mem)

theorem elementCast?_eq (h : e.AgreeOn m r r') : elementCast? r m e = elementCast? r' m e := by
  fun_induction elementCast? r m e with
  | case1 => rfl
  | case2 _ _ other => simp [elementCast?, other]
  | case3 type source target ih =>
    rw [elementCast?, ← ih (h.child List.mem_cons_self)]
    cases found : elementCast? r m source with
    | none => rfl
    | some passed =>
      have element := Evaluate.castOfElement_of_elementCast? found
      rw [Option.map_some, Option.map_some, h.casts target ⟨type, source, .self _, element⟩]
  | case4 => simp [elementCast?]

/-- A record is asked for a property only behind casts of the element. -/
theorem readProperty_eq {p : Property} (h : (property type source p).AgreeOn m r r') (v : Value) :
    readProperty r (elementCast? r' m source) v p.name =
      readProperty r' (elementCast? r' m source) v p.name := by
  cases found : elementCast? r' m source with
  | none => rfl
  | some passed =>
    cases passed with
    | false => rfl
    | true =>
      have element := Evaluate.castOfElement_of_elementCast? found
      exact h.reads p.name ⟨type, source, p, .self _, element, rfl⟩

/-- Records that agree on an expression give it the same value. -/
theorem value_eq (h : e.AgreeOn m r r') (bindings : Bindings) :
    value r m bindings e = value r' m bindings e := by
  induction e using childInduction generalizing bindings with
  | step e ih =>
    have same : ∀ c ∈ e.children, ∀ bindings, value r m bindings c = value r' m bindings c :=
      fun c mem => ih c mem (h.child mem)
    cases e with
    | constant | range => rfl
    | property _ source p =>
      have casts := (h.child (c := source) List.mem_cons_self).elementCast?_eq
      rw [value, value, casts, same source List.mem_cons_self, h.readProperty_eq]
    | cast _ source target =>
      have casts := (h.child (c := source) List.mem_cons_self).elementCast?_eq
      rw [value, value, casts, same source List.mem_cons_self]
    | binary _ op left right =>
      have left_same := same left (by simp [children])
      have right_same := same right (by simp [children])
      simp only [value, left_same, right_same]
    | unary _ op operand | convert _ operand =>
      simp only [value, same operand List.mem_cons_self]
    | call _ f args =>
      have args_same : args.map (value r m bindings) = args.map (value r' m bindings) :=
        List.map_congr_left fun e mem => same e mem bindings
      rw [value, value, Evaluate.values_eq_map, Evaluate.values_eq_map, args_same]
    | any _ source bound body =>
      cases body with
      | none => simp [value, same source (by simp [children])]
      | some body =>
        have source_same := same source (by simp [children])
        have body_same := same body (by simp [children])
        cases bound <;> simp only [value, source_same, body_same]
    | all _ source bound body =>
      have source_same := same source (by simp [children])
      have body_same := same body (by simp [children])
      simp only [value, source_same, body_same]

end Expr.AgreeOn

/-- Whether two records have the same values, and pass the same casts that an expression makes of
the element. -/
structure Expr.SeesAlike (e : Expr) (m : Model) (r r' : Record) : Prop where
  values : r.value? = r'.value?
  casts : ∀ target, e.CastsTo target → r.passesCast m target = r'.passesCast m target

/-- Records that are seen alike evaluate alike. -/
theorem Expr.SeesAlike.value_eq (h : e.SeesAlike m r r') (bindings : Bindings) :
    value r m bindings e = value r' m bindings e := by
  have agree : e.AgreeOn m r r' := ⟨fun _ _ => by rw [Record.read, Record.read, h.values], h.casts⟩
  exact agree.value_eq bindings

/-! ## Properties of the element -/

section Paths

variable {p : Property} (element : source.CastOfElement)

include element

/-- A property of the element is read from a record that passes the casts before it, also in the
body of a quantifier. -/
theorem Evaluate.value_of_passes
    (passes : ∀ target, source.CastsTo target → r.passesCast m target) (bindings : Bindings) :
    value r m bindings (.property type source p) = r.read p.name := by
  obtain ⟨passed, found, h⟩ := elementCast?_of_castOfElement r m element
  rw [value, found, h.2 passes, readProperty]

/-- A property of the element is null for a record that fails a cast before it. -/
theorem Evaluate.value_of_fails (casts : source.CastsTo target)
    (fails : r.passesCast m target = false) (bindings : Bindings) :
    value r m bindings (.property type source p) = .null := by
  obtain ⟨passed, found, h⟩ := elementCast?_of_castOfElement r m element
  cases passed with
  | true => cases fails.symm.trans (h.1 rfl target casts)
  | false => rw [value, found, readProperty]

theorem evaluate_of_passes (passes : ∀ target, source.CastsTo target → r.passesCast m target) :
    evaluate r (.property type source p) m = r.read p.name :=
  Evaluate.value_of_passes element passes []

theorem evaluate_of_fails (casts : source.CastsTo target)
    (fails : r.passesCast m target = false) :
    evaluate r (.property type source p) m = .null :=
  Evaluate.value_of_fails element casts fails []

end Paths

/-- A property of the element that a record has no value for is null in any case. -/
theorem evaluate_of_null {p : Property} (element : source.CastOfElement)
    (null : r.read p.name = .null) : evaluate r (.property type source p) m = .null := by
  obtain ⟨passed, found, -⟩ := Evaluate.elementCast?_of_castOfElement r m element
  cases passed with
  | true => rw [evaluate, value, found, readProperty, null]
  | false => rw [evaluate, value, found, readProperty]

/-! ## Records without a type -/

/-- The record without its own type. -/
def Record.untyped (r : Record) : Record := { r with runtimeType := none }

theorem Record.passesCast_of_none (without : r.runtimeType = none) (m : Model) (target : String) :
    r.passesCast m target = true := by
  rw [passesCast, without]

/-- A record without a type of its own evaluates like one of a type that derives from the targets of
all casts of the element. Properties behind other casts are not null for it, as they are for such a
record. -/
theorem evaluate_of_none (without : r.runtimeType = none) (own : String) (e : Expr) (m : Model) :
    ((∀ target, e.CastsTo target → m.isSubtype own target) →
      evaluate r e m = evaluate { r with runtimeType := some own } e m ∧
      evaluatePredicate r e m = evaluatePredicate { r with runtimeType := some own } e m) ∧
    ∀ type source p, e = .property type source p → source.CastOfElement →
      evaluate r e m = r.read p.name ∧
      ((∃ target, source.CastsTo target ∧ m.isSubtype own target = false) →
        evaluate { r with runtimeType := some own } e m = .null) := by
  constructor
  · intro derives
    have alike : e.SeesAlike m r { r with runtimeType := some own } :=
      ⟨rfl, fun target casts => (r.passesCast_of_none without m target).trans
        (derives target casts).symm⟩
    have same : evaluate r e m = evaluate { r with runtimeType := some own } e m :=
      alike.value_eq []
    exact ⟨same, congrArg Value.isTrue same⟩
  · rintro type source p rfl element
    refine ⟨evaluate_of_passes element fun target _ => r.passesCast_of_none without m target, ?_⟩
    rintro ⟨target, casts, fails⟩
    exact evaluate_of_fails element casts fails

/-- Employees and contractors, who are persons and have a rate each. -/
def payTypes : List TypeDeclaration :=
  [⟨"Pay.Contractor", .entity, some "Pay.Person", [("Rate", .primitive .int32)]⟩,
    ⟨"Pay.Employee", .entity, some "Pay.Person", [("Rate", .primitive .int32)]⟩,
    ⟨"Pay.Person", .entity, none, [("Name", .primitive .string)]⟩]

/-- Queries about persons. -/
def payContext : QueryContext where
  model := ⟨payTypes.map TypeDeclaration.toType⟩
  element := ⟨"Pay.Person", .entity, none, [⟨"Pay.Person", "Name", .primitive .string⟩]⟩

/-- The rate of a person as an employee. -/
def employeeRate : Expr :=
  .property (.primitive .int32)
    (.cast (.structured "Pay.Employee") (.element (.structured "Pay.Person")) "Pay.Employee")
    ⟨"Pay.Employee", "Rate", .primitive .int32⟩

/-- A record with a rate. -/
def rated (own : Option String) (rate : Int32) : Record := .ofMembers own [("Rate", .int32 rate)]

theorem build_payTypes : Model.build payTypes = .ok payContext.model := by
  rw [Model.build, Model.ofDeclarations_of_sorted (by decide)]
  rfl

theorem evaluate_of_none_rate :
    (rated none 2).runtimeType = none ∧
    evaluate (rated none 2) employeeRate payContext.model = .int32 2 ∧
    evaluate (rated (some "Pay.Person") 2) employeeRate payContext.model = .null := by
  have element : (Expr.cast (.structured "Pay.Employee") (.element (.structured "Pay.Person"))
      "Pay.Employee").CastOfElement := .cast _ _ (.element _)
  have person : payContext.model.isSubtype "Pay.Person" "Pay.Employee" = false := by decide
  obtain ⟨reads, fails⟩ := (evaluate_of_none (r := rated none 2) rfl "Pay.Person" employeeRate
    payContext.model).2 _ _ _ rfl element
  exact ⟨rfl, reads, fails ⟨"Pay.Employee", ⟨_, _, .self _, .element _⟩, person⟩⟩

/-- A person who is no employee passes a filter for the rate of employees, unless the record says
that it is a person. -/
theorem evaluatePredicate_of_none_person :
    Model.build payTypes = .ok payContext.model ∧
    ∃ e, parseFilter "Pay.Employee/Rate eq 2" payContext = .ok e ∧
      (rated none 2).runtimeType = none ∧
      evaluatePredicate (rated none 2) e payContext.model ≠
        evaluatePredicate { rated none 2 with runtimeType := some payContext.element.name } e
          payContext.model := by
  have differs : (parseFilter "Pay.Employee/Rate eq 2" payContext).toOption.any (fun e =>
      evaluatePredicate (rated none 2) e payContext.model !=
        evaluatePredicate { rated none 2 with runtimeType := some payContext.element.name } e
          payContext.model) = true := by decide +kernel
  obtain ⟨e, found, differs⟩ := Except.any_toOption.1 differs
  exact ⟨build_payTypes, e, found, rfl, bne_iff_ne.1 differs⟩

end RecordQuery
