import RecordQuery.Proofs.Evaluate.RuntimeType

/-!
# What a filter depends on

A filter depends on the properties of the element that it mentions and, if there is a cast in it, on
the type of the record. Members of other values are read from these values, so they are no reason to
ask the record again, and it makes no difference whether a record lacks a value or has null.

## Main definitions

* `Expr.elementReads`: the names under which an expression reads properties of the element.

## Main statements

* `evaluate_of_agree`: records that agree on what an expression mentions evaluate alike.
-/

namespace RecordQuery

variable {r r' : Record} {m : Model} {e : Expr}

namespace Expr

/-- The names of the properties of the element that are read anywhere in an expression. -/
def elementReads (e : Expr) : List String :=
  e.preorder.filterMap fun
    | .property _ source p => if source.isElement then some p.name else none
    | _ => none

theorem mem_elementReads {name : String} : name ∈ e.elementReads ↔ e.ReadsElement name := by
  simp only [elementReads, ReadsElement, List.mem_filterMap, mem_preorder, ← isElement_iff]
  constructor
  · rintro ⟨n, part, found⟩
    split at found
    · split at found <;> cases found
      exact ⟨_, _, _, part, ‹_›, rfl⟩
    · cases found
  · rintro ⟨type, source, p, part, element, rfl⟩
    exact ⟨_, part, if_pos element⟩

/-- Records of one type pass the same casts. Without a cast there is none to pass. -/
theorem AgreeOn.of_types (reads : ∀ name, e.ReadsElement name → r.read name = r'.read name)
    (types : (∃ type source target, (cast type source target).Part e) →
      r.runtimeType = r'.runtimeType) : e.AgreeOn m r r' where
  reads := reads
  casts target := fun ⟨type, source, part, _⟩ => by
    rw [Record.passesCast, Record.passesCast, types ⟨type, source, target, part⟩]

end Expr

/-- Records evaluate alike if they read alike under every name by which an expression reads a
property of the element, and are of one type if the expression has a cast in it. -/
theorem evaluate_of_agree (m : Model)
    (reads : ∀ name, e.ReadsElement name → r.read name = r'.read name)
    (types : (∃ type source target, (Expr.cast type source target).Part e) →
      r.runtimeType = r'.runtimeType) :
    evaluate r e m = evaluate r' e m ∧ evaluatePredicate r e m = evaluatePredicate r' e m := by
  have agree : e.AgreeOn m r r' := .of_types reads types
  have same : evaluate r e m = evaluate r' e m := agree.value_eq []
  exact ⟨same, congrArg Value.isTrue same⟩

/-- An employee with a null name and a grade, and one of the same rate with nothing else. -/
theorem evaluate_of_agree_employee : ∃ e,
    parseFilter "Pay.Employee/Rate eq 2 and Name eq null" payContext = .ok e ∧
    e.elementReads = ["Rate", "Name"] ∧ e.castTargets = ["Pay.Employee"] ∧
    let full : Record :=
      .ofMembers (some "Pay.Employee") [("Grade", .int32 1), ("Name", .null), ("Rate", .int32 2)]
    full.value? "Name" ≠ (rated full.runtimeType 2).value? "Name" ∧
    full.read "Grade" ≠ (rated full.runtimeType 2).read "Grade" ∧
    evaluate full e payContext.model = evaluate (rated full.runtimeType 2) e payContext.model ∧
    evaluatePredicate full e payContext.model = true := by
  have known : (parseFilter "Pay.Employee/Rate eq 2 and Name eq null" payContext).toOption.any
      (fun e => e.elementReads == ["Rate", "Name"] && e.castTargets == ["Pay.Employee"] &&
        evaluatePredicate (rated (some "Pay.Employee") 2) e payContext.model) = true := by
    decide +kernel
  obtain ⟨e, parsed, known⟩ := Except.any_toOption.1 known
  simp only [Bool.and_eq_true, beq_iff_eq] at known
  obtain ⟨⟨reads, targets⟩, accepted⟩ := known
  refine ⟨e, parsed, reads, targets, ?_⟩
  intro full
  have agree : ∀ name, e.ReadsElement name →
      full.read name = (rated full.runtimeType 2).read name := by
    simp only [← Expr.mem_elementReads, reads]
    exact List.forall_mem_cons.2 ⟨rfl, List.forall_mem_cons.2 ⟨rfl, nofun⟩⟩
  obtain ⟨same, verdict⟩ := evaluate_of_agree payContext.model agree fun _ => rfl
  exact ⟨nofun, nofun, same, verdict.trans accepted⟩

end RecordQuery
