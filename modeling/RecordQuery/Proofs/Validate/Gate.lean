import RecordQuery.Proofs.Except
import RecordQuery.Proofs.Validate.Visit

/-!
# Validation as a gate

Validation under a policy lets an expression through if and only if the policy permits each of its
nodes. What it refuses otherwise is the first node in the order of the visit that the policy does
not permit.

## Main definitions

* `Policy.Permits`: whether a policy permits a node.
* `Policy.Refuses`: the error for a node that a policy does not permit.

## Main statements

* `Expr.validate_gate`: validation is the gate of the policy.
-/

namespace RecordQuery

/-! ## Permitted nodes -/

namespace Policy

/-- Whether a policy permits a node. An operator is permitted if the tag with its word is in the set
of its class; a quantifier counts as a function. -/
def Permits (p : Policy) : Expr → Prop
  | .binary _ op _ _ =>
    if op.isArithmetic then ∃ t : ArithmeticOperator, t.text = op.text ∧ p.arithmetic.contains t
    else ∃ t : LogicalOperator, t.text = op.text ∧ p.logical.contains t
  | .unary _ .not _ => p.logical.contains .not
  | .unary _ .negate _ => p.arithmetic.contains .negate
  | .call _ f _ => p.functions.contains f
  | .any .. => p.functions.contains .any
  | .all .. => p.functions.contains .all
  | _ => True

/-- The error for a node that a policy does not permit. -/
inductive Refuses (p : Policy) : Expr → ValidationError → Prop
  | arithmetic {type op left right} {t : ArithmeticOperator} (arithmetic : op.isArithmetic)
      (word : t.text = op.text) (absent : ¬ p.arithmetic.contains t) :
      Refuses p (.binary type op left right) (.arithmeticOperatorNotAllowed t)
  | logical {type op left right} {t : LogicalOperator} (logical : op.isLogical)
      (word : t.text = op.text) (absent : ¬ p.logical.contains t) :
      Refuses p (.binary type op left right) (.logicalOperatorNotAllowed t)
  | not {type operand} (absent : ¬ p.logical.contains .not) :
      Refuses p (.unary type .not operand) (.logicalOperatorNotAllowed .not)
  | negate {type operand} (absent : ¬ p.arithmetic.contains .negate) :
      Refuses p (.unary type .negate operand) (.arithmeticOperatorNotAllowed .negate)
  | call {type f args} (absent : ¬ p.functions.contains f) :
      Refuses p (.call type f args) (.functionNotAllowed f)
  | any {type source bound body} (absent : ¬ p.functions.contains .any) :
      Refuses p (.any type source bound body) (.functionNotAllowed .any)
  | all {type source bound body} (absent : ¬ p.functions.contains .all) :
      Refuses p (.all type source bound body) (.functionNotAllowed .all)

end Policy

/-! ## Tags and words -/

theorem ArithmeticOperator.text_injective {s t : ArithmeticOperator} (h : s.text = t.text) :
    s = t := by
  cases s <;> cases t <;> first | rfl | exact absurd h (by decide)

theorem LogicalOperator.text_injective {s t : LogicalOperator} (h : s.text = t.text) :
    s = t := by
  cases s <;> cases t <;> first | rfl | exact absurd h (by decide)

/-- The tag of an operator is the one of its class with its word. -/
theorem BinaryOperator.tag_spec (op : BinaryOperator) :
    (op.isArithmetic ∧ ∃ t : ArithmeticOperator, op.tag = .arithmetic t ∧ t.text = op.text) ∨
    (op.isLogical ∧ ∃ t : LogicalOperator, op.tag = .logical t ∧ t.text = op.text) := by
  cases op <;> first
    | exact .inl ⟨rfl, _, rfl, rfl⟩
    | exact .inr ⟨rfl, _, rfl, rfl⟩

theorem BinaryOperator.tag_of_arithmetic (op : BinaryOperator) {t : ArithmeticOperator}
    (kind : op.isArithmetic) (word : t.text = op.text) : op.tag = .arithmetic t := by
  obtain ⟨_, s, tag, same⟩ | ⟨other, _⟩ := op.tag_spec
  · rw [tag, ArithmeticOperator.text_injective (same.trans word.symm)]
  · simp [BinaryOperator.isLogical, kind] at other

theorem BinaryOperator.tag_of_logical (op : BinaryOperator) {t : LogicalOperator}
    (kind : op.isLogical) (word : t.text = op.text) : op.tag = .logical t := by
  obtain ⟨other, _⟩ | ⟨_, s, tag, same⟩ := op.tag_spec
  · simp [BinaryOperator.isLogical, other] at kind
  · rw [tag, LogicalOperator.text_injective (same.trans word.symm)]

namespace Policy

theorem refusal?_eq_none_iff (p : Policy) (n : Expr) : p.refusal? n = none ↔ p.Permits n := by
  cases n with
  | binary _ op =>
    obtain ⟨kind, t, tag, word⟩ | ⟨kind, t, tag, word⟩ := op.tag_spec
    · have unique : ∀ s : ArithmeticOperator, s.text = op.text ↔ s = t := fun s =>
        ⟨fun h => ArithmeticOperator.text_injective (h.trans word.symm), fun h => h ▸ word⟩
      simp [refusal?, Permits, kind, tag, allowsOperator, unique]
    · have unique : ∀ s : LogicalOperator, s.text = op.text ↔ s = t := fun s =>
        ⟨fun h => LogicalOperator.text_injective (h.trans word.symm), fun h => h ▸ word⟩
      have other : op.isArithmetic = false := by simpa [BinaryOperator.isLogical] using kind
      simp [refusal?, Permits, other, tag, allowsOperator, unique]
  | unary _ op => cases op <;> simp [refusal?, Permits, UnaryOperator.tag, allowsOperator]
  | _ => simp [refusal?, Permits]

theorem refusal?_eq_some_iff (p : Policy) (n : Expr) (error : ValidationError) :
    p.refusal? n = some error ↔ p.Refuses n error := by
  constructor
  · intro h
    cases n with
    | binary _ op =>
      obtain ⟨kind, t, tag, word⟩ | ⟨kind, t, tag, word⟩ := op.tag_spec
      all_goals
        simp only [refusal?, tag, refuseUnless_eq_some] at h
        obtain ⟨absent, rfl⟩ := h
      · exact .arithmetic kind word (by simpa [allowsOperator] using absent)
      · exact .logical kind word (by simpa [allowsOperator] using absent)
    | unary _ op =>
      obtain ⟨absent, rfl⟩ := refuseUnless_eq_some.1 h
      cases op
      · exact .not (by simpa [UnaryOperator.tag, allowsOperator] using absent)
      · exact .negate (by simpa [UnaryOperator.tag, allowsOperator] using absent)
    | call | any | all =>
      obtain ⟨absent, rfl⟩ := refuseUnless_eq_some.1 h
      constructor
      simpa using absent
    | _ => cases h
  · intro h
    cases h with
    | @arithmetic _ op _ _ t kind word absent =>
      rw [refusal?, op.tag_of_arithmetic kind word]
      simpa [allowsOperator, OperatorTag.notAllowed] using absent
    | @logical _ op _ _ t kind word absent =>
      rw [refusal?, op.tag_of_logical kind word]
      simpa [allowsOperator, OperatorTag.notAllowed] using absent
    | not absent | negate absent =>
      simpa [refusal?, UnaryOperator.tag, allowsOperator, OperatorTag.notAllowed] using absent
    | call absent | any absent | all absent => simpa [refusal?] using absent

end Policy

/-! ## Stock hooks -/

/-- The refusal of a visit that ends at an error, if there is one. -/
def refuse : Option ValidationError → Except ValidationError Unit
  | none => .ok ()
  | some error => .error error

/-- What a walk without state of its own gives. -/
def Walk.result {α : Type} (w : Walk Unit α) : Except ValidationError α :=
  (w () : Except ValidationError α × Unit).1

namespace Walk

@[simp] theorem result_bind {α β : Type} (w : Walk Unit α) (next : α → Walk Unit β) :
    result (w >>= next) = result w >>= fun a => result (next a) := by
  simp only [result, bind, ExceptT.bind, ExceptT.mk, StateT.bind, ExceptT.bindCont]
  rcases w () with ⟨_ | _, _⟩ <;> rfl

@[simp] theorem result_enter (entry : Entry) : result (Hooks.stock.enter entry) = .ok () := rfl

@[simp] theorem result_allow (allowed : Bool) (refusal : ValidationError) :
    result (allow allowed refusal) = if allowed then .ok () else .error refusal := by
  cases allowed <;> rfl

@[simp] theorem result_enterAll (entries : List Entry) :
    result (Hooks.stock.enterAll entries) = .ok () := by
  induction entries with
  | nil => rfl
  | cons entry rest ih => rw [Hooks.enterAll_cons, result_bind, result_enter, Except.ok_bind, ih]

@[simp] theorem result_refuse (a : Option ValidationError) :
    result (Walk.refuse a) = RecordQuery.refuse a := by
  cases a <;> rfl

end Walk

theorem refuse_eq_ok {a : Option ValidationError} : refuse a = .ok () ↔ a = none := by
  cases a <;> simp [refuse]

theorem refuse_eq_error {a : Option ValidationError} {error : ValidationError} :
    refuse a = .error error ↔ a = some error := by
  cases a <;> simp [refuse]

namespace Expr

theorem validate_eq_result (p : Policy) (e : Expr) :
    (e.validateWith Hooks.stock p).result = e.validate p := rfl

/-- The visit ends at the first node that the policy does not permit. -/
theorem validate_eq_refuse (p : Policy) (e : Expr) :
    e.validate p = RecordQuery.refuse (firstRefusal? p e.preorder) := by
  rw [← validate_eq_result, validateWith_eq_enterAll, Walk.result_bind, Walk.result_enterAll,
    Except.ok_bind, Walk.result_refuse]

/-- Validation lets an expression through if and only if each node anywhere in it is permitted. -/
theorem validate_eq_ok_iff {p : Policy} {e : Expr} :
    e.validate p = .ok () ↔ ∀ n, n.Part e → p.Permits n := by
  simp only [validate_eq_refuse, refuse_eq_ok, firstRefusal?, List.findSome?_eq_none_iff,
    Policy.refusal?_eq_none_iff, mem_preorder]

/-- Validation refuses the first node in the order of the visit that is not permitted. -/
theorem validate_eq_error_iff {p : Policy} {e : Expr} {error : ValidationError} :
    e.validate p = .error error ↔
      ∃ before n after, e.preorder = before ++ n :: after ∧
        p.Refuses n error ∧ ∀ m ∈ before, p.Permits m := by
  simp only [validate_eq_refuse, refuse_eq_error, firstRefusal?, List.findSome?_eq_some_iff,
    Policy.refusal?_eq_none_iff, Policy.refusal?_eq_some_iff]

/-- Validation lets an expression through if and only if each node anywhere in it is permitted, and
otherwise refuses the first node in the order of the visit that is not. -/
theorem validate_gate (p : Policy) (e : Expr) :
    (e.validate p = .ok () ↔ ∀ n, n.Part e → p.Permits n) ∧
    ∀ error, e.validate p = .error error ↔
      ∃ before n after, e.preorder = before ++ n :: after ∧
        p.Refuses n error ∧ ∀ m ∈ before, p.Permits m :=
  ⟨validate_eq_ok_iff, fun _ => validate_eq_error_iff⟩

end Expr

end RecordQuery
