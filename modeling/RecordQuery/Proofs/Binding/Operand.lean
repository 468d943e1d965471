import RecordQuery.Proofs.Typing.Operand

/-!
# What fitting does to operands

To fit an operand means to give it a type if it has none, or to put a conversion above it if its
type is too narrow. Of two operands of an operator at most one is converted.

## Main definitions

* `Expr.Retyped`: whether one expression is another one that was given a type if it had none.
* `Expr.ConvertedTo`: whether one expression is the conversion of another one of a narrower type.

## Main statements

* `Binding.unify_cases`, `Binding.coerce_cases`: how operands and arguments are fitted.
* `Binding.binary_cases`, `Binding.unary_cases`: which operations are made of fitted operands.
-/

namespace RecordQuery

/-- Whether one expression is another one that was given a type if it had none. -/
def Expr.Retyped (e fitted : Expr) : Prop :=
  fitted = e ∨ (e.type = .null ∧ ∃ p, fitted = e.withType (.primitive p))

/-- Whether one expression is the conversion of another one of a narrower type. -/
def Expr.ConvertedTo (target : PrimitiveType) (e fitted : Expr) : Prop :=
  fitted = .convert target e ∧ ∃ p, e.type = .primitive p ∧ p.Narrower target

theorem Expr.Retyped.refl (e : Expr) : e.Retyped e := .inl rfl

/-- A promotion is to one of the two types. -/
theorem PrimitiveType.promote?_eq {a b target : PrimitiveType} (h : promote? a b = some target) :
    a = target ∨ b = target := by
  unfold promote? at h
  split at h
  · split at h <;> cases h
    · exact .inl rfl
    · exact .inr rfl
  · cases h

namespace Binding

open RecordQuery.Expr (ConvertedTo Retyped)

variable {e fitted left right l r : Expr} {p target : PrimitiveType} {position : Nat}

theorem widen_of_type (scalar : e.type = .primitive target) : widen e target = e := by
  unfold widen
  rw [scalar]
  exact if_pos (beq_self_eq_true _)

theorem widen_of_narrower (scalar : e.type = .primitive p) (ne : p ≠ target) :
    widen e target = .convert target e := by
  unfold widen
  rw [scalar]
  exact if_neg fun same => ne (Option.some.inj (eq_of_beq same))

theorem expectBoolean_cases (h : expectBoolean e position = .ok fitted) : e.Retyped fitted := by
  unfold expectBoolean at h
  split at h
  case h_1 =>
    cases h
    exact .refl e
  case h_2 untyped =>
    cases h
    exact .inr ⟨untyped, .boolean, rfl⟩
  case h_3 => cases h

theorem coerce_cases {param : PrimitiveType} (h : coerce e param position = .ok fitted) :
    e.Retyped fitted ∨ e.ConvertedTo param fitted := by
  unfold coerce at h
  split at h
  case h_1 untyped =>
    cases h
    exact .inl (.inr ⟨untyped, param, rfl⟩)
  case h_2 p scalar =>
    split at h
    case isTrue =>
      cases h
      exact .inl (.refl e)
    case isFalse ne =>
      split at h <;> cases h
      exact .inr ⟨rfl, p, scalar, PrimitiveType.narrower_of_widensTo ne ‹_›⟩
  case h_3 => cases h

/-- At most one of two operands is converted, to the type of the other one. -/
theorem unify_cases (h : unify left right position = .ok (l, r)) :
    (left.Retyped l ∧ right.Retyped r) ∨
    (∃ target, left.ConvertedTo target l ∧ r = right ∧ right.type = .primitive target) ∨
    (∃ target, l = left ∧ left.type = .primitive target ∧ right.ConvertedTo target r) := by
  unfold unify at h
  split at h
  case h_1 =>
    cases h
    exact .inl ⟨.refl _, .refl _⟩
  case h_2 p untyped _ =>
    cases h
    exact .inl ⟨.inr ⟨untyped, p, rfl⟩, .refl _⟩
  case h_3 p _ untyped =>
    cases h
    exact .inl ⟨.refl _, .inr ⟨untyped, p, rfl⟩⟩
  case h_4 a b ha hb =>
    split at h
    case isTrue =>
      cases h
      exact .inl ⟨.refl _, .refl _⟩
    case isFalse ne =>
      split at h
      case h_1 target promoted =>
        cases h
        obtain ⟨wider_a, wider_b⟩ := PrimitiveType.narrower_of_promote? promoted
        obtain rfl | rfl := PrimitiveType.promote?_eq promoted
        · rw [widen_of_type ha, widen_of_narrower hb (Ne.symm ne)]
          exact .inr (.inr ⟨a, rfl, ha, rfl, b, hb, wider_b.resolve_left (Ne.symm ne)⟩)
        · rw [widen_of_type hb, widen_of_narrower ha ne]
          exact .inr (.inl ⟨b, ⟨rfl, a, ha, wider_a.resolve_left ne⟩, rfl, hb⟩)
      case h_2 => cases h
  all_goals cases h

/-- A binary operation is a connective, a comparison or arithmetic on fitted operands. -/
theorem binary_cases {op : BinaryOperator} (h : binary op left right position = .ok e) :
    ∃ l r, ((op = .and ∨ op = .or) ∧ e = .binary .boolean op l r ∧
        left.Retyped l ∧ right.Retyped r) ∨
      (op.isComparison ∧ e = .binary .boolean op l r ∧ unify left right position = .ok (l, r)) ∨
      (op.isArithmetic ∧ ∃ p, e = .binary (.primitive p) op l r ∧
        unify left right position = .ok (l, r)) := by
  unfold binary at h
  split at h
  case isTrue connects =>
    obtain ⟨l, hl, h⟩ := Except.bind_eq_ok.1 h
    obtain ⟨r, hr, h⟩ := Except.bind_eq_ok.1 h
    cases h
    exact ⟨l, r, .inl ⟨connects, rfl, expectBoolean_cases hl, expectBoolean_cases hr⟩⟩
  case isFalse other =>
    obtain ⟨⟨l, r⟩, hu, h⟩ := Except.bind_eq_ok.1 h
    refine ⟨l, r, .inr ?_⟩
    dsimp only at h
    split at h
    case isTrue compares =>
      cases h
      exact .inl ⟨compares, rfl, hu⟩
    case isFalse noComparison =>
      have computes : op.isArithmetic := by
        cases op <;> simp_all [BinaryOperator.isComparison, BinaryOperator.isArithmetic]
      split at h
      case h_1 p _ =>
        split at h <;> cases h
        exact .inr ⟨computes, p, rfl, hu⟩
      case h_2 => cases h

/-- The operand of a unary operation is given a type if it has none, and never converted. -/
theorem unary_cases {op : UnaryOperator} {operand : Expr} (h : unary op operand position = .ok e) :
    ∃ type fitted, e = .unary type op fitted ∧ operand.Retyped fitted := by
  unfold unary at h
  split at h
  case h_1 =>
    obtain ⟨fitted, hf, h⟩ := Except.bind_eq_ok.1 h
    cases h
    exact ⟨_, fitted, rfl, expectBoolean_cases hf⟩
  case h_2 =>
    split at h
    case h_1 =>
      split at h <;> cases h
      exact ⟨_, operand, rfl, .refl operand⟩
    case h_2 => cases h

end Binding

end RecordQuery
