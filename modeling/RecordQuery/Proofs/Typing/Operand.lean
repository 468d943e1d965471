import RecordQuery.Proofs.Except
import RecordQuery.Proofs.Typing.Basic

/-!
# Fitted operands are well typed

Fitting operands together keeps them well typed: a null takes a type only where its rule lets it,
and a conversion is put only above an operand of a strictly narrower type.

## Main statements

* `Binding.unify_wellTyped`, `Binding.coerce_wellTyped`, `Binding.expectBoolean_wellTyped`: what
  fitted operands are.
* `Binding.binary_wellTyped`, `Binding.unary_wellTyped`: operations on them obey the rules.
-/

namespace RecordQuery

open Binding (Scope)

/-! ## Numeric types -/

namespace PrimitiveType

/-- A numeric type is known by its place in the chain. -/
theorem numericRank?_injective {a b : PrimitiveType} {i : Nat} (ha : a.numericRank? = some i)
    (hb : b.numericRank? = some i) : a = b := by
  cases a <;> cases b <;> grind [numericRank?]

/-- A promotion reaches a type that neither operand is wider than. -/
theorem narrower_of_promote? {a b target : PrimitiveType} (h : promote? a b = some target) :
    (a = target ∨ a.Narrower target) ∧ (b = target ∨ b.Narrower target) := by
  unfold promote? at h
  split at h
  case h_2 => cases h
  case h_1 i j hi hj =>
    split at h
    case isTrue le =>
      cases h
      refine ⟨.inl rfl, ?_⟩
      obtain lt | rfl := Nat.lt_or_eq_of_le le
      · exact .inr ⟨j, i, hj, hi, lt⟩
      · exact .inl (numericRank?_injective hj hi)
    case isFalse gt =>
      cases h
      exact ⟨.inr ⟨i, j, hi, hj, by omega⟩, .inl rfl⟩

/-- A type that widens to another one is that type or strictly narrower. -/
theorem narrower_of_widensTo {p target : PrimitiveType} (ne : p ≠ target)
    (h : p.widensTo target) : p.Narrower target := by
  have promoted : promote? p target = some target := by simpa [widensTo, ne] using h
  exact (narrower_of_promote? promoted).1.resolve_left ne

theorem Narrower.numeric {p target : PrimitiveType} (h : p.Narrower target) :
    p.isNumeric ∧ target.isNumeric := by
  obtain ⟨i, j, hi, hj, _⟩ := h
  simp [isNumeric, hi, hj]

theorem Narrower.ne {p target : PrimitiveType} (h : p.Narrower target) : p ≠ target := by
  rintro rfl
  obtain ⟨i, j, hi, hj, lt⟩ := h
  cases hi.symm.trans hj
  omega

end PrimitiveType

/-! ## Fitted operands -/

variable {context : QueryContext} {scope : Scope}

/-- What is untyped was declared untyped. -/
theorem TypeRef.Adopts.eq_null {t : TypeRef} (h : t.Adopts .null) : t = .null := by
  cases h
  rfl

/-- What is untyped is a null, a range variable or a property, and can be given a primitive type. -/
theorem WellTyped.withType {e : Expr} (h : WellTyped context scope e) (untyped : e.type = .null)
    (p : PrimitiveType) :
    WellTyped context scope (e.withType (.primitive p)) ∧
      (e.withType (.primitive p)).type = .primitive p := by
  cases h with
  | null => exact ⟨.null (.null p), rfl⟩
  | range bound adopts =>
    cases untyped
    exact ⟨.range bound (adopts.eq_null ▸ .null p), rfl⟩
  | property typed single resolved adopts =>
    cases untyped
    exact ⟨.property typed single resolved (adopts.eq_null ▸ .null p), rfl⟩
  | _ => cases untyped

namespace Binding

theorem expectBoolean_wellTyped {e fitted : Expr} {position : Nat}
    (typed : WellTyped context scope e) (h : expectBoolean e position = .ok fitted) :
    WellTyped context scope fitted ∧ fitted.type = .boolean := by
  unfold expectBoolean at h
  split at h
  · cases h
    exact ⟨typed, ‹_›⟩
  · cases h
    exact typed.withType ‹_› .boolean
  · cases h

theorem coerce_wellTyped {e fitted : Expr} {param : PrimitiveType} {position : Nat}
    (typed : WellTyped context scope e) (h : coerce e param position = .ok fitted) :
    WellTyped context scope fitted ∧ fitted.type = .primitive param := by
  unfold coerce at h
  split at h
  case h_1 untyped =>
    cases h
    exact typed.withType untyped param
  case h_2 p scalar =>
    split at h
    case isTrue same =>
      cases h
      exact ⟨typed, same ▸ scalar⟩
    case isFalse ne =>
      split at h
      · cases h
        exact ⟨.convert typed scalar (PrimitiveType.narrower_of_widensTo ne ‹_›), rfl⟩
      · cases h
  case h_3 => cases h

theorem widen_wellTyped {e : Expr} {p target : PrimitiveType} (typed : WellTyped context scope e)
    (scalar : e.type = .primitive p) (h : p = target ∨ p.Narrower target) :
    WellTyped context scope (widen e target) ∧ (widen e target).type = .primitive target := by
  unfold widen
  split
  case isTrue same =>
    have eq : p = target := by simpa [scalar, TypeRef.primitive?] using same
    exact ⟨typed, eq ▸ scalar⟩
  case isFalse ne =>
    have ne : p ≠ target := by simpa [scalar, TypeRef.primitive?] using ne
    exact ⟨.convert typed scalar (h.resolve_left ne), rfl⟩

theorem unify_wellTyped {left right l r : Expr} {position : Nat}
    (left_typed : WellTyped context scope left) (right_typed : WellTyped context scope right)
    (h : unify left right position = .ok (l, r)) :
    WellTyped context scope l ∧ WellTyped context scope r ∧ l.type = r.type ∧
      (l.type = .null ∨ ∃ p, l.type = .primitive p) := by
  unfold unify at h
  split at h
  case h_1 hl hr =>
    cases h
    exact ⟨left_typed, right_typed, hl.trans hr.symm, .inl hl⟩
  case h_2 p hl hr =>
    cases h
    obtain ⟨typed, type⟩ := left_typed.withType hl p
    exact ⟨typed, right_typed, type.trans hr.symm, .inr ⟨p, type⟩⟩
  case h_3 p hl hr =>
    cases h
    obtain ⟨typed, type⟩ := right_typed.withType hr p
    exact ⟨left_typed, typed, hl.trans type.symm, .inr ⟨p, hl⟩⟩
  case h_4 a b hl hr =>
    split at h
    case isTrue same =>
      cases h
      exact ⟨left_typed, right_typed, by rw [hl, hr, same], .inr ⟨a, hl⟩⟩
    case isFalse =>
      split at h
      case h_1 target promoted =>
        cases h
        obtain ⟨ha, hb⟩ := PrimitiveType.narrower_of_promote? promoted
        obtain ⟨left_typed, left_type⟩ := widen_wellTyped left_typed hl ha
        obtain ⟨right_typed, right_type⟩ := widen_wellTyped right_typed hr hb
        exact ⟨left_typed, right_typed, left_type.trans right_type.symm, .inr ⟨_, left_type⟩⟩
      case h_2 => cases h
  all_goals cases h

theorem binary_wellTyped {op : BinaryOperator} {left right e : Expr} {position : Nat}
    (left_typed : WellTyped context scope left) (right_typed : WellTyped context scope right)
    (h : binary op left right position = .ok e) : WellTyped context scope e := by
  unfold binary at h
  split at h
  case isTrue connects =>
    obtain ⟨l, hl, h⟩ := Except.bind_eq_ok.1 h
    obtain ⟨r, hr, h⟩ := Except.bind_eq_ok.1 h
    cases h
    obtain ⟨left_typed, left_boolean⟩ := expectBoolean_wellTyped left_typed hl
    obtain ⟨right_typed, right_boolean⟩ := expectBoolean_wellTyped right_typed hr
    exact .connective connects left_typed right_typed left_boolean right_boolean
  case isFalse other =>
    obtain ⟨⟨l, r⟩, hu, h⟩ := Except.bind_eq_ok.1 h
    obtain ⟨left_typed, right_typed, same, scalar⟩ := unify_wellTyped left_typed right_typed hu
    dsimp only at h
    split at h
    case isTrue compares =>
      cases h
      exact .comparison compares left_typed right_typed same scalar
    case isFalse noComparison =>
      have computes : op.isArithmetic := by
        cases op <;> simp_all [BinaryOperator.isComparison, BinaryOperator.isArithmetic]
      split at h
      case h_1 p type =>
        split at h
        · cases h
          exact .arithmetic computes ‹_› left_typed right_typed type (same ▸ type)
        · cases h
      case h_2 => cases h

theorem unary_wellTyped {op : UnaryOperator} {operand e : Expr} {position : Nat}
    (typed : WellTyped context scope operand) (h : unary op operand position = .ok e) :
    WellTyped context scope e := by
  unfold unary at h
  split at h
  · obtain ⟨fitted, hf, h⟩ := Except.bind_eq_ok.1 h
    cases h
    obtain ⟨typed, boolean⟩ := expectBoolean_wellTyped typed hf
    exact .not typed boolean
  · split at h
    · split at h
      · cases h
        exact .negate typed ‹_› ‹_›
      · cases h
    · cases h

end Binding

end RecordQuery
