import RecordQuery.Proofs.Binding.Operand
import RecordQuery.Proofs.Display.Legible

/-!
# What fitting does to an operand

To fit an operand means to give it another type or to put a conversion above it. Neither is
displayed, and neither changes whether the nodes of the operand are lexical and legible.

## Main definitions

* `Expr.Fitted`: whether one expression is another one that was fitted.

## Main statements

* `Binding.binary_fitted`, `Binding.unary_retyped`: operations are made of fitted operands.
* `Expr.Fitted.shown`: a fitted operand is displayed like the operand.
-/

namespace RecordQuery

open Binding (Scope)

namespace Expr

variable {e e' : Expr} {scope : Scope} {P : Scope → Expr → Prop}

theorem withType_type (e : Expr) : e.withType e.type = e := by
  cases e <;> rfl

/-- Whether an expression is another one of another type, or a conversion of it. -/
def Fitted (e e' : Expr) : Prop := (∃ t, e' = e.withType t) ∨ ∃ target, e' = convert target e

theorem Fitted.refl (e : Expr) : Fitted e e := .inl ⟨e.type, e.withType_type.symm⟩

theorem Fitted.shown (h : Fitted e e') : e'.shown = e.shown := by
  obtain ⟨t, rfl⟩ | ⟨target, rfl⟩ := h
  · exact shown_withType t e
  · rw [Expr.shown]

theorem throughout_convert {target : PrimitiveType} (converts : P scope (convert target e)) :
    Throughout P scope (convert target e) ↔ Throughout P scope e := by
  rw [throughout_iff, and_iff_right converts]
  exact List.forall_mem_singleton

theorem Fitted.lexical (h : Fitted e e') :
    Throughout (fun _ => IsLexical) scope e' ↔ Throughout (fun _ => IsLexical) scope e := by
  obtain ⟨t, rfl⟩ | ⟨target, rfl⟩ := h
  · exact throughout_withType (fun _ => isLexical_withType) t
  · exact throughout_convert True.intro

theorem Fitted.legible (h : Fitted e e') :
    Throughout IsLegible scope e' ↔ Throughout IsLegible scope e := by
  obtain ⟨t, rfl⟩ | ⟨target, rfl⟩ := h
  · exact throughout_withType isLegible_withType t
  · exact throughout_convert True.intro

theorem isConversion_withType (t : TypeRef) (e : Expr) :
    (e.withType t).isConversion = e.isConversion := by
  cases e <;> rfl

end Expr

/-- What was given a type if it had none has some type. -/
theorem Expr.Retyped.exists_withType {e fitted : Expr} (h : e.Retyped fitted) :
    ∃ t, fitted = e.withType t := by
  obtain rfl | ⟨-, p, rfl⟩ := h
  · exact ⟨_, (withType_type _).symm⟩
  · exact ⟨_, rfl⟩

theorem Expr.Retyped.fitted {e fitted : Expr} (h : e.Retyped fitted) : Fitted e fitted :=
  .inl h.exists_withType

theorem Expr.ConvertedTo.fitted {e fitted : Expr} {target : PrimitiveType}
    (h : e.ConvertedTo target fitted) : Fitted e fitted := .inr ⟨target, h.1⟩

namespace Binding

open RecordQuery.Expr (Fitted)

variable {e fitted left right : Expr} {position : Nat}

theorem expectBoolean_retyped (h : expectBoolean e position = .ok fitted) :
    ∃ t, fitted = e.withType t := (expectBoolean_cases h).exists_withType

theorem coerce_fitted {param : PrimitiveType} (h : coerce e param position = .ok fitted) :
    Fitted e fitted := (coerce_cases h).elim Expr.Retyped.fitted Expr.ConvertedTo.fitted

theorem unify_fitted {l r : Expr} (h : unify left right position = .ok (l, r)) :
    Fitted left l ∧ Fitted right r := by
  obtain ⟨hl, hr⟩ | ⟨_, hl, rfl, -⟩ | ⟨_, rfl, -, hr⟩ := unify_cases h
  · exact ⟨hl.fitted, hr.fitted⟩
  · exact ⟨hl.fitted, .refl _⟩
  · exact ⟨.refl _, hr.fitted⟩

/-- A binary operation is made of the fitted operands. -/
theorem binary_fitted {op : BinaryOperator} (h : binary op left right position = .ok e) :
    ∃ t l r, e = .binary t op l r ∧ Fitted left l ∧ Fitted right r := by
  obtain ⟨l, r, ⟨-, rfl, hl, hr⟩ | ⟨-, rfl, unified⟩ | ⟨-, p, rfl, unified⟩⟩ := binary_cases h
  · exact ⟨_, l, r, rfl, hl.fitted, hr.fitted⟩
  · exact ⟨_, l, r, rfl, unify_fitted unified⟩
  · exact ⟨_, l, r, rfl, unify_fitted unified⟩

/-- A unary operation is made of the operand with perhaps another type. -/
theorem unary_retyped {op : UnaryOperator} {operand : Expr}
    (h : unary op operand position = .ok e) : ∃ t t', e = .unary t op (operand.withType t') := by
  obtain ⟨t, fitted, rfl, retyped⟩ := unary_cases h
  obtain ⟨t', rfl⟩ := retyped.exists_withType
  exact ⟨t, t', rfl⟩

end Binding

end RecordQuery
