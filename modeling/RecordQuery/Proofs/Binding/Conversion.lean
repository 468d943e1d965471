import RecordQuery.Proofs.Binding.Path
import RecordQuery.Proofs.Display.Fitting

/-!
# Where binding puts conversions

A conversion is put above an argument of a call, or above one of the two operands of an operator and
then not above the other one. No unary operator is applied to a conversion, and no conversion to
another one.

## Main definitions

* `Expr.IsSparing`: whether a node has no more conversions below it than that.

## Main statements

* `Binding.Binds.plain`: no bound term is a conversion.
* `Binding.Binds.sparing`: all nodes of bound terms are sparing.
-/

namespace RecordQuery

open Binding (Scope)
open Grammar (Segment Term)

namespace Expr

variable {e fitted : Expr} {scope : Scope}

/-- Whether not both operands of a node are conversions, and not the operand of a unary operation or
of a conversion. -/
def IsSparing : Expr → Prop
  | binary _ _ left right => left.isConversion = false ∨ right.isConversion = false
  | unary _ _ operand | convert _ operand => operand.isConversion = false
  | _ => True

/-- Whether all nodes of an expression are sparing. -/
abbrev AllSparing (scope : Scope) (e : Expr) : Prop := e.Throughout (fun _ => IsSparing) scope

theorem isConversion_of_isPath {e : Expr} (h : e.isPath = true) : e.isConversion = false := by
  cases e with
  | convert => cases h
  | _ => rfl

theorem isSparing_withType (t : TypeRef) (e : Expr) : (e.withType t).IsSparing ↔ e.IsSparing := by
  cases e <;> exact Iff.rfl

/-- An operand that is no conversion stays sparing when it is fitted. -/
theorem Fitted.allSparing (h : Fitted e fitted) (plain : e.isConversion = false)
    (sparing : e.AllSparing scope) : fitted.AllSparing scope := by
  obtain ⟨t, rfl⟩ | ⟨target, rfl⟩ := h
  · exact (throughout_withType (fun _ => isSparing_withType) t).2 sparing
  · exact (throughout_convert plain).2 sparing

theorem Retyped.plain (h : e.Retyped fitted) (plain : e.isConversion = false) :
    fitted.isConversion = false := by
  obtain ⟨t, rfl⟩ := h.exists_withType
  rwa [isConversion_withType]

end Expr

namespace Binding

open RecordQuery.Expr (AllSparing)

variable {context : QueryContext} {limit : Bounds} {scope : Scope} {m : Model} {left right : Expr}

/-! ## Paths -/

theorem addSegments_sparing (segments : List Segment) {path result : PathState}
    (h : addSegments m limit path segments = .ok result) (sparing : path.expr.AllSparing scope) :
    result.expr.AllSparing scope := by
  induction segments generalizing path with
  | nil =>
    cases h
    exact sparing
  | cons segment rest ih =>
    obtain ⟨next, step, h⟩ := addSegments_cons h
    refine ih h ?_
    obtain ⟨_, _, same, -⟩ | ⟨_, _, same, -⟩ := addSegment_cases step <;> rw [same]
    · exact Expr.throughout_property.2 ⟨True.intro, sparing⟩
    · exact Expr.throughout_cast.2 ⟨True.intro, sparing⟩

theorem path_sparing {first : Segment} {rest : List Segment} {result : PathState}
    (h : path context limit scope first rest = .ok result) : result.expr.AllSparing scope := by
  unfold path at h
  obtain ⟨t, name, -, -, start⟩ | start := pathStart_cases context scope first rest <;>
    rw [start] at h
  · exact addSegments_sparing _ h (Expr.throughout_range.2 True.intro)
  · exact addSegments_sparing _ h (Expr.throughout_range.2 True.intro)

/-! ## Operators -/

theorem unify_sparing {l r : Expr} {position : Nat} (h : unify left right position = .ok (l, r))
    (left_plain : left.isConversion = false) (right_plain : right.isConversion = false) :
    l.isConversion = false ∨ r.isConversion = false := by
  obtain ⟨hl, -⟩ | ⟨_, -, rfl, -⟩ | ⟨_, rfl, -⟩ := unify_cases h
  · exact .inl (hl.plain left_plain)
  · exact .inr right_plain
  · exact .inl left_plain

theorem binary_sparing {op : BinaryOperator} {e : Expr} {position : Nat}
    (h : binary op left right position = .ok e) (left_plain : left.isConversion = false)
    (right_plain : right.isConversion = false) (left_sparing : left.AllSparing scope)
    (right_sparing : right.AllSparing scope) : e.AllSparing scope := by
  obtain ⟨l, r, ⟨-, rfl, hl, hr⟩ | ⟨-, rfl, unified⟩ | ⟨-, p, rfl, unified⟩⟩ := binary_cases h
  · exact Expr.throughout_binary.2 ⟨.inl (hl.plain left_plain),
      hl.fitted.allSparing left_plain left_sparing,
      hr.fitted.allSparing right_plain right_sparing⟩
  all_goals
    obtain ⟨hl, hr⟩ := unify_fitted unified
    exact Expr.throughout_binary.2 ⟨unify_sparing unified left_plain right_plain,
      hl.allSparing left_plain left_sparing, hr.allSparing right_plain right_sparing⟩

/-! ## Terms -/

/-- A bound term is no conversion itself. -/
theorem Binds.plain {t : Term} {e : Expr} (h : Binds context limit scope t e) :
    e.isConversion = false := by
  induction h with
  | null | bool | string | guid | dateTime | number | anyItem | call => rfl
  | path spine => exact Expr.isConversion_of_isPath (path_isPath spine)
  | @lambda _ _ _ q => cases q <;> rfl
  | unary _ made =>
    obtain ⟨_, _, rfl, -⟩ := unary_cases made
    rfl
  | binary _ _ made =>
    obtain ⟨_, _, _, rfl, -⟩ := binary_fitted made
    rfl
  | group _ ih => exact ih

/-- All nodes of a bound term are sparing. -/
theorem Binds.sparing {t : Term} {e : Expr} (h : Binds context limit scope t e) :
    e.AllSparing scope := by
  induction h with
  | null | bool | string | guid | dateTime | number => exact Expr.throughout_constant.2 True.intro
  | path spine => exact path_sparing spine
  | anyItem spine => exact Expr.throughout_anyItem.2 ⟨True.intro, path_sparing spine⟩
  | @lambda _ _ _ q _ _ _ _ _ _ _ _ spine items _ inside fits _ ih =>
    have body_sparing := (expectBoolean_cases fits).fitted.allSparing inside.plain ih
    cases q <;> exact (Expr.throughout_quantify (itemType_eq items)).2
      ⟨True.intro, path_sparing spine, body_sparing⟩
  | call _ fitted inside _ ih =>
    refine Expr.throughout_call.2 ⟨True.intro, fun e mem => ?_⟩
    obtain ⟨arg, mem, e', param, bound, fits⟩ := exists_of_mem_arguments fitted e mem
    exact (coerce_fitted fits).allSparing (inside arg mem e' bound).plain (ih arg mem e' bound)
  | unary inside made _ ih =>
    obtain ⟨t, fitted, rfl, retyped⟩ := unary_cases made
    exact Expr.throughout_unary.2
      ⟨retyped.plain inside.plain, retyped.fitted.allSparing inside.plain ih⟩
  | binary onLeft onRight made _ ihl ihr =>
    exact binary_sparing made onLeft.plain onRight.plain ihl ihr
  | group _ ih => exact ih

end Binding

end RecordQuery
