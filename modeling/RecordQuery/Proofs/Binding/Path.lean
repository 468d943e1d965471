import RecordQuery.Proofs.Binding.Term
import RecordQuery.Proofs.Grammar.Position

/-!
# Binding paths

A path starts at a range variable, and each segment behind that puts a property access or a cast on
top of what came before.

## Main definitions

* `Expr.isPath`: whether an expression is a path.

## Main statements

* `Binding.pathStart_cases`: where a path starts.
* `Binding.addSegment_cases`: what one segment adds to a path.
* `Binding.path_isPath`: a path gives a path.
-/

namespace RecordQuery

open Grammar (Segment)

/-- Whether an expression is a path: a range variable, a property access or a cast. -/
def Expr.isPath : Expr → Bool
  | range .. | property .. | cast .. => true
  | _ => false

namespace Binding

variable {context : QueryContext} {limit : Bounds} {scope : Scope} {m : Model}

/-- What one segment adds to a path. -/
theorem addSegment_cases {path : PathState} {segment : Segment} {e : Expr}
    (h : addSegment m path segment = .ok e) :
    (∃ t p, e = .property t path.expr p ∧ segment.erase = .member 0 p.name.toList) ∨
    (∃ t target, e = .cast t path.expr target ∧ segment.erase = .cast 0 target.toList) := by
  unfold addSegment at h
  split at h
  case h_1 position type =>
    split at h
    case h_1 => cases h
    case h_2 =>
      obtain ⟨target, found, h⟩ := Except.bind_eq_ok.1 h
      cases h
      refine .inr ⟨_, _, rfl, ?_⟩
      rw [(Model.resolveCast_spec found).1, String.toList_ofList, Segment.erase]
  case h_2 position name =>
    split at h
    case h_1 => cases h
    case h_2 =>
      split at h
      case h_1 p resolved =>
        cases h
        refine .inl ⟨_, p, rfl, ?_⟩
        rw [(Model.resolveProperty?_spec resolved).1, String.toList_ofList, Segment.erase]
      case h_2 => cases h
    case h_3 => cases h

theorem addSegment_isPath {path : PathState} {segment : Segment} {e : Expr}
    (h : addSegment m path segment = .ok e) : e.isPath = true := by
  obtain ⟨_, _, rfl, -⟩ | ⟨_, _, rfl, -⟩ := addSegment_cases h <;> rfl

theorem addSegments_cons {path result : PathState} {segment : Segment} {rest : List Segment}
    (h : addSegments m limit path (segment :: rest) = .ok result) :
    ∃ next : PathState, addSegment m path segment = .ok next.expr ∧
      addSegments m limit next rest = .ok result := by
  obtain ⟨e, he, h⟩ := Except.bind_eq_ok.1 h
  obtain ⟨bounded, hb, h⟩ := Except.bind_eq_ok.1 h
  cases eq_of_limitDepth hb
  exact ⟨_, he, h⟩

theorem addSegments_isPath (segments : List Segment) {path result : PathState}
    (h : addSegments m limit path segments = .ok result) (is_path : path.expr.isPath = true) :
    result.expr.isPath = true := by
  induction segments generalizing path with
  | nil =>
    cases h
    exact is_path
  | cons segment rest ih =>
    obtain ⟨next, step, h⟩ := addSegments_cons h
    exact ih h (addSegment_isPath step)

/-- A path starts at a range variable: the element, or one in scope under a name of the path. -/
theorem pathStart_cases (context : QueryContext) (scope : Scope) (first : Segment)
    (rest : List Segment) :
    (∃ t name, scope.lookup name = some t ∧ first.erase = .member 0 name.toList ∧
      pathStart context scope first rest = (.range t name, rest)) ∨
    pathStart context scope first rest =
      (.element (.structured context.element.name), first :: rest) := by
  unfold pathStart
  cases first with
  | cast => exact .inr rfl
  | member position name =>
    dsimp only
    cases found : scope.lookup (String.ofList name) with
    | none => exact .inr rfl
    | some t => exact .inl ⟨t, _, found, by rw [String.toList_ofList, Segment.erase], rfl⟩

theorem path_isPath {first : Segment} {rest : List Segment} {result : PathState}
    (h : path context limit scope first rest = .ok result) : result.expr.isPath = true := by
  unfold path at h
  obtain ⟨t, name, -, -, start⟩ | start := pathStart_cases context scope first rest <;>
    rw [start] at h
  · exact addSegments_isPath _ h rfl
  · exact addSegments_isPath _ h rfl

end Binding

end RecordQuery
