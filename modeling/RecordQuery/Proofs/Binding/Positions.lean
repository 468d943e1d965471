import RecordQuery.Binding.Term
import RecordQuery.Proofs.Except
import RecordQuery.Proofs.Grammar.Position

/-!
# Positions do not matter

The positions of a term go into errors only. Where a term is bound, the same term at another place
is bound to the same expression.

## Main statements

* `Binding.term_erase`: a term and the term without its positions have the same expression, if any.
-/

namespace RecordQuery

theorem Except.toOption_bind {ε α β : Type} (x : Except ε α) (next : α → Except ε β) :
    (x >>= next).toOption = x.toOption.bind fun a => (next a).toOption := by
  cases x <;> rfl

namespace Binding

open Grammar (Segment Term)

variable {context : QueryContext} {limit : Bounds}

/-! ## Steps -/

theorem toOption_limitDepth (limit : Bounds) (e : Expr) (position : Nat) :
    (limitDepth limit e position).toOption = (limitDepth limit e 0).toOption := by
  unfold limitDepth
  cases limit with
  | none => rfl
  | some n =>
    dsimp only
    split <;> rfl

theorem toOption_constantOr (kind : LiteralKind) (text : List Char) (position : Nat)
    (value : Option Value) : (constantOr kind text position value).toOption = value := by
  cases value <;> rfl

theorem toOption_expectBoolean (e : Expr) (position : Nat) :
    (expectBoolean e position).toOption = (expectBoolean e 0).toOption := by
  unfold expectBoolean
  split <;> rfl

theorem toOption_coerce (e : Expr) (param : PrimitiveType) (position : Nat) :
    (coerce e param position).toOption = (coerce e param 0).toOption := by
  unfold coerce
  split
  · rfl
  · split
    · rfl
    · split <;> rfl
  · rfl

theorem toOption_unify (left right : Expr) (position : Nat) :
    (unify left right position).toOption = (unify left right 0).toOption := by
  unfold unify
  split
  case h_4 =>
    split
    · rfl
    · split <;> rfl
  all_goals rfl

theorem toOption_unary (op : UnaryOperator) (operand : Expr) (position : Nat) :
    (unary op operand position).toOption = (unary op operand 0).toOption := by
  cases op with
  | not =>
    unfold unary
    simp only [Except.toOption_bind, toOption_expectBoolean operand position]
  | negate =>
    unfold unary
    dsimp only
    split
    · split <;> rfl
    · rfl

theorem toOption_binary (op : BinaryOperator) (left right : Expr) (position : Nat) :
    (binary op left right position).toOption = (binary op left right 0).toOption := by
  unfold binary
  split
  · simp only [Except.toOption_bind, toOption_expectBoolean left position,
      toOption_expectBoolean right position]
  · simp only [Except.toOption_bind, toOption_unify left right position]
    refine Option.bind_congr fun fitted _ => ?_
    split
    · rfl
    · split
      · split <;> rfl
      · rfl

theorem toOption_itemType (source : Expr) (position : Nat) :
    (itemType source position).toOption = (itemType source 0).toOption := by
  unfold itemType
  split <;> rfl

theorem toOption_emptyQuantifier (q : Grammar.Quantifier) (source : Expr) (position : Nat) :
    (emptyQuantifier q source position).toOption = (emptyQuantifier q source 0).toOption := by
  cases q <;> rfl

theorem toOption_requireFresh (scope : Scope) (bound : String) (position : Nat) :
    (requireFresh scope bound position).toOption = (requireFresh scope bound 0).toOption := by
  unfold requireFresh
  split <;> rfl

theorem toOption_callee (function : List Char) (count position : Nat) :
    (callee function count position).toOption = (callee function count 0).toOption := by
  unfold callee
  dsimp only
  split
  · rfl
  · split
    · rfl
    · split <;> rfl

/-! ## Paths -/

theorem pathStart_erase (context : QueryContext) (scope : Scope) (first : Segment)
    (rest : List Segment) : pathStart context scope first.erase (rest.map Segment.erase) =
      ((pathStart context scope first rest).1,
        (pathStart context scope first rest).2.map Segment.erase) := by
  unfold pathStart
  cases first with
  | cast => rfl
  | member position name =>
    dsimp only [Segment.erase]
    split <;> rfl

theorem toOption_resolveCast (m : Model) (source target : String) (position : Nat) :
    (m.resolveCast source target position).toOption = (m.resolveCast source target 0).toOption := by
  unfold Model.resolveCast
  split
  · rfl
  · split <;> rfl

theorem toOption_addSegment (m : Model) {path path' : PathState} (same : path.expr = path'.expr)
    (segment : Segment) : (addSegment m path segment).toOption =
      (addSegment m path' segment.erase).toOption := by
  cases segment with
  | cast position type =>
    unfold addSegment Segment.erase
    rw [same]
    dsimp only
    split
    · rfl
    · rw [Except.toOption_bind, Except.toOption_bind, toOption_resolveCast]
  | member position name =>
    unfold addSegment Segment.erase
    rw [same]
    dsimp only
    split
    · rfl
    · split <;> rfl
    · rfl

/-- The expression of a path does not depend on positions, nor on the segments named in errors. -/
theorem toOption_addSegments (m : Model) (segments : List Segment) {path path' : PathState}
    (same : path.expr = path'.expr) :
    (addSegments m limit path segments).toOption.map PathState.expr =
      (addSegments m limit path' (segments.map Segment.erase)).toOption.map PathState.expr := by
  induction segments generalizing path path' with
  | nil => exact congrArg some same
  | cons segment rest ih =>
    rw [List.map_cons]
    unfold addSegments
    simp only [Except.toOption_bind, Option.map_bind, ← toOption_addSegment m same segment]
    refine Option.bind_congr fun e _ => ?_
    simp only [Function.comp_apply, Option.map_bind, toOption_limitDepth limit e segment.position,
      toOption_limitDepth limit e segment.erase.position]
    exact Option.bind_congr fun bounded _ => ih rfl

theorem toOption_path (scope : Scope) (first : Segment) (rest : List Segment) :
    (path context limit scope first rest).toOption.map PathState.expr =
      (path context limit scope first.erase (rest.map Segment.erase)).toOption.map
        PathState.expr := by
  unfold path
  rw [pathStart_erase]
  exact toOption_addSegments _ _ rfl

/-- A step that follows a path and uses its expression only. -/
theorem toOption_path_bind {α : Type} {next next' : PathState → Result α} {scope : Scope}
    {first : Segment} {rest : List Segment}
    (same : ∀ source source', source.expr = source'.expr →
      (next source).toOption = (next' source').toOption) :
    (path context limit scope first rest >>= next).toOption =
      (path context limit scope first.erase (rest.map Segment.erase) >>= next').toOption := by
  have paths : (path context limit scope first rest).toOption.map PathState.expr =
      (path context limit scope first.erase (rest.map Segment.erase)).toOption.map
        PathState.expr := toOption_path scope first rest
  rw [Except.toOption_bind, Except.toOption_bind]
  cases found : (path context limit scope first rest).toOption with
  | none =>
    rw [found] at paths
    rw [Option.map_eq_none_iff.1 paths.symm]
    rfl
  | some source =>
    rw [found] at paths
    obtain ⟨source', found', eq⟩ := Option.map_eq_some_iff.1 paths.symm
    rw [found']
    exact same source source' eq.symm

/-! ## Terms -/

mutual

/-- A term is bound like the same term at another place. -/
theorem term_erase (scope : Scope) (t : Term) :
    (term context limit scope t).toOption = (term context limit scope t.erase).toOption := by
  cases t with
  | null | bool | string => rfl
  | guid | dateTime | number =>
    unfold Term.erase term
    simp only [Except.toOption_bind, toOption_constantOr]
  | path =>
    unfold Term.erase term
    refine toOption_path_bind fun source source' same => ?_
    unfold requireSingle
    rw [same]
    split <;> rfl
  | quantified _ _ q position =>
    unfold Term.erase term
    refine toOption_path_bind fun source source' same => ?_
    simp only [Except.toOption_bind, same, toOption_itemType _ position,
      toOption_emptyQuantifier _ _ position, toOption_limitDepth _ _ position]
  | lambda _ _ q position boundAt bound body =>
    unfold Term.erase term
    refine toOption_path_bind fun source source' same => ?_
    simp only [Except.toOption_bind, same, toOption_itemType _ position,
      toOption_requireFresh _ _ boundAt, toOption_limitDepth _ _ position,
      term_erase _ body, toOption_expectBoolean _ body.start,
      toOption_expectBoolean _ body.erase.start]
  | call start function args =>
    unfold Term.erase term
    have length : (Term.eraseAll args).length = args.length := by
      rw [Term.eraseAll_eq_map, List.length_map]
    simp only [Except.toOption_bind, length, toOption_callee _ _ start,
      arguments_erase scope args, toOption_limitDepth _ _ start]
  | unary position _ operand =>
    unfold Term.erase term
    simp only [Except.toOption_bind, term_erase scope operand, toOption_unary _ _ position,
      toOption_limitDepth _ _ position]
  | binary position _ left right =>
    unfold Term.erase term
    simp only [Except.toOption_bind, term_erase scope left, term_erase scope right,
      toOption_binary _ _ _ position, toOption_limitDepth _ _ position]
  | group _ inner =>
    unfold Term.erase term
    exact term_erase scope inner

theorem arguments_erase (scope : Scope) (args : List Term) (params : List PrimitiveType) :
    (arguments context limit scope args params).toOption =
      (arguments context limit scope (Term.eraseAll args) params).toOption := by
  cases args with
  | nil => rfl
  | cons arg args =>
    cases params with
    | nil => rfl
    | cons param params =>
      unfold Term.eraseAll arguments
      simp only [Except.toOption_bind, term_erase scope arg, arguments_erase scope args params,
        toOption_coerce _ _ arg.start, toOption_coerce _ _ arg.erase.start]

end

/-- Terms that differ in their positions only have the same expression. -/
theorem term_eq_ok_of_erase {scope : Scope} {t t' : Term} {e : Expr}
    (same : t.erase = t'.erase) (h : term context limit scope t = .ok e) :
    term context limit scope t' = .ok e := by
  rw [← Except.toOption_eq_some] at h ⊢
  rw [term_erase, ← same, ← term_erase, h]

end Binding

end RecordQuery
