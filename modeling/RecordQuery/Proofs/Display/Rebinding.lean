import RecordQuery.Proofs.Binding.Positions
import RecordQuery.Proofs.Display.Constants
import RecordQuery.Proofs.Display.Lexical

/-!
# Binding what is displayed

An expression that some term is bound to is displayed as a term that is bound to it again, if the
expression is legible. The operands of the two terms have the same expressions before they are
fitted, so they are fitted in the same way: conversions and the types of nulls need no text.

## Main statements

* `Binding.path_shown`: the path that an expression is displayed as has the same expression.
* `Binding.Binds.shown`: so has the term that any expression is displayed as.
-/

namespace RecordQuery

open Binding (Scope)
open Grammar (Segment Term)

theorem Except.eq_ok_of_toOption {ε α : Type} {x y : Except ε α} {a : α}
    (same : x.toOption = y.toOption) (h : x = .ok a) : y = .ok a := by
  rw [← Except.toOption_eq_some] at h ⊢
  exact same.symm.trans h

namespace Binding

open RecordQuery.Expr (Fitted Throughout)

variable {context : QueryContext} {limit : Bounds} {scope : Scope} {m : Model}

/-! ## Paths -/

/-- Whatever holds throughout a path holds throughout the part that it starts with. -/
theorem throughout_of_addSegments {P : Scope → Expr → Prop} (segments : List Segment)
    {path result : PathState} (h : addSegments m limit path segments = .ok result)
    (all : result.expr.Throughout P scope) : path.expr.Throughout P scope := by
  induction segments generalizing path with
  | nil =>
    cases h
    exact all
  | cons segment rest ih =>
    obtain ⟨next, step, h⟩ := addSegments_cons h
    have below := ih h
    obtain ⟨_, _, same, -⟩ | ⟨_, _, same, -⟩ := addSegment_cases step <;> rw [same] at below
    · exact (Expr.throughout_property.1 below).2
    · exact (Expr.throughout_cast.1 below).2

/-- One segment is displayed behind the segments of its path, unless that is the element. -/
theorem route_of_addSegment {path : PathState} {segment : Segment} {e : Expr}
    (h : addSegment m path segment = .ok e) : e.isElementVariable = false ∧
      e.route = if path.expr.isElementVariable then (segment.erase, [])
        else (path.expr.route.1, path.expr.route.2 ++ [segment.erase]) := by
  obtain ⟨_, _, rfl, same⟩ | ⟨_, _, rfl, same⟩ := addSegment_cases h <;>
    exact ⟨rfl, by rw [Expr.route, same]⟩

theorem route_of_addSegments (segments : List Segment) {path result : PathState}
    (h : addSegments m limit path segments = .ok result)
    (named : path.expr.isElementVariable = false) : result.expr.route =
      (path.expr.route.1, path.expr.route.2 ++ segments.map Segment.erase) := by
  induction segments generalizing path with
  | nil =>
    cases h
    rw [List.map_nil, List.append_nil]
  | cons segment rest ih =>
    obtain ⟨next, step, h⟩ := addSegments_cons h
    obtain ⟨next_named, route⟩ := route_of_addSegment step
    rw [named, if_neg Bool.false_ne_true] at route
    rw [ih h next_named, route, List.map_cons, List.append_assoc, List.singleton_append]

/-- The element is left out in front of the segments of a path. -/
theorem route_of_addSegments_element {segment : Segment} {rest : List Segment}
    {path result : PathState} (h : addSegments m limit path (segment :: rest) = .ok result)
    (element : path.expr.isElementVariable = true) :
    result.expr.route = (segment.erase, rest.map Segment.erase) := by
  obtain ⟨next, step, h⟩ := addSegments_cons h
  obtain ⟨next_named, route⟩ := route_of_addSegment step
  rw [element, if_pos rfl] at route
  rw [route_of_addSegments rest h next_named, route, List.nil_append]

/-- The path that an expression is displayed as starts where the path of the expression started. -/
theorem pathStart_route (grounded : scope.HasElement context) {first : Segment}
    {rest : List Segment} {result : PathState}
    (h : addSegments m limit ⟨(pathStart context scope first rest).1, [], 0⟩
      (pathStart context scope first rest).2 = .ok result)
    (legible : result.expr.Throughout Expr.IsLegible scope) :
    pathStart context scope result.expr.route.1 result.expr.route.2 =
      ((pathStart context scope first rest).1,
        (pathStart context scope first rest).2.map Segment.erase) := by
  obtain ⟨t, name, bound, same, start⟩ | start := pathStart_cases context scope first rest
  · rw [start] at h ⊢
    dsimp only at h ⊢
    have stays : ∀ segments, pathStart context scope (.member 0 name.toList) segments =
        (.range t name, segments) := by
      intro segments
      simp [pathStart, bound]
    by_cases named : (Expr.range t name).isElementVariable = true
    · cases rest with
      | nil =>
        cases h
        exact stays []
      | cons segment rest =>
        rw [route_of_addSegments_element h named]
        have element : name = elementName := eq_of_beq named
        subst element
        have type : t = .structured context.element.name :=
          Option.some.inj (bound.symm.trans grounded)
        subst type
        obtain ⟨next, step, onward⟩ := addSegments_cons h
        have below := throughout_of_addSegments rest onward legible
        obtain ⟨_, p, property, shown⟩ | ⟨_, _, -, shown⟩ := addSegment_cases step <;>
          rw [List.map_cons, shown]
        · rw [property] at below
          have fresh := ((Expr.throughout_property.1 below).1 rfl).2
          simp [pathStart, Scope.fresh_iff.1 fresh, Expr.element]
        · rfl
    · rw [route_of_addSegments rest h (Bool.eq_false_iff.2 named)]
      exact stays _
  · rw [start] at h ⊢
    rw [route_of_addSegments_element h rfl, pathStart_erase, start]

/-- The path that an expression is displayed as has the same expression. -/
theorem path_shown (grounded : scope.HasElement context) {first : Segment} {rest : List Segment}
    {result : PathState} (h : path context limit scope first rest = .ok result)
    (legible : result.expr.Throughout Expr.IsLegible scope) :
    ∃ again : PathState, again.expr = result.expr ∧
      path context limit scope result.expr.route.1 result.expr.route.2 = .ok again := by
  have walked : addSegments context.model limit ⟨(pathStart context scope first rest).1, [], 0⟩
      (pathStart context scope first rest).2 = .ok result := h
  have paths : (addSegments context.model limit ⟨(pathStart context scope first rest).1, [], 0⟩
        (pathStart context scope first rest).2).toOption.map PathState.expr =
      (addSegments context.model limit ⟨(pathStart context scope first rest).1, [], 0⟩
        ((pathStart context scope first rest).2.map Segment.erase)).toOption.map PathState.expr :=
    toOption_addSegments _ _ rfl
  rw [walked] at paths
  obtain ⟨again, found, same⟩ := Option.map_eq_some_iff.1 paths.symm
  refine ⟨again, same, ?_⟩
  unfold path
  rw [pathStart_route grounded walked legible]
  exact Except.toOption_eq_some.1 found

/-! ## Terms -/

theorem callee_text {function : List Char} {count position : Nat} {f : Builtin} {s : Signature}
    (h : callee function count position = .ok (f, s)) :
    callee f.text.toList count 0 = .ok (f, s) := by
  obtain ⟨signature, arity⟩ := callee_spec h
  have named : Builtin.ofText? f.text = some f := by cases f <;> decide
  unfold callee
  dsimp only
  rw [String.ofList_toList, named]
  dsimp only
  rw [signature]
  exact if_pos arity

theorem requireFresh_of_fresh {name : String} (fresh : scope.Fresh name) (position : Nat) :
    requireFresh scope name position = .ok () := by
  unfold requireFresh
  rw [Scope.fresh_iff.1 fresh]
  rfl

theorem shown_anyItem (t : TypeRef) (source : Expr) : (Expr.any t source none none).shown =
    .quantified source.route.1 source.route.2 .any 0 := by
  rw [Expr.shown, Grammar.quantifiedPath]
  intro _ _ named
  cases named

theorem shown_quantify (q : Grammar.Quantifier) (source body : Expr) (bound : String) :
    (quantify q source bound body).shown =
      .lambda source.route.1 source.route.2 q 0 0 bound.toList body.shown := by
  cases q <;> rw [quantify, Expr.shown, Grammar.quantifiedPath]

/-- A constant is bound to itself again. -/
theorem ofValue_shown {v : Value} (h : v.IsLiteral) :
    term context limit scope (Expr.ofValue v).shown = .ok (.ofValue v) := by
  rw [show (Expr.ofValue v).shown = v.shown by rw [Expr.ofValue, Expr.shown]]
  exact h.bound

theorem arguments_shown {args : List Term} {params : List PrimitiveType} {es : List Expr}
    (h : arguments context limit scope args params = .ok es)
    (legible : ∀ e ∈ es, e.Throughout Expr.IsLegible scope)
    (again : ∀ arg ∈ args, ∀ e, term context limit scope arg = .ok e →
      e.Throughout Expr.IsLegible scope → term context limit scope e.shown = .ok e) :
    arguments context limit scope (Expr.shownAll es) params = .ok es := by
  induction args generalizing params es with
  | nil =>
    cases h
    rfl
  | cons arg args ih =>
    cases params with
    | nil =>
      cases h
      rfl
    | cons param params =>
      obtain ⟨e, fitted, more, rfl, bound, fits, others⟩ := arguments_cases h
      obtain ⟨first, rest⟩ := List.forall_mem_cons.1 legible
      obtain ⟨first_again, rest_again⟩ := List.forall_mem_cons.1 again
      have is_fitted := coerce_fitted fits
      have bound_again := first_again e bound (is_fitted.legible.1 first)
      have fitted_again := Except.eq_ok_of_toOption
        ((toOption_coerce e param _).trans (toOption_coerce e param e.shown.start).symm) fits
      rw [Expr.shownAll, is_fitted.shown, arguments, bound_again, Except.ok_bind, fitted_again,
        Except.ok_bind, ih others rest rest_again]
      rfl

/-- The term that a legible expression is displayed as is bound to the expression. -/
theorem Binds.shown {t : Term} {e : Expr} (h : Binds context limit scope t e)
    (grounded : scope.HasElement context) (legible : e.Throughout Expr.IsLegible scope) :
    term context limit scope e.shown = .ok e := by
  induction h with
  | null | bool | string | guid => exact ofValue_shown True.intro
  | dateTime => exact ofValue_shown (Expr.throughout_constant.1 legible)
  | number value =>
    obtain ⟨p, kind, long⟩ := primitiveType?_of_numberValue? value
    exact ofValue_shown
      (Value.isLiteral_of_isLegible kind long (Expr.throughout_constant.1 legible))
  | path spine single =>
    obtain ⟨again, same, hp⟩ := path_shown grounded spine legible
    rw [Expr.shown_of_isPath (path_isPath spine), term, hp, Except.ok_bind, requireSingle, same]
    exact if_neg single
  | @anyItem _ _ _ position source _ spine items admitted =>
    obtain ⟨again, same, hp⟩ := path_shown grounded spine (Expr.throughout_anyItem.1 legible).2
    have items_again := Except.eq_ok_of_toOption (toOption_itemType source.expr position) items
    rw [shown_anyItem, term, hp, Except.ok_bind, same, items_again]
    exact Except.eq_ok_of_toOption (toOption_limitDepth limit _ position) admitted
  | @lambda _ _ _ q position _ bound _ source _ inner fitted spine items fresh _ fits admitted ih =>
    obtain ⟨-, source_legible, body_legible⟩ := (Expr.throughout_quantify (itemType_eq items)).1 legible
    have is_fitted : Fitted inner fitted := (expectBoolean_cases fits).fitted
    obtain ⟨again, same, hp⟩ := path_shown grounded spine source_legible
    have bound_again := ih (grounded.cons fresh) (is_fitted.legible.1 body_legible)
    have items_again := Except.eq_ok_of_toOption (toOption_itemType source.expr position) items
    have fitted_again := Except.eq_ok_of_toOption
      ((toOption_expectBoolean inner _).trans (toOption_expectBoolean inner inner.shown.start).symm)
      fits
    rw [shown_quantify, String.toList_ofList, is_fitted.shown, term, hp, Except.ok_bind, same,
      items_again, Except.ok_bind]
    dsimp only
    rw [requireFresh_of_fresh fresh, Except.ok_bind, bound_again, Except.ok_bind, fitted_again]
    exact Except.eq_ok_of_toOption (toOption_limitDepth limit _ position) admitted
  | @call _ position _ args _ s es found fitted _ admitted ih =>
    have arguments_again := arguments_shown fitted (Expr.throughout_call.1 legible).2
      fun arg mem e bound => ih arg mem e bound grounded
    have length : (Expr.shownAll es).length = args.length := by
      rw [Expr.shownAll_eq_map, List.length_map, length_of_arguments fitted (le_of_callee found)]
    rw [Expr.shown, term, length, callee_text found, Except.ok_bind]
    dsimp only
    rw [arguments_again]
    exact Except.eq_ok_of_toOption (toOption_limitDepth limit _ position) admitted
  | @unary _ position op _ operand _ _ made admitted ih =>
    obtain ⟨t, t', rfl⟩ := unary_retyped made
    have is_fitted : Fitted operand (operand.withType t') := .inl ⟨t', rfl⟩
    have bound_again := ih grounded (is_fitted.legible.1 (Expr.throughout_unary.1 legible).2)
    have made_again := Except.eq_ok_of_toOption (toOption_unary op operand position) made
    rw [Expr.shown, is_fitted.shown, term, bound_again, Except.ok_bind, made_again]
    exact Except.eq_ok_of_toOption (toOption_limitDepth limit _ position) admitted
  | @binary _ position op _ _ left right _ _ _ made admitted ihl ihr =>
    obtain ⟨t, l, r, rfl, fitted_left, fitted_right⟩ := binary_fitted made
    obtain ⟨-, left_legible, right_legible⟩ := Expr.throughout_binary.1 legible
    have left_again := ihl grounded (fitted_left.legible.1 left_legible)
    have right_again := ihr grounded (fitted_right.legible.1 right_legible)
    have made_again := Except.eq_ok_of_toOption (toOption_binary op left right position) made
    rw [Expr.shown, fitted_left.shown, fitted_right.shown, term, term, left_again, Except.ok_bind,
      right_again, Except.ok_bind, made_again]
    exact Except.eq_ok_of_toOption (toOption_limitDepth limit _ position) admitted
  | group _ ih => exact ih grounded legible

end Binding

end RecordQuery
