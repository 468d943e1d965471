import RecordQuery.Parse
import RecordQuery.Proofs.Binding.Path
import RecordQuery.Proofs.Schema.Build

/-!
# Binding gives well-typed expressions

Whatever binding makes of a term obeys the typing rules in the scope of the term. The invariant of
the scope is that the element of the query is in it with its own type: a range variable is only
added under a name that is not in scope, so nothing ever hides the element.

## Main statements

* `Binding.Binds.wellTyped`: bound terms are well typed.
* `parseFilter_wellTyped`: accepted filters are well-typed truth values.
* `parseOrderBy_wellTyped`: so are the terms of accepted clauses, of any type.
-/

namespace RecordQuery

namespace Binding

open Grammar (Segment Term)

variable {context : QueryContext} {limit : Bounds} {scope : Scope}

/-! ## Scopes -/

/-- Whether the element of the query is in scope with its own type. -/
def Scope.HasElement (context : QueryContext) (scope : Scope) : Prop :=
  scope.lookup elementName = some (.structured context.element.name)

theorem Scope.hasElement_top (context : QueryContext) : (Scope.top context).HasElement context := by
  simp [HasElement, top]

/-- A new name does not hide the element. -/
theorem Scope.HasElement.cons {name : String} {type : TypeRef} (h : scope.HasElement context)
    (fresh : scope.Fresh name) : Scope.HasElement context ((name, type) :: scope) := by
  have ne : elementName ≠ name := by
    rintro rfl
    rw [Scope.fresh_iff, h] at fresh
    cases fresh
  rw [HasElement, List.lookup_cons, beq_false_of_ne ne]
  exact h

/-! ## Paths -/

theorem addSegment_wellTyped {path : PathState} {segment : Segment} {e : Expr}
    (typed : WellTyped context scope path.expr)
    (h : addSegment context.model path segment = .ok e) : WellTyped context scope e := by
  unfold addSegment at h
  split at h
  case h_1 position target =>
    split at h
    case h_1 => cases h
    case h_2 owner structured =>
      obtain ⟨t, ht, h⟩ := Except.bind_eq_ok.1 h
      cases h
      obtain ⟨name, declared, related⟩ := Model.resolveCast_spec ht
      rw [name]
      obtain type | type := TypeRef.structuredName?_eq_some_iff.1 structured
      · rw [type]
        exact .cast typed type declared related
      · rw [type]
        exact .castItems typed type declared related
  case h_2 position name =>
    split at h
    case h_1 => cases h
    case h_2 owner single =>
      split at h
      case h_1 p resolved =>
        cases h
        rw [← (Model.resolveProperty?_spec resolved).1] at resolved
        exact .property typed single resolved (.same _)
      case h_2 => cases h
    case h_3 => cases h

theorem addSegments_wellTyped (segments : List Segment) {path result : PathState}
    (typed : WellTyped context scope path.expr)
    (h : addSegments context.model limit path segments = .ok result) :
    WellTyped context scope result.expr := by
  induction segments generalizing path with
  | nil =>
    cases h
    exact typed
  | cons segment rest ih =>
    obtain ⟨next, step, h⟩ := addSegments_cons h
    exact ih (addSegment_wellTyped typed step) h

theorem pathStart_wellTyped (grounded : scope.HasElement context) (first : Segment)
    (rest : List Segment) : WellTyped context scope (pathStart context scope first rest).1 := by
  have element : WellTyped context scope (.element (.structured context.element.name)) :=
    .range grounded (.same _)
  unfold pathStart
  dsimp only
  split
  · split
    · exact .range ‹_› (.same _)
    · exact element
  · exact element

theorem path_wellTyped {first : Segment} {rest : List Segment} {result : PathState}
    (grounded : scope.HasElement context) (h : path context limit scope first rest = .ok result) :
    WellTyped context scope result.expr :=
  addSegments_wellTyped _ (pathStart_wellTyped grounded first rest) h

/-! ## Terms -/

theorem ofValue_wellTyped {v : Value} {p : PrimitiveType} (kind : v.primitiveType? = some p) :
    WellTyped context scope (.ofValue v) := by
  simpa [Expr.ofValue, kind] using WellTyped.constant kind

theorem quantify_wellTyped (q : Grammar.Quantifier) {source body : Expr} {item : TypeRef}
    {bound : String} (typed : WellTyped context scope source)
    (collection : source.type = .collection item) (fresh : scope.Fresh bound)
    (body_typed : WellTyped context ((bound, item) :: scope) body)
    (boolean : body.type = .boolean) : WellTyped context scope (quantify q source bound body) := by
  cases q with
  | any => exact .any typed collection fresh body_typed boolean
  | all => exact .all typed collection fresh body_typed boolean

theorem arguments_wellTyped {args : List Term} (params : List PrimitiveType) {es : List Expr}
    (h : arguments context limit scope args params = .ok es)
    (typed : ∀ arg ∈ args, ∀ e, term context limit scope arg = .ok e → WellTyped context scope e) :
    (∀ e ∈ es, WellTyped context scope e) ∧
      es.map Expr.type = (params.take es.length).map .primitive := by
  induction args generalizing params es with
  | nil =>
    cases h
    simp
  | cons arg args ih =>
    cases params with
    | nil =>
      cases h
      simp
    | cons param params =>
      obtain ⟨e, fitted, more, rfl, bound, fits, others⟩ := arguments_cases h
      obtain ⟨first, rest⟩ := List.forall_mem_cons.1 typed
      obtain ⟨first_typed, first_type⟩ := coerce_wellTyped (first e bound) fits
      obtain ⟨rest_typed, types⟩ := ih params others rest
      refine ⟨List.forall_mem_cons.2 ⟨first_typed, rest_typed⟩, ?_⟩
      simp [first_type, types]

/-- A bound term is well typed in the scope of the term. -/
theorem Binds.wellTyped {t : Term} {e : Expr} (h : Binds context limit scope t e)
    (grounded : scope.HasElement context) : WellTyped context scope e := by
  induction h with
  | null => exact .null (.same _)
  | bool | string | guid | dateTime => exact ofValue_wellTyped rfl
  | number value =>
    obtain ⟨p, kind, -⟩ := primitiveType?_of_numberValue? value
    exact ofValue_wellTyped kind
  | path spine => exact path_wellTyped grounded spine
  | anyItem spine items => exact .anyItem (path_wellTyped grounded spine) (itemType_eq items)
  | lambda spine items fresh _ fits _ ih =>
    obtain ⟨body_typed, boolean⟩ := expectBoolean_wellTyped (ih (grounded.cons fresh)) fits
    exact quantify_wellTyped _ (path_wellTyped grounded spine) (itemType_eq items) fresh body_typed
      boolean
  | call found fitted _ _ ih =>
    obtain ⟨signature, arity⟩ := callee_spec found
    obtain ⟨typed, types⟩ := arguments_wellTyped _ fitted fun arg mem e bound =>
      ih arg mem e bound grounded
    exact .call signature (length_of_arguments fitted (le_of_callee found) ▸ arity) typed types
  | unary _ made _ ih => exact unary_wellTyped (ih grounded) made
  | binary _ _ made _ ihl ihr => exact binary_wellTyped (ihl grounded) (ihr grounded) made
  | group _ ih => exact ih grounded

end Binding

/-! ## Accepted texts -/

open Binding (Scope)

variable {context : QueryContext} {limit : Binding.Bounds}

/-- An accepted filter is what some term is bound to. -/
theorem exists_term_of_parseFilterWithin {text : String} {e : Expr}
    (h : parseFilterWithin limit text context = .ok e) :
    e.type = .boolean ∧ ∃ t, Binding.term context limit (.top context) t = .ok e := by
  obtain ⟨t, _, h⟩ := Except.bind_eq_ok.1 h
  obtain ⟨e', bound, h⟩ := Except.bind_eq_ok.1 h
  split at h
  case isTrue boolean =>
    cases h
    exact ⟨eq_of_beq boolean, t, bound⟩
  case isFalse => cases h

theorem exists_term_of_bindOrderTerms (ts : List Grammar.OrderTerm) {terms : List OrderByTerm}
    (h : bindOrderTerms limit context ts = .ok terms) :
    ∀ term ∈ terms, ∃ t, Binding.term context limit (.top context) t = .ok term.expr := by
  induction ts generalizing terms with
  | nil =>
    cases h
    simp
  | cons t rest ih =>
    obtain ⟨e, bound, h⟩ := Except.bind_eq_ok.1 h
    obtain ⟨more, hm, h⟩ := Except.bind_eq_ok.1 h
    cases h
    exact List.forall_mem_cons.2 ⟨⟨t.term, bound⟩, ih hm⟩

/-- So is each term of an accepted clause. -/
theorem exists_term_of_parseOrderBy {text : String} {clause : OrderByClause}
    (h : parseOrderBy text context = .ok clause) : ∀ term ∈ clause.terms,
      ∃ t, Binding.term context (some maxDepth) (.top context) t = .ok term.expr := by
  obtain ⟨ts, _, h⟩ := Except.bind_eq_ok.1 h
  obtain ⟨terms, bound, h⟩ := Except.bind_eq_ok.1 h
  cases h
  exact exists_term_of_bindOrderTerms ts bound

theorem parseFilterWithin_wellTyped {text : String} {e : Expr}
    (h : parseFilterWithin limit text context = .ok e) :
    e.type = .boolean ∧ WellTyped context (.top context) e := by
  obtain ⟨boolean, t, bound⟩ := exists_term_of_parseFilterWithin h
  exact ⟨boolean, (Binding.term_binds _ t bound).wellTyped (Scope.hasElement_top context)⟩

/-- The terms of an accepted clause are well typed. -/
theorem parseOrderBy_wellTyped {text : String} {clause : OrderByClause}
    (h : parseOrderBy text context = .ok clause) :
    ∀ term ∈ clause.terms, WellTyped context (.top context) term.expr := by
  intro term mem
  obtain ⟨t, bound⟩ := exists_term_of_parseOrderBy h term mem
  exact (Binding.term_binds _ t bound).wellTyped (Scope.hasElement_top context)

/-- An accepted filter is a well-typed truth value. -/
theorem parseFilter_wellTyped {text : String} {e : Expr} (h : parseFilter text context = .ok e) :
    e.type = .boolean ∧ WellTyped context (.top context) e :=
  parseFilterWithin_wellTyped h

/-- Orders with a total and lines, each of a quantity and a note. -/
def orderTypes : List TypeDeclaration :=
  [⟨"Line", .complex, none, [("Quantity", .primitive .int32), ("Note", .primitive .string)]⟩,
    ⟨"Order", .entity, none,
      [("Total", .primitive .double), ("Lines", .collection (.structured "Line"))]⟩]

/-- Queries about orders. -/
def orderContext : QueryContext where
  model := ⟨orderTypes.map TypeDeclaration.toType⟩
  element := ⟨"Order", .entity, none,
    [⟨"Order", "Total", .primitive .double⟩, ⟨"Order", "Lines", .collection (.structured "Line")⟩]⟩

/-- A conversion, an untyped null and a quantifier. -/
theorem parseFilter_wellTyped_lines : ∃ e,
    parseFilter "Lines/any(l: l/Quantity gt 2L and l/Note ne null) or Total lt 5" orderContext
      = .ok e ∧ e.type = .boolean ∧ WellTyped orderContext (.top orderContext) e := by
  have accepted : (parseFilter "Lines/any(l: l/Quantity gt 2L and l/Note ne null) or Total lt 5"
    orderContext).isOk := by decide +kernel
  obtain ⟨e, h⟩ := Except.isOk_iff.1 accepted
  exact ⟨e, h, parseFilter_wellTyped h⟩

end RecordQuery
