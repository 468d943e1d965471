import RecordQuery.Proofs.Evaluate.Reads
import RecordQuery.Proofs.Typing.Binding
import RecordQuery.Proofs.Typing.Occurrence

/-!
# Evaluation preserves types

A well-typed expression evaluates to null or a value of its type, for every record that holds what
the model declares. The invariant of the evaluation is that every range variable in scope, but for
the element, is bound to an item that fits its type and conforms to the model: items are reached
through properties, whose values were checked as a whole.

## Main definitions

* `Environment`: whether bindings give the range variables of a scope items of their types.

## Main statements

* `WellTyped.value_spec`: well-typed expressions evaluate to what their types say.
* `Accepted.value_types`: so do all nodes of accepted filters and terms to order by, and none of
  their conversions and range variables is without a value.
-/

namespace RecordQuery

open Binding (Scope)
open Evaluate (Bindings value)

/-! ## Environments -/

/-- `Environment context scope bindings`: the bindings give the range variable of every enclosing
quantifier an item of its type. The element is not bound; it is the record itself. -/
inductive Environment (context : QueryContext) : Scope → Bindings → Prop
  | top : Environment context (.top context) []
  | item {scope : Scope} {bindings : Bindings} {name : String} {type : TypeRef} {v : Value}
      (outer : Environment context scope bindings) (fits : v.Fits type)
      (conforms : v.Conforms context.model) :
      Environment context ((name, type) :: scope) ((name, v) :: bindings)

variable {context : QueryContext} {scope : Scope} {bindings : Bindings} {r : Record}

/-- A name in scope is bound to an item of its type, or else it is the element. -/
theorem Environment.lookup {name : String} {type : TypeRef}
    (h : Environment context scope bindings) (found : scope.lookup name = some type) :
    (∃ v, bindings.lookup name = some v ∧ v.Fits type ∧ v.Conforms context.model) ∨
      (name = elementName ∧ bindings.lookup name = none) := by
  induction h with
  | top =>
    right
    unfold Scope.top at found
    rw [List.lookup_cons] at found
    split at found
    · exact ⟨eq_of_beq ‹_›, rfl⟩
    · cases found
  | @item scope bindings bound _ v outer fits conforms ih =>
    by_cases same : name = bound
    · subst same
      rw [List.lookup_cons_self] at found ⊢
      cases found
      exact .inl ⟨v, rfl, fits, conforms⟩
    · rw [List.lookup_cons, beq_false_of_ne same] at found ⊢
      exact ih found

/-- Bindings of an environment have values of their types. -/
theorem Environment.fit (h : Environment context scope bindings) : bindings.Fit scope := by
  induction h with
  | top => exact Bindings.fit_nil _
  | item _ fits _ ih => exact ih.cons fits

/-! ## Nodes -/

/-- A property is read from the record, is null, or is a member of the value of its source. -/
theorem Evaluate.readProperty_spec {p : Property} {passed : Option Bool} {source : Value}
    (declared : context.model.Declares p) (holds : r.Conforms context.model)
    (conforms : source.Conforms context.model) :
    (readProperty r passed source p.name).Fits p.type ∧
      (readProperty r passed source p.name).Conforms context.model := by
  unfold readProperty
  split
  · exact ⟨holds.read_fits declared, holds.read_conforms p.name⟩
  · exact ⟨Value.null_fits _, Value.null_conforms⟩
  · cases found : source.member? p.name with
    | none => exact ⟨Value.null_fits _, Value.null_conforms⟩
    | some v => exact ⟨conforms source (.self source) p v declared found, conforms.member found⟩

/-- What is read is of its declared type if it is at all nodes below, and at the node itself. -/
theorem Expr.readsAsDeclared_of_steps {m : Model} {e : Expr}
    (below : ∀ step ∈ Evaluate.steps r m bindings e, step.2.ReadsAsDeclared r m step.1)
    (here : ∀ p, e.accessed? = some p → (value r m bindings e).Fits p.type) :
    e.ReadsAsDeclared r m bindings := by
  intro inner type source p reached
  cases reached with
  | self => exact here p rfl
  | step mem rest => exact below _ mem inner type source p rest

/-- A node that is no access reads nothing itself. -/
theorem Expr.readsAsDeclared_of_plain {m : Model} {e : Expr} (plain : e.accessed? = none)
    (below : ∀ step ∈ Evaluate.steps r m bindings e, step.2.ReadsAsDeclared r m step.1) :
    e.ReadsAsDeclared r m bindings :=
  Expr.readsAsDeclared_of_steps below fun _ access => by cases plain.symm.trans access

namespace WellTyped

variable {e : Expr}

/-- A value of a primitive type has no members that could be of a wrong type. -/
theorem reads_conform_of_steps {p : PrimitiveType} (typed : WellTyped context scope e)
    (environment : Environment context scope bindings) (scalar : e.type = .primitive p)
    (plain : e.accessed? = none)
    (below : ∀ step ∈ Evaluate.steps r context.model bindings e,
      step.2.ReadsAsDeclared r context.model step.1) :
    e.ReadsAsDeclared r context.model bindings ∧
      (value r context.model bindings e).Conforms context.model := by
  have reads : e.ReadsAsDeclared r context.model bindings :=
    Expr.readsAsDeclared_of_plain plain below
  have fits := typed.value_fits environment.fit reads
  rw [scalar] at fits
  exact ⟨reads, fits.conforms⟩

/-- The range variable of a quantifier is bound to items of its type. -/
theorem item_environment {item : TypeRef} {bound : String} {v : Value}
    (typed : WellTyped context scope e) (environment : Environment context scope bindings)
    (collection : e.type = .collection item) (reads : e.ReadsAsDeclared r context.model bindings)
    (conforms : (value r context.model bindings e).Conforms context.model)
    (mem : v ∈ (value r context.model bindings e).items) :
    Environment context ((bound, item) :: scope) ((bound, v) :: bindings) := by
  have fits := typed.value_fits environment.fit reads
  rw [collection] at fits
  exact environment.item (fits.item mem) (conforms.item mem)

/-- If a record conforms, the evaluation of a well-typed expression reads values of the declared types
only, and comes to a value that conforms. -/
theorem reads_conform (typed : WellTyped context scope e)
    (environment : Environment context scope bindings) (holds : r.Conforms context.model) :
    e.ReadsAsDeclared r context.model bindings ∧
      (value r context.model bindings e).Conforms context.model := by
  induction typed generalizing bindings with
  | constant kind =>
    exact ⟨Expr.readsAsDeclared_of_plain rfl (List.forall_mem_nil _), Value.conforms_of_kind kind⟩
  | null =>
    exact ⟨Expr.readsAsDeclared_of_plain rfl (List.forall_mem_nil _), Value.null_conforms⟩
  | @range scope name declared t bound adopts =>
    refine ⟨Expr.readsAsDeclared_of_plain rfl (List.forall_mem_nil _), ?_⟩
    unfold value
    obtain ⟨v, found, -, conforms⟩ | ⟨-, found⟩ := environment.lookup bound
    · rwa [found]
    · rw [found]
      exact Value.null_conforms
  | property _ _ resolved adopts ih =>
    have declared := (Model.resolveProperty?_spec resolved).2
    obtain ⟨reads, conforms⟩ := ih environment
    obtain ⟨fits, conforms⟩ := Evaluate.readProperty_spec declared holds conforms
    refine ⟨Expr.readsAsDeclared_of_steps (List.forall_mem_singleton.2 reads) ?_, conforms⟩
    rintro _ ⟨⟩
    exact fits
  | cast _ _ _ _ ih | castItems _ _ _ _ ih =>
    obtain ⟨reads, conforms⟩ := ih environment
    refine ⟨Expr.readsAsDeclared_of_plain rfl (List.forall_mem_singleton.2 reads), ?_⟩
    unfold value
    split
    · exact Value.null_conforms
    · exact conforms
  | connective connects left right left_boolean right_boolean ihl ihr =>
    exact reads_conform_of_steps (.connective connects left right left_boolean right_boolean)
      environment rfl rfl (List.forall_mem_cons.2
        ⟨(ihl environment).1, List.forall_mem_singleton.2 (ihr environment).1⟩)
  | comparison compares left right same scalar ihl ihr =>
    exact reads_conform_of_steps (.comparison compares left right same scalar)
      environment rfl rfl (List.forall_mem_cons.2
        ⟨(ihl environment).1, List.forall_mem_singleton.2 (ihr environment).1⟩)
  | arithmetic computes numeric left right left_numeric right_numeric ihl ihr =>
    exact reads_conform_of_steps
      (.arithmetic computes numeric left right left_numeric right_numeric)
      environment rfl rfl (List.forall_mem_cons.2
        ⟨(ihl environment).1, List.forall_mem_singleton.2 (ihr environment).1⟩)
  | not typed boolean ih =>
    exact reads_conform_of_steps (.not typed boolean) environment rfl rfl
      (List.forall_mem_singleton.2 (ih environment).1)
  | negate typed numeric same ih =>
    exact reads_conform_of_steps (.negate typed numeric same) environment rfl rfl
      (List.forall_mem_singleton.2 (ih environment).1)
  | call signature arity typed fits ih =>
    exact reads_conform_of_steps (.call signature arity typed fits) environment rfl rfl
      (List.forall_mem_map.2 fun a mem => (ih a mem environment).1)
  | convert typed same wider ih =>
    exact reads_conform_of_steps (.convert typed same wider) environment rfl rfl
      (List.forall_mem_singleton.2 (ih environment).1)
  | anyItem typed collection ih =>
    exact reads_conform_of_steps (.anyItem typed collection) environment rfl rfl
      (List.forall_mem_singleton.2 (ih environment).1)
  | any typed collection fresh body boolean ih ih_body =>
    obtain ⟨reads, conforms⟩ := ih environment
    exact reads_conform_of_steps (.any typed collection fresh body boolean) environment rfl rfl
      (List.forall_mem_cons.2 ⟨reads, List.forall_mem_map.2 fun v mem =>
        (ih_body (typed.item_environment environment collection reads conforms mem)).1⟩)
  | all typed collection fresh body boolean ih ih_body =>
    obtain ⟨reads, conforms⟩ := ih environment
    exact reads_conform_of_steps (.all typed collection fresh body boolean) environment rfl rfl
      (List.forall_mem_cons.2 ⟨reads, List.forall_mem_map.2 fun v mem =>
        (ih_body (typed.item_environment environment collection reads conforms mem)).1⟩)

end WellTyped

/-- A well-typed expression evaluates to null or a value of its type. -/
theorem WellTyped.value_spec {e : Expr} (typed : WellTyped context scope e)
    (environment : Environment context scope bindings) (holds : r.Conforms context.model) :
    (value r context.model bindings e).Fits e.type ∧
      (value r context.model bindings e).Conforms context.model := by
  obtain ⟨reads, conforms⟩ := typed.reads_conform environment holds
  exact ⟨typed.value_fits environment.fit reads, conforms⟩

/-! ## Accepted queries -/

/-- Whether an expression is the filter of an accepted text or a term of an accepted clause. -/
def Accepted (context : QueryContext) (e : Expr) : Prop :=
  (∃ text, parseFilter text context = .ok e) ∨
    ∃ text clause, parseOrderBy text context = .ok clause ∧ ∃ term ∈ clause.terms, term.expr = e

theorem Accepted.exists_term {e : Expr} (h : Accepted context e) :
    ∃ t, Binding.term context (some maxDepth) (.top context) t = .ok e := by
  obtain ⟨text, h⟩ | ⟨text, clause, h, term, mem, rfl⟩ := h
  · exact (exists_term_of_parseFilterWithin h).2
  · exact exists_term_of_parseOrderBy h term mem

theorem Accepted.wellTyped {e : Expr} (h : Accepted context e) :
    WellTyped context (.top context) e := by
  obtain ⟨t, bound⟩ := h.exists_term
  exact (Binding.term_binds _ t bound).wellTyped (Scope.hasElement_top context)

/-- Whether a node is a comparison, a connective or a quantifier. -/
def Expr.isProposition : Expr → Bool
  | .binary _ op _ _ => op.isLogical
  | .any .. | .all .. => true
  | _ => false

theorem Evaluate.value_proposition {m : Model} {n : Expr} (h : n.isProposition) :
    ∃ b, value r m bindings n = .bool b := by
  cases n with
  | binary => exact value_logical h
  | any _ _ bound body => cases bound <;> cases body <;> exact ⟨_, rfl⟩
  | all => exact ⟨_, rfl⟩
  | _ => cases h

/-- All nodes of accepted expressions evaluate to null or values of their types, propositions to
truth values. Conversions have results, and range variables are bound. -/
theorem Accepted.value_types {e n : Expr} (accepted : Accepted context e)
    (occurs : e.OccursIn (.top context) scope n) (holds : r.Conforms context.model)
    (environment : Environment context scope bindings) :
    (value r context.model bindings n).Fits n.type ∧
      (n.isProposition → ∃ b, value r context.model bindings n = .bool b) ∧
      (∀ target operand, n = .convert target operand →
        value r context.model bindings operand ≠ .null →
        ∃ w, (value r context.model bindings operand).castTo target = .ok w) ∧
      (∀ type name, n = .range type name → name ≠ elementName →
        ∃ v, bindings.lookup name = some v) := by
  have typed := accepted.wellTyped.node occurs
  refine ⟨(typed.value_spec environment holds).1, Evaluate.value_proposition, ?_, ?_⟩
  · rintro target operand rfl nonnull
    cases typed with
    | convert typed same wider =>
      have fits := (typed.value_spec environment holds).1
      rw [same] at fits
      obtain ⟨w, cast, _⟩ := Value.exists_castTo_of_narrower (fits.kind nonnull) wider
      exact ⟨w, cast⟩
  · rintro type name rfl ne
    cases typed with
    | range bound =>
      obtain ⟨v, found, _⟩ | ⟨eq, _⟩ := environment.lookup bound
      · exact ⟨v, found⟩
      · exact (ne eq).elim

/-- A line of three pieces without a note. -/
def threePieces : Value := .complex [("Note", .null), ("Quantity", .int32 3)]

/-- An order of one line. -/
def oneLine : Record := .ofMembers none [("Lines", .collection [threePieces])]

theorem threePieces_conforms : threePieces.Conforms orderContext.model := by
  refine Value.conforms_iff.2 ⟨fun item mem => ?_, fun name inside found => ?_⟩
  · cases mem
  · have members : inside = .null ∨ (name = "Quantity" ∧ inside = .int32 3) := by
      simp only [threePieces, Value.member?, List.lookup_cons, List.lookup_nil] at found
      grind
    obtain rfl | ⟨rfl, rfl⟩ := members
    · exact ⟨Value.null_conforms, fun p _ _ => Value.null_fits p.type⟩
    · refine ⟨Value.conforms_of_kind rfl, fun p declared named => ?_⟩
      have types : ∀ p ∈ orderContext.model.types.flatMap (·.properties), p.name = "Quantity" →
          p.type = .primitive .int32 := by decide
      rw [types p (List.mem_flatMap.2 declared) named]
      exact Value.fits_primitive rfl

theorem oneLine_conforms : oneLine.Conforms orderContext.model := by
  have only : ∀ name v, oneLine.value? name = some v →
      name = "Lines" ∧ v = .collection [threePieces] := by
    intro name v found
    simp only [oneLine, Record.ofMembers, List.lookup_cons, List.lookup_nil] at found
    grind
  constructor
  · intro p v declared found
    obtain ⟨named, rfl⟩ := only _ v found
    have types : ∀ p ∈ orderContext.model.types.flatMap (·.properties), p.name = "Lines" →
        p.type = .collection (.structured "Line") := by decide
    rw [types p (List.mem_flatMap.2 declared) named]
    exact .inr ⟨_, rfl, by simp [threePieces, Value.HasType]⟩
  · intro name v found
    obtain ⟨-, rfl⟩ := only name v found
    refine Value.conforms_iff.2 ⟨fun item mem => ?_, fun _ _ found => ?_⟩
    · rw [List.mem_singleton.1 mem]
      exact threePieces_conforms
    · cases found

/-- The conversion of the quantity of a line in a quantifier over the lines of an order. -/
theorem Accepted.value_types_quantity : ∃ e n w,
    parseFilter "Lines/any(l: l/Quantity gt 2L)" orderContext = .ok e ∧
      e.OccursIn (.top orderContext) (("l", .structured "Line") :: Scope.top orderContext) n ∧
      value oneLine orderContext.model [("l", threePieces)] n = w ∧ w.Fits n.type ∧
      n.type = .primitive .int64 := by
  have found : (((parseFilter "Lines/any(l: l/Quantity gt 2L)" orderContext).toOption.bind
      fun e => (e.childrenIn (.top orderContext))[1]?).bind
      fun body => (body.2.childrenIn body.1)[0]?).map (fun n => (n.1, n.2.type)) =
        some (("l", .structured "Line") :: Scope.top orderContext, .primitive .int64) := by
    decide +kernel
  obtain ⟨⟨scope, n⟩, found, eq⟩ := Option.map_eq_some_iff.1 found
  obtain ⟨⟨middle, body⟩, found, placed⟩ := Option.bind_eq_some_iff.1 found
  obtain ⟨e, parsed, above⟩ := Option.bind_eq_some_iff.1 found
  obtain ⟨rfl, type⟩ := Prod.mk.inj eq
  have parsed := Except.toOption_eq_some.1 parsed
  have occurs :
      e.OccursIn (.top orderContext) (("l", .structured "Line") :: Scope.top orderContext) n :=
    .child (List.mem_of_getElem? above) (.child (List.mem_of_getElem? placed) (.self n _))
  have environment : Environment orderContext (("l", .structured "Line") :: Scope.top orderContext)
      [("l", threePieces)] := .item .top (.inr ⟨_, rfl⟩) threePieces_conforms
  have types := Accepted.value_types (.inl ⟨_, parsed⟩) occurs oneLine_conforms environment
  exact ⟨e, n, _, parsed, occurs, rfl, types.1, type⟩

end RecordQuery
