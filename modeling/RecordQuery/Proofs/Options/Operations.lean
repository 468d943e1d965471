import RecordQuery.Proofs.Options.Application

/-!
# Sequences of operations on options

An option keeps what it found in its text, and nobody can tell: after any operations it answers the
next one like a new option for the same text. What it keeps is known exactly. The expression of a
filter is there as soon as one of the operations read the text, if the text can be parsed at all; for
an order that holds of the clause, and of the sort properties as soon as one of the operations asked
for them. So the expression that is validated is the one that is applied.

## Main definitions

* `FilterOption.Operation`, `OrderByOption.Operation`: the operations on options of either kind.
* `FilterOption.after`, `OrderByOption.after`: an option after some operations.
* `FilterOption.Remembers`, `OrderByOption.Remembers`: how an option answers and what it keeps.

## Main statements

* `FilterOption.perform_kept`, `OrderByOption.perform_kept`: what one operation makes an option keep.
* `remembers_after`: what any operations make of a new option.
-/

namespace RecordQuery

variable {text : String} {context : QueryContext}

/-! ## Filters -/

namespace FilterOption

/-- What can be asked of a filter option. -/
inductive Operation : Type 1 where
  | expr
  | validate (p : Policy)
  | apply {σ ο α : Type} [Queryable σ ο α] [HasRecord α] (source : σ)

namespace Operation

/-- The answers to an operation. -/
def Answer : Operation → Type
  | expr => Except ParseError Expr
  | validate _ => Except QueryError Unit
  | @apply σ _ _ _ _ _ => Except QueryError σ

/-- Whether an operation reads the text: a validation does if the policy allows filters. -/
def parses : Operation → Bool
  | validate p => p.options.contains .filter
  | expr | apply _ => true

/-- What an operation gives for a text. All operations use the same expression. -/
def answer (text : String) (context : QueryContext) : (op : Operation) → op.Answer
  | expr => parseFilter text context
  | validate p =>
    if p.options.contains .filter then
      (parseFilter text context).mapError .parse >>= fun e => (e.validate p).mapError .validation
    else .error (.validation (.optionNotAllowed .filter))
  | apply source =>
    ((parseFilter text context).mapError .parse).map (applyFilter · context source)

end Operation

/-- The answer of an option to an operation, and the option that keeps what was found. -/
def perform (o : FilterOption) : (op : Operation) → op.Answer × FilterOption
  | .expr => o.expr
  | .validate p => o.validate p
  | @Operation.apply _ _ _ _ _ source => o.apply source

/-- An option after some operations. -/
def after (o : FilterOption) : List Operation → FilterOption
  | [] => o
  | op :: rest => (o.perform op).2.after rest

/-- The option for a text that was read or not. -/
def kept (text : String) (context : QueryContext) (read : Bool) : FilterOption :=
  ⟨text, context, if read then (parseFilter text context).toOption else none⟩

theorem isFor_kept (read : Bool) : (kept text context read).IsFor text context := by
  refine ⟨rfl, rfl, fun e found => ?_⟩
  cases read with
  | false => cases found
  | true => exact Except.toOption_eq_some.1 found

/-! ### One operation -/

theorem IsFor.perform_eq {o : FilterOption} (h : o.IsFor text context) (op : Operation) :
    (o.perform op).1 = op.answer text context := by
  cases op with
  | expr => exact h.expr_eq
  | validate p =>
    refine (congrArg Prod.fst (validate_eq o p)).trans ?_
    rw [Operation.answer, h.expr_eq]
    exact apply_ite Prod.fst _ _ _
  | apply source =>
    refine (congrArg Prod.fst (apply_eq o source)).trans ?_
    rw [Operation.answer, h.expr_eq, h.expr.place]

theorem expr_kept (read : Bool) : (kept text context read).expr.2 = kept text context true := by
  unfold kept expr
  cases parseFilter text context <;> cases read <;> rfl

/-- An operation makes an option keep the expression of its text if it reads the text. -/
theorem perform_kept (read : Bool) (op : Operation) :
    ((kept text context read).perform op).2 = kept text context (read || op.parses) := by
  cases op with
  | expr => exact (expr_kept read).trans (by rw [Operation.parses, Bool.or_true])
  | validate p =>
    refine (congrArg Prod.snd (validate_eq _ p)).trans ?_
    rw [Operation.parses, expr_kept]
    cases p.options.contains .filter
    · exact congrArg (kept text context) (Bool.or_false read).symm
    · exact congrArg (kept text context) (Bool.or_true read).symm
  | apply source =>
    refine (congrArg Prod.snd (apply_eq _ source)).trans ?_
    exact (expr_kept read).trans (by rw [Operation.parses, Bool.or_true])

/-! ### Many operations -/

theorem after_kept (read : Bool) (ops : List Operation) :
    (kept text context read).after ops = kept text context (read || ops.any (·.parses)) := by
  induction ops generalizing read with
  | nil => rw [after, List.any_nil, Bool.or_false]
  | cons op rest ih => rw [after, perform_kept, ih, List.any_cons, Bool.or_assoc]

/-- How an option answers after some operations and what it keeps: the expression of its text, if one
of the operations read the text and it can be parsed. -/
structure Remembers (o : FilterOption) (text : String) (context : QueryContext)
    (ops : List Operation) : Prop where
  answers : ∀ op, (o.perform op).1 = ((ofText text context).perform op).1
  agrees : ∀ op, (o.perform op).1 = op.answer text context
  keeps : ∀ e, o.parsed = some e ↔ (∃ op ∈ ops, op.parses) ∧ parseFilter text context = .ok e
  shows : o.description = "FilterQueryOption \x7b raw: " ++ Text.quoted text ++ ", parsed: " ++
    toString (ops.any (·.parses) && (parseFilter text context).isOk) ++ " \x7d"

theorem remembers_after_ofText (ops : List Operation) :
    ((ofText text context).after ops).Remembers text context ops := by
  have state : (ofText text context).after ops = kept text context (ops.any (·.parses)) :=
    (after_kept false ops).trans (by rw [Bool.false_or])
  rw [state]
  have stands := @isFor_kept text context (ops.any (·.parses))
  refine ⟨fun op => ?_, stands.perform_eq, fun e => ?_, ?_⟩
  · rw [stands.perform_eq, isFor_ofText.perform_eq]
  · rw [← List.any_eq_true, ← Except.toOption_eq_some]
    exact Option.ite_none_right_eq_some
  · unfold description kept
    cases ops.any (·.parses) <;> cases parseFilter text context <;> rfl

end FilterOption

/-! ## Orders -/

namespace OrderByOption

/-- What can be asked of an order option. -/
inductive Operation : Type 1 where
  | clause
  | sortProperties
  | validate (p : Policy)
  | apply {σ ο α : Type} [Queryable σ ο α] [HasRecord α] (source : σ)

namespace Operation

/-- The answers to an operation. -/
def Answer : Operation → Type
  | clause => Except ParseError OrderByClause
  | sortProperties => Except QueryError (List SortProperty)
  | validate _ => Except QueryError Unit
  | @apply _ ο _ _ _ _ => Except QueryError ο

/-- Whether an operation reads the text: a validation does if the policy allows to order. -/
def parses : Operation → Bool
  | validate p => p.options.contains .orderBy
  | clause | sortProperties | apply _ => true

/-- Whether an operation asks for the sort properties. -/
def finds : Operation → Bool
  | validate p => p.options.contains .orderBy
  | clause => false
  | sortProperties | apply _ => true

theorem parses_of_finds {op : Operation} (h : op.finds) : op.parses := by
  cases op with
  | clause => cases h
  | validate p => exact h
  | sortProperties | apply source => rfl

/-- What an operation gives for a text. All operations use the same clause and the same sort
properties. -/
def answer (text : String) (context : QueryContext) : (op : Operation) → op.Answer
  | clause => parseOrderBy text context
  | sortProperties => propertiesOf text context
  | validate p =>
    if p.options.contains .orderBy then
      (parseOrderBy text context).mapError .parse >>= fun c =>
        propertiesOf text context >>= fun properties =>
          (validateTerms Hooks.stock p (c.terms.zip properties)).result.mapError .validation
    else .error (.validation (.optionNotAllowed .orderBy))
  | apply source =>
    propertiesOf text context >>= fun properties =>
      (applyOrderBy properties source).mapError .orderBy

end Operation

/-- The answer of an option to an operation, and the option that keeps what was found. -/
def perform (o : OrderByOption) : (op : Operation) → op.Answer × OrderByOption
  | .clause => o.clause
  | .sortProperties => o.sortProperties
  | .validate p => o.validate p
  | @Operation.apply _ _ _ _ _ source => o.apply source

/-- An option after some operations. -/
def after (o : OrderByOption) : List Operation → OrderByOption
  | [] => o
  | op :: rest => (o.perform op).2.after rest

/-- The option for a text that was read or not, and whose sort properties were asked for or not. -/
def kept (text : String) (context : QueryContext) (read asked : Bool) : OrderByOption :=
  ⟨text, context, if read then (parseOrderBy text context).toOption else none,
    if asked then (propertiesOf text context).toOption else none⟩

theorem propertiesOf_eq_ok_iff {properties : List SortProperty} :
    propertiesOf text context = .ok properties ↔
      ∃ c, parseOrderBy text context = .ok c ∧ c.sortProperties = .ok properties := by
  simp only [propertiesOf, Except.bind_eq_ok, Except.mapError_eq_ok]

theorem isFor_kept (read asked : Bool) : (kept text context read asked).IsFor text context := by
  refine ⟨rfl, rfl, fun c found => ?_, fun properties found => ?_⟩
  · obtain ⟨-, found⟩ := Option.ite_none_right_eq_some.1 found
    exact Except.toOption_eq_some.1 found
  · obtain ⟨-, found⟩ := Option.ite_none_right_eq_some.1 found
    exact propertiesOf_eq_ok_iff.1 (Except.toOption_eq_some.1 found)

/-! ### One operation -/

theorem IsFor.perform_eq {o : OrderByOption} (h : o.IsFor text context) (op : Operation) :
    (o.perform op).1 = op.answer text context := by
  cases op with
  | clause => exact h.clause_eq
  | sortProperties => exact h.sortProperties_eq
  | validate p =>
    refine (congrArg Prod.fst (validate_eq o p)).trans ?_
    rw [Operation.answer, h.clause_eq, h.clause.sortProperties_eq]
    exact apply_ite Prod.fst _ _ _
  | apply source =>
    refine (congrArg Prod.fst (apply_eq o source)).trans ?_
    rw [Operation.answer, h.sortProperties_eq]

theorem clause_kept (read asked : Bool) :
    (kept text context read asked).clause.2 = kept text context true asked := by
  unfold kept clause
  cases parseOrderBy text context <;> cases read <;> rfl

theorem sortProperties_kept {read asked : Bool} (h : asked = true → read = true) :
    (kept text context read asked).sortProperties.2 = kept text context true true := by
  unfold kept sortProperties clause propertiesOf
  cases parseOrderBy text context with
  | error => cases read <;> cases asked <;> rfl
  | ok c =>
    cases found : c.sortProperties with
    | error => cases read <;> cases asked <;> simp [found, Except.toOption]
    | ok properties =>
      cases asked with
      | true =>
        cases h rfl
        simp [found, Except.toOption]
      | false => cases read <;> simp [found, Except.toOption]

/-- An operation makes an option keep the clause of its text if it reads the text, and the sort
properties if it asks for them. -/
theorem perform_kept {read asked : Bool} (h : asked = true → read = true) (op : Operation) :
    ((kept text context read asked).perform op).2 =
      kept text context (read || op.parses) (asked || op.finds) := by
  cases op with
  | clause =>
    refine (clause_kept read asked).trans ?_
    rw [Operation.parses, Operation.finds, Bool.or_true, Bool.or_false]
  | sortProperties =>
    refine (sortProperties_kept h).trans ?_
    rw [Operation.parses, Operation.finds, Bool.or_true, Bool.or_true]
  | validate p =>
    refine (congrArg Prod.snd (validate_eq _ p)).trans ?_
    rw [Operation.parses, Operation.finds, clause_kept, sortProperties_kept fun _ => rfl]
    cases p.options.contains .orderBy
    · rw [Bool.or_false, Bool.or_false]
      rfl
    · rw [Bool.or_true, Bool.or_true]
      rfl
  | apply source =>
    refine (congrArg Prod.snd (apply_eq _ source)).trans ((sortProperties_kept h).trans ?_)
    rw [Operation.parses, Operation.finds, Bool.or_true, Bool.or_true]

/-! ### Many operations -/

theorem after_kept {read asked : Bool} (h : asked = true → read = true) (ops : List Operation) :
    (kept text context read asked).after ops =
      kept text context (read || ops.any (·.parses)) (asked || ops.any (·.finds)) := by
  induction ops generalizing read asked with
  | nil => rw [after, List.any_nil, List.any_nil, Bool.or_false, Bool.or_false]
  | cons op rest ih =>
    have next : (asked || op.finds) = true → (read || op.parses) = true := by
      simp only [Bool.or_eq_true]
      exact Or.imp h Operation.parses_of_finds
    rw [after, perform_kept h, ih next, List.any_cons, List.any_cons, Bool.or_assoc, Bool.or_assoc]

/-- How an option answers after some operations and what it keeps: the clause of its text, if one of
the operations read the text and it can be parsed, and its sort properties, if one of the operations
asked for them and there are any. -/
structure Remembers (o : OrderByOption) (text : String) (context : QueryContext)
    (ops : List Operation) : Prop where
  answers : ∀ op, (o.perform op).1 = ((ofText text context).perform op).1
  agrees : ∀ op, (o.perform op).1 = op.answer text context
  keeps : ∀ c, o.parsed = some c ↔ (∃ op ∈ ops, op.parses) ∧ parseOrderBy text context = .ok c
  keepsProperties : ∀ properties, o.found = some properties ↔ (∃ op ∈ ops, op.finds) ∧
    ∃ c, parseOrderBy text context = .ok c ∧ c.sortProperties = .ok properties
  shows : o.description = "OrderByQueryOption \x7b raw: " ++ Text.quoted text ++ ", parsed: " ++
    toString (ops.any (·.parses) && (parseOrderBy text context).isOk) ++ " \x7d"

theorem remembers_after_ofText (ops : List Operation) :
    ((ofText text context).after ops).Remembers text context ops := by
  have state : (ofText text context).after ops =
      kept text context (ops.any (·.parses)) (ops.any (·.finds)) :=
    (@after_kept text context false false id ops).trans (by rw [Bool.false_or, Bool.false_or])
  rw [state]
  have stands := @isFor_kept text context (ops.any (·.parses)) (ops.any (·.finds))
  refine ⟨fun op => ?_, stands.perform_eq, fun c => ?_, fun properties => ?_, ?_⟩
  · rw [stands.perform_eq, isFor_ofText.perform_eq]
  · rw [← List.any_eq_true, ← Except.toOption_eq_some]
    exact Option.ite_none_right_eq_some
  · rw [← List.any_eq_true, ← propertiesOf_eq_ok_iff, ← Except.toOption_eq_some]
    exact Option.ite_none_right_eq_some
  · unfold description kept
    cases ops.any (·.parses) <;> cases parseOrderBy text context <;> rfl

end OrderByOption

/-- After any operations an option answers the next one like a new option for its text, and keeps what
the operations before found in the text. -/
theorem remembers_after (text : String) (context : QueryContext)
    (filterOps : List FilterOption.Operation) (orderOps : List OrderByOption.Operation) :
    ((FilterOption.ofText text context).after filterOps).Remembers text context filterOps ∧
    ((OrderByOption.ofText text context).after orderOps).Remembers text context orderOps :=
  ⟨FilterOption.remembers_after_ofText filterOps, OrderByOption.remembers_after_ofText orderOps⟩

end RecordQuery
