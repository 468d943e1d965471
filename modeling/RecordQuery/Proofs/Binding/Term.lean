import RecordQuery.Binding.Term
import RecordQuery.Proofs.Typing.Value

/-!
# What a bound term is made of

Binding a term takes several steps that can fail. If a term is bound, each of its steps went through,
so there is exactly one rule for each kind of term. Statements about bound terms are proved by
induction on these rules.

## Main definitions

* `Binding.Binds`: the rules by which terms are bound.

## Main statements

* `Binding.term_binds`: bound terms are bound by the rules.
* `Binding.arguments_cases`, `Binding.exists_of_mem_arguments`: how arguments are bound and fitted.
-/

namespace RecordQuery.Binding

open Grammar (Quantifier Segment Term)

variable {context : QueryContext} {limit : Bounds} {scope : Scope}

/-! ## Steps -/

theorem fresh_of_requireFresh {name : String} {position : Nat} {u : Unit}
    (h : requireFresh scope name position = .ok u) : scope.Fresh name := by
  unfold requireFresh at h
  split at h
  · cases h
  · exact Scope.fresh_iff.2 (Option.not_isSome_iff_eq_none.1 ‹_›)

theorem eq_of_limitDepth {e bounded : Expr} {position : Nat}
    (h : limitDepth limit e position = .ok bounded) : bounded = e := by
  unfold limitDepth at h
  split at h
  · split at h <;> cases h
    rfl
  · cases h
    rfl

theorem eq_of_requireSingle {path : PathState} {e : Expr} (h : requireSingle path = .ok e) :
    e = path.expr ∧ ¬ e.type.isCollection := by
  unfold requireSingle at h
  split at h <;> cases h
  exact ⟨rfl, ‹_›⟩

theorem eq_of_constantOr {kind : LiteralKind} {text : List Char} {position : Nat}
    {value? : Option Value} {v : Value} (h : constantOr kind text position value? = .ok v) :
    value? = some v := by
  unfold constantOr at h
  split at h <;> cases h
  rfl

theorem primitiveType?_of_doubleValue? {text : List Char} {v : Value}
    (h : doubleValue? text = some v) : v.primitiveType? = some .double := by
  obtain ⟨d, _, rfl⟩ := Option.map_eq_some_iff.1 h
  rfl

theorem primitiveType?_of_integerValue? {p : PrimitiveType} {text : List Char} {v : Value}
    (h : integerValue? p text = some v) : v.primitiveType? = some p := by
  obtain ⟨n, _, hn⟩ := Option.bind_eq_some_iff.1 h
  exact (Value.ofInt?_eq_some_iff.1 hn).1

theorem primitiveType?_of_numberValue? {text : List Char} {v : Value}
    (h : numberValue? text = some v) : ∃ p, v.primitiveType? = some p ∧ p ≠ .int16 := by
  unfold numberValue? at h
  split at h
  · exact ⟨_, primitiveType?_of_integerValue? h, nofun⟩
  · exact ⟨_, primitiveType?_of_integerValue? h, nofun⟩
  · exact ⟨_, primitiveType?_of_doubleValue? h, nofun⟩
  · exact ⟨_, primitiveType?_of_doubleValue? h, nofun⟩
  · split at h
    · exact ⟨_, primitiveType?_of_doubleValue? h, nofun⟩
    · obtain h | ⟨_, h⟩ := Option.or_eq_some_iff.1 h
      · exact ⟨_, primitiveType?_of_integerValue? h, nofun⟩
      · exact ⟨_, primitiveType?_of_integerValue? h, nofun⟩

theorem itemType_eq {source : Expr} {position : Nat} {item : TypeRef}
    (h : itemType source position = .ok item) : source.type = .collection item := by
  unfold itemType at h
  split at h <;> cases h
  assumption

theorem callee_spec {function : List Char} {count position : Nat} {f : Builtin} {s : Signature}
    (h : callee function count position = .ok (f, s)) :
    f.signature? = some s ∧ s.accepts count := by
  unfold callee at h
  dsimp only at h
  split at h
  case h_1 => cases h
  case h_2 found =>
    split at h
    case h_1 => cases h
    case h_2 signature =>
      split at h <;> cases h
      exact ⟨signature, ‹_›⟩

/-- No call has more arguments than its function has parameters. -/
theorem le_of_callee {function : List Char} {count position : Nat} {f : Builtin} {s : Signature}
    (h : callee function count position = .ok (f, s)) : count ≤ s.params.length :=
  of_decide_eq_true (Bool.and_eq_true_iff.1 (callee_spec h).2).2

/-! ## Rules -/

/-- Whether a limit on the depth admits an expression. -/
abbrev Admits (limit : Bounds) (position : Nat) (e : Expr) : Prop :=
  limitDepth limit e position = .ok e

/-- The rules by which terms are bound. -/
inductive Binds (context : QueryContext) (limit : Bounds) : Scope → Term → Expr → Prop where
  | null {scope : Scope} {start : Nat} : Binds context limit scope (.null start) (.ofValue .null)
  | bool {scope : Scope} {start : Nat} {b : Bool} :
      Binds context limit scope (.bool start b) (.ofValue (.bool b))
  | string {scope : Scope} {start : Nat} {body : List Char} :
      Binds context limit scope (.string start body)
        (.ofValue (.string (String.ofList (stringValue body))))
  | guid {scope : Scope} {start : Nat} {body : List Char} {g : Guid} :
      Binds context limit scope (.guid start body) (.ofValue (.guid g))
  | dateTime {scope : Scope} {start : Nat} {body : List Char} {d : DateTime} :
      Binds context limit scope (.dateTime start body) (.ofValue (.dateTime d))
  | number {scope : Scope} {start : Nat} {text : List Char} {v : Value}
      (value : numberValue? text = some v) :
      Binds context limit scope (.number start text) (.ofValue v)
  | path {scope : Scope} {first : Segment} {rest : List Segment} {source : PathState}
      (spine : path context limit scope first rest = .ok source)
      (single : ¬ source.expr.type.isCollection) :
      Binds context limit scope (.path first rest) source.expr
  | anyItem {scope : Scope} {first : Segment} {rest : List Segment} {position : Nat}
      {source : PathState} {item : TypeRef}
      (spine : path context limit scope first rest = .ok source)
      (items : itemType source.expr position = .ok item)
      (admitted : Admits limit position (.any .boolean source.expr none none)) :
      Binds context limit scope (.quantified first rest .any position)
        (.any .boolean source.expr none none)
  | lambda {scope : Scope} {first : Segment} {rest : List Segment} {q : Quantifier}
      {position boundAt : Nat} {bound : List Char} {body : Term} {source : PathState}
      {item : TypeRef} {inner fitted : Expr}
      (spine : path context limit scope first rest = .ok source)
      (items : itemType source.expr position = .ok item)
      (fresh : scope.Fresh (String.ofList bound))
      (inside : Binds context limit ((String.ofList bound, item) :: scope) body inner)
      (fits : expectBoolean inner body.start = .ok fitted)
      (admitted : Admits limit position (quantify q source.expr (String.ofList bound) fitted)) :
      Binds context limit scope (.lambda first rest q position boundAt bound body)
        (quantify q source.expr (String.ofList bound) fitted)
  | call {scope : Scope} {start : Nat} {function : List Char} {args : List Term} {f : Builtin}
      {s : Signature} {es : List Expr} (found : callee function args.length start = .ok (f, s))
      (fitted : arguments context limit scope args s.params = .ok es)
      (inside : ∀ arg ∈ args, ∀ e, term context limit scope arg = .ok e →
        Binds context limit scope arg e)
      (admitted : Admits limit start (.call (.primitive s.returns) f es)) :
      Binds context limit scope (.call start function args) (.call (.primitive s.returns) f es)
  | unary {scope : Scope} {position : Nat} {op : UnaryOperator} {operand : Term} {inner e : Expr}
      (inside : Binds context limit scope operand inner) (made : unary op inner position = .ok e)
      (admitted : Admits limit position e) :
      Binds context limit scope (.unary position op operand) e
  | binary {scope : Scope} {position : Nat} {op : BinaryOperator} {left right : Term} {l r e : Expr}
      (onLeft : Binds context limit scope left l) (onRight : Binds context limit scope right r)
      (made : binary op l r position = .ok e) (admitted : Admits limit position e) :
      Binds context limit scope (.binary position op left right) e
  | group {scope : Scope} {start : Nat} {inner : Term} {e : Expr}
      (inside : Binds context limit scope inner e) : Binds context limit scope (.group start inner) e

/-- A term that is bound is bound by the rules. -/
theorem term_binds (scope : Scope) (t : Term) {e : Expr}
    (h : term context limit scope t = .ok e) : Binds context limit scope t e := by
  cases t with
  | null =>
    cases h
    exact .null
  | bool =>
    cases h
    exact .bool
  | string =>
    cases h
    exact .string
  | guid =>
    obtain ⟨v, value, ⟨⟩⟩ := Except.bind_eq_ok.1 h
    obtain ⟨g, -, rfl⟩ := Option.map_eq_some_iff.1 (eq_of_constantOr value)
    exact .guid
  | dateTime =>
    obtain ⟨v, value, ⟨⟩⟩ := Except.bind_eq_ok.1 h
    obtain ⟨d, -, rfl⟩ := Option.map_eq_some_iff.1 (eq_of_constantOr value)
    exact .dateTime
  | number =>
    obtain ⟨v, value, ⟨⟩⟩ := Except.bind_eq_ok.1 h
    exact .number (eq_of_constantOr value)
  | path =>
    obtain ⟨source, spine, h⟩ := Except.bind_eq_ok.1 h
    obtain ⟨rfl, single⟩ := eq_of_requireSingle h
    exact .path spine single
  | quantified _ _ q =>
    obtain ⟨source, spine, h⟩ := Except.bind_eq_ok.1 h
    obtain ⟨item, items, h⟩ := Except.bind_eq_ok.1 h
    obtain ⟨e', made, h⟩ := Except.bind_eq_ok.1 h
    cases eq_of_limitDepth h
    cases q with
    | any =>
      cases made
      exact .anyItem spine items h
    | all => cases made
  | lambda _ _ _ _ _ _ body =>
    obtain ⟨source, spine, h⟩ := Except.bind_eq_ok.1 h
    obtain ⟨item, items, h⟩ := Except.bind_eq_ok.1 h
    obtain ⟨_, unused, h⟩ := Except.bind_eq_ok.1 h
    obtain ⟨inner, bound, h⟩ := Except.bind_eq_ok.1 h
    obtain ⟨fitted, fits, h⟩ := Except.bind_eq_ok.1 h
    cases eq_of_limitDepth h
    exact .lambda spine items (fresh_of_requireFresh unused) (term_binds _ body bound) fits h
  | call _ _ args =>
    obtain ⟨⟨f, s⟩, found, h⟩ := Except.bind_eq_ok.1 h
    obtain ⟨es, fitted, h⟩ := Except.bind_eq_ok.1 h
    cases eq_of_limitDepth h
    exact .call found fitted (fun arg mem e bound => term_binds scope arg bound) h
  | unary _ _ operand =>
    obtain ⟨inner, bound, h⟩ := Except.bind_eq_ok.1 h
    obtain ⟨e', made, h⟩ := Except.bind_eq_ok.1 h
    cases eq_of_limitDepth h
    exact .unary (term_binds scope operand bound) made h
  | binary _ _ left right =>
    obtain ⟨l, left_bound, h⟩ := Except.bind_eq_ok.1 h
    obtain ⟨r, right_bound, h⟩ := Except.bind_eq_ok.1 h
    obtain ⟨e', made, h⟩ := Except.bind_eq_ok.1 h
    cases eq_of_limitDepth h
    exact .binary (term_binds scope left left_bound) (term_binds scope right right_bound) made h
  | group _ inner => exact .group (term_binds scope inner h)

/-! ## Arguments -/

theorem arguments_cases {arg : Term} {args : List Term} {param : PrimitiveType}
    {params : List PrimitiveType} {es : List Expr}
    (h : arguments context limit scope (arg :: args) (param :: params) = .ok es) :
    ∃ e fitted more, es = fitted :: more ∧ term context limit scope arg = .ok e ∧
      coerce e param arg.start = .ok fitted ∧
      arguments context limit scope args params = .ok more := by
  obtain ⟨e, bound, h⟩ := Except.bind_eq_ok.1 h
  obtain ⟨fitted, fits, h⟩ := Except.bind_eq_ok.1 h
  obtain ⟨more, others, ⟨⟩⟩ := Except.bind_eq_ok.1 h
  exact ⟨e, fitted, more, rfl, bound, fits, others⟩

/-- Each of the bound arguments is one of the arguments, bound and fitted to some parameter. -/
theorem exists_of_mem_arguments {args : List Term} {params : List PrimitiveType} {es : List Expr}
    (h : arguments context limit scope args params = .ok es) :
    ∀ fitted ∈ es, ∃ arg ∈ args, ∃ e param, term context limit scope arg = .ok e ∧
      coerce e param arg.start = .ok fitted := by
  induction args generalizing params es with
  | nil =>
    cases h
    nofun
  | cons arg args ih =>
    cases params with
    | nil =>
      cases h
      nofun
    | cons param params =>
      obtain ⟨e, fitted, more, rfl, bound, fits, others⟩ := arguments_cases h
      refine List.forall_mem_cons.2 ⟨⟨arg, List.mem_cons_self, e, param, bound, fits⟩, ?_⟩
      intro f mem
      obtain ⟨a, mem, found⟩ := ih others f mem
      exact ⟨a, List.mem_cons_of_mem arg mem, found⟩

/-- There are as many bound arguments of a call as arguments. -/
theorem length_of_arguments {args : List Term} {params : List PrimitiveType} {es : List Expr}
    (h : arguments context limit scope args params = .ok es) (enough : args.length ≤ params.length) :
    es.length = args.length := by
  induction args generalizing params es with
  | nil =>
    cases h
    rfl
  | cons arg args ih =>
    cases params with
    | nil => cases enough
    | cons param params =>
      obtain ⟨e, fitted, more, rfl, bound, fits, others⟩ := arguments_cases h
      rw [List.length_cons, List.length_cons, ih others (Nat.le_of_succ_le_succ enough)]

end RecordQuery.Binding
