import RecordQuery.Proofs.Display.Lexical

/-!
# The bound on the depth

A bound on the depth is checked at the nodes that paths, operators, calls and quantifiers add, but
not at the conversions and the types that fitting adds in between. This refuses exactly the terms
whose expression is too deep in the end: a node that was checked stays a part of the expression,
which is at least as deep, and what fitting adds to an operand has the checked node of its operator
above it.

## Main definitions

* `Binding.Guards`: whether a bounded computation gives what is small among the results of a free one.

## Main statements

* `Binding.Guards.bind`: guards in sequence, if what follows does not shrink.
* `Binding.Binds.depth_le`: bound terms are not too deep.
* `Binding.term_eq_ok_iff`: what a bound refuses.
-/

namespace RecordQuery

open Binding (Scope)

theorem Expr.Fitted.depth_le {e fitted : Expr} (h : Fitted e fitted) : e.depth ≤ fitted.depth := by
  obtain ⟨t, rfl⟩ | ⟨target, rfl⟩ := h
  · rw [depth_withType]
  · rw [depth]
    exact Nat.le_add_left ..

namespace Binding

open Grammar (Segment Term)

variable {α β : Type} {n : Nat} {size : α → Nat} {size' : β → Nat}

/-! ## Guards -/

/-- A bounded computation gives nothing but what the free one gives, and gives it where it is small
enough. -/
structure Guards (n : Nat) (size : α → Nat) (bounded free : Result α) : Prop where
  sound : ∀ a, bounded = .ok a → free = .ok a
  complete : ∀ a, free = .ok a → size a ≤ n → bounded = .ok a

namespace Guards

variable {bounded free : Result α} {next next' : α → Result β}

/-- A computation in which nothing is checked. -/
theorem refl (size : α → Nat) (x : Result α) : Guards n size x x :=
  ⟨fun _ => id, fun _ h _ => h⟩

/-- Guards in sequence. What the free computation goes on to is at least as large as its start, so
where the end is small the start was. -/
theorem bind (first : Guards n size bounded free) (second : ∀ a, Guards n size' (next a) (next' a))
    (grows : ∀ a b, next' a = .ok b → size a ≤ size' b) :
    Guards n size' (bounded >>= next) (free >>= next') where
  sound b h := by
    obtain ⟨a, ha, hb⟩ := Except.bind_eq_ok.1 h
    exact Except.bind_eq_ok.2 ⟨a, first.sound a ha, (second a).sound b hb⟩
  complete b h small := by
    obtain ⟨a, ha, hb⟩ := Except.bind_eq_ok.1 h
    exact Except.bind_eq_ok.2
      ⟨a, first.complete a ha ((grows a b hb).trans small), (second a).complete b hb small⟩

/-- A first step in which nothing is checked. -/
theorem andThen (x : Result α) (second : ∀ a, Guards n size' (next a) (next' a)) :
    Guards n size' (x >>= next) (x >>= next') :=
  (refl (fun _ => 0) x).bind second fun _ _ _ => Nat.zero_le _

end Guards

/-! ## Nodes -/

variable {context : QueryContext} {m : Model} {scope : Scope}

theorem depth_of_limitDepth {e bounded : Expr} {position : Nat}
    (h : limitDepth (some n) e position = .ok bounded) : bounded.depth ≤ n := by
  unfold limitDepth at h
  dsimp only at h
  split at h <;> cases h
  exact Nat.le_of_not_lt ‹_›

theorem limitDepth_guards (e : Expr) (position : Nat) :
    Guards n Expr.depth (limitDepth (some n) e position) (limitDepth none e position) where
  sound bounded h := by rw [eq_of_limitDepth h]; rfl
  complete bounded h small := by
    cases h
    unfold limitDepth
    exact if_neg (Nat.not_lt.2 small)

theorem binary_depth {op : BinaryOperator} {left right e : Expr} {position : Nat}
    (h : binary op left right position = .ok e) : left.depth ≤ e.depth ∧ right.depth ≤ e.depth := by
  obtain ⟨t, l, r, rfl, fitted_left, fitted_right⟩ := binary_fitted h
  have := fitted_left.depth_le
  have := fitted_right.depth_le
  rw [Expr.depth]
  omega

theorem unary_depth {op : UnaryOperator} {operand e : Expr} {position : Nat}
    (h : unary op operand position = .ok e) : operand.depth ≤ e.depth := by
  obtain ⟨t, t', rfl⟩ := unary_retyped h
  rw [Expr.depth, Expr.depth_withType]
  exact Nat.le_add_left ..

theorem emptyQuantifier_depth {q : Grammar.Quantifier} {source e : Expr} {position : Nat}
    (h : emptyQuantifier q source position = .ok e) : source.depth ≤ e.depth := by
  cases q <;> cases h
  rw [Expr.depth]
  exact Nat.le_add_left ..

theorem quantify_depth (q : Grammar.Quantifier) (source body : Expr) (bound : String) :
    source.depth ≤ (quantify q source bound body).depth ∧
      body.depth ≤ (quantify q source bound body).depth := by
  cases q <;> (rw [quantify, Expr.depth]; omega)

/-! ## Paths -/

theorem addSegments_depth_le (segments : List Segment) {path result : PathState} {limit : Bounds}
    (h : addSegments m limit path segments = .ok result) : path.expr.depth ≤ result.expr.depth := by
  induction segments generalizing path with
  | nil =>
    cases h
    exact Nat.le_refl _
  | cons segment rest ih =>
    obtain ⟨next, step, h⟩ := addSegments_cons h
    have grows := ih h
    obtain ⟨_, _, same, -⟩ | ⟨_, _, same, -⟩ := addSegment_cases step <;>
      (rw [same, Expr.depth] at grows; omega)

theorem addSegments_guards (segments : List Segment) (path : PathState) :
    Guards n (·.expr.depth) (addSegments m (some n) path segments)
      (addSegments m none path segments) := by
  induction segments generalizing path with
  | nil => exact .refl _ _
  | cons segment rest ih =>
    unfold addSegments
    refine .andThen _ fun e => (limitDepth_guards e segment.position).bind (fun _ => ih _) ?_
    exact fun bounded result h => addSegments_depth_le rest h

theorem path_guards (first : Segment) (rest : List Segment) :
    Guards n (·.expr.depth) (path context (some n) scope first rest)
      (path context none scope first rest) := addSegments_guards _ _

theorem addSegments_depth (segments : List Segment) {path result : PathState}
    (h : addSegments m (some n) path segments = .ok result) (shallow : path.expr.depth ≤ n) :
    result.expr.depth ≤ n := by
  induction segments generalizing path with
  | nil =>
    cases h
    exact shallow
  | cons segment rest ih =>
    obtain ⟨e, he, h⟩ := Except.bind_eq_ok.1 h
    obtain ⟨bounded, hb, h⟩ := Except.bind_eq_ok.1 h
    exact ih h (depth_of_limitDepth hb)

theorem path_depth (room : 0 < n) {first : Segment} {rest : List Segment} {result : PathState}
    (h : path context (some n) scope first rest = .ok result) : result.expr.depth ≤ n := by
  unfold path at h
  obtain ⟨t, name, -, -, start⟩ | start := pathStart_cases context scope first rest <;>
    rw [start] at h
  · exact addSegments_depth _ h room
  · exact addSegments_depth _ h room

/-! ## Terms -/

mutual

/-- The bound on a term refuses nothing that is shallow in the end. -/
theorem term_guards (scope : Scope) (t : Term) :
    Guards n Expr.depth (term context (some n) scope t) (term context none scope t) := by
  cases t with
  | null | bool | string | guid | dateTime | number =>
    unfold term
    exact .refl _ _
  | path first rest =>
    unfold term
    refine (path_guards first rest).bind (fun source => .refl _ _) fun source e h => ?_
    rw [(eq_of_requireSingle h).1]
  | quantified first rest q position =>
    unfold term
    refine (path_guards first rest).bind (fun source => .andThen _ fun _ => .andThen _ fun e =>
      limitDepth_guards e position) fun source e h => ?_
    obtain ⟨_, -, h⟩ := Except.bind_eq_ok.1 h
    obtain ⟨e', he, h⟩ := Except.bind_eq_ok.1 h
    rw [eq_of_limitDepth h]
    exact emptyQuantifier_depth he
  | lambda first rest q position boundAt bound body =>
    unfold term
    refine (path_guards first rest).bind (fun source => .andThen _ fun item => .andThen _ fun _ =>
      (term_guards _ body).bind (fun inner => .andThen _ fun e => limitDepth_guards _ position) ?_) ?_
    · intro inner e h
      obtain ⟨fitted, hf, h⟩ := Except.bind_eq_ok.1 h
      obtain ⟨t, rfl⟩ := expectBoolean_retyped hf
      rw [eq_of_limitDepth h, ← Expr.depth_withType t inner]
      exact (quantify_depth q source.expr _ _).2
    · intro source e h
      obtain ⟨_, -, h⟩ := Except.bind_eq_ok.1 h
      obtain ⟨_, -, h⟩ := Except.bind_eq_ok.1 h
      obtain ⟨_, -, h⟩ := Except.bind_eq_ok.1 h
      obtain ⟨_, -, h⟩ := Except.bind_eq_ok.1 h
      rw [eq_of_limitDepth h]
      exact (quantify_depth q source.expr _ _).1
  | call start function args =>
    unfold term
    refine .andThen _ fun callee => ?_
    refine (arguments_guards scope args callee.2.params).bind (fun es => limitDepth_guards _ start)
      fun es e h => ?_
    rw [eq_of_limitDepth h, Expr.depth]
    exact Nat.le_add_left ..
  | unary position op operand =>
    unfold term
    refine (term_guards scope operand).bind (fun _ => .andThen _ fun e =>
      limitDepth_guards e position) fun operand' e h => ?_
    obtain ⟨e', he, h⟩ := Except.bind_eq_ok.1 h
    rw [eq_of_limitDepth h]
    exact unary_depth he
  | binary position op left right =>
    unfold term
    refine (term_guards scope left).bind (fun left' => (term_guards scope right).bind
      (fun right' => .andThen _ fun e => limitDepth_guards e position) ?_) ?_
    · intro right' e h
      obtain ⟨e', he, h⟩ := Except.bind_eq_ok.1 h
      rw [eq_of_limitDepth h]
      exact (binary_depth he).2
    · intro left' e h
      obtain ⟨_, -, h⟩ := Except.bind_eq_ok.1 h
      obtain ⟨e', he, h⟩ := Except.bind_eq_ok.1 h
      rw [eq_of_limitDepth h]
      exact (binary_depth he).1
  | group _ inner =>
    unfold term
    exact term_guards scope inner

/-- An argument is checked before it is fitted, which may put a conversion above it. -/
theorem arguments_guards (scope : Scope) (args : List Term) (params : List PrimitiveType) :
    Guards n Expr.depthOfAll (arguments context (some n) scope args params)
      (arguments context none scope args params) := by
  cases args with
  | nil => exact .refl _ _
  | cons arg args =>
    cases params with
    | nil => exact .refl _ _
    | cons param params =>
      unfold arguments
      refine (term_guards scope arg).bind (fun e => .andThen _ fun fitted =>
        (arguments_guards scope args params).bind (fun more => .refl _ _) ?_) ?_
      · intro more es h
        cases h
        exact Nat.le_max_right ..
      · intro e es h
        obtain ⟨fitted, hf, h⟩ := Except.bind_eq_ok.1 h
        obtain ⟨more, -, h⟩ := Except.bind_eq_ok.1 h
        cases h
        exact (coerce_fitted hf).depth_le.trans (Nat.le_max_left ..)

end

/-- A bound term is no deeper than the limit, if the limit leaves room for a leaf. -/
theorem Binds.depth_le {t : Term} {e : Expr} (h : Binds context (some n) scope t e)
    (room : 0 < n) : e.depth ≤ n := by
  induction h with
  | null | bool | string | guid | dateTime | number => exact room
  | path spine => exact path_depth room spine
  | anyItem _ _ admitted | unary _ _ admitted => exact depth_of_limitDepth admitted
  | call _ _ _ admitted | binary _ _ _ admitted => exact depth_of_limitDepth admitted
  | lambda _ _ _ _ _ admitted => exact depth_of_limitDepth admitted
  | group _ ih => exact ih

/-- A bound with room for a leaf refuses exactly the terms whose expression is too deep. -/
theorem term_eq_ok_iff (room : 0 < n) {t : Term} {e : Expr} :
    term context (some n) scope t = .ok e ↔ term context none scope t = .ok e ∧ e.depth ≤ n :=
  ⟨fun h => ⟨(term_guards scope t).sound e h, (term_binds scope t h).depth_le room⟩,
    fun h => (term_guards scope t).complete e h.1 h.2⟩

end Binding

end RecordQuery
