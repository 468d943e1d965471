import RecordQuery.Expr.Basic

/-!
# The nodes of an expression

The nodes of an expression are the expression itself and the nodes of its children. Their order is
that of a visit that goes depth first: a node before its children, a source before the body of its
quantifier, a left operand before the right one, and arguments as they are listed.

## Main definitions

* `Expr.children`: the expressions right below a node.
* `Expr.Part`: whether an expression occurs anywhere in another one.
* `Expr.preorder`: all nodes in the order of the visit.
* `Expr.CastOfElement`: whether an expression is the element of the query, through any casts.
-/

namespace RecordQuery.Expr

/-- The expressions right below a node, in the order of a visit. -/
def children : Expr → List Expr
  | constant .. | range .. => []
  | property _ source _ | cast _ source _ => [source]
  | binary _ _ left right => [left, right]
  | unary _ _ operand | convert _ operand => [operand]
  | call _ _ args => args
  | any _ source _ none => [source]
  | any _ source _ (some body) => [source, body]
  | all _ source _ body => [source, body]

/-- The property that an access reads. -/
def accessed? : Expr → Option Property
  | property _ _ p => some p
  | _ => none

/-- `Part n e`: the node `n` occurs in `e`. -/
inductive Part : Expr → Expr → Prop
  | self (e : Expr) : Part e e
  | child {n c e : Expr} (mem : c ∈ e.children) (part : Part n c) : Part n e

mutual

/-- The nodes of an expression in the order of a visit. -/
def preorder (e : Expr) : List Expr :=
  e :: match e with
    | constant .. | range .. => []
    | property _ source _ | cast _ source _ => preorder source
    | binary _ _ left right => preorder left ++ preorder right
    | unary _ _ operand | convert _ operand => preorder operand
    | call _ _ args => preorderAll args
    | any _ source _ none => preorder source
    | any _ source _ (some body) => preorder source ++ preorder body
    | all _ source _ body => preorder source ++ preorder body

/-- The nodes of some expressions in turn. -/
def preorderAll : List Expr → List Expr
  | [] => []
  | e :: rest => preorder e ++ preorderAll rest

end

/-! ## Induction over the children -/

theorem sizeOf_lt_of_mem_children {c e : Expr} (h : c ∈ e.children) : sizeOf c < sizeOf e := by
  cases e with
  | constant | range => cases h
  | call _ _ args =>
    have := List.sizeOf_lt_of_mem (show c ∈ args from h)
    simp only [call.sizeOf_spec]
    omega
  | any _ source _ body => cases body <;> grind [children]
  | _ => grind [children]

/-- What holds of a node whenever it holds of all its children holds of every expression. -/
theorem childInduction {motive : Expr → Prop}
    (step : ∀ e, (∀ c ∈ e.children, motive c) → motive e) (e : Expr) : motive e :=
  step e fun c h => have := sizeOf_lt_of_mem_children h; childInduction step c
termination_by sizeOf e

/-! ## The order of a visit -/

theorem preorderAll_eq_flatMap (es : List Expr) : preorderAll es = es.flatMap preorder := by
  induction es with
  | nil => simp [preorderAll]
  | cons e rest ih => simp [preorderAll, ih]

theorem preorder_eq_cons (e : Expr) : e.preorder = e :: e.children.flatMap preorder := by
  cases e with
  | any _ source _ body => cases body <;> simp [preorder, children]
  | _ => simp [preorder, children, preorderAll_eq_flatMap]

/-- The visit reaches the nodes that occur in the expression, and no others. -/
theorem mem_preorder {n e : Expr} : n ∈ e.preorder ↔ n.Part e := by
  constructor
  · intro h
    induction e using childInduction with
    | step e ih =>
      rw [preorder_eq_cons, List.mem_cons, List.mem_flatMap] at h
      obtain rfl | ⟨c, hc, hn⟩ := h
      · exact .self n
      · exact .child hc (ih c hc hn)
  · intro h
    induction h with
    | self => rw [preorder_eq_cons]; exact List.mem_cons_self
    | child mem _ ih =>
      rw [preorder_eq_cons]
      exact List.mem_cons_of_mem _ (List.mem_flatMap.2 ⟨_, mem, ih⟩)

/-! ## The element -/

/-- Whether an expression is the element of the query, through any number of casts. -/
inductive CastOfElement : Expr → Prop
  | element (type : TypeRef) : CastOfElement (.range type elementName)
  | cast {source : Expr} (type : TypeRef) (target : String) (inner : CastOfElement source) :
      CastOfElement (.cast type source target)

theorem isElement_iff (e : Expr) : e.isElement ↔ e.CastOfElement := by
  constructor
  · intro h
    fun_induction isElement e with
    | case1 type name =>
      rw [eq_of_beq h]
      exact .element type
    | case2 type source target ih => exact .cast type target (ih h)
    | case3 => cases h
  · intro h
    induction h with
    | element => exact beq_self_eq_true _
    | cast _ _ _ ih => exact ih

end RecordQuery.Expr
