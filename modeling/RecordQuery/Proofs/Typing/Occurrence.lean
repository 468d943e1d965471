import RecordQuery.Proofs.Expr.Part
import RecordQuery.Proofs.Typing.Basic

/-!
# Nodes in their scopes

A node occurs in an expression under the quantifiers around it, and these extend the scope of the
expression by their range variables. Nodes of well-typed expressions are well typed in their own
scopes.

## Main definitions

* `Expr.childrenIn`: the expressions right below a node, each with its scope.
* `Expr.OccursIn`: whether a node occurs in an expression, in which scope.
* `Expr.nodesIn`: all nodes of an expression, each with its scope.

## Main statements

* `Expr.exists_occursIn_iff_part`: every node of an expression occurs in some scope.
* `WellTyped.node`: nodes of well-typed expressions are well typed.
-/

namespace RecordQuery

open Binding (Scope)

namespace Expr

/-- The scope of the body of a quantifier over a source. -/
def bodyScope (scope : Scope) (source : Expr) (bound : String) : Scope :=
  (bound, source.type.element?.getD .null) :: scope

/-- The expressions right below a node in some scope, each with its scope. -/
def childrenIn (scope : Scope) : Expr → List (Scope × Expr)
  | .any _ source (some bound) (some body) | .all _ source bound body =>
    [(scope, source), (bodyScope scope source bound, body)]
  | e => e.children.map (scope, ·)

theorem map_snd_childrenIn (scope : Scope) (e : Expr) :
    (e.childrenIn scope).map Prod.snd = e.children := by
  unfold childrenIn
  split
  · rfl
  · rfl
  · simp [Function.comp_def]

/-- `e.OccursIn scope inner n`: a node `n` occurs in the expression `e` of some scope, and `inner`
is the scope of the node. -/
inductive OccursIn : Expr → Scope → Scope → Expr → Prop
  | self (e : Expr) (scope : Scope) : OccursIn e scope scope e
  | child {e c n : Expr} {scope middle inner : Scope} (mem : (middle, c) ∈ e.childrenIn scope)
      (occurs : OccursIn c middle inner n) : OccursIn e scope inner n

theorem exists_occursIn_iff_part {e n : Expr} (scope : Scope) :
    (∃ inner, e.OccursIn scope inner n) ↔ n.Part e := by
  constructor
  · rintro ⟨inner, occurs⟩
    induction occurs with
    | self e scope => exact .self e
    | @child e c n scope middle inner mem _ ih =>
      have mem : c ∈ e.children := by
        rw [← map_snd_childrenIn scope]
        exact List.mem_map_of_mem mem
      exact .child mem ih
  · intro part
    induction part generalizing scope with
    | self => exact ⟨scope, .self n scope⟩
    | @child c e mem _ ih =>
      rw [← map_snd_childrenIn scope] at mem
      obtain ⟨⟨middle, c⟩, placed, rfl⟩ := List.mem_map.1 mem
      obtain ⟨inner, occurs⟩ := ih middle
      exact ⟨inner, .child placed occurs⟩

/-! ## All nodes -/

mutual

/-- All nodes of an expression, each with its scope. -/
def nodesIn (scope : Scope) (e : Expr) : List (Scope × Expr) :=
  (scope, e) :: match e with
    | constant .. | range .. => []
    | property _ source _ | cast _ source _ => nodesIn scope source
    | binary _ _ left right => nodesIn scope left ++ nodesIn scope right
    | unary _ _ operand | convert _ operand => nodesIn scope operand
    | call _ _ args => nodesInAll scope args
    | any _ source _ none => nodesIn scope source
    | any _ source none (some body) => nodesIn scope source ++ nodesIn scope body
    | any _ source (some bound) (some body) | all _ source bound body =>
      nodesIn scope source ++ nodesIn (bodyScope scope source bound) body

/-- All nodes of some expressions of one scope. -/
def nodesInAll (scope : Scope) : List Expr → List (Scope × Expr)
  | [] => []
  | e :: rest => nodesIn scope e ++ nodesInAll scope rest

end

theorem nodesInAll_eq_flatMap (scope : Scope) (es : List Expr) :
    nodesInAll scope es = es.flatMap (nodesIn scope) := by
  induction es with
  | nil => simp [nodesInAll]
  | cons e rest ih => simp [nodesInAll, ih]

theorem nodesIn_eq_cons (scope : Scope) (e : Expr) :
    e.nodesIn scope = (scope, e) :: (e.childrenIn scope).flatMap fun (inner, c) => c.nodesIn inner := by
  cases e with
  | any _ source bound body =>
    cases bound <;> cases body <;> simp [nodesIn, childrenIn, children]
  | _ => simp [nodesIn, childrenIn, children, nodesInAll_eq_flatMap, List.flatMap_map]

theorem mem_nodesIn {e n : Expr} {scope inner : Scope} :
    (inner, n) ∈ e.nodesIn scope ↔ e.OccursIn scope inner n := by
  constructor
  · intro h
    induction e using childInduction generalizing scope with
    | step e ih =>
      rw [nodesIn_eq_cons, List.mem_cons, List.mem_flatMap] at h
      obtain here | ⟨⟨middle, c⟩, mem, below⟩ := h
      · obtain ⟨rfl, rfl⟩ := Prod.mk.inj here
        exact .self n inner
      · have child : c ∈ e.children := by
          rw [← map_snd_childrenIn scope]
          exact List.mem_map_of_mem mem
        exact .child mem (ih c child below)
  · intro h
    induction h with
    | self => rw [nodesIn_eq_cons]; exact List.mem_cons_self
    | child mem _ ih =>
      rw [nodesIn_eq_cons]
      exact List.mem_cons_of_mem _ (List.mem_flatMap.2 ⟨_, mem, ih⟩)

end Expr

/-! ## Typing of nodes -/

variable {context : QueryContext} {scope inner : Scope} {e n : Expr}

theorem WellTyped.child {middle : Scope} {c : Expr} (h : WellTyped context scope e)
    (mem : (middle, c) ∈ e.childrenIn scope) : WellTyped context middle c := by
  cases h with
  | constant | null | range => cases mem
  | property typed | cast typed | castItems typed | not typed | negate typed | convert typed
  | anyItem typed =>
    obtain ⟨rfl, rfl⟩ := Prod.mk.inj (List.mem_singleton.1 mem)
    exact typed
  | connective _ left right | comparison _ left right | arithmetic _ _ left right =>
    rcases List.mem_cons.1 mem with eq | mem
    · obtain ⟨rfl, rfl⟩ := Prod.mk.inj eq
      exact left
    · obtain ⟨rfl, rfl⟩ := Prod.mk.inj (List.mem_singleton.1 mem)
      exact right
  | call _ _ typed =>
    obtain ⟨a, ha, eq⟩ := List.mem_map.1 mem
    obtain ⟨rfl, rfl⟩ := Prod.mk.inj eq
    exact typed a ha
  | any typed collection _ body_typed | all typed collection _ body_typed =>
    rcases List.mem_cons.1 mem with eq | mem
    · obtain ⟨rfl, rfl⟩ := Prod.mk.inj eq
      exact typed
    · obtain ⟨rfl, rfl⟩ := Prod.mk.inj (List.mem_singleton.1 mem)
      simpa [Expr.bodyScope, collection, TypeRef.element?] using body_typed

/-- The nodes of a well-typed expression are well typed in their scopes. -/
theorem WellTyped.node (h : WellTyped context scope e) (occurs : e.OccursIn scope inner n) :
    WellTyped context inner n := by
  induction occurs with
  | self => exact h
  | child mem _ ih => exact ih (h.child mem)

end RecordQuery
