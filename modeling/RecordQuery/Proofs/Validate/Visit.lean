import RecordQuery.Proofs.Expr.Part
import RecordQuery.Validate.Expr

/-!
# The order of a visit

Validation goes through the nodes of an expression in order. At each node it calls the hooks of the
node, and then asks the policy. So a visit calls the hooks of the nodes up to the first one that the
policy refuses, and ends with that refusal.

## Main definitions

* `Policy.refusal?`: what a policy has against a node.
* `Expr.entries`, `Expr.listing`: the hooks of a node, and those of all nodes in order.
* `Expr.reached`: the nodes up to the first one that a policy refuses.

## Main statements

* `Expr.validateWith_eq_forM`: a visit goes through the nodes in order.
* `Expr.validateWith_eq_enterAll`: a visit calls the hooks of the nodes that it reaches.
-/

namespace RecordQuery

/-! ## Refusals -/

namespace Policy

/-- An error unless something is allowed. -/
def refuseUnless (allowed : Bool) (error : ValidationError) : Option ValidationError :=
  if allowed then none else some error

@[simp] theorem refuseUnless_eq_none {allowed : Bool} {error : ValidationError} :
    refuseUnless allowed error = none ↔ allowed = true := by
  cases allowed <;> simp [refuseUnless]

@[simp] theorem refuseUnless_eq_some {allowed : Bool} {error found : ValidationError} :
    refuseUnless allowed error = some found ↔ allowed = false ∧ error = found := by
  cases allowed <;> simp [refuseUnless]

/-- The error for a node, found through the tag of its operator. -/
def refusal? (p : Policy) : Expr → Option ValidationError
  | .binary _ op _ _ => refuseUnless (p.allowsOperator op.tag) op.tag.notAllowed
  | .unary _ op _ => refuseUnless (p.allowsOperator op.tag) op.tag.notAllowed
  | .call _ f _ => refuseUnless (p.functions.contains f) (.functionNotAllowed f)
  | .any .. => refuseUnless (p.functions.contains .any) (.functionNotAllowed .any)
  | .all .. => refuseUnless (p.functions.contains .all) (.functionNotAllowed .all)
  | _ => none

end Policy

namespace Walk

variable {σ : Type}

/-- A walk that ends with an error, if there is one. -/
def refuse : Option ValidationError → Walk σ Unit
  | none => pure ()
  | some error => throw error

@[simp] theorem refuse_none : (refuse none : Walk σ Unit) = pure () := rfl

@[simp] theorem refuse_refuseUnless (allowed : Bool) (error : ValidationError) :
    (refuse (Policy.refuseUnless allowed error) : Walk σ Unit) = allow allowed error := by
  cases allowed <;> rfl

@[simp] theorem refuse_some (error : ValidationError) :
    (refuse (some error) : Walk σ Unit) = throw error := rfl

end Walk

variable {σ : Type} {h : Hooks σ} {p : Policy}

/-- Call the hooks for some entries in turn. -/
def Hooks.enterAll (h : Hooks σ) (entries : List Entry) : Walk σ Unit := entries.forM h.enter

theorem Hooks.enterAll_nil : h.enterAll [] = pure () := rfl

theorem Hooks.enterAll_cons (entry : Entry) (rest : List Entry) :
    h.enterAll (entry :: rest) = h.enter entry >>= fun _ => h.enterAll rest := rfl

theorem Hooks.enterAll_append (front back : List Entry) :
    h.enterAll (front ++ back) = h.enterAll front >>= fun _ => h.enterAll back := by
  simp [enterAll]

namespace Expr

/-! ## The hooks of an expression -/

/-- The hooks of a node: the one for every node, then those for its kind. -/
def entries (n : Expr) : List Entry :=
  .node n :: match n with
    | constant _ v => [.constant v]
    | range _ name => [.range name]
    | property _ _ q => [propertyEntry q]
    | cast _ _ target => [.cast target]
    | binary _ op _ _ => [.binary op, classEntry op]
    | unary _ op _ => [.unary op]
    | call _ f _ => [.call f]
    | convert target _ => [.convert target]
    | any _ _ bound _ => [.any bound]
    | all _ _ bound _ => [.all bound]

/-- The hooks of all nodes in the order of a visit. -/
def listing (e : Expr) : List Entry := e.preorder.flatMap entries

/-! ## The nodes in order -/

/-- What a visit does at a node before it goes on to the children. -/
def enterNode (h : Hooks σ) (p : Policy) (n : Expr) : Walk σ Unit := do
  h.enterAll n.entries
  Walk.refuse (p.refusal? n)

theorem validateAllWith_eq_forM (es : List Expr) :
    validateAllWith h p es = es.forM (validateWith h p) := by
  induction es with
  | nil => simp [validateAllWith]
  | cons e rest ih => simp [validateAllWith, ih]

/-- One step of a visit: the node, then the children in turn. -/
theorem validateWith_step (e : Expr) :
    e.validateWith h p = enterNode h p e >>= fun _ => e.children.forM (validateWith h p) := by
  unfold enterNode
  cases e with
  | any _ source bound body =>
    cases body <;>
      simp [validateWith, entries, children, Policy.refusal?, Hooks.enterAll_cons,
        Hooks.enterAll_nil]
  | _ =>
    simp [validateWith, entries, children, Policy.refusal?, Hooks.enterAll_cons,
      Hooks.enterAll_nil, validateAllWith_eq_forM]

/-- The visit of some expressions in turn goes through their nodes if the visit of each does. -/
theorem forM_validateWith {es : List Expr}
    (each : ∀ e ∈ es, e.validateWith h p = e.preorder.forM (enterNode h p)) :
    es.forM (validateWith h p) = (es.flatMap preorder).forM (enterNode h p) := by
  induction es with
  | nil => rfl
  | cons e rest ih =>
    have first := each e List.mem_cons_self
    have others := ih fun c hc => each c (List.mem_cons_of_mem _ hc)
    calc (e :: rest).forM (validateWith h p)
        = validateWith h p e >>= fun _ => rest.forM (validateWith h p) := rfl
      _ = e.preorder.forM (enterNode h p) >>= fun _ =>
            (rest.flatMap preorder).forM (enterNode h p) := by rw [first, others]
      _ = (e.preorder ++ rest.flatMap preorder).forM (enterNode h p) := List.forM_append.symm

/-- A visit goes through the nodes in order. -/
theorem validateWith_eq_forM (e : Expr) :
    e.validateWith h p = e.preorder.forM (enterNode h p) := by
  induction e using childInduction with
  | step e ih =>
    rw [validateWith_step, forM_validateWith ih, preorder_eq_cons]
    rfl

/-! ## The nodes that are reached -/

/-- The first refusal among some nodes. -/
def firstRefusal? (p : Policy) (nodes : List Expr) : Option ValidationError :=
  nodes.findSome? p.refusal?

/-- The nodes up to the first one that a policy refuses. -/
def reached (p : Policy) : List Expr → List Expr
  | [] => []
  | n :: rest => if (p.refusal? n).isSome then [n] else n :: reached p rest

theorem reached_cons_of_refusal {n : Expr} {rest : List Expr} {error : ValidationError}
    (refuses : p.refusal? n = some error) : reached p (n :: rest) = [n] := by
  simp [reached, refuses]

theorem reached_cons (p : Policy) (n : Expr) (rest : List Expr) :
    ∃ more, reached p (n :: rest) = n :: more := by
  unfold reached
  split
  · exact ⟨[], rfl⟩
  · exact ⟨_, rfl⟩

theorem reached_append {nodes rest : List Expr} (permits : ∀ m ∈ nodes, p.refusal? m = none) :
    reached p (nodes ++ rest) = nodes ++ reached p rest := by
  induction nodes with
  | nil => rfl
  | cons n others ih =>
    obtain ⟨permitted, permits⟩ := List.forall_mem_cons.1 permits
    simp [reached, permitted, ih permits]

theorem reached_prefix (p : Policy) (nodes : List Expr) : reached p nodes <+: nodes := by
  induction nodes with
  | nil => exact List.prefix_rfl
  | cons n rest ih =>
    unfold reached
    split
    · exact List.prefix_append [n] rest
    · exact List.cons_prefix_cons.2 ⟨rfl, ih⟩

theorem reached_of_firstRefusal? {nodes : List Expr} (passes : firstRefusal? p nodes = none) :
    reached p nodes = nodes := by
  have whole : reached p (nodes ++ []) = nodes ++ reached p [] :=
    reached_append (List.findSome?_eq_none_iff.1 passes)
  simpa [reached] using whole

/-- A visit calls the hooks of the nodes that it reaches, and ends with the first refusal. -/
theorem forM_enterNode (nodes : List Expr) : nodes.forM (enterNode h p) =
    h.enterAll ((reached p nodes).flatMap entries) >>= fun _ =>
      Walk.refuse (firstRefusal? p nodes) := by
  induction nodes with
  | nil => rfl
  | cons n rest ih =>
    have step : (n :: rest).forM (enterNode h p) =
        enterNode h p n >>= fun _ => rest.forM (enterNode h p) := rfl
    rw [step, ih, enterNode]
    cases refusal : p.refusal? n with
    | none => simp [reached, firstRefusal?, refusal, Hooks.enterAll_append]
    | some error => simp [reached, firstRefusal?, refusal]

theorem validateWith_eq_enterAll (e : Expr) : e.validateWith h p =
    h.enterAll ((reached p e.preorder).flatMap entries) >>= fun _ =>
      Walk.refuse (firstRefusal? p e.preorder) := by
  rw [validateWith_eq_forM, forM_enterNode]

end Expr

end RecordQuery
