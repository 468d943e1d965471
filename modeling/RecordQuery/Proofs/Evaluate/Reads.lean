import RecordQuery.Proofs.Evaluate.Operator
import RecordQuery.Proofs.Typing.Occurrence

/-!
# What evaluation reads

The value of a node is made of the values of the nodes below it, and a body is evaluated once for
each item of its source. What a well-typed expression evaluates to has its type if every value that
is read on the way is null or of the type that its property was declared with. Nothing else matters
of a record, and values that no property access reads may be of any type.

## Main definitions

* `Evaluate.Reaches`: which nodes the evaluation of an expression comes to, under which bindings.
* `Expr.ReadsAsDeclared`: whether all values that are read are null or of their declared types.
* `Evaluate.Bindings.Fit`: whether range variables are bound to items of their types.

## Main statements

* `WellTyped.value_fits`: well-typed expressions evaluate to null or values of their types.
-/

namespace RecordQuery

open Binding (Scope)
open Evaluate (Bindings value)

variable {context : QueryContext} {scope : Scope} {bindings : Bindings} {r : Record} {m : Model}
  {e : Expr}

namespace Evaluate

/-! ## Nodes and their bindings -/

/-- The nodes right below a node, each under the bindings that it is evaluated with. -/
def steps (r : Record) (m : Model) (bindings : Bindings) : Expr → List (Bindings × Expr)
  | .any _ source (some bound) (some body) | .all _ source bound body =>
    (bindings, source) ::
      (value r m bindings source).items.map fun v => ((bound, v) :: bindings, body)
  | e => e.children.map (bindings, ·)

/-- `Reaches r m bindings e inner n`: the evaluation of the expression `e` under some bindings comes
to the node `n`, and `inner` are the bindings there. -/
inductive Reaches (r : Record) (m : Model) : Bindings → Expr → Bindings → Expr → Prop
  | self (bindings : Bindings) (e : Expr) : Reaches r m bindings e bindings e
  | step {bindings middle inner : Bindings} {e c n : Expr} (mem : (middle, c) ∈ steps r m bindings e)
      (rest : Reaches r m middle c inner n) : Reaches r m bindings e inner n

/-- Whether every range variable in scope that is bound has a value of its type. -/
def Bindings.Fit (bindings : Bindings) (scope : Scope) : Prop :=
  ∀ name type v, scope.lookup name = some type → bindings.lookup name = some v → v.Fits type

theorem Bindings.fit_nil (scope : Scope) : Bindings.Fit [] scope := fun _ _ _ _ found => nomatch found

theorem Bindings.Fit.cons {name : String} {type : TypeRef} {v : Value} (h : bindings.Fit scope)
    (fits : v.Fits type) : Bindings.Fit ((name, v) :: bindings) ((name, type) :: scope) := by
  intro other t w declared found
  rw [List.lookup_cons] at declared found
  split at found
  · rw [‹(other == name) = true›] at declared
    cases declared
    cases found
    exact fits
  · rw [‹(other == name) = false›] at declared
    exact h other t w declared found

/-- The items of a collection have the type of its items. -/
theorem Bindings.Fit.item {name : String} {type item : TypeRef} {source v : Value}
    (h : bindings.Fit scope) (fits : source.Fits type) (collection : type = .collection item)
    (mem : v ∈ source.items) : Bindings.Fit ((name, v) :: bindings) ((name, item) :: scope) :=
  h.cons ((collection ▸ fits).item mem)

theorem value_logical {type : TypeRef} {op : BinaryOperator} {left right : Expr}
    (logical : op.isLogical) : ∃ b, value r m bindings (.binary type op left right) = .bool b := by
  cases op <;> first | exact ⟨_, rfl⟩ | cases logical

theorem value_comparison {type : TypeRef} {op : BinaryOperator} {left right : Expr}
    (compares : op.isComparison) : value r m bindings (.binary type op left right) =
      .bool (comparison op (value r m bindings left) (value r m bindings right)) := by
  cases op <;> first | rfl | cases compares

theorem value_arithmetic {type : TypeRef} {op : BinaryOperator} {left right : Expr}
    (computes : op.isArithmetic) : value r m bindings (.binary type op left right) =
      arithmetic type op (value r m bindings left) (value r m bindings right) := by
  cases op <;> first | rfl | cases computes

/-- A conversion to a wider type has a result. -/
theorem castOrNull_fits {v : Value} {p target : PrimitiveType} (h : v.Fits (.primitive p))
    (wider : p.Narrower target) : (v.castOrNull target).Fits (.primitive target) := by
  obtain rfl | kind := h
  · exact Value.null_fits _
  · obtain ⟨w, cast, kind⟩ := Value.exists_castTo_of_narrower kind wider
    rw [Value.castOrNull, cast]
    exact Value.fits_primitive kind

end Evaluate

/-! ## Reading -/

/-- Whether every value that the evaluation of an expression reads, at any depth, is null or of the
type that its property was declared with. -/
def Expr.ReadsAsDeclared (e : Expr) (r : Record) (m : Model) (bindings : Bindings) : Prop :=
  ∀ inner type source p, Evaluate.Reaches r m bindings e inner (.property type source p) →
    (value r m inner (.property type source p)).Fits p.type

theorem Expr.ReadsAsDeclared.step {middle : Bindings} {c : Expr}
    (h : e.ReadsAsDeclared r m bindings) (mem : (middle, c) ∈ Evaluate.steps r m bindings e) :
    c.ReadsAsDeclared r m middle := fun inner type source p reached =>
  h inner type source p (.step mem reached)

theorem Expr.ReadsAsDeclared.operands {type : TypeRef} {op : BinaryOperator} {left right : Expr}
    (h : (Expr.binary type op left right).ReadsAsDeclared r m bindings) :
    left.ReadsAsDeclared r m bindings ∧ right.ReadsAsDeclared r m bindings :=
  ⟨h.step List.mem_cons_self, h.step (List.mem_cons_of_mem _ List.mem_cons_self)⟩

/-- Well-typed expressions evaluate to null or values of their types. -/
theorem WellTyped.value_fits (typed : WellTyped context scope e) (bound : bindings.Fit scope)
    (reads : e.ReadsAsDeclared r m bindings) : (value r m bindings e).Fits e.type := by
  induction typed generalizing bindings with
  | constant kind => exact Value.fits_primitive kind
  | null => exact Value.null_fits _
  | @range scope name declared t found adopts =>
    unfold value
    cases given : bindings.lookup name with
    | none => exact Value.null_fits _
    | some v => exact (bound name declared v found given).adopt adopts
  | property _ _ _ adopts => exact (reads bindings _ _ _ (.self bindings _)).adopt adopts
  | cast _ single _ _ ih =>
    unfold value
    split
    · exact Value.null_fits _
    · have fits := ih bound (reads.step List.mem_cons_self)
      rwa [single] at fits
  | castItems _ items _ _ ih =>
    unfold value
    split
    · exact Value.null_fits _
    · have fits := ih bound (reads.step List.mem_cons_self)
      rwa [items] at fits
  | @connective _ op _ _ connects =>
    have logical : op.isLogical := by obtain rfl | rfl := connects <;> rfl
    obtain ⟨b, eq⟩ := Evaluate.value_logical logical
    rw [eq]
    exact Value.bool_fits b
  | comparison compares =>
    rw [Evaluate.value_comparison compares]
    exact Value.bool_fits _
  | arithmetic computes =>
    rw [Evaluate.value_arithmetic computes]
    exact Evaluate.arithmetic_fits _ _ _ _
  | not => exact Evaluate.complement_fits _
  | negate _ _ same ih =>
    have fits := ih bound (reads.step List.mem_cons_self)
    rw [same] at fits
    exact Evaluate.negation_fits fits
  | call signature => exact Evaluate.function_fits signature _
  | convert _ same wider ih =>
    have fits := ih bound (reads.step List.mem_cons_self)
    rw [same] at fits
    exact Evaluate.castOrNull_fits fits wider
  | anyItem | any | all => exact Value.bool_fits _

/-- The evaluation of a node comes to the nodes right below it, with bindings that fit their scopes. -/
theorem WellTyped.exists_childrenIn_of_steps {middle : Bindings} {c : Expr}
    (typed : WellTyped context scope e) (bound : bindings.Fit scope)
    (reads : e.ReadsAsDeclared r m bindings) (mem : (middle, c) ∈ Evaluate.steps r m bindings e) :
    ∃ inner, (inner, c) ∈ e.childrenIn scope ∧ middle.Fit inner := by
  have operand : ∀ {children : List Expr}, (middle, c) ∈ children.map (bindings, ·) →
      ∃ inner, (inner, c) ∈ children.map (scope, ·) ∧ middle.Fit inner := by
    intro children mem
    obtain ⟨a, ha, same⟩ := List.mem_map.1 mem
    obtain ⟨rfl, rfl⟩ := Prod.mk.inj same
    exact ⟨scope, List.mem_map_of_mem ha, bound⟩
  cases typed with
  | any typed collection | all typed collection =>
    obtain same | mem := List.mem_cons.1 mem
    · obtain ⟨rfl, rfl⟩ := Prod.mk.inj same
      exact ⟨scope, List.mem_cons_self, bound⟩
    · obtain ⟨v, among, same⟩ := List.mem_map.1 mem
      obtain ⟨rfl, rfl⟩ := Prod.mk.inj same
      have fits := typed.value_fits bound (reads.step List.mem_cons_self)
      refine ⟨_, List.mem_cons_of_mem _ List.mem_cons_self, ?_⟩
      rw [Expr.bodyScope, collection]
      exact bound.item fits collection among
  | _ => exact operand mem

end RecordQuery
