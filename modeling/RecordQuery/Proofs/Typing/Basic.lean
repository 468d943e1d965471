import RecordQuery.Binding.Path

/-!
# Typing rules

The rules that a bound expression obeys in a scope. Each kind of node has a rule of its own, and the
rules for quantifiers are the only ones that extend the scope.

An untyped null has the type `null` until an operand next to it gives it a primitive type. The same
happens to a range variable or a property that was declared untyped.

## Main definitions

* `TypeRef.Adopts`: the type that a declared type may have turned into.
* `PrimitiveType.Narrower`: whether one numeric type is strictly narrower than another one.
* `WellTyped`: the rules.
-/

namespace RecordQuery

open Binding (Scope)

/-! ## Types -/

/-- `declared.Adopts t`: the type `t` is the declared one, or it is primitive and was given to
something untyped. -/
inductive TypeRef.Adopts : TypeRef → TypeRef → Prop
  | same (t : TypeRef) : Adopts t t
  | null (p : PrimitiveType) : Adopts .null (.primitive p)

/-- Whether both types are numeric and the first one stands before the second in the chain. -/
def PrimitiveType.Narrower (p target : PrimitiveType) : Prop :=
  ∃ i j, p.numericRank? = some i ∧ target.numericRank? = some j ∧ i < j

/-- Whether a name differs from all names in scope. -/
def Binding.Scope.Fresh (scope : Scope) (name : String) : Prop := ∀ entry ∈ scope, entry.1 ≠ name

theorem Binding.Scope.fresh_iff {scope : Scope} {name : String} :
    scope.Fresh name ↔ scope.lookup name = none := by
  rw [List.lookup_eq_none_iff]
  refine forall₂_congr fun entry _ => ?_
  rw [bne_iff_ne, ne_comm]

/-! ## Rules -/

/-- `WellTyped context scope e`: the expression `e` obeys the rules in a scope. -/
inductive WellTyped (context : QueryContext) : Scope → Expr → Prop
  | constant {scope v p} (kind : v.primitiveType? = some p) :
      WellTyped context scope (.constant (.primitive p) v)
  | null {scope t} (adopts : TypeRef.Adopts .null t) : WellTyped context scope (.constant t .null)
  | range {scope name declared t} (bound : scope.lookup name = some declared)
      (adopts : declared.Adopts t) : WellTyped context scope (.range t name)
  | property {scope source owner p t} (typed : WellTyped context scope source)
      (single : source.type = .structured owner)
      (resolved : context.model.resolveProperty? owner p.name = some p)
      (adopts : p.type.Adopts t) : WellTyped context scope (.property t source p)
  | cast {scope source owner target} (typed : WellTyped context scope source)
      (single : source.type = .structured owner) (declared : (context.model.find? target).isSome)
      (related : context.model.related target owner) :
      WellTyped context scope (.cast (.structured target) source target)
  | castItems {scope source owner target} (typed : WellTyped context scope source)
      (items : source.type = .collection (.structured owner))
      (declared : (context.model.find? target).isSome)
      (related : context.model.related target owner) :
      WellTyped context scope (.cast (.collection (.structured target)) source target)
  | connective {scope op left right} (connects : op = .and ∨ op = .or)
      (left_typed : WellTyped context scope left) (right_typed : WellTyped context scope right)
      (left_boolean : left.type = .boolean) (right_boolean : right.type = .boolean) :
      WellTyped context scope (.binary .boolean op left right)
  | comparison {scope op left right} (compares : op.isComparison)
      (left_typed : WellTyped context scope left) (right_typed : WellTyped context scope right)
      (same : left.type = right.type)
      (scalar : left.type = .null ∨ ∃ p, left.type = .primitive p) :
      WellTyped context scope (.binary .boolean op left right)
  | arithmetic {scope op left right p} (computes : op.isArithmetic) (numeric : p.isNumeric)
      (left_typed : WellTyped context scope left) (right_typed : WellTyped context scope right)
      (left_numeric : left.type = .primitive p) (right_numeric : right.type = .primitive p) :
      WellTyped context scope (.binary (.primitive p) op left right)
  | not {scope operand} (typed : WellTyped context scope operand)
      (boolean : operand.type = .boolean) :
      WellTyped context scope (.unary .boolean .not operand)
  | negate {scope operand p} (typed : WellTyped context scope operand) (numeric : p.isNumeric)
      (same : operand.type = .primitive p) :
      WellTyped context scope (.unary (.primitive p) .negate operand)
  | call {scope f s args} (signature : f.signature? = some s) (arity : s.accepts args.length)
      (typed : ∀ a ∈ args, WellTyped context scope a)
      (fits : args.map Expr.type = (s.params.take args.length).map .primitive) :
      WellTyped context scope (.call (.primitive s.returns) f args)
  | convert {scope target operand p} (typed : WellTyped context scope operand)
      (from_numeric : operand.type = .primitive p) (wider : p.Narrower target) :
      WellTyped context scope (.convert target operand)
  | anyItem {scope source item} (typed : WellTyped context scope source)
      (collection : source.type = .collection item) :
      WellTyped context scope (.any .boolean source none none)
  | any {scope source item bound body} (typed : WellTyped context scope source)
      (collection : source.type = .collection item) (fresh : scope.Fresh bound)
      (body_typed : WellTyped context ((bound, item) :: scope) body)
      (boolean : body.type = .boolean) :
      WellTyped context scope (.any .boolean source (some bound) (some body))
  | all {scope source item bound body} (typed : WellTyped context scope source)
      (collection : source.type = .collection item) (fresh : scope.Fresh bound)
      (body_typed : WellTyped context ((bound, item) :: scope) body)
      (boolean : body.type = .boolean) :
      WellTyped context scope (.all .boolean source bound body)

end RecordQuery
