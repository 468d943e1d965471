import RecordQuery.Policy.Basic
import RecordQuery.Validate.Hooks

/-!
# Validation of expressions

An expression is visited depth first: a node before its operands, sources before the bodies of
quantifiers, left operands before right ones and arguments in order. At each operator, call and
quantifier the policy is asked, after the hooks of the node and before its operands; the first
refusal ends the visit.

## Main definitions

* `Expr.validateWith`: validation under a policy, with hooks.
* `Expr.validate`: validation under a policy.
-/

namespace RecordQuery

/-- Go on if something is allowed. -/
def allow {σ : Type} (allowed : Bool) (refusal : ValidationError) : Walk σ Unit :=
  if allowed then pure () else throw refusal

namespace Expr

variable {σ : Type}

/-- The entry for a property. -/
def propertyEntry (p : Property) : Entry :=
  if p.isCollection then .collection p.name else .single p.name

/-- The entry for the class of a binary operator. -/
def classEntry (op : BinaryOperator) : Entry :=
  if op.isArithmetic then .arithmetic op else .logical op

mutual

/-- Visit an expression under a policy. -/
def validateWith (h : Hooks σ) (p : Policy) (e : Expr) : Walk σ Unit := do
  h.enter (.node e)
  match e with
  | .constant _ v => h.enter (.constant v)
  | .range _ name => h.enter (.range name)
  | .property _ source q => do
    h.enter (propertyEntry q)
    validateWith h p source
  | .cast _ source target => do
    h.enter (.cast target)
    validateWith h p source
  | .binary _ op left right => do
    h.enter (.binary op)
    h.enter (classEntry op)
    allow (p.allowsOperator op.tag) op.tag.notAllowed
    validateWith h p left
    validateWith h p right
  | .unary _ op operand => do
    h.enter (.unary op)
    allow (p.allowsOperator op.tag) op.tag.notAllowed
    validateWith h p operand
  | .call _ f args => do
    h.enter (.call f)
    allow (p.functions.contains f) (.functionNotAllowed f)
    validateAllWith h p args
  | .convert target operand => do
    h.enter (.convert target)
    validateWith h p operand
  | .any _ source bound none => do
    h.enter (.any bound)
    allow (p.functions.contains .any) (.functionNotAllowed .any)
    validateWith h p source
  | .any _ source bound (some body) => do
    h.enter (.any bound)
    allow (p.functions.contains .any) (.functionNotAllowed .any)
    validateWith h p source
    validateWith h p body
  | .all _ source bound body => do
    h.enter (.all bound)
    allow (p.functions.contains .all) (.functionNotAllowed .all)
    validateWith h p source
    validateWith h p body

/-- Visit some expressions in turn. -/
def validateAllWith (h : Hooks σ) (p : Policy) : List Expr → Walk σ Unit
  | [] => pure ()
  | e :: rest => do
    validateWith h p e
    validateAllWith h p rest

end

/-- What a policy refuses in an expression first, if anything. -/
def validate (p : Policy) (e : Expr) : Except ValidationError Unit :=
  (validateWith Hooks.stock p e () : Except ValidationError Unit × Unit).1

end Expr

end RecordQuery
