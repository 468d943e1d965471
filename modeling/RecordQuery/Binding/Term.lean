import RecordQuery.Binding.Literal
import RecordQuery.Binding.Path

/-!
# Binding terms

The names of a term are looked up in a schema and its operands are fitted together, which gives an
expression. Operands are bound from left to right and before their operator, and the first error
counts.

## Main definitions

* `Binding.term`: the expression of a term.
-/

namespace RecordQuery.Binding

open Grammar (Quantifier Segment Term)

/-- The type of the items that a quantifier ranges over. -/
def itemType (source : Expr) (position : Nat) : Result TypeRef :=
  match source.type with
  | .collection element => .ok element
  | other => .error (.typeMismatch .collection other position)

/-- A quantifier without a body, which must be `any`. -/
def emptyQuantifier (q : Quantifier) (source : Expr) (position : Nat) : Result Expr :=
  match q with
  | .any => .ok (.any .boolean source none none)
  | .all => .error (.missingLambdaBody position)

/-- A quantifier with a range variable and a body. -/
def quantify (q : Quantifier) (source : Expr) (bound : String) (body : Expr) : Expr :=
  match q with
  | .any => .any .boolean source (some bound) (some body)
  | .all => .all .boolean source bound body

/-- Require that a range variable is new. -/
def requireFresh (scope : Scope) (bound : String) (position : Nat) : Result Unit :=
  if (scope.lookup bound).isSome then .error (.duplicateRangeVariable bound position) else .ok ()

/-- The function of a call, with its signature, if the number of arguments is right. -/
def callee (function : List Char) (count position : Nat) : Result (Builtin × Signature) :=
  let name := String.ofList function
  match Builtin.ofText? name with
  | none => .error (.unknownFunction name position)
  | some f =>
    match f.signature? with
    | none => .error (.unknownFunction name position)
    | some s =>
      if s.accepts count then .ok (f, s)
      else .error (.arityMismatch name s.least s.most count position)

mutual

/-- The expression of a term. -/
def term (context : QueryContext) (limit : Bounds) (scope : Scope) : Term → Result Expr
  | .null _ => .ok (.ofValue .null)
  | .bool _ b => .ok (.ofValue (.bool b))
  | .string _ body => .ok (.ofValue (.string (String.ofList (stringValue body))))
  | .guid start body => do
    let v ← constantOr .guid body start ((Guid.ofText? body).map .guid)
    return .ofValue v
  | .dateTime start body => do
    let v ← constantOr .dateTime body start ((DateTime.ofText? body).map .dateTime)
    return .ofValue v
  | .number start text => do
    let v ← constantOr .number text start (numberValue? text)
    return .ofValue v
  | .path first rest => do
    let source ← path context limit scope first rest
    requireSingle source
  | .quantified first rest q position => do
    let source ← path context limit scope first rest
    let _ ← itemType source.expr position
    let e ← emptyQuantifier q source.expr position
    limitDepth limit e position
  | .lambda first rest q position boundAt bound body => do
    let source ← path context limit scope first rest
    let item ← itemType source.expr position
    let name := String.ofList bound
    requireFresh scope name boundAt
    let inner ← term context limit ((name, item) :: scope) body
    let inner ← expectBoolean inner body.start
    limitDepth limit (quantify q source.expr name inner) position
  | .call start function args => do
    let (f, s) ← callee function args.length start
    let bound ← arguments context limit scope args s.params
    limitDepth limit (.call (.primitive s.returns) f bound) start
  | .unary position op operand => do
    let operand ← term context limit scope operand
    let e ← unary op operand position
    limitDepth limit e position
  | .binary position op left right => do
    let left ← term context limit scope left
    let right ← term context limit scope right
    let e ← binary op left right position
    limitDepth limit e position
  | .group _ inner => term context limit scope inner

/-- The expressions of arguments, fitted to the types of their parameters. -/
def arguments (context : QueryContext) (limit : Bounds) (scope : Scope) :
    List Term → List PrimitiveType → Result (List Expr)
  | arg :: args, param :: params => do
    let e ← term context limit scope arg
    let e ← coerce e param arg.start
    let more ← arguments context limit scope args params
    return e :: more
  | _, _ => .ok []

end

end RecordQuery.Binding
