import RecordQuery.Binding.Operand
import RecordQuery.Grammar.Term
import RecordQuery.Schema.Path

/-!
# Resolving paths

A path starts at a range variable in scope or else at the element of the query. Each further segment
is a property of the type reached so far, or a cast of it. A collection ends a path, but for casts
and the quantifier that has to follow.

## Main definitions

* `Binding.Scope`: the range variables in scope.
* `Binding.Bounds`: how deep expressions may be.
* `Binding.path`: the expression of a path, with the text and position of its last segment.
-/

namespace RecordQuery.Binding

open Grammar (Segment)

/-- The range variables in scope and their types, the innermost first. -/
abbrev Scope := List (String × TypeRef)

/-- The scope outside of every quantifier. -/
def Scope.top (context : QueryContext) : Scope :=
  [(elementName, .structured context.element.name)]

/-- The greatest depth that expressions may have, if there is one. -/
abbrev Bounds := Option Nat

/-- Require that an expression is not too deep. -/
def limitDepth (limit : Bounds) (e : Expr) (position : Nat) : Result Expr :=
  match limit with
  | some n => if n < e.depth then .error (.tooDeep n position) else .ok e
  | none => .ok e

/-- What has been read of a path: its expression, and the text and position of the last segment
behind its start. -/
structure PathState where
  expr : Expr
  lastText : List Char
  lastPosition : Nat

/-- Where a path starts, and the segments behind that. -/
def pathStart (context : QueryContext) (scope : Scope) (first : Segment) (rest : List Segment) :
    Expr × List Segment :=
  let element := Expr.element (.structured context.element.name)
  match first with
  | .member _ name =>
    match scope.lookup (String.ofList name) with
    | some type => (.range type (String.ofList name), rest)
    | none => (element, first :: rest)
  | .cast .. => (element, first :: rest)

/-- Add a segment to a path. -/
def addSegment (m : Model) (path : PathState) : Segment → Result Expr
  | .cast position type =>
    match path.expr.type.structuredName? with
    | none => .error (.invalidCast path.expr.type.text (String.ofList type) position)
    | some owner => do
      let target ← m.resolveCast owner (String.ofList type) position
      return .cast (path.expr.type.castTo target.name) path.expr target.name
  | .member position name =>
    match path.expr.type with
    | .collection _ => .error (.collectionNotQuantified (String.ofList path.lastText) position)
    | .structured owner =>
      match m.resolveProperty? owner (String.ofList name) with
      | some p => .ok (.property p.type path.expr p)
      | none => .error (.unknownProperty (String.ofList name) owner position)
    | other => .error (.unknownProperty (String.ofList name) other.text position)

/-- Add segments to a path. -/
def addSegments (m : Model) (limit : Bounds) (path : PathState) : List Segment → Result PathState
  | [] => .ok path
  | segment :: rest => do
    let e ← addSegment m path segment
    let e ← limitDepth limit e segment.position
    addSegments m limit ⟨e, segment.text, segment.position⟩ rest

/-- The expression of a path, which may still be a collection. -/
def path (context : QueryContext) (limit : Bounds) (scope : Scope) (first : Segment)
    (rest : List Segment) : Result PathState :=
  let (start, segments) := pathStart context scope first rest
  addSegments context.model limit ⟨start, [], 0⟩ segments

/-- Require that a path is no collection. -/
def requireSingle (path : PathState) : Result Expr :=
  if path.expr.type.isCollection then
    .error (.collectionNotQuantified (String.ofList path.lastText) path.lastPosition)
  else .ok path.expr

end RecordQuery.Binding
