import RecordQuery.ParseError
import RecordQuery.Schema.Build
import RecordQuery.Text.Path

/-!
# Paths through a schema

A path is a list of segments between slashes. A segment with a point in it is a cast to the type of
that name, any other one a property of the type reached so far.

## Main definitions

* `Model.resolveCast`: the type that a cast leads to.
* `Model.resolvePath`: the properties on a path.
-/

namespace RecordQuery.Model

/-- The type that a cast leads to: a declared type on a chain with the type it starts from. -/
def resolveCast (m : Model) (source target : String) (position : Nat) :
    Except ParseError StructuredType :=
  match m.find? target with
  | none => .error (.unknownType target position)
  | some t =>
    if m.related target source then .ok t else .error (.invalidCast source target position)

/-- The properties on the segments of a path, from a type and the last property before them. -/
def resolveSegments (m : Model) (current : TypeRef) (last : Option Property) (position : Nat) :
    List (List Char) → Except ParseError (List Property)
  | [] => .ok []
  | segment :: rest =>
    let name := String.ofList segment
    let next := position + Text.byteLength segment + 1
    let isCast := segment.contains '.'
    match last, current.isCollection && !isCast with
    | some p, true => .error (.collectionNotQuantified p.name position)
    | _, _ =>
      match current.structuredName? with
      | none => .error (.unknownProperty name current.text position)
      | some owner =>
        if isCast then do
          let target ← m.resolveCast owner name position
          m.resolveSegments (current.castTo target.name) last next rest
        else match m.resolveProperty? owner name with
          | none => .error (.unknownProperty name owner position)
          | some p => do
            let more ← m.resolveSegments p.type (some p) next rest
            return p :: more

/-- The properties on a path that starts at a type, one for every segment that is no cast. -/
def resolvePath (m : Model) (owner path : String) : Except ParseError (List Property) :=
  m.resolveSegments (.structured owner) none 0 (Text.segments '/' path.toList)

end RecordQuery.Model
