import RecordQuery.Json.Basic
import RecordQuery.Schema.Type

/-!
# Types as JSON

A type is stored as an object with one member, whose name tells the kind of the type; the type of
`null` is the string `Null`.

## Main definitions

* `TypeRef.toJson`, `TypeRef.ofJson?`: writing and reading.
-/

namespace RecordQuery.TypeRef

/-- The stored form of a type. -/
def toJson : TypeRef → Json
  | null => .string "Null"
  | primitive p => .tagged "Primitive" (.string p.name)
  | structured name => .tagged "Structured" (.string name)
  | collection element => .tagged "Collection" element.toJson

/-- The type of a stored form. -/
def ofJson? : Json → Option TypeRef
  | .string "Null" => some null
  | .object [("Primitive", .string name)] => (PrimitiveType.ofName? name).map primitive
  | .object [("Structured", .string name)] => some (structured name)
  | .object [("Collection", element)] => (ofJson? element).map collection
  | _ => none

end RecordQuery.TypeRef
