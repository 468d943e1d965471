import RecordQuery.Schema.Type

/-!
# Schemas

A model is a set of structured types, each with properties of its own and at most one base type
whose properties it inherits. The types are kept in the order of their names.

## Main definitions

* `Property`, `StructuredType`, `Model`: the parts of a schema.
* `Model.hierarchy`: a type and its base types.
* `Model.isSubtype`: whether one type derives from another one.
* `Model.resolveProperty?`: the property that a name stands for on a type.
-/

namespace RecordQuery

/-- A declared property. The declaring type and the name identify it. -/
structure Property where
  declaring : String
  name : String
  type : TypeRef
  deriving DecidableEq, Repr, Inhabited

namespace Property

/-- What identifies a property, however it was reached. -/
def identity (p : Property) : String × String := (p.declaring, p.name)

/-- Whether two properties are the same one. -/
def same (p q : Property) : Bool := p.identity == q.identity

def isCollection (p : Property) : Bool := p.type.isCollection

end Property

/-- Whether values of a type have an identity of their own. -/
inductive TypeKind where
  | entity
  | complex
  deriving DecidableEq, Repr, Inhabited

def TypeKind.name : TypeKind → String
  | entity => "Entity"
  | complex => "Complex"

/-- A structured type with the properties that it declares itself. -/
structure StructuredType where
  name : String
  kind : TypeKind
  base : Option String
  properties : List Property
  deriving DecidableEq, Repr, Inhabited

/-- A set of structured types, in the order of their names. -/
structure Model where
  types : List StructuredType
  deriving DecidableEq, Repr, Inhabited

namespace Model

/-- The type with a name. -/
def find? (m : Model) (name : String) : Option StructuredType := m.types.find? (·.name == name)

/-- At most `fuel` types of the chain that starts at a name and follows the base types. -/
def chain (m : Model) : Nat → String → List StructuredType
  | 0, _ => []
  | fuel + 1, name =>
    match m.find? name with
    | none => []
    | some t => t :: (match t.base with
      | none => []
      | some base => m.chain fuel base)

/-- A type followed by its base types, most derived first. No type of a model occurs twice on a
chain, so the number of types bounds its length. -/
def hierarchy (m : Model) (name : String) : List StructuredType := m.chain m.types.length name

/-- Whether `base` is `derived` or one of its base types. -/
def isSubtype (m : Model) (derived base : String) : Bool :=
  (m.hierarchy derived).any (·.name == base)

/-- The property that a name stands for on a type: one of its own or of its base types. -/
def resolveProperty? (m : Model) (owner name : String) : Option Property :=
  (m.hierarchy owner).findSome? fun t => t.properties.find? (·.name == name)

/-- Whether one of two types derives from the other one. -/
def related (m : Model) (a b : String) : Bool := m.isSubtype a b || m.isSubtype b a

end Model

end RecordQuery
