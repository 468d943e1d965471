/-!
# Types of the query language

Every expression has a type: a primitive type, a structured type known by its name, a collection,
or the type of the literal `null` that no operand has given a type yet. The numeric primitive
types form a chain, and a narrower one widens to any later one.

## Main definitions

* `PrimitiveType`, `PrimitiveType.promote?`, `PrimitiveType.widensTo`: primitive types and widening.
* `TypeRef`: the types.
* `TypeRef.structuredName?`: the structured type behind at most one collection.
-/

namespace RecordQuery

/-! ## Primitive types -/

inductive PrimitiveType where
  | boolean
  | int16
  | int32
  | int64
  | double
  | string
  | guid
  | dateTime
  deriving DecidableEq, Repr, Inhabited

namespace PrimitiveType

/-- All primitive types. -/
def all : List PrimitiveType := [boolean, int16, int32, int64, double, string, guid, dateTime]

/-- The name of the type alone. -/
def name : PrimitiveType → String
  | boolean => "Boolean"
  | int16 => "Int16"
  | int32 => "Int32"
  | int64 => "Int64"
  | double => "Double"
  | string => "String"
  | guid => "Guid"
  | dateTime => "DateTime"

/-- The name of the type in its namespace. -/
def edmName (p : PrimitiveType) : String := "Edm." ++ p.name

/-- The primitive type with a name. -/
def ofName? (name : String) : Option PrimitiveType := all.find? (·.name == name)

/-- The place of a numeric type in the widening chain. -/
def numericRank? : PrimitiveType → Option Nat
  | int16 => some 0
  | int32 => some 1
  | int64 => some 2
  | double => some 3
  | _ => none

def isNumeric (p : PrimitiveType) : Bool := p.numericRank?.isSome

/-- The narrowest numeric type that two types widen to. -/
def promote? (a b : PrimitiveType) : Option PrimitiveType :=
  match a.numericRank?, b.numericRank? with
  | some ra, some rb => some (if rb ≤ ra then a else b)
  | _, _ => none

/-- Whether every value of one type has a place in another one. -/
def widensTo (p target : PrimitiveType) : Bool := p == target || promote? p target == some target

theorem promote?_comm (a b : PrimitiveType) : promote? a b = promote? b a := by
  cases a <;> cases b <;> rfl

end PrimitiveType

/-! ## All types -/

/-- The type of an expression or a property. -/
inductive TypeRef where
  | null
  | primitive (p : PrimitiveType)
  | structured (name : String)
  | collection (element : TypeRef)
  deriving DecidableEq, Repr, Inhabited

namespace TypeRef

/-- The type of truth values. -/
abbrev boolean : TypeRef := primitive .boolean

def isCollection : TypeRef → Bool
  | collection _ => true
  | _ => false

def isBoolean (t : TypeRef) : Bool := t == boolean

def primitive? : TypeRef → Option PrimitiveType
  | primitive p => some p
  | _ => none

/-- The type of the items of a collection. -/
def element? : TypeRef → Option TypeRef
  | collection element => some element
  | _ => none

/-- The name of a structured type, looking through one collection. -/
def structuredName? : TypeRef → Option String
  | structured name => some name
  | collection (structured name) => some name
  | _ => none

/-- The text of a type. -/
def text : TypeRef → String
  | null => "null"
  | primitive p => p.edmName
  | structured name => name
  | collection element => "Collection(" ++ element.text ++ ")"

/-- Replace the structured type of a path by another one, keeping a collection. -/
def castTo (t : TypeRef) (target : String) : TypeRef :=
  match t with
  | collection _ => collection (structured target)
  | _ => structured target

end TypeRef

end RecordQuery
