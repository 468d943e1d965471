import RecordQuery.Binary64.Rounding
import RecordQuery.DateTime.Basic
import RecordQuery.Guid
import RecordQuery.Schema.Type

/-!
# Values

The values that expressions have and records hold: null, the scalars of the primitive types,
collections, and complex values, which are members in the order of their names.

## Main definitions

* `Value`: the values.
* `Value.primitiveType?`: the primitive type of a scalar.
* `Value.int?`, `Value.double?`, `Value.bool?`, `Value.string?`: views of scalars.
* `Value.member?`: a member of a complex value.
* `Value.complexOf`: the complex value with some members.
-/

namespace RecordQuery

/-- A value of an expression or a property. -/
inductive Value where
  | null
  | int16 (n : Int16)
  | int32 (n : Int32)
  | int64 (n : Int64)
  | double (x : Binary64)
  | bool (b : Bool)
  | string (s : String)
  | guid (g : Guid)
  | dateTime (d : DateTime)
  | collection (items : List Value)
  | complex (members : List (String × Value))
  deriving Inhabited

namespace Value

def isNull : Value → Bool
  | null => true
  | _ => false

/-- The primitive type of a scalar. -/
def primitiveType? : Value → Option PrimitiveType
  | int16 _ => some .int16
  | int32 _ => some .int32
  | int64 _ => some .int64
  | double _ => some .double
  | bool _ => some .boolean
  | string _ => some .string
  | guid _ => some .guid
  | dateTime _ => some .dateTime
  | null | collection _ | complex _ => none

/-! ## Views -/

def bool? : Value → Option Bool
  | bool b => some b
  | _ => none

def string? : Value → Option String
  | string s => some s
  | _ => none

def dateTime? : Value → Option DateTime
  | dateTime d => some d
  | _ => none

/-- The number that an integer of any width stands for. -/
def int? : Value → Option Int
  | int16 n => some n.toInt
  | int32 n => some n.toInt
  | int64 n => some n.toInt
  | _ => none

/-- The double nearest to a number. -/
def double? : Value → Option Binary64
  | double x => some x
  | v => v.int?.map Binary64.ofInt

/-- The items of a collection; any other value has none. -/
def items : Value → List Value
  | collection items => items
  | _ => []

/-- Whether a value is the truth value `true`. -/
def isTrue : Value → Bool
  | bool true => true
  | _ => false

/-! ## Complex values -/

/-- A member of a complex value. -/
def member? (name : String) : Value → Option Value
  | complex members => members.lookup name
  | _ => none

/-- Put a member in its place by name, instead of one of the same name. -/
def insertMember (name : String) (value : Value) :
    List (String × Value) → List (String × Value)
  | [] => [(name, value)]
  | (other, old) :: rest =>
    if name = other then (name, value) :: rest
    else if name < other then (name, value) :: (other, old) :: rest
    else (other, old) :: insertMember name value rest

/-- The complex value with some members, of which the last one of a name counts. -/
def complexOf (members : List (String × Value)) : Value :=
  complex (members.foldl (fun sorted (name, value) => insertMember name value sorted) [])

end Value

end RecordQuery
