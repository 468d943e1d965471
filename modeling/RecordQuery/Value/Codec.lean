import RecordQuery.DateTime.Printer
import RecordQuery.DateTime.Reader
import RecordQuery.Json.Basic
import RecordQuery.Power
import RecordQuery.Value.Basic

/-!
# Values as JSON

A value is stored as an object with one member, whose name tells the kind of the value; null is the
string `Null`. Reading is strict: an integer must be an integer in its range, while a double may be
any number.

## Main definitions

* `Value.toJson`, `Value.ofJson?`: writing and reading.
-/

namespace RecordQuery.Value

mutual

/-- The stored form of a value. -/
def toJson : Value → Json
  | null => .string "Null"
  | int16 n => .tagged "I16" (.int n.toInt)
  | int32 n => .tagged "I32" (.int n.toInt)
  | int64 n => .tagged "I64" (.int n.toInt)
  | double x => .tagged "F64" (.double x)
  | bool b => .tagged "Bool" (.bool b)
  | string s => .tagged "String" (.string s)
  | guid g => .tagged "Guid" (.string g.toText)
  | dateTime d => .tagged "DateTime" (.string d.toZuluText)
  | collection items => .tagged "Collection" (.array (itemsToJson items))
  | complex members => .tagged "Complex" (.object (membersToJson members))

def itemsToJson : List Value → List Json
  | [] => []
  | item :: rest => toJson item :: itemsToJson rest

def membersToJson : List (String × Value) → List (String × Json)
  | [] => []
  | (name, value) :: rest => (name, toJson value) :: membersToJson rest

end

/-- An integer between two bounds. -/
def intWithin? (low high : Int) : Json → Option Int
  | .int n => if low ≤ n ∧ n ≤ high then some n else none
  | _ => none

/-- The value of a kind that holds no other values. -/
def scalarOfJson? (tag : String) (content : Json) : Option Value :=
  match tag, content with
  | "Null", .null => some null
  | "I16", n => (intWithin? (-(2 ^ 15)) (2 ^ 15 - 1) n).map fun n => int16 (Int16.ofInt n)
  | "I32", n => (intWithin? (-(2 ^ 31)) (2 ^ 31 - 1) n).map fun n => int32 (Int32.ofInt n)
  | "I64", n => (intWithin? (-(2 ^ 63)) (2 ^ 63 - 1) n).map fun n => int64 (Int64.ofInt n)
  | "F64", .int n => some (double (Binary64.ofInt n))
  | "F64", .double x => some (double x)
  | "Bool", .bool b => some (bool b)
  | "String", .string s => some (string s)
  | "Guid", .string s => (Guid.ofText? s.toList).map guid
  | "DateTime", .string s => (DateTime.ofLenient? s.toList).map dateTime
  | _, _ => none

mutual

/-- The value of a stored form. -/
def ofJson? : Json → Option Value
  | .string "Null" => some null
  | .object [("Collection", .array items)] => (itemsOfJson? items).map collection
  | .object [("Complex", .object members)] => (membersOfJson? members).map complexOf
  | .object [(tag, content)] => scalarOfJson? tag content
  | _ => none

def itemsOfJson? : List Json → Option (List Value)
  | [] => some []
  | item :: rest =>
    match ofJson? item, itemsOfJson? rest with
    | some v, some vs => some (v :: vs)
    | _, _ => none

def membersOfJson? : List (String × Json) → Option (List (String × Value))
  | [] => some []
  | (name, value) :: rest =>
    match ofJson? value, membersOfJson? rest with
    | some v, some vs => some ((name, v) :: vs)
    | _, _ => none

end

end RecordQuery.Value
