import RecordQuery.Schema.Model
import RecordQuery.Value.Basic

/-!
# Records

A record is what a query is asked about. It may know its own type, which decides whether it passes a
cast, and it gives values for names; a name without a value reads as null.

## Main definitions

* `Record`: the records.
* `Record.read`: the value for a name, or null.
* `Record.passesCast`: whether a record is of the type of a cast.
-/

namespace RecordQuery

/-- A record with its own type, if it has one, and its values by name. -/
structure Record where
  runtimeType : Option String
  value? : String → Option Value

instance : Inhabited Record := ⟨⟨none, fun _ => none⟩⟩

namespace Record

/-- The record with some values by name. -/
def ofMembers (runtimeType : Option String) (members : List (String × Value)) : Record :=
  ⟨runtimeType, fun name => members.lookup name⟩

/-- The value for a name, or null. -/
def read (r : Record) (name : String) : Value := (r.value? name).getD .null

/-- Whether a record is of a type. A record without a type of its own passes every cast. -/
def passesCast (r : Record) (m : Model) (target : String) : Bool :=
  match r.runtimeType with
  | some actual => m.isSubtype actual target
  | none => true

end Record

end RecordQuery
