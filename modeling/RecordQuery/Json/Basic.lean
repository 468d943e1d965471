import RecordQuery.Binary64.Basic

/-!
# JSON values

Policies and values of the query language are stored as JSON. Integers and doubles are kept apart,
and an object lists its members in the order in which they were written.

## Main definitions

* `Json`: the values.
* `Json.member?`: a member of an object.
* `Json.tagged`: an object with one member.
-/

namespace RecordQuery

/-- A JSON value. -/
inductive Json where
  | null
  | bool (b : Bool)
  | int (n : Int)
  | double (x : Binary64)
  | string (s : String)
  | array (items : List Json)
  | object (members : List (String × Json))
  deriving Inhabited

namespace Json

/-- An object with one member. -/
def tagged (tag : String) (content : Json) : Json := object [(tag, content)]

/-- A member of an object. -/
def member? (name : String) : Json → Option Json
  | object members => members.lookup name
  | _ => none

/-- The members of an object with one of them set, in its old place if it has one. -/
def setMember (name : String) (value : Json) : List (String × Json) → List (String × Json)
  | [] => [(name, value)]
  | (other, old) :: rest =>
    if other == name then (name, value) :: rest else (other, old) :: setMember name value rest

/-- An array of strings. -/
def strings (names : List String) : Json := array (names.map string)

/-- The strings of an array that holds nothing else. -/
def toStrings? : Json → Option (List String)
  | array items => items.mapM fun
    | string s => some s
    | _ => none
  | _ => none

end Json

end RecordQuery
