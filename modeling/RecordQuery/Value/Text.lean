import RecordQuery.Binary64.Decimal
import RecordQuery.DateTime.Printer
import RecordQuery.Value.Basic

/-!
# Values as text

Scalars are written as literals of the query language. A quote in a string is written twice.

## Main definitions

* `Value.literal`: the text of a value.
-/

namespace RecordQuery.Value

/-- Write every quote of a text twice. -/
def doubleQuotes (s : List Char) : List Char :=
  s.flatMap fun c => if c == '\'' then ['\'', '\''] else [c]

/-- A string literal. -/
def stringLiteral (s : String) : String :=
  String.ofList ('\'' :: doubleQuotes s.toList ++ ['\''])

mutual

/-- The text of a value. -/
def literal : Value → String
  | null => "null"
  | int16 n => toString n.toInt
  | int32 n => toString n.toInt
  | int64 n => toString n.toInt ++ "L"
  | double x => x.toText
  | bool b => if b then "true" else "false"
  | string s => stringLiteral s
  | guid g => "guid'" ++ g.toText ++ "'"
  | dateTime d => "datetime'" ++ d.toText ++ "'"
  | collection items => "[" ++ itemsText items ++ "]"
  | complex members => "\x7b" ++ membersText members ++ "\x7d"

/-- The texts of items with commas between them. -/
def itemsText : List Value → String
  | [] => ""
  | [item] => literal item
  | item :: rest => literal item ++ ", " ++ itemsText rest

/-- The texts of members with commas between them. -/
def membersText : List (String × Value) → String
  | [] => ""
  | [(name, value)] => name ++ ": " ++ literal value
  | (name, value) :: rest => name ++ ": " ++ literal value ++ ", " ++ membersText rest

end

end RecordQuery.Value
