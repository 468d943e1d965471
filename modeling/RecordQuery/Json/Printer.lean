import RecordQuery.Binary64.Decimal
import RecordQuery.Json.Basic
import RecordQuery.Text.Hex

/-!
# Writing JSON texts

The text has no blanks. Doubles have a fraction, so that they are not read back as integers; those
that are no numbers are written as `null`.

## Main definitions

* `Json.toText`: the text of a value.
-/

namespace RecordQuery.Json

/-- How one character is written in a string. -/
def escapedChar (c : Char) : String :=
  if c == '"' then "\\\""
  else if c == '\\' then "\\\\"
  else if c.toNat < 0x20 then String.ofList ('\\' :: 'u' :: Text.hexPadded 4 c.toNat)
  else c.toString

/-- Append a string in quotes to a text. -/
def appendString (out : String) (s : String) : String :=
  s.toList.foldl (fun out c => out ++ escapedChar c) (out.push '"') |>.push '"'

/-- The text of a double. -/
def doubleText (x : Binary64) : String :=
  if x.isFinite then
    let text := x.toText
    if text.toList.contains '.' then text else text ++ ".0"
  else "null"

mutual

/-- Append a value to a text. -/
def append (out : String) : Json → String
  | null => out ++ "null"
  | bool b => out ++ (if b then "true" else "false")
  | int n => out ++ toString n
  | double x => out ++ doubleText x
  | string s => appendString out s
  | array items => (appendItems (out.push '[') true items).push ']'
  | object members => (appendMembers (out.push '\x7b') true members).push '\x7d'

/-- Append the items of an array, with commas between them. -/
def appendItems (out : String) (first : Bool) : List Json → String
  | [] => out
  | item :: rest => appendItems (append (if first then out else out.push ',') item) false rest

/-- Append the members of an object, with commas between them. -/
def appendMembers (out : String) (first : Bool) : List (String × Json) → String
  | [] => out
  | (name, value) :: rest =>
    let named := (appendString (if first then out else out.push ',') name).push ':'
    appendMembers (append named value) false rest

end

/-- The text of a value. -/
def toText (value : Json) : String := append "" value

end RecordQuery.Json
