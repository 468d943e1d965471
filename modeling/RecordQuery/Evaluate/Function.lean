import RecordQuery.Binary64.Arithmetic
import RecordQuery.Expr.Builtin
import RecordQuery.Text.Blank
import RecordQuery.Text.CaseMap
import RecordQuery.Text.Search
import RecordQuery.Value.Cast

/-!
# Functions on values

Texts are taken as lists of characters, and indices count characters from zero, although a text is
searched by its bytes. A function with a null argument gives null.

## Main definitions

* `Evaluate.function`: the value of a call.
* `Evaluate.charIndex`: the index that a search reports.
* `Evaluate.substring`: part of a text.
-/

namespace RecordQuery.Evaluate

/-- The characters of an argument; an argument that is no string has none. -/
def textArg (args : List Value) (i : Nat) : List Char :=
  ((args[i]?).bind Value.string?).getD "" |>.toList

/-- The string of some characters. -/
def ofChars (s : List Char) : Value := .string (String.ofList s)

/-- A count as a 32-bit integer. -/
def ofCount (n : Int) : Value := (Value.ofInt? .int32 n).getD .null

/-- The number of characters before the place where a text is found, or minus one. -/
def charIndex (pattern text : List Char) : Int64 :=
  match Text.byteIndexOf pattern text with
  | some offset => Int64.ofNat (Text.charsBefore offset text)
  | none => -1

/-- The characters from `start` on, at most `length` of them if a length is given. A start outside
of the text and a negative length give null. -/
def substring (text : List Char) (start : Option Int) (length : Option Int) : Value :=
  match start with
  | none => .null
  | some start =>
    if start < 0 ∨ (text.length : Int) < start then .null
    else match length with
      | none => ofChars (Text.slice text start.toNat none)
      | some n => if n < 0 then .null else ofChars (Text.slice text start.toNat (some n.toNat))

/-- A part of a date-time as a 32-bit integer. -/
def datePart (args : List Value) (part : DateTime → Int) : Value :=
  match (args[0]?).bind Value.dateTime? with
  | some d => ofCount (part d)
  | none => .null

/-- A rounding of a number. -/
def rounding (args : List Value) (round : Binary64 → Binary64) : Value :=
  match (args[0]?).bind Value.double? with
  | some x => .double (round x)
  | none => .null

/-- The value of a function for arguments that are not null. -/
def functionOf (f : Builtin) (args : List Value) : Value :=
  let text := textArg args
  match f with
  | .substringOf => .bool (Text.contains (text 1) (text 0))
  | .endsWith => .bool ((text 1).isSuffixOf (text 0))
  | .startsWith => .bool ((text 1).isPrefixOf (text 0))
  | .length => ofCount (text 0).length
  | .indexOf => (Value.int64 (charIndex (text 1) (text 0))).castOrNull .int32
  | .replace => ofChars (Text.replaceAll (text 1) (text 2) (text 0))
  | .substring =>
    substring (text 0) ((args[1]?).bind Value.int?) ((args[2]?).bind Value.int?)
  | .toLower => ofChars (Text.toLower (text 0))
  | .toUpper => ofChars (Text.toUpper (text 0))
  | .trim => ofChars (Text.trim (text 0))
  | .concat => ofChars (text 0 ++ text 1)
  | .year => datePart args (·.localDate.year)
  | .month => datePart args (·.localDate.month)
  | .day => datePart args (·.localDate.day)
  | .hour => datePart args (·.hour)
  | .minute => datePart args (·.minute)
  | .second => datePart args (·.second)
  | .round => rounding args Binary64.roundEven
  | .floor => rounding args Binary64.floor
  | .ceiling => rounding args Binary64.ceiling
  | .any | .all => .null

/-- The value of a call. -/
def function (f : Builtin) (args : List Value) : Value :=
  if args.any Value.isNull then .null else functionOf f args

end RecordQuery.Evaluate
