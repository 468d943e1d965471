import RecordQuery.Binary64.Decimal
import RecordQuery.DateTime.Reader
import RecordQuery.ParseError
import RecordQuery.Value.Cast

/-!
# Values of literals

An integer is an `Int32` unless it does not fit or has the letter `L`. A fraction, an exponent or
the letter `d` makes a double.

## Main definitions

* `Binding.numberValue?`: the value of the text of a number.
* `Binding.stringValue`: the value of the body of a string.
-/

namespace RecordQuery.Binding

/-- The number that digits with an optional minus sign stand for. -/
def intOfText? (text : List Char) : Option Int :=
  let digits := match text with
    | '-' :: rest => rest
    | _ => text
  if digits.isEmpty || !digits.all Char.isDigit then none
  else
    let n : Int := Text.digitsValue digits
    some (if text.head? == some '-' then -n else n)

/-- The integer of a type that a text stands for. -/
def integerValue? (type : PrimitiveType) (text : List Char) : Option Value :=
  (intOfText? text).bind (Value.ofInt? type)

/-- The double that a text stands for. -/
def doubleValue? (text : List Char) : Option Value :=
  (Decimal.ofText? text).map fun d => .double (Binary64.ofDecimal d)

/-- The value of the text of a number. -/
def numberValue? (text : List Char) : Option Value :=
  match text.getLast? with
  | some 'L' | some 'l' => integerValue? .int64 text.dropLast
  | some 'd' | some 'D' => doubleValue? text.dropLast
  | _ =>
    if text.any fun c => c == '.' || c == 'e' || c == 'E' then doubleValue? text
    else (integerValue? .int32 text).or (integerValue? .int64 text)

/-- The value of the body of a string, in which quotes are written twice. -/
def stringValue : List Char → List Char
  | '\'' :: '\'' :: rest => '\'' :: stringValue rest
  | c :: rest => c :: stringValue rest
  | [] => []

/-- The constant for a literal, or an error with its text. -/
def constantOr (kind : LiteralKind) (text : List Char) (position : Nat) (value : Option Value) :
    Except ParseError Value :=
  match value with
  | some v => .ok v
  | none => .error (.invalidLiteral kind (String.ofList text) position)

end RecordQuery.Binding
