import RecordQuery.Binary64.Decimal
import RecordQuery.Json.Basic
import RecordQuery.Power
import RecordQuery.Text.Hex

/-!
# Reading JSON texts

A number without a fraction and an exponent that fits 64 bits, signed or unsigned, is read as an
integer, and every other one as the nearest double. Of two members with one name the later one
counts.

## Main definitions

* `Json.ofText?`: read a whole text.
-/

namespace RecordQuery.Json

/-- Drop the blanks between tokens. -/
def skipBlanks (s : List Char) : List Char :=
  s.dropWhile fun c => c == ' ' || c == '\t' || c == '\n' || c == '\r'

/-! ## Numbers -/

/-- The number that the characters of a number token stand for. -/
def numberOfToken? (token : List Char) : Option Json := do
  let d ← Decimal.ofText? token
  let digits := if token.head? == some '-' then token.drop 1 else token
  let n : Int := if d.negative then -(d.digits : Int) else d.digits
  if digits.all Char.isDigit && -(2 ^ 63) ≤ n && n < 2 ^ 64 && !(d.negative && d.digits == 0) then
    return int n
  else return double (Binary64.ofDecimal d)

/-- Whether a character may occur in a number token. -/
def isNumberChar (c : Char) : Bool :=
  c.isDigit || c == '-' || c == '+' || c == '.' || c == 'e' || c == 'E'

/-! ## Strings -/

/-- Read four hexadecimal digits. -/
def takeUnit? (s : List Char) : Option (Nat × List Char) :=
  if (s.take 4).length < 4 then none
  else (Text.ofHex? (s.take 4)).map fun n => (n, s.drop 4)

/-- Read the rest of an escape by code unit. A leading surrogate is followed by a trailing one. -/
def takeCodePoint? (s : List Char) : Option (Char × List Char) := do
  let (first, s) ← takeUnit? s
  if first < 0xD800 || 0xDFFF < first then return (Char.ofNat first, s)
  match s with
  | '\\' :: 'u' :: rest => do
    let (second, rest) ← takeUnit? rest
    guard (first < 0xDC00 && 0xDC00 ≤ second && second ≤ 0xDFFF)
    return (Char.ofNat (0x10000 + (first - 0xD800) * 0x400 + (second - 0xDC00)), rest)
  | _ => none

/-- The character for the letter of a short escape. -/
def shortEscape? (c : Char) : Option Char :=
  match c with
  | '"' => some '"'
  | '\\' => some '\\'
  | '/' => some '/'
  | 'b' => some '\x08'
  | 'f' => some '\x0c'
  | 'n' => some '\n'
  | 'r' => some '\r'
  | 't' => some '\t'
  | _ => none

/-- Read the rest of a string, with the characters read so far in reverse. -/
def stringFrom? : Nat → List Char → List Char → Option (String × List Char)
  | 0, _, _ => none
  | fuel + 1, read, s =>
    match s with
    | [] => none
    | '"' :: rest => some (String.ofList read.reverse, rest)
    | '\\' :: 'u' :: rest => do
      let (c, rest) ← takeCodePoint? rest
      stringFrom? fuel (c :: read) rest
    | '\\' :: letter :: rest => do
      let c ← shortEscape? letter
      stringFrom? fuel (c :: read) rest
    | c :: rest => stringFrom? fuel (c :: read) rest

/-- Read the rest of a string after the opening quote. -/
def takeString? (s : List Char) : Option (String × List Char) := stringFrom? (s.length + 1) [] s

/-! ## Values -/

/-- Read a fixed word. -/
def takeWord? (word : String) (value : Json) (s : List Char) : Option (Json × List Char) :=
  if word.toList.isPrefixOf s then some (value, s.drop word.length) else none

mutual

/-- Read a value, with fuel for the depth and the length of what follows. -/
def takeValue? : Nat → List Char → Option (Json × List Char)
  | 0, _ => none
  | fuel + 1, s =>
    match skipBlanks s with
    | '"' :: rest => (takeString? rest).map fun (text, rest) => (string text, rest)
    | '[' :: rest =>
      match skipBlanks rest with
      | ']' :: rest => some (array [], rest)
      | _ => (takeItems? fuel rest).map fun (items, rest) => (array items, rest)
    | '\x7b' :: rest =>
      match skipBlanks rest with
      | '\x7d' :: rest => some (object [], rest)
      | _ => (takeMembers? fuel [] rest).map fun (members, rest) => (object members, rest)
    | 'n' :: rest => takeWord? "null" null ('n' :: rest)
    | 't' :: rest => takeWord? "true" (bool true) ('t' :: rest)
    | 'f' :: rest => takeWord? "false" (bool false) ('f' :: rest)
    | rest =>
      (numberOfToken? (rest.takeWhile isNumberChar)).map
        fun value => (value, rest.dropWhile isNumberChar)

/-- Read the items of an array up to its end. -/
def takeItems? : Nat → List Char → Option (List Json × List Char)
  | 0, _ => none
  | fuel + 1, s => do
    let (item, s) ← takeValue? fuel s
    match skipBlanks s with
    | ',' :: rest => do
      let (items, rest) ← takeItems? fuel rest
      return (item :: items, rest)
    | ']' :: rest => return ([item], rest)
    | _ => none

/-- Read the members of an object up to its end, after the members read so far. -/
def takeMembers? : Nat → List (String × Json) → List Char →
    Option (List (String × Json) × List Char)
  | 0, _, _ => none
  | fuel + 1, read, s =>
    match skipBlanks s with
    | '"' :: s => do
      let (name, s) ← takeString? s
      match skipBlanks s with
      | ':' :: s => do
        let (value, s) ← takeValue? fuel s
        let read := setMember name value read
        match skipBlanks s with
        | ',' :: rest => takeMembers? fuel read rest
        | '\x7d' :: rest => return (read, rest)
        | _ => none
      | _ => none
    | _ => none

end

/-- Read a whole text. -/
def ofText? (text : String) : Option Json := do
  let s := text.toList
  let (value, rest) ← takeValue? (2 * s.length + 2) s
  guard (skipBlanks rest).isEmpty
  return value

end RecordQuery.Json
