import RecordQuery.Grammar.Recognizer
import RecordQuery.Grammar.Term

/-!
# Tokens

Words, names and literals. A word ends where no letter, digit or underscore follows, so a word can
begin a longer name. A name that only begins with a word is no occurrence of the word.

## Main definitions

* `Grammar.word`: a fixed word.
* `Grammar.identifier`, `Grammar.qualifiedName`: names.
* `Grammar.literal`: constants.
-/

namespace RecordQuery.Grammar

open Recognizer

/-! ## Names -/

def isAsciiLetter (c : Char) : Bool := c.isAlpha

/-- A letter or an underscore. -/
def startsName (c : Char) : Bool := isAsciiLetter c || c == '_'

/-- A letter, a digit or an underscore. -/
def continuesName (c : Char) : Bool := isAsciiLetter c || c.isDigit || c == '_'

/-- The characters of a fixed word that no name continues. -/
def wordEnd (text : String) : Recognizer Unit := do
  exactly text.toList
  notBefore continuesName

/-- A fixed word and its position. -/
def word (text : String) : Recognizer Nat := token do
  let start ← position
  wordEnd text
  return start

/-- The characters of a name. -/
def nameChars : Recognizer (List Char) := do
  let first ← one startsName
  let rest ← run continuesName
  return first :: rest

/-- The element of a query, or a name. -/
def identifier : Recognizer (Nat × List Char) := token do
  let start ← position
  let name ← Recognizer.orElse (do exactly "$it".toList; return "$it".toList) nameChars
  return (start, name)

/-- Names with points between them, at least two. -/
def qualifiedName : Recognizer (Nat × List Char) := token do
  let start ← position
  let first ← nameChars
  let dotted : Recognizer (List Char) := do
    exactly ['.']
    let name ← nameChars
    return '.' :: name
  let second ← dotted
  let more ← many dotted
  return (start, first ++ second ++ more.flatten)

/-! ## Numbers -/

/-- An optional part of a token. -/
def optionally (p : Recognizer (List Char)) : Recognizer (List Char) := do
  let found ← attempt p
  return found.getD []

/-- One of some characters. -/
def oneOf (chars : List Char) : Recognizer (List Char) := do
  let c ← one chars.contains
  return [c]

/-- The characters of a number: a sign, digits, a fraction, an exponent and the letter of a type,
of which all but the digits may be missing. -/
def numberChars : Recognizer (List Char) := do
  let sign ← optionally (oneOf ['-'])
  let digits ← run1 Char.isDigit
  let fraction ← optionally do
    let point ← oneOf ['.']
    let digits ← run1 Char.isDigit
    return point ++ digits
  let exponent ← optionally do
    let mark ← oneOf ['e', 'E']
    let sign ← optionally (oneOf ['+', '-'])
    let digits ← run1 Char.isDigit
    return mark ++ sign ++ digits
  let letter ← optionally (oneOf ['L', 'l', 'd', 'D'])
  notBefore continuesName
  return sign ++ digits ++ fraction ++ exponent ++ letter

def number : Recognizer Term := token do
  let start ← position
  let text ← numberChars
  return .number start text

/-! ## Quoted literals -/

/-- The body of a string up to the quote that ends it. A quote written twice is part of it. -/
def stringBodyChars : List Char → List Char
  | [] => []
  | '\'' :: '\'' :: rest => '\'' :: '\'' :: stringBodyChars rest
  | '\'' :: _ => []
  | c :: rest => c :: stringBodyChars rest

/-- The body of a string, which may be empty. -/
def stringBody : Recognizer (List Char) := fun c =>
  let read := stringBodyChars c.rest
  ⟨0, some (read, c.after read)⟩

def string : Recognizer Term := rule do
  let start ← position
  exactly ['\'']
  let body ← stringBody
  exactly ['\'']
  return .string start body

/-- A hexadecimal digit or a hyphen. -/
def isGuidChar (c : Char) : Bool :=
  c.isDigit || ('a' ≤ c && c ≤ 'f') || ('A' ≤ c && c ≤ 'F') || c == '-'

def guid : Recognizer Term := rule do
  let start ← position
  exactly "guid'".toList
  let body ← whole (run1 isGuidChar)
  exactly ['\'']
  return .guid start body

def dateTime : Recognizer Term := rule do
  let start ← position
  exactly "datetime".toList
  let _ ← attempt (exactly "offset".toList)
  exactly ['\'']
  let body ← whole (run1 (· != '\''))
  exactly ['\'']
  return .dateTime start body

/-- A constant. -/
def literal : Recognizer Term :=
  firstOf
    [do return .null (← word "null"),
     do return .bool (← word "true") true,
     do return .bool (← word "false") false,
     guid, dateTime, string, number]

end RecordQuery.Grammar
