import RecordQuery.Text.CaseMap
import RecordQuery.Text.Hex
import RecordQuery.Text.VisibleTable

/-!
# Quoted texts

A quoted text stands between double quotes and shows every character of the text: quotes and
backslashes after a backslash, the usual control characters by a letter, and every other invisible
character by its code point.

## Main definitions

* `Text.quotedChar`: how one character is shown.
* `Text.quoted`: the quoted form of a text.
-/

namespace RecordQuery.Text

/-- A character by its code point. -/
def codePoint (c : Char) : List Char :=
  ['\\', 'u', '\x7b'] ++ hexDigits c.toNat ++ ['\x7d']

/-- How one character is shown in a quoted text. -/
def quotedChar (c : Char) : List Char :=
  if c == '\x00' then ['\\', '0']
  else if c == '\t' then ['\\', 't']
  else if c == '\r' then ['\\', 'r']
  else if c == '\n' then ['\\', 'n']
  else if c == '\\' || c == '"' then ['\\', c]
  else if inRanges visibleRanges c.toNat then [c]
  else codePoint c

/-- A text between double quotes, every character visible. -/
def quoted (s : String) : String :=
  String.ofList ('"' :: s.toList.flatMap quotedChar ++ ['"'])

end RecordQuery.Text
