/-!
# Blank characters

The blanks of a text are the characters with the Unicode property White_Space. Removing them from
both ends is used for the blank test on option texts and by the `trim` function of the query
language.

## Main definitions

* `Text.isBlank`: the White_Space characters.
* `Text.trimStart`, `Text.trimEnd`, `Text.trim`: a text without the blanks at its ends.
-/

namespace RecordQuery.Text

/-- A character with the Unicode property White_Space. -/
def isBlank (c : Char) : Bool :=
  let n := c.toNat
  (0x09 ≤ n && n ≤ 0x0D) || n == 0x20 || n == 0x85 || n == 0xA0 || n == 0x1680 ||
    (0x2000 ≤ n && n ≤ 0x200A) || n == 0x2028 || n == 0x2029 || n == 0x202F || n == 0x205F ||
    n == 0x3000

/-- Drop the blanks a text starts with. -/
def trimStart (s : List Char) : List Char := s.dropWhile isBlank

/-- Drop the blanks a text ends with. -/
def trimEnd (s : List Char) : List Char := (s.reverse.dropWhile isBlank).reverse

/-- Drop the blanks at both ends of a text. -/
def trim (s : List Char) : List Char := trimEnd (trimStart s)

/-- Whether nothing is left of a text without its outer blanks. -/
def blank (s : String) : Bool := (trim s.toList).isEmpty

end RecordQuery.Text
