import RecordQuery.Text.Path

/-!
# Searching and replacing in texts

Texts are lists of characters here. A text is searched in its UTF-8 form, and so a search finds the
offset of a byte. All other indices count characters, and the offset is turned into the number of
characters before it.

## Main definitions

* `Text.indexOf`: the least index at which a list occurs in another one.
* `Text.byteIndexOf`: the least offset at which the bytes of a text occur in those of another one.
* `Text.charsBefore`: the number of characters before an offset.
* `Text.replaceAll`: replace the occurrences found from left to right.
* `Text.slice`: the characters from an index on, or a number of them.
-/

namespace RecordQuery.Text

/-! ## Searching -/

/-- The least index at which `pattern` occurs in a list. -/
def indexOf {α : Type} [BEq α] (pattern : List α) : List α → Option Nat
  | [] => if pattern.isEmpty then some 0 else none
  | a :: rest =>
    if pattern.isPrefixOf (a :: rest) then some 0
    else (indexOf pattern rest).map (· + 1)

/-- The bytes of a text in UTF-8. -/
def bytes (text : List Char) : List UInt8 := text.flatMap String.utf8EncodeChar

/-- The least offset at which the bytes of `pattern` occur in those of `text`. -/
def byteIndexOf (pattern text : List Char) : Option Nat := indexOf (bytes pattern) (bytes text)

/-- Whether `pattern` occurs in `text`. -/
def contains (text pattern : List Char) : Bool := (byteIndexOf pattern text).isSome

/-- The number of characters of a text that begin before an offset in its bytes. -/
def charsBefore (offset : Nat) : List Char → Nat
  | [] => 0
  | c :: rest => if offset = 0 then 0 else charsBefore (offset - c.utf8Size) rest + 1

/-! ## Replacing -/

/-- Replace the occurrences of a non-empty `pattern` from left to right. The number counts the
characters of the current occurrence that are still to be dropped. -/
def replaceFrom (pattern replacement : List Char) : Nat → List Char → List Char
  | _, [] => []
  | skip + 1, _ :: rest => replaceFrom pattern replacement skip rest
  | 0, c :: rest =>
    if pattern.isPrefixOf (c :: rest) then
      replacement ++ replaceFrom pattern replacement (pattern.length - 1) rest
    else c :: replaceFrom pattern replacement 0 rest

/-- Replace every occurrence of `pattern`. The empty pattern occurs before every character and at
the end. -/
def replaceAll (pattern replacement text : List Char) : List Char :=
  if pattern.isEmpty then replacement ++ text.flatMap (· :: replacement)
  else replaceFrom pattern replacement 0 text

/-! ## Slices -/

/-- The characters from index `start` on, at most `count` of them if a count is given. -/
def slice (text : List Char) (start : Nat) (count : Option Nat) : List Char :=
  match count with
  | none => text.drop start
  | some n => (text.drop start).take n

theorem indexOf_cons {α : Type} [BEq α] (pattern : List α) (a : α) (rest : List α) :
    indexOf pattern (a :: rest) =
      if pattern.isPrefixOf (a :: rest) then some 0
      else (indexOf pattern rest).map (· + 1) := rfl

@[simp] theorem bytes_nil : bytes [] = [] := rfl

@[simp] theorem bytes_cons (c : Char) (rest : List Char) :
    bytes (c :: rest) = String.utf8EncodeChar c ++ bytes rest := List.flatMap_cons

end RecordQuery.Text
