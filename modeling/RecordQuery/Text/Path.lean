/-!
# Byte lengths and segments

Positions in a query text count the bytes of its UTF-8 form.

## Main definitions

* `Text.byteLength`: the number of bytes of a text.
* `Text.segments`: the parts of a text between separators.
-/

namespace RecordQuery.Text

/-- The number of bytes of a text in UTF-8. -/
def byteLength : List Char → Nat
  | [] => 0
  | c :: rest => c.utf8Size + byteLength rest

/-- The parts of a text between separators: one more than there are separators. -/
def segments (separator : Char) : List Char → List (List Char)
  | [] => [[]]
  | c :: rest =>
    if c == separator then [] :: segments separator rest
    else match segments separator rest with
      | first :: more => (c :: first) :: more
      | [] => [[c]]

@[simp] theorem byteLength_append (s t : List Char) :
    byteLength (s ++ t) = byteLength s + byteLength t := by
  induction s with
  | nil => simp [byteLength]
  | cons c rest ih => simp [byteLength, ih, Nat.add_assoc]

theorem segments_ne_nil (separator : Char) (s : List Char) : segments separator s ≠ [] := by
  cases s with
  | nil => simp [segments]
  | cons c rest => rw [segments]; split <;> (try split) <;> simp

end RecordQuery.Text
