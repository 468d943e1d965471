import RecordQuery.Text.CaseTable

/-!
# Full case mappings

Upper and lower case of whole texts after the Unicode full case mappings, which may change the
number of characters: the upper case of `ß` is `SS`, and the lower case of `İ` is an `i` followed
by a combining dot. The one mapping that looks at its surroundings is the capital sigma, which has
a lower-case form of its own at the end of a word.

## Main definitions

* `Text.toUpper`, `Text.toLower`: the case mappings.
* `Text.isFinalSigma`: the condition for the word-final sigma.
-/

namespace RecordQuery.Text

/-- Whether a code point lies in one of some ranges. -/
def inRanges (ranges : List (Nat × Nat)) (n : Nat) : Bool :=
  ranges.any fun (first, last) => first ≤ n && n ≤ last

/-- Whether a character takes part in a case range. -/
def CaseRange.covers (r : CaseRange) (n : Nat) : Bool :=
  r.first ≤ n && n ≤ r.last && (n - r.first) % r.stride == 0

/-- Map a character by the case range that covers it, or leave it as it is. -/
def mapSingle (ranges : List CaseRange) (c : Char) : Char :=
  match ranges.find? (·.covers c.toNat) with
  | some r => Char.ofNat (c.toNat + r.shift).toNat
  | none => c

/-- The upper case of one character. -/
def upperChar (c : Char) : List Char :=
  match upperSequences.lookup c.toNat with
  | some sequence => sequence.map Char.ofNat
  | none => [mapSingle upperRanges c]

/-- The lower case of one character outside any context. -/
def lowerChar (c : Char) : List Char :=
  if c.toNat == 0x0130 then ['i', '\u0307'] else [mapSingle lowerRanges c]

/-- Whether the nearest character that is not case-ignorable is cased. -/
def nextIsCased (s : List Char) : Bool :=
  match s.dropWhile fun c => inRanges ignorableRanges c.toNat with
  | c :: _ => inRanges casedRanges c.toNat
  | [] => false

/-- A capital sigma ends a word if a cased character stands before it and none after it. The
characters before it are given from right to left. -/
def isFinalSigma (before after : List Char) : Bool := nextIsCased before && !nextIsCased after

/-- The lower case of the rest of a text, after the characters `before`, given from right to
left. -/
def lowerAfter (before : List Char) : List Char → List Char
  | [] => []
  | c :: rest =>
    if c == 'Σ' then
      (if isFinalSigma before rest then 'ς' else 'σ') :: lowerAfter (c :: before) rest
    else lowerChar c ++ lowerAfter (c :: before) rest

/-- The upper case of a text. -/
def toUpper (s : List Char) : List Char := s.flatMap upperChar

/-- The lower case of a text. -/
def toLower (s : List Char) : List Char := lowerAfter [] s

end RecordQuery.Text
