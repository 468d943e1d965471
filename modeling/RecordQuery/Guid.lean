import RecordQuery.Text.Hex

/-!
# Globally unique identifiers

A guid is 128 bits, ordered as a number, which is the order of its bytes. It is written in groups
of 8, 4, 4, 4 and 12 lower-case hexadecimal digits with hyphens between them.

## Main definitions

* `Guid`, `Guid.compare`: the identifiers and their order.
* `Guid.toText`: the hyphenated form.
* `Guid.ofText?`: reading, with or without hyphens and in either case.
-/

namespace RecordQuery

/-- A globally unique identifier. -/
structure Guid where
  bits : BitVec 128
  deriving DecidableEq, Repr, Inhabited

namespace Guid

/-- The order of the bytes, most significant first. -/
def compare (a b : Guid) : Ordering := Ord.compare a.bits.toNat b.bits.toNat

/-- Put hyphens between the groups of 32 digits. -/
def hyphenate (digits : List Char) : List Char :=
  digits.take 8 ++ '-' :: (digits.drop 8).take 4 ++ '-' :: (digits.drop 12).take 4 ++
    '-' :: (digits.drop 16).take 4 ++ '-' :: digits.drop 20

/-- The hyphenated lower-case form. -/
def toText (g : Guid) : String := String.ofList (hyphenate (Text.hexPadded 32 g.bits.toNat))

/-- Read 32 digits without hyphens. -/
def ofDigits? (s : List Char) : Option Guid :=
  if s.length = 32 then (Text.ofHex? s).map fun n => ⟨BitVec.ofNat 128 n⟩ else none

/-- Read digits in five hyphenated groups. -/
def ofGroups? (s : List Char) : Option Guid :=
  let digits := s.take 8 ++ (s.drop 9).take 4 ++ (s.drop 14).take 4 ++ (s.drop 19).take 4 ++
    s.drop 24
  if s.length = 36 && [8, 13, 18, 23].all (s[·]? == some '-') then ofDigits? digits else none

/-- Read an identifier: 32 digits, or five groups, which may stand in braces or after the name
space of identifiers. -/
def ofText? (s : List Char) : Option Guid :=
  if s.length = 38 && s.head? == some '\x7b' && s.getLast? == some '\x7d' then
    ofGroups? (s.drop 1).dropLast
  else if s.length = 45 && "urn:uuid:".toList.isPrefixOf s then ofGroups? (s.drop 9)
  else if s.length = 36 then ofGroups? s
  else ofDigits? s

end Guid

end RecordQuery
