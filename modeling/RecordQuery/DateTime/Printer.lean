import RecordQuery.DateTime.Basic
import RecordQuery.Text.Digits

/-!
# Date-times as text

A date-time is written as the date, a `T`, the time and the offset. The fraction of a second is
left out when it is zero and has three, six or nine digits otherwise, the fewest that are exact.
Years outside the four-digit range have a sign.

## Main definitions

* `DateTime.toText`: the text with a numeric offset.
* `DateTime.toZuluText`: the same with `Z` for the offset zero.
-/

namespace RecordQuery.DateTime

open Text (padded)

/-- A year: four digits, or a sign and at least four digits. -/
def yearText (year : Int) : List Char :=
  if 0 ≤ year ∧ year ≤ 9999 then padded 4 year.toNat
  else (if year < 0 then '-' else '+') :: padded 4 year.natAbs

/-- The fraction of a second, with its point. -/
def fractionText (nanosecond : Nat) : List Char :=
  if nanosecond = 0 then []
  else if nanosecond % 1000000 = 0 then '.' :: padded 3 (nanosecond / 1000000)
  else if nanosecond % 1000 = 0 then '.' :: padded 6 (nanosecond / 1000)
  else '.' :: padded 9 nanosecond

/-- Hours and minutes of an offset, and its seconds if there are any. -/
def offsetText (offset : Int) : List Char :=
  let size := offset.natAbs
  (if offset < 0 then '-' else '+') :: padded 2 (size / 3600) ++ ':' :: padded 2 (size / 60 % 60) ++
    (if size % 60 = 0 then [] else ':' :: padded 2 (size % 60))

/-- The date and the time that the clock shows. A leap second is shown as the second 60. -/
def clockText (d : DateTime) : List Char :=
  let date := d.localDate
  let leap := 1000000000 ≤ d.nanosecond
  let second := if leap then d.second + 1 else d.second
  let nanosecond := if leap then d.nanosecond - 1000000000 else d.nanosecond
  yearText date.year ++ '-' :: padded 2 date.month ++ '-' :: padded 2 date.day ++
    'T' :: padded 2 d.hour ++ ':' :: padded 2 d.minute ++ ':' :: padded 2 second ++
    fractionText nanosecond

/-- The text with a numeric offset. -/
def toText (d : DateTime) : String := String.ofList (d.clockText ++ offsetText d.offset)

/-- The text with `Z` for the offset zero. -/
def toZuluText (d : DateTime) : String :=
  String.ofList (d.clockText ++ if d.offset = 0 then ['Z'] else offsetText d.offset)

end RecordQuery.DateTime
