import RecordQuery.DateTime.Basic
import RecordQuery.Power
import RecordQuery.Text.Blank
import RecordQuery.Text.Digits

/-!
# Reading date-times

Three forms are read. The strict form is a date, a time and an offset with every field in full
width. The local form has no offset and is taken as UTC; its time, or the seconds of its time, may
be missing, its numbers may be short or stand after blanks, and its year may have a sign. The
lenient form is the strict one with blanks between the fields.

## Main definitions

* `DateTime.ofStrict?`, `DateTime.ofLocalText?`, `DateTime.ofLenient?`: the three forms.
* `DateTime.ofText?`: the strict form or else the local one.
-/

namespace RecordQuery.DateTime

open Text (takeNumber? trimStart)

/-! ## Fields -/

/-- Read one character. -/
def takeChar? (c : Char) : List Char → Option (List Char)
  | d :: rest => if d == c then some rest else none
  | [] => none

/-- Read the mark between a date and a time. -/
def takeSeparator? : List Char → Option (List Char)
  | c :: rest => if c == 'T' || c == 't' || c == ' ' then some rest else none
  | [] => none

/-- Read the digits of a fraction of a second. Digits after the ninth are dropped. -/
def takeNanosecond? (s : List Char) : Option (Nat × List Char) := do
  let (n, rest) ← takeNumber? 1 9 s
  let used := s.length - rest.length
  return (n * 10 ^ (9 - used), rest.dropWhile Char.isDigit)

/-- Read a fraction of a second if there is a point. -/
def takeFraction? : List Char → Option (Nat × List Char)
  | '.' :: rest => takeNanosecond? rest
  | s => some (0, s)

/-- Read an offset: `Z`, or a sign, two digits of hours and two digits of minutes. What may stand
between the hours and the minutes is read by `between`. -/
def takeOffset? (between : List Char → Option (List Char)) : List Char →
    Option (Int × List Char)
  | [] => none
  | c :: rest =>
    if c == 'Z' || c == 'z' then some (0, rest)
    else do
      let negative ← if c == '+' then some false
        else if c == '-' || c == '\u2212' then some true else none
      let (hours, rest) ← takeNumber? 2 2 rest
      let rest ← between rest
      let (minutes, rest) ← takeNumber? 2 2 rest
      guard (minutes ≤ 59)
      let size : Int := hours * 3600 + minutes * 60
      return (if negative then -size else size, rest)

/-- Read a year: a sign and any number of digits, or up to four digits. -/
def takeYear? (s : List Char) : Option (Int × List Char) :=
  match s with
  | '-' :: rest => (takeNumber? 1 rest.length rest).map fun (n, rest) => (-(n : Int), rest)
  | '+' :: rest => (takeNumber? 1 rest.length rest).map fun (n, rest) => ((n : Int), rest)
  | _ => (takeNumber? 1 4 s).map fun (n, rest) => ((n : Int), rest)

/-! ## Checking -/

/-- The time of day that fields stand for. The second 60 is a leap second. -/
def timeOfFields? (hour minute second nanosecond : Nat) : Option TimeOfDay :=
  if 23 < hour ∨ 59 < minute ∨ 60 < second then none
  else if second = 60 then some ⟨hour, minute, 59, nanosecond + 1000000000⟩
  else some ⟨hour, minute, second, nanosecond⟩

/-- The point in time that fields stand for. The date must be in the range of the calendar both on
the clock and in UTC: an offset can carry a date at an end of the range out of it. -/
def ofFields? (date : Calendar.Date) (time : Option TimeOfDay) (offset : Int) :
    Option DateTime := do
  let time ← time
  guard (date.valid && offset.natAbs < 86400)
  let point := ofLocal date time offset
  guard point.toUtc.localDate.valid
  return point

/-! ## The forms -/

/-- Read the strict form: every field in full width and an offset. -/
def ofStrict? (s : List Char) : Option DateTime := do
  let (year, s) ← takeNumber? 4 4 s
  let s ← takeChar? '-' s
  let (month, s) ← takeNumber? 2 2 s
  let s ← takeChar? '-' s
  let (day, s) ← takeNumber? 2 2 s
  let s ← takeSeparator? s
  let (hour, s) ← takeNumber? 2 2 s
  let s ← takeChar? ':' s
  let (minute, s) ← takeNumber? 2 2 s
  let s ← takeChar? ':' s
  let (second, s) ← takeNumber? 2 2 s
  let (nanosecond, s) ← takeFraction? s
  let (offset, s) ← takeOffset? (takeChar? ':') s
  guard s.isEmpty
  ofFields? ⟨year, month, day⟩ (timeOfFields? hour minute second nanosecond) offset

/-- Read a date with short fields, each of which may stand after blanks. -/
def takeDate? (s : List Char) : Option (Calendar.Date × List Char) := do
  let (year, s) ← takeYear? (trimStart s)
  let s ← takeChar? '-' s
  let (month, s) ← takeNumber? 1 2 (trimStart s)
  let s ← takeChar? '-' s
  let (day, s) ← takeNumber? 1 2 (trimStart s)
  return (⟨year, month, day⟩, s)

/-- Read hours and minutes with short fields, each of which may stand after blanks. -/
def takeMinutes? (s : List Char) : Option (Nat × Nat × List Char) := do
  let (hour, s) ← takeNumber? 1 2 (trimStart s)
  let s ← takeChar? ':' s
  let (minute, s) ← takeNumber? 1 2 (trimStart s)
  return (hour, minute, s)

/-- Read the rest of the local form after the date. -/
def localTime? : List Char → Option TimeOfDay
  | [] => some ⟨0, 0, 0, 0⟩
  | s => do
    let s ← takeChar? 'T' s
    let (hour, minute, s) ← takeMinutes? s
    match s with
    | [] => timeOfFields? hour minute 0 0
    | _ => do
      let s ← takeChar? ':' s
      let (second, s) ← takeNumber? 1 2 (trimStart s)
      let (nanosecond, s) ← takeFraction? s
      guard s.isEmpty
      timeOfFields? hour minute second nanosecond

/-- Read the local form, which is taken as UTC. -/
def ofLocalText? (s : List Char) : Option DateTime := do
  let (date, s) ← takeDate? s
  ofFields? date (localTime? s) 0

/-- Read the strict form or else the local one. -/
def ofText? (s : List Char) : Option DateTime := (ofStrict? s).or (ofLocalText? s)

/-- Drop what may separate hours and minutes of an offset in the lenient form. -/
def dropColons (s : List Char) : List Char := s.dropWhile fun c => c == ':' || Text.isBlank c

/-- Read the name of universal time in any case. -/
def takeUtc? : List Char → Option (List Char)
  | u :: t :: c :: rest =>
    if u.toUpper == 'U' && t.toUpper == 'T' && c.toUpper == 'C' then some rest else none
  | _ => none

/-- Read the lenient form: short fields, with blanks between them and around them. -/
def ofLenient? (s : List Char) : Option DateTime := do
  let (year, s) ← takeYear? (trimStart s)
  let s ← takeChar? '-' (trimStart s)
  let (month, s) ← takeNumber? 1 2 (trimStart s)
  let s ← takeChar? '-' (trimStart s)
  let (day, s) ← takeNumber? 1 2 (trimStart s)
  let s ← takeSeparator? s
  let (hour, s) ← takeNumber? 1 2 (trimStart s)
  let s ← takeChar? ':' (trimStart s)
  let (minute, s) ← takeNumber? 1 2 (trimStart s)
  let s ← takeChar? ':' (trimStart s)
  let (second, s) ← takeNumber? 1 2 (trimStart s)
  let (nanosecond, s) ← takeFraction? s
  let s := trimStart s
  let (offset, s) ← match takeUtc? s with
    | some rest => some (0, rest)
    | none => takeOffset? (some ∘ dropColons) s
  guard (trimStart s).isEmpty
  ofFields? ⟨year, month, day⟩ (timeOfFields? hour minute second nanosecond) offset

end RecordQuery.DateTime
