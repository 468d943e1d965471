import RecordQuery.Value.Basic

/-!
# Comparing values

Integers of different width compare as numbers, and an integer compares with a double as the
nearest double. Strings compare by code point, guids by byte and date-times by instant. Nulls,
values of different kinds, NaN, collections and complex values compare with nothing.

## Main definitions

* `Value.compare?`: the order of two scalars.
* `Value.same`: equality of values of the same kind, item by item.
* `Value.looselyEquals`: equality with widening.
* `Value.sortOrder`: the order for sorting, in which nulls come first.
-/

namespace RecordQuery.Value

/-- The order of two values that are not null; values that do not compare have none. -/
def compare? (a b : Value) : Option Ordering :=
  match a, b with
  | null, _ | _, null => none
  | double _, _ | _, double _ =>
    match a.double?, b.double? with
    | some x, some y => x.compare? y
    | _, _ => none
  | bool x, bool y => some (compare x y)
  | string x, string y => some (compare x y)
  | guid x, guid y => some (x.compare y)
  | dateTime x, dateTime y => some (x.compare y)
  | a, b =>
    match a.int?, b.int? with
    | some x, some y => some (compare x y)
    | _, _ => none

mutual

/-- Equality of values of the same kind. Integers of different width differ, doubles are equal as
numbers, and date-times are equal as instants. -/
def same : Value → Value → Bool
  | null, null => true
  | int16 x, int16 y => x == y
  | int32 x, int32 y => x == y
  | int64 x, int64 y => x == y
  | double x, double y => x.same y
  | bool x, bool y => x == y
  | string x, string y => x == y
  | guid x, guid y => x == y
  | dateTime x, dateTime y => x.sameInstant y
  | collection xs, collection ys => sameItems xs ys
  | complex xs, complex ys => sameMembers xs ys
  | _, _ => false

/-- Equality item by item. -/
def sameItems : List Value → List Value → Bool
  | [], [] => true
  | x :: xs, y :: ys => same x y && sameItems xs ys
  | _, _ => false

/-- Equality member by member. -/
def sameMembers : List (String × Value) → List (String × Value) → Bool
  | [], [] => true
  | (n, x) :: xs, (m, y) :: ys => n == m && same x y && sameMembers xs ys
  | _, _ => false

end

/-- Equality with numeric widening; null equals only null. -/
def looselyEquals (a b : Value) : Bool :=
  match a, b with
  | null, null => true
  | null, _ | _, null => false
  | _, _ =>
    match a.compare? b with
    | some order => order == .eq
    | none => a.same b

/-- The order for sorting: nulls first, and a tie between values that do not compare. -/
def sortOrder (a b : Value) : Ordering :=
  match a.isNull, b.isNull with
  | true, true => .eq
  | true, false => .lt
  | false, true => .gt
  | false, false => (a.compare? b).getD .eq

@[simp] theorem compare?_null_left (v : Value) : compare? null v = none := by
  cases v <;> rfl

@[simp] theorem compare?_null_right (v : Value) : compare? v null = none := by
  cases v <;> rfl

@[simp] theorem looselyEquals_null_left (v : Value) : looselyEquals null v = v.isNull := by
  cases v <;> rfl

@[simp] theorem looselyEquals_null_right (v : Value) : looselyEquals v null = v.isNull := by
  cases v <;> rfl

end RecordQuery.Value
