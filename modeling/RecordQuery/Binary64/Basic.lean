import RecordQuery.Power

/-!
# Double-precision numbers

A double is kept as its 64 bits. Every finite double is a whole number of units of `2 ^ (-1074)`,
the least positive one, so its exact value is an integer and all arithmetic is exact until the one
rounding at the end. The bits below the sign count the doubles in increasing order of magnitude:
comparing two doubles is comparing two integers.

## Main definitions

* `Binary64`: a double.
* `Binary64.units`: the exact value of a finite double.
* `Binary64.orderKey?`: the place of a double in the order; a NaN has none.
* `Binary64.compare?`, `Binary64.same`: comparison and numeric equality.
-/

namespace RecordQuery

/-- A double-precision number. -/
structure Binary64 where
  bits : UInt64
  deriving DecidableEq, Repr, Inhabited

namespace Binary64

/-! ## Sign and magnitude -/

/-- The magnitude of the infinities. -/
def infinityMagnitude : Nat := 2047 * 2 ^ 52

/-- The number of units in one. -/
def unitsPerOne : Nat := 2 ^ 1074

/-- The sign bit. -/
def negative (x : Binary64) : Bool := 2 ^ 63 ≤ x.bits.toNat

/-- All bits but the sign. -/
def magnitude (x : Binary64) : Nat := x.bits.toNat % 2 ^ 63

/-- The double with a given sign and magnitude. -/
def ofParts (negative : Bool) (magnitude : Nat) : Binary64 :=
  ⟨UInt64.ofNat ((if negative then 2 ^ 63 else 0) + magnitude)⟩

/-- The quiet NaN that invalid operations give. -/
def nan : Binary64 := ⟨0x7FF8000000000000⟩

/-- The infinity of a given sign. -/
def infinity (negative : Bool) : Binary64 := ofParts negative infinityMagnitude

/-- The zero of a given sign. -/
def zero (negative : Bool) : Binary64 := ofParts negative 0

def isNaN (x : Binary64) : Bool := infinityMagnitude < x.magnitude

def isInfinite (x : Binary64) : Bool := x.magnitude == infinityMagnitude

def isFinite (x : Binary64) : Bool := x.magnitude < infinityMagnitude

def isZero (x : Binary64) : Bool := x.magnitude == 0

/-! ## Exact value -/

/-- The number of units of a magnitude: the exponent field shifts the significand, which has a
hidden leading bit unless the field is zero. -/
def unitsOfMagnitude (m : Nat) : Nat :=
  if m / 2 ^ 52 = 0 then m % 2 ^ 52 else (2 ^ 52 + m % 2 ^ 52) * 2 ^ (m / 2 ^ 52 - 1)

/-- The exact value of a finite double, in units. -/
def units (x : Binary64) : Int :=
  if x.negative then -(unitsOfMagnitude x.magnitude : Int) else unitsOfMagnitude x.magnitude

/-! ## Order -/

/-- The place of a double in the order. Both zeros have the same place, and a NaN has none. -/
def orderKey? (x : Binary64) : Option Int :=
  if x.isNaN then none
  else some (if x.negative then -(x.magnitude : Int) else x.magnitude)

/-- Compare two doubles; a NaN compares with nothing. -/
def compare? (x y : Binary64) : Option Ordering :=
  match x.orderKey?, y.orderKey? with
  | some a, some b => some (compare a b)
  | _, _ => none

/-- Numeric equality: the zeros are equal, and a NaN differs from itself. -/
def same (x y : Binary64) : Bool := x.compare? y == some .eq

/-- Whether `x` is a number no greater than `y`. -/
def le (x y : Binary64) : Bool :=
  match x.compare? y with
  | some .gt | none => false
  | _ => true

/-- The same number with the other sign. -/
def neg (x : Binary64) : Binary64 := ofParts (!x.negative) x.magnitude

@[simp] theorem magnitude_ofParts {m : Nat} (n : Bool) (h : m < 2 ^ 63) :
    (ofParts n m).magnitude = m := by
  cases n <;> simp [ofParts, magnitude] <;> omega

@[simp] theorem negative_ofParts {m : Nat} (n : Bool) (h : m < 2 ^ 63) :
    (ofParts n m).negative = n := by
  cases n <;> simp [ofParts, negative] <;> omega

end Binary64

end RecordQuery
