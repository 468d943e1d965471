import RecordQuery.Binary64.Basic
import RecordQuery.Power

/-!
# Rounding to a double

A positive ratio of units is rounded to the nearest double, a tie going to the one with an even
last bit. The bits of the result are found by one division: the ratio is scaled down until its
whole part has 53 bits, and since the magnitudes count the doubles in order, a carry out of the
significand lands in the exponent by itself.

## Main definitions

* `Binary64.roundQuotient`: the whole number nearest to a quotient, ties to even.
* `Binary64.nearestMagnitude`: the magnitude nearest to a ratio of units.
* `Binary64.ofInt`: the double nearest to an integer.
-/

namespace RecordQuery.Binary64

/-- The whole number nearest to `a / b`, a tie going to the even one. -/
def roundQuotient (a b : Nat) : Nat :=
  let q := a / b
  let r := a % b
  if 2 * r < b then q else if b < 2 * r then q + 1 else q + q % 2

/-- How many bits the whole part of `a / b` has above 53. -/
def excessBits (a b : Nat) : Nat := Nat.log2 (a / b) - 52

/-- The magnitude nearest to `a / b` units, infinity if that is out of range. -/
def nearestMagnitude (a b : Nat) : Nat :=
  let shift := excessBits a b
  min infinityMagnitude (shift * 2 ^ 52 + roundQuotient a (b * 2 ^ shift))

/-- The double nearest to `a / b` units, with a sign. -/
def ofUnitRatio (negative : Bool) (a b : Nat) : Binary64 :=
  ofParts negative (nearestMagnitude a b)

/-- The double nearest to an integer. -/
def ofInt (n : Int) : Binary64 := ofUnitRatio (n < 0) (n.natAbs * unitsPerOne) 1

theorem nearestMagnitude_le (a b : Nat) : nearestMagnitude a b ≤ infinityMagnitude :=
  Nat.min_le_left _ _

end RecordQuery.Binary64
