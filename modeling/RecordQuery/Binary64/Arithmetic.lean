import RecordQuery.Binary64.Rounding

/-!
# Arithmetic on doubles

Sums, products, quotients and remainders are computed exactly on units and rounded once. Zeros
keep their sign: the product or quotient of numbers of different sign is negative, and a sum that
cancels is the positive zero.

## Main definitions

* `Binary64.add`, `Binary64.sub`, `Binary64.mul`, `Binary64.div`: the rounded operations.
* `Binary64.rem`: the remainder with the sign of the dividend, which is always exact.
* `Binary64.floor`, `Binary64.ceiling`, `Binary64.roundEven`: the neighbouring whole numbers.
* `Binary64.toIntWithin?`: truncation to an integer of a bounded range.
-/

namespace RecordQuery.Binary64

/-! ## Field operations -/

/-- The double nearest to a whole number of units that is not zero. -/
def ofUnits (u : Int) : Binary64 := ofUnitRatio (u < 0) u.natAbs 1

def add (x y : Binary64) : Binary64 :=
  if x.isNaN || y.isNaN then nan
  else if x.isInfinite then
    if y.isInfinite && x.negative != y.negative then nan else x
  else if y.isInfinite then y
  else
    let sum := x.units + y.units
    if sum = 0 then zero (x.negative && y.negative) else ofUnits sum

def sub (x y : Binary64) : Binary64 := x.add y.neg

def mul (x y : Binary64) : Binary64 :=
  let negative := x.negative != y.negative
  if x.isNaN || y.isNaN then nan
  else if x.isInfinite || y.isInfinite then
    if x.isZero || y.isZero then nan else infinity negative
  else ofUnitRatio negative (x.units.natAbs * y.units.natAbs) unitsPerOne

def div (x y : Binary64) : Binary64 :=
  let negative := x.negative != y.negative
  if x.isNaN || y.isNaN then nan
  else if x.isInfinite then
    if y.isInfinite then nan else infinity negative
  else if y.isInfinite then zero negative
  else if y.isZero then
    if x.isZero then nan else infinity negative
  else ofUnitRatio negative (x.units.natAbs * unitsPerOne) y.units.natAbs

/-- The remainder of the division truncated toward zero. -/
def rem (x y : Binary64) : Binary64 :=
  if x.isNaN || y.isNaN || x.isInfinite || y.isZero then nan
  else if y.isInfinite then x
  else ofUnitRatio x.negative (x.units.natAbs % y.units.natAbs) 1

/-! ## Whole numbers -/

/-- The greatest whole number not above the exact value of a finite double. -/
def floorInt (x : Binary64) : Int := x.units.fdiv unitsPerOne

/-- The least whole number not below the exact value of a finite double. -/
def ceilingInt (x : Binary64) : Int := -((-x.units).fdiv unitsPerOne)

/-- The exact value of a finite double without its fraction. -/
def truncate (x : Binary64) : Int := x.units.tdiv unitsPerOne

/-- Replace a finite double by a whole number, keeping the sign even of a zero. -/
def whole (x : Binary64) (size : Nat) : Binary64 :=
  if x.isFinite then ofUnitRatio x.negative (size * unitsPerOne) 1 else x

def floor (x : Binary64) : Binary64 := x.whole x.floorInt.natAbs

def ceiling (x : Binary64) : Binary64 := x.whole x.ceilingInt.natAbs

/-- The nearest whole number, a tie going to the even one. -/
def roundEven (x : Binary64) : Binary64 :=
  x.whole (roundQuotient x.units.natAbs unitsPerOne)

/-- A finite double without its fraction, if it lies between two integers. The bounds are compared
as doubles and may be rounded outwards there, so a result beyond a bound is moved to the bound. -/
def toIntWithin? (low high : Int) (x : Binary64) : Option Int :=
  if x.isFinite && (ofInt low).le x && x.le (ofInt high) then
    some (min high (max low x.truncate))
  else none

end RecordQuery.Binary64
