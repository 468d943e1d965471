import RecordQuery.Binary64.Rounding
import RecordQuery.Power
import RecordQuery.Text.Digits

/-!
# Decimal texts of doubles

A decimal text is read as an exact decimal number and rounded once. A double is written with the
fewest digits that read back as the same double, and of those the digits nearest to its exact
value, always in positional notation.

## Main definitions

* `Decimal`, `Decimal.ofText?`: a decimal number and its reading.
* `Binary64.ofDecimal`: the double nearest to a decimal number.
* `Binary64.shortest`: the fewest digits that read back.
* `Binary64.toText`: the positional text of a double.
-/

namespace RecordQuery

/-- The number `digits * 10 ^ exponent`, with a sign. -/
structure Decimal where
  negative : Bool
  digits : Nat
  exponent : Int
  deriving DecidableEq, Repr

namespace Decimal

/-! ## Reading -/

/-- Read a sign and digits, the digits to the end of the text. -/
def exponentOfText? (s : List Char) : Option Int :=
  let read (digits : List Char) : Option Nat :=
    if digits.isEmpty || !digits.all Char.isDigit then none else some (Text.digitsValue digits)
  match s with
  | '-' :: rest => (read rest).map fun n => -(n : Int)
  | '+' :: rest => (read rest).map fun n => (n : Int)
  | _ => (read s).map fun n => (n : Int)

/-- Read digits, an optional fraction and an optional exponent. -/
def ofUnsigned? (negative : Bool) (s : List Char) : Option Decimal :=
  let whole := s.takeWhile Char.isDigit
  let rest := s.dropWhile Char.isDigit
  let (fraction, rest) := match rest with
    | '.' :: more => (more.takeWhile Char.isDigit, more.dropWhile Char.isDigit)
    | _ => ([], rest)
  let digits := whole ++ fraction
  let scale : Int := fraction.length
  if digits.isEmpty then none
  else match rest with
    | [] => some ⟨negative, Text.digitsValue digits, -scale⟩
    | c :: more =>
      if c == 'e' || c == 'E' then
        (exponentOfText? more).map fun e => ⟨negative, Text.digitsValue digits, e - scale⟩
      else none

/-- Read a decimal number with an optional minus sign. -/
def ofText? (s : List Char) : Option Decimal :=
  match s with
  | '-' :: rest => ofUnsigned? true rest
  | _ => ofUnsigned? false s

end Decimal

namespace Binary64

/-- The double nearest to a decimal number. Exponents far out of range are settled without
computing the power of ten. -/
def ofDecimal (d : Decimal) : Binary64 :=
  if d.digits = 0 then zero d.negative
  else if 400 < d.exponent then infinity d.negative
  else if d.exponent + (Nat.log2 d.digits / 3 + 1 : Nat) < -400 then zero d.negative
  else if 0 ≤ d.exponent then
    ofUnitRatio d.negative (d.digits * 10 ^ d.exponent.toNat * unitsPerOne) 1
  else ofUnitRatio d.negative (d.digits * unitsPerOne) (10 ^ (-d.exponent).toNat)

/-! ## Writing -/

/-- The decimal exponent of a positive number of units: the number lies below `10 ^ k` and not
below `10 ^ (k - 1)`. -/
def decimalExponent (u : Nat) : Int :=
  ((Nat.toDigits 10 (u * 10 ^ 400 / unitsPerOne)).length : Int) - 400

/-- Whether `c * 10 ^ (-scale)` is read back as the double of magnitude `m`: it lies between the
midpoints to the two neighbours, or on one of them if the magnitude is even. -/
def readsBack (m c : Nat) (scale : Int) : Bool :=
  let u := unitsOfMagnitude m
  let above := u + unitsOfMagnitude (m + 1)
  let below := u + unitsOfMagnitude (m - 1)
  let candidate := 2 * c * unitsPerOne * 10 ^ (-scale).toNat
  let grid := 10 ^ scale.toNat
  if m % 2 = 0 then below * grid ≤ candidate && candidate ≤ above * grid
  else below * grid < candidate && candidate < above * grid

/-- The point of a decimal grid that reads back and lies nearest to the double of magnitude `m`, if
there is one. Only the two grid points around the double can qualify. -/
def onGrid? (m : Nat) (scale : Int) : Option Nat :=
  let a := unitsOfMagnitude m * 10 ^ scale.toNat
  let b := unitsPerOne * 10 ^ (-scale).toNat
  let c := a / b
  let upperNearer := b ≤ 2 * (a % b)
  match readsBack m c scale, readsBack m (c + 1) scale with
  | true, true => some (if upperNearer then c + 1 else c)
  | true, false => some c
  | false, true => some (c + 1)
  | false, false => none

/-- Try finer and finer decimal grids for the double of magnitude `m`. -/
def shortestFrom (m : Nat) (scale : Int) : Nat → Nat × Int
  | 0 => ((unitsOfMagnitude m * 10 ^ scale.toNat) / (unitsPerOne * 10 ^ (-scale).toNat), scale)
  | tries + 1 =>
    match onGrid? m scale with
    | some c => if c % 10 = 0 then (c / 10, scale - 1) else (c, scale)
    | none => shortestFrom m (scale + 1) tries

/-- The fewest digits `c` and the scale with which `c * 10 ^ (-scale)` reads back as the finite
double of magnitude `m`. -/
def shortest (m : Nat) : Nat × Int :=
  shortestFrom m (1 - decimalExponent (unitsOfMagnitude m)) 17

/-- The number `c * 10 ^ (-scale)` in positional notation, without trailing zeros after the
point. -/
def positional (c : Nat) (scale : Int) : List Char :=
  let digits := Nat.toDigits 10 c
  if scale ≤ 0 then digits ++ List.replicate (-scale).toNat '0'
  else
    let places := scale.toNat
    let padded := List.replicate (places + 1 - digits.length) '0' ++ digits
    padded.take (padded.length - places) ++ '.' :: padded.drop (padded.length - places)

/-- The text of a double. -/
def toText (x : Binary64) : String :=
  if x.isNaN then "NaN"
  else
    let sign := if x.negative then "-" else ""
    if x.isInfinite then sign ++ "inf"
    else if x.isZero then sign ++ "0"
    else
      let (c, scale) := shortest x.magnitude
      sign ++ String.ofList (positional c scale)

end Binary64

end RecordQuery
