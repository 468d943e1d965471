/-!
# Decimal digits

## Main definitions

* `Text.digitsValue`: the number that digits stand for.
* `Text.takeNumber?`: read a number from the start of a text.
* `Text.padded`: a number with leading zeros.
-/

namespace RecordQuery.Text

/-- The number that digits stand for, continuing from `acc`. -/
def digitsValueFrom (acc : Nat) : List Char → Nat
  | [] => acc
  | c :: rest => digitsValueFrom (acc * 10 + (c.toNat - 48)) rest

/-- The number that digits stand for. -/
def digitsValue (s : List Char) : Nat := digitsValueFrom 0 s

/-- Read a number from the start of a text: as many digits as there are up to `most`, and no fewer
than `least`. -/
def takeNumber? (least most : Nat) (s : List Char) : Option (Nat × List Char) :=
  let digits := (s.take most).takeWhile Char.isDigit
  if digits.length < least then none else some (digitsValue digits, s.drop digits.length)

/-- The digits of a number, with leading zeros up to a width. -/
def padded (width n : Nat) : List Char :=
  let digits := Nat.toDigits 10 n
  List.replicate (width - digits.length) '0' ++ digits

end RecordQuery.Text
