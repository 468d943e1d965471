/-!
# Hexadecimal digits

## Main definitions

* `Text.hexDigit`, `Text.hexValue?`: a digit from its value and back.
* `Text.hexDigits`: a number without leading zeros.
* `Text.hexPadded`: a number in a fixed number of digits.
* `Text.ofHex?`: the number that digits stand for.
-/

namespace RecordQuery.Text

/-- The lower-case digit for a number below sixteen. -/
def hexDigit (n : Nat) : Char := Char.ofNat (if n < 10 then 48 + n else 87 + n)

/-- The value of a digit of either case. -/
def hexValue? (c : Char) : Option Nat :=
  if '0' ≤ c ∧ c ≤ '9' then some (c.toNat - 48)
  else if 'a' ≤ c ∧ c ≤ 'f' then some (c.toNat - 87)
  else if 'A' ≤ c ∧ c ≤ 'F' then some (c.toNat - 55)
  else none

/-- A number without leading zeros, lower case. -/
def hexDigits (n : Nat) : List Char := Nat.toDigits 16 n

/-- The last `width` digits of a number, lower case. -/
def hexPadded : Nat → Nat → List Char
  | 0, _ => []
  | width + 1, n => hexPadded width (n / 16) ++ [hexDigit (n % 16)]

/-- The number that digits stand for, most significant first, continuing from `acc`. -/
def ofHexFrom? (acc : Nat) : List Char → Option Nat
  | [] => some acc
  | c :: rest =>
    match hexValue? c with
    | some d => ofHexFrom? (acc * 16 + d) rest
    | none => none

/-- The number that digits stand for, most significant first. -/
def ofHex? (s : List Char) : Option Nat := ofHexFrom? 0 s

@[simp] theorem length_hexPadded (width n : Nat) : (hexPadded width n).length = width := by
  induction width generalizing n with
  | zero => rfl
  | succ width ih => simp [hexPadded, ih]

theorem hexValue?_hexDigit {n : Nat} (h : n < 16) : hexValue? (hexDigit n) = some n := by
  have all : ∀ d : Fin 16, hexValue? (hexDigit d) = some d.val := by decide
  exact all ⟨n, h⟩

end RecordQuery.Text
