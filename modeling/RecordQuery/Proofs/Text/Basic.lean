import Mathlib.Data.List.TakeWhile
import Mathlib.Data.Nat.Digits.Defs
import RecordQuery.Power
import RecordQuery.Text.Blank
import RecordQuery.Text.Digits

/-!
# Blank texts and digits

What trimming a text and reading its digits come to, said without the order in which they go through
the text.

## Main definitions

* `Text.denoted`: the number that decimal digits denote.

## Main statements

* `Text.blank_eq_false_iff`: which texts are not blank.
* `Text.digitsValue_eq_denoted`: digits are read as the number that they denote.
-/

namespace RecordQuery.Text

/-! ## Blanks -/

theorem trim_eq_nil_iff {s : List Char} : trim s = [] ↔ ∀ c ∈ s, isBlank c := by
  have rest : (∀ c ∈ s.dropWhile isBlank, isBlank c) ↔ ∀ c ∈ s, isBlank c := by
    constructor
    · intro blank c mem
      rw [← List.takeWhile_append_dropWhile (p := isBlank) (l := s), List.mem_append] at mem
      exact mem.elim List.mem_takeWhile_imp (blank c)
    · exact fun blank c mem => blank c ((List.dropWhile_sublist _).mem mem)
  rw [trim, trimEnd, trimStart, List.reverse_eq_nil_iff, List.dropWhile_eq_nil_iff]
  simpa using rest

/-- A text is not blank if one of its characters is not. -/
theorem blank_eq_false_iff {s : String} : blank s = false ↔ ∃ c ∈ s.toList, isBlank c = false := by
  rw [blank, List.isEmpty_eq_false_iff, ne_eq, trim_eq_nil_iff]
  simp

/-! ## Digits -/

/-- The number that decimal digits denote by their places, the last one being that of the ones. -/
def denoted (digits : List Char) : Nat :=
  Nat.ofDigits 10 (digits.reverse.map fun c => c.toNat - '0'.toNat)

theorem denoted_cons (c : Char) (digits : List Char) :
    denoted (c :: digits) = denoted digits + 10 ^ digits.length * (c.toNat - 48) := by
  simp only [denoted, List.reverse_cons, List.map_append, Nat.ofDigits_append, List.length_map,
    List.length_reverse]
  rfl

theorem digitsValueFrom_eq_denoted (acc : Nat) (digits : List Char) :
    digitsValueFrom acc digits = acc * 10 ^ digits.length + denoted digits := by
  induction digits generalizing acc with
  | nil => exact (Nat.mul_one acc).symm
  | cons c digits ih =>
    calc digitsValueFrom (acc * 10 + (c.toNat - 48)) digits
        = (acc * 10 + (c.toNat - 48)) * 10 ^ digits.length + denoted digits := ih _
      _ = acc * (10 ^ digits.length * 10) +
          (denoted digits + 10 ^ digits.length * (c.toNat - 48)) := by grind
      _ = acc * 10 ^ (c :: digits).length + denoted (c :: digits) := by
        rw [denoted_cons, List.length_cons, Nat.pow_succ]

theorem digitsValue_eq_denoted (digits : List Char) : digitsValue digits = denoted digits := by
  rw [digitsValue, digitsValueFrom_eq_denoted, Nat.zero_mul, Nat.zero_add]

end RecordQuery.Text
