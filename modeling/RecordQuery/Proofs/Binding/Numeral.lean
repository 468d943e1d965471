import RecordQuery.Binding.Literal
import RecordQuery.Proofs.Grammar.Numeral
import RecordQuery.Proofs.Text.Basic
import RecordQuery.Proofs.Typing.Value

/-!
# Values of numerals

A whole numeral stands for the integer that its sign and its digits denote. It is decoded at 64 bits
if it has the letter of long integers, and at 32 or else 64 bits if it has no letter. A fraction or
an exponent in front of the letter of long integers leaves no value.

## Main definitions

* `Numeral.IsWhole`: whether a numeral has neither a fraction nor an exponent.
* `Numeral.IsLong`, `Numeral.IsDouble`: whether it has the letter of long integers, or of doubles.
* `Numeral.int`: the integer that a whole numeral stands for.

## Main statements

* `numberValue?_long`, `numberValue?_plain`: the value of a numeral by its letter.
* `integerValue?_body`, `integerValue?_eq_none`: the integer of a numeral, and when there is none.
-/

namespace RecordQuery

namespace Grammar.Numeral

variable (m : Numeral)

/-- Whether a numeral has neither a fraction nor an exponent. -/
def IsWhole : Prop := m.fraction = none ∧ m.exponent = none

/-- Whether a numeral has the letter of long integers. -/
def IsLong : Prop := m.letter = some 'L' ∨ m.letter = some 'l'

/-- Whether a numeral has the letter of doubles. -/
def IsDouble : Prop := m.letter = some 'd' ∨ m.letter = some 'D'

/-- The integer that the sign and the digits of a numeral denote. -/
def int : Int :=
  if m.minus then -(Text.denoted m.digits.chars : Int) else Text.denoted m.digits.chars

/-- The letters are those of long integers and of doubles. -/
theorem letter_cases : m.letter = none ∨ m.IsLong ∨ m.IsDouble := by
  cases found : m.letter with
  | none => exact .inl rfl
  | some c =>
    have known := m.letters c found
    simpa [IsLong, IsDouble, found, or_assoc] using known

variable {m}

theorem not_isLong (no_letter : m.letter = none) : ¬ m.IsLong := by
  simp [IsLong, no_letter]

theorem IsWhole.body (h : m.IsWhole) : m.body = m.sign.toList ++ m.digits.chars := by
  rw [Numeral.body, h.1, h.2, fractionText, exponentText, List.append_nil, List.append_nil]

/-- A numeral is whole if it has digits and a minus sign only. -/
theorem isWhole_iff : m.IsWhole ↔ ∀ c ∈ m.body, c.isDigit = true ∨ c = '-' := by
  constructor
  · intro whole c mem
    rw [whole.body] at mem
    rcases List.mem_append.1 mem with sign | digit
    · exact .inr (List.mem_singleton.1 (m.signs c (Option.mem_toList.1 sign)))
    · exact .inl (m.digits.isDigit_of_mem digit)
  · intro chars
    constructor
    · cases found : m.fraction with
      | none => rfl
      | some digits =>
        have point := chars '.' (by simp [Numeral.body, fractionText, found])
        exact absurd point (by decide)
    · cases found : m.exponent with
      | none => rfl
      | some e =>
        have mark := chars e.mark (by simp [Numeral.body, exponentText, found])
        have marks := e.marks
        simp only [List.mem_cons, List.not_mem_nil, or_false] at marks
        obtain same | same := marks <;> rw [same] at mark <;> exact absurd mark (by decide)

theorem IsWhole.getLast?_body (h : m.IsWhole) :
    ∃ d, m.body.getLast? = some d ∧ d.isDigit = true := by
  refine ⟨_, ?_, m.digits.isDigit_of_mem (List.getLast_mem m.digits.some_digit)⟩
  rw [h.body, List.getLast?_append, List.getLast?_eq_some_getLast m.digits.some_digit]
  rfl

end Grammar.Numeral

namespace Binding

open Grammar (Numeral)

variable {m : Numeral} {s : List Char} {n : Int} {p : PrimitiveType}

/-! ## Integers -/

theorem intOfText?_body (h : m.IsWhole) : intOfText? m.body = some m.int := by
  have digits : (m.digits.chars.isEmpty || !m.digits.chars.all Char.isDigit) = false := by
    rw [m.digits.all_digits, List.isEmpty_eq_false_iff.2 m.digits.some_digit]
    rfl
  rw [h.body, Numeral.sign, Numeral.int, ← Text.digitsValue_eq_denoted]
  cases m.minus with
  | true =>
    unfold intOfText?
    simp only [if_pos, Option.toList_some, List.singleton_append, digits, List.head?_cons]
    rfl
  | false =>
    obtain ⟨first, more, shape, digit⟩ := m.digits.exists_cons
    have unsigned : first ≠ '-' := by
      rintro rfl
      exact absurd digit (by decide)
    rw [shape] at digits ⊢
    change intOfText? (first :: more) = some (Text.digitsValue (first :: more) : Int)
    unfold intOfText?
    split
    case h_1 same => exact absurd (List.cons.inj same).1 unsigned
    simp only [digits, List.head?_cons, Option.some_beq_some, beq_false_of_ne unsigned]
    rfl

/-- A text that stands for an integer has digits and a minus sign only. -/
theorem digit_or_minus_of_intOfText? (h : intOfText? s = some n) :
    ∀ c ∈ s, c.isDigit = true ∨ c = '-' := by
  have all : ∀ digits : List Char, ¬ (digits.isEmpty || !digits.all Char.isDigit) = true →
      ∀ c ∈ digits, c.isDigit = true := by
    intro digits h
    simp only [Bool.or_eq_true, Bool.not_eq_true', not_or, Bool.not_eq_false, List.all_eq_true] at h
    exact h.2
  unfold intOfText? at h
  dsimp only at h
  split at h
  · obtain ⟨digits, -⟩ := Option.ite_none_left_eq_some.1 h
    exact List.forall_mem_cons.2 ⟨.inr rfl, fun c mem => .inl (all _ digits c mem)⟩
  · obtain ⟨digits, -⟩ := Option.ite_none_left_eq_some.1 h
    exact fun c mem => .inl (all _ digits c mem)

theorem integerValue?_body (h : m.IsWhole) : integerValue? p m.body = Value.ofInt? p m.int := by
  rw [integerValue?, intOfText?_body h, Option.bind_some]

theorem integerValue?_eq_none (h : ¬ m.IsWhole) : integerValue? p m.body = none := by
  cases found : intOfText? m.body with
  | none => rw [integerValue?, found, Option.bind_none]
  | some n => exact absurd (Numeral.isWhole_iff.2 (digit_or_minus_of_intOfText? found)) h

/-! ## Letters -/

theorem numberValue?_long (h : m.IsLong) : numberValue? m.text = integerValue? .int64 m.body := by
  unfold numberValue? Numeral.text
  obtain letter | letter := h <;>
    rw [letter, Option.toList_some, List.getLast?_concat, List.dropLast_concat] <;> rfl

theorem numberValue?_plain (no_letter : m.letter = none) (h : m.IsWhole) :
    numberValue? m.text = (Value.ofInt? .int32 m.int).or (Value.ofInt? .int64 m.int) := by
  obtain ⟨d, last, digit⟩ := h.getLast?_body
  have chars := Numeral.isWhole_iff.1 h
  have no_fraction : (m.body.any fun c => c == '.' || c == 'e' || c == 'E') = false := by
    refine List.any_eq_false.2 fun c mem => ?_
    rcases chars c mem with is_digit | rfl
    · simp only [Bool.or_eq_true, beq_iff_eq]
      rintro ((rfl | rfl) | rfl) <;> exact absurd is_digit (by decide)
    · decide
  rw [Numeral.text, no_letter, Option.toList_none, List.append_nil, ← integerValue?_body h,
    ← integerValue?_body h]
  unfold numberValue?
  split
  case h_5 => rw [no_fraction]; rfl
  -- No letter of a type is the last digit.
  all_goals
    cases last.symm.trans ‹_›
    exact absurd digit (by decide)

end Binding

end RecordQuery
