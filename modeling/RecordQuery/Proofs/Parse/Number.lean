import RecordQuery.Proofs.Binding.Numeral
import RecordQuery.Proofs.Evaluate.IntegerArithmetic
import RecordQuery.Proofs.Grammar.Measure

/-!
# Constants of numbers

The texts of numbers are those of numerals. A whole numeral without the letter of doubles is decoded
exactly, however many digits it has: it becomes the shortest integer that its letter admits, or it
is refused with its text and position. A fraction or an exponent in front of the letter of long
integers is always refused.

## Main definitions

* `Recognizer.ReadsWhole`: whether a recognizer reads the whole of a text.
* `Binding.IsIntegerConstant`: what an integer has to be decoded to.

## Main statements

* `readsWhole_numberChars_iff`: the texts of numbers are those of numerals.
* `Binding.number_isIntegerConstant`: integers are decoded exactly.
-/

namespace RecordQuery

namespace Grammar

open Recognizer

variable {c d : Cursor} {read text : List Char}

/-! ## Texts of numbers -/

/-- Whether a recognizer reads the whole of a text. -/
def Recognizer.ReadsWhole {α : Type} (p : Recognizer α) (text : List Char) : Prop :=
  ∃ a d, (p (.start text)).outcome = some (a, d) ∧ d.rest = []

theorem outcome_optionally_eq_some {p : Recognizer (List Char)}
    (found : (optionally p c).outcome = some (read, d)) :
    (p c).outcome = some (read, d) ∨ read = [] ∧ c.Reads [] d := by
  obtain ⟨option, e, tried, found⟩ := outcome_bind_eq_some.1 found
  cases found
  rw [outcome_attempt] at tried
  cases first : (p c).outcome with
  | none =>
    rw [first] at tried
    cases tried
    exact .inr ⟨rfl, .refl c⟩
  | some item =>
    rw [first] at tried
    cases tried
    exact .inl rfl

theorem outcome_oneOf_eq_some {chars : List Char}
    (found : (oneOf chars c).outcome = some (read, d)) :
    ∃ x ∈ chars, read = [x] ∧ c.Reads read d := by
  obtain ⟨x, e, one, found⟩ := outcome_bind_eq_some.1 found
  cases found
  obtain ⟨member, reads⟩ := outcome_one_eq_some one
  exact ⟨x, List.contains_iff_mem.1 member, rfl, reads⟩

theorem outcome_optionally_oneOf_eq_some {chars : List Char}
    (found : (optionally (oneOf chars) c).outcome = some (read, d)) :
    ∃ option : Option Char, (∀ x ∈ option, x ∈ chars) ∧ read = option.toList ∧ c.Reads read d := by
  obtain found | ⟨rfl, reads⟩ := outcome_optionally_eq_some found
  · obtain ⟨x, known, rfl, reads⟩ := outcome_oneOf_eq_some found
    exact ⟨some x, by simpa using known, rfl, reads⟩
  · exact ⟨none, by simp, rfl, reads⟩

theorem exists_digits_of_run1 (found : (run1 Char.isDigit c).outcome = some (read, d)) :
    ∃ digits : Digits, read = digits.chars ∧ c.Reads read d := by
  obtain ⟨some_digit, all_digits, reads⟩ := outcome_run1_eq_some found
  exact ⟨⟨read, some_digit, all_digits⟩, rfl, reads⟩

theorem exists_fraction_of_optionally
    (found : (optionally fractionChars c).outcome = some (read, d)) :
    ∃ fraction, read = fractionText fraction ∧ c.Reads read d := by
  obtain found | ⟨rfl, reads⟩ := outcome_optionally_eq_some found
  · obtain ⟨point, c₁, at_point, found⟩ := outcome_bind_eq_some.1 found
    obtain ⟨digits, c₂, at_digits, found⟩ := outcome_bind_eq_some.1 found
    cases found
    obtain ⟨x, known, rfl, reads⟩ := outcome_oneOf_eq_some at_point
    obtain ⟨digits, rfl, reads'⟩ := exists_digits_of_run1 at_digits
    obtain rfl := List.mem_singleton.1 known
    exact ⟨some digits, rfl, reads.trans reads'⟩
  · exact ⟨none, rfl, reads⟩

theorem exists_exponent_of_optionally
    (found : (optionally exponentChars c).outcome = some (read, d)) :
    ∃ exponent, read = exponentText exponent ∧ c.Reads read d := by
  obtain found | ⟨rfl, reads⟩ := outcome_optionally_eq_some found
  · obtain ⟨mark, c₁, at_mark, found⟩ := outcome_bind_eq_some.1 found
    obtain ⟨sign, c₂, at_sign, found⟩ := outcome_bind_eq_some.1 found
    obtain ⟨digits, c₃, at_digits, found⟩ := outcome_bind_eq_some.1 found
    cases found
    obtain ⟨x, marks, rfl, reads⟩ := outcome_oneOf_eq_some at_mark
    obtain ⟨sign, signs, rfl, reads'⟩ := outcome_optionally_oneOf_eq_some at_sign
    obtain ⟨digits, rfl, reads''⟩ := exists_digits_of_run1 at_digits
    exact ⟨some ⟨x, sign, digits, marks, signs⟩, rfl, (reads.trans reads').trans reads''⟩
  · exact ⟨none, rfl, reads⟩

theorem Numeral.exists_sign {option : Option Char} (known : ∀ c ∈ option, c ∈ ['-']) :
    ∃ minus : Bool, option = if minus then some '-' else none := by
  cases option with
  | none => exact ⟨false, rfl⟩
  | some c => exact ⟨true, congrArg some (List.mem_singleton.1 (known c rfl))⟩

/-- What is read as a number is a numeral. -/
theorem exists_numeral_of_numberChars (found : (numberChars c).outcome = some (read, d)) :
    ∃ m : Numeral, read = m.text ∧ c.Reads read d := by
  obtain ⟨sign, c₁, at_sign, found⟩ := outcome_bind_eq_some.1 found
  obtain ⟨digits, c₂, at_digits, found⟩ := outcome_bind_eq_some.1 found
  obtain ⟨fraction, c₃, at_fraction, found⟩ := outcome_bind_eq_some.1 found
  obtain ⟨exponent, c₄, at_exponent, found⟩ := outcome_bind_eq_some.1 found
  obtain ⟨letter, c₅, at_letter, found⟩ := outcome_bind_eq_some.1 found
  obtain ⟨_, c₆, at_end, found⟩ := outcome_bind_eq_some.1 found
  cases found
  obtain ⟨sign, signs, rfl, reads₁⟩ := outcome_optionally_oneOf_eq_some at_sign
  obtain ⟨digits, rfl, reads₂⟩ := exists_digits_of_run1 at_digits
  obtain ⟨fraction, rfl, reads₃⟩ := exists_fraction_of_optionally at_fraction
  obtain ⟨exponent, rfl, reads₄⟩ := exists_exponent_of_optionally at_exponent
  obtain ⟨letter, letters, rfl, reads₅⟩ := outcome_optionally_oneOf_eq_some at_letter
  obtain rfl := eq_of_notBefore at_end
  obtain ⟨minus, rfl⟩ := Numeral.exists_sign signs
  refine ⟨⟨minus, digits, fraction, exponent, letter, letters⟩, rfl, ?_⟩
  exact (((reads₁.trans reads₂).trans reads₃).trans reads₄).trans reads₅

/-- The texts of numbers are those of numerals. -/
theorem readsWhole_numberChars_iff :
    numberChars.ReadsWhole text ↔ ∃ m : Numeral, m.text = text := by
  constructor
  · rintro ⟨read, d, found, ends⟩
    obtain ⟨m, rfl, reads⟩ := exists_numeral_of_numberChars found
    refine ⟨m, ?_⟩
    have split : text = m.text ++ d.rest := reads.rest
    rw [split, ends, List.append_nil]
  · rintro ⟨m, rfl⟩
    have whole : numberChars.Reads id m.text m.text [] := by
      have reads : numberChars.Reads id (m.text ++ []) m.text [] := m.reads nofun
      rwa [List.append_nil] at reads
    obtain ⟨read, d, found, -, ends⟩ := whole.outcome (c := .start m.text) rfl
    exact ⟨read, d, found, ends⟩

end Grammar

namespace Binding

open Grammar (Numeral numberChars)

/-! ## Integers -/

/-- What an integer has to be decoded to. It may have the letter of long integers. -/
structure IsIntegerConstant (long : Prop) (n : Int) (failure : ParseError)
    (result : Except ParseError Value) : Prop where
  /-- Without the letter it has 32 bits if it fits them. -/
  short : ¬ long → PrimitiveType.InRange .int32 n → ∃ v, result = .ok v ∧ v.IsInteger .int32 n
  /-- It has 64 bits if it fits them, and either has the letter or does not fit 32 bits. -/
  wide : PrimitiveType.InRange .int64 n → (long ∨ ¬ PrimitiveType.InRange .int32 n) →
    ∃ v, result = .ok v ∧ v.IsInteger .int64 n
  /-- It is refused otherwise. -/
  fails : ¬ (¬ long ∧ PrimitiveType.InRange .int32 n) →
    ¬ (PrimitiveType.InRange .int64 n ∧ (long ∨ ¬ PrimitiveType.InRange .int32 n)) →
    result = .error failure

variable {long : Prop} {n : Int} {kind : LiteralKind} {text : List Char} {position : Nat}

theorem isIntegerConstant_long (letter : long) :
    IsIntegerConstant long n (.invalidLiteral kind (String.ofList text) position)
      (constantOr kind text position (Value.ofInt? .int64 n)) where
  short no_letter := absurd letter no_letter
  wide fits _ := by
    obtain ⟨v, made⟩ := Value.exists_ofInt?_iff.2 fits
    exact ⟨v, by rw [made]; rfl, Value.ofInt?_eq_some_iff.1 made⟩
  fails _ no_fit := by
    rw [Value.ofInt?_eq_none_iff.2 fun fits => no_fit ⟨fits, .inl letter⟩]
    rfl

theorem isIntegerConstant_plain (no_letter : ¬ long) :
    IsIntegerConstant long n (.invalidLiteral kind (String.ofList text) position)
      (constantOr kind text position ((Value.ofInt? .int32 n).or (Value.ofInt? .int64 n))) where
  short _ fits := by
    obtain ⟨v, made⟩ := Value.exists_ofInt?_iff.2 fits
    exact ⟨v, by rw [made]; rfl, Value.ofInt?_eq_some_iff.1 made⟩
  wide fits large := by
    obtain ⟨v, made⟩ := Value.exists_ofInt?_iff.2 fits
    rw [Value.ofInt?_eq_none_iff.2 (large.resolve_left no_letter), Option.none_or]
    exact ⟨v, by rw [made]; rfl, Value.ofInt?_eq_some_iff.1 made⟩
  fails no_short no_wide := by
    have large : ¬ PrimitiveType.InRange .int32 n := fun fits => no_short ⟨no_letter, fits⟩
    rw [Value.ofInt?_eq_none_iff.2 large, Option.none_or,
      Value.ofInt?_eq_none_iff.2 fun fits => no_wide ⟨fits, .inr large⟩]
    rfl

/-- Integers are decoded exactly, and a number that is not whole does not take the letter of long
integers. -/
theorem number_isIntegerConstant (matched : numberChars.ReadsWhole text) (position : Nat) :
    (∃ m : Numeral, m.text = text) ∧ ∀ m : Numeral, m.text = text →
      (m.IsWhole → ¬ m.IsDouble → IsIntegerConstant m.IsLong m.int
        (.invalidLiteral .number (String.ofList text) position)
        (constantOr .number text position (numberValue? text))) ∧
      (¬ m.IsWhole → m.IsLong → constantOr .number text position (numberValue? text) =
        .error (.invalidLiteral .number (String.ofList text) position)) := by
  refine ⟨Grammar.readsWhole_numberChars_iff.1 matched, ?_⟩
  rintro m rfl
  constructor
  · intro whole no_double
    obtain no_letter | letter | letter := m.letter_cases
    · rw [numberValue?_plain no_letter whole]
      exact isIntegerConstant_plain (Numeral.not_isLong no_letter)
    · rw [numberValue?_long letter, integerValue?_body whole]
      exact isIntegerConstant_long letter
    · exact absurd letter no_double
  · intro fractional letter
    rw [numberValue?_long letter, integerValue?_eq_none fractional]
    rfl

/-- Leading zeros do not count, the first integer below 32 bits takes 64 bits, and the first one
beyond 64 bits is refused, as is an exponent in front of the letter of long integers. -/
theorem number_isIntegerConstant_limits :
    numberChars.ReadsWhole "-00002147483649".toList ∧
    numberChars.ReadsWhole "9223372036854775808L".toList ∧ numberChars.ReadsWhole "1e3l".toList ∧
    (∃ v, constantOr .number "-00002147483649".toList 7 (numberValue? "-00002147483649".toList) =
      .ok v ∧ v.IsInteger .int64 (-2147483649)) ∧
    constantOr .number "9223372036854775808L".toList 7
      (numberValue? "9223372036854775808L".toList) =
        .error (.invalidLiteral .number "9223372036854775808L" 7) ∧
    constantOr .number "1e3l".toList 7 (numberValue? "1e3l".toList) =
      .error (.invalidLiteral .number "1e3l" 7) := by
  have below : numberChars.ReadsWhole "-00002147483649".toList := ⟨_, _, rfl, rfl⟩
  have beyond : numberChars.ReadsWhole "9223372036854775808L".toList := ⟨_, _, rfl, rfl⟩
  have mixed : numberChars.ReadsWhole "1e3l".toList := ⟨_, _, rfl, rfl⟩
  refine ⟨below, beyond, mixed, ?_, ?_, ?_⟩
  · have decoded := (number_isIntegerConstant below 7).2
      ⟨true, ⟨"00002147483649".toList, by decide, by decide⟩, none, none, none, by simp⟩
      rfl
    refine (decoded.1 ⟨rfl, rfl⟩ (by simp [Numeral.IsDouble])).wide ?_ (.inr ?_)
    · exact ⟨_, _, rfl, by decide, by decide⟩
    · rintro ⟨low, high, range, fits, -⟩
      cases range
      exact absurd fits (by decide)
  · have decoded := (number_isIntegerConstant beyond 7).2
      ⟨false, ⟨"9223372036854775808".toList, by decide, by decide⟩, none, none, some 'L', by simp⟩
      rfl
    have long := decoded.1 ⟨rfl, rfl⟩ (by simp [Numeral.IsDouble])
    refine long.fails (fun short => short.1 (.inl rfl)) ?_
    rintro ⟨⟨low, high, range, -, fits⟩, -⟩
    cases range
    exact absurd fits (by decide)
  · have decoded := (number_isIntegerConstant mixed 7).2
      ⟨false, ⟨['1'], by decide, by decide⟩, none,
        some ⟨'e', none, ⟨['3'], by decide, by decide⟩, by decide, by simp⟩, some 'l', by simp⟩
      rfl
    exact decoded.2 (by simp [Numeral.IsWhole]) (.inr rfl)

end Binding

end RecordQuery
