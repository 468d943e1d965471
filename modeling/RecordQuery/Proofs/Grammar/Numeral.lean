import RecordQuery.Proofs.Grammar.Names

/-!
# Numerals

A numeral is digits, with perhaps a minus sign, a fraction, an exponent and the letter of a type.
Its text is read back where nothing follows that would go on with it.

## Main definitions

* `Digits`, `Exponent`, `Numeral`: numerals and their parts.
* `Numeral.text`: how a numeral is written.

## Main statements

* `Numeral.reads`: numerals are read back.
-/

namespace RecordQuery.Grammar

open Recognizer

variable {s rest : List Char}

/-! ## Optional parts -/

namespace Recognizer

variable {belongs : Char → Bool} {chars : List Char}

theorem Ends.append (h : Ends belongs s) (h' : Ends belongs rest) : Ends belongs (s ++ rest) := by
  cases s with
  | nil => exact h'
  | cons c s => exact Ends.cons (h c rfl) _

theorem Ends.contains (h : Ends belongs s) (known : chars.all belongs = true) :
    Ends chars.contains s :=
  h.mono fun c member => List.all_eq_true.1 known c (List.contains_iff_mem.1 member)

theorem eq_false_of_mem {c : Char} (mem : c ∈ chars) (known : chars.any belongs = false) :
    belongs c = false := Bool.eq_false_iff.2 (List.any_eq_false.1 known c mem)

end Recognizer

theorem reads_optionally {p : Recognizer (List Char)} {read : List Char}
    (h : p.Reads id s read rest) : (optionally p).Reads id s read rest := by
  refine h.attempt.bind fun found same => ?_
  rw [Option.map_id] at same
  rw [show found = some read from same]
  exact Reads.pure (f := id) read

theorem reads_optionally_none {p : Recognizer (List Char)} (h : p.Refuses s) :
    (optionally p).Reads id s [] s := by
  refine (h.attempt (f := id)).bind fun found same => ?_
  rw [Option.map_eq_none_iff.1 same]
  exact Reads.pure (f := id) []

theorem reads_oneOf {chars : List Char} {c : Char} (h : c ∈ chars) :
    (oneOf chars).Reads id (c :: rest) [c] rest := by
  refine (reads_one (List.contains_iff_mem.2 h)).bind fun found same => ?_
  cases same
  exact Reads.pure (f := id) [found]

theorem refuses_oneOf {chars : List Char} (h : Ends chars.contains s) : (oneOf chars).Refuses s :=
  Refuses.bind (refuses_one h)

theorem reads_optionally_oneOf {chars : List Char} {found : Option Char}
    (known : ∀ c ∈ found, c ∈ chars) (ends : Ends chars.contains rest) :
    (optionally (oneOf chars)).Reads id (found.toList ++ rest) found.toList rest := by
  cases found with
  | none => exact reads_optionally_none (refuses_oneOf ends)
  | some c => exact reads_optionally (reads_oneOf (known c rfl))

/-! ## Digits -/

/-- Decimal digits, at least one. -/
structure Digits where
  chars : List Char
  some_digit : chars ≠ []
  all_digits : chars.all Char.isDigit = true

namespace Digits

variable (digits : Digits)

theorem reads (ends : Ends Char.isDigit rest) :
    (run1 Char.isDigit).Reads id (digits.chars ++ rest) digits.chars rest :=
  reads_run1 digits.some_digit (List.all_eq_true.1 digits.all_digits) ends

theorem isDigit_of_mem {c : Char} (mem : c ∈ digits.chars) : c.isDigit = true :=
  List.all_eq_true.1 digits.all_digits c mem

theorem exists_cons : ∃ first more, digits.chars = first :: more ∧ first.isDigit = true := by
  obtain ⟨first, more, shape⟩ := List.exists_cons_of_ne_nil digits.some_digit
  exact ⟨first, more, shape, digits.isDigit_of_mem (shape ▸ List.mem_cons_self)⟩

/-- Digits start with none of some characters that are no digits. -/
theorem ends {chars : List Char} (no_digit : chars.any Char.isDigit = false) (rest : List Char) :
    Ends chars.contains (digits.chars ++ rest) := by
  obtain ⟨first, more, shape, digit⟩ := digits.exists_cons
  rw [shape]
  refine Ends.cons (Bool.eq_false_iff.2 fun member => ?_) _
  simp [eq_false_of_mem (List.contains_iff_mem.1 member) no_digit] at digit

end Digits

/-! ## Fractions and exponents -/

/-- What would go on with a fraction, which may be missing. -/
def extendsFraction (c : Char) : Bool := c.isDigit || c == '.'

/-- What would go on with an exponent, in front of which a fraction may be missing as well. -/
def extendsExponent (c : Char) : Bool := extendsFraction c || c == 'e' || c == 'E'

/-- A point and digits. -/
def fractionChars : Recognizer (List Char) := do
  let point ← oneOf ['.']
  let digits ← run1 Char.isDigit
  return point ++ digits

/-- The mark of an exponent, perhaps a sign, and digits. -/
def exponentChars : Recognizer (List Char) := do
  let mark ← oneOf ['e', 'E']
  let sign ← optionally (oneOf ['+', '-'])
  let digits ← run1 Char.isDigit
  return mark ++ sign ++ digits

/-- The text of a fraction, if there is one. -/
def fractionText : Option Digits → List Char
  | none => []
  | some digits => '.' :: digits.chars

/-- An exponent: the letter that marks it, perhaps a sign, and digits. -/
structure Exponent where
  mark : Char
  sign : Option Char
  digits : Digits
  marks : mark ∈ ['e', 'E']
  signs : ∀ c ∈ sign, c ∈ ['+', '-']

/-- The text of an exponent, if there is one. -/
def exponentText : Option Exponent → List Char
  | none => []
  | some e => e.mark :: (e.sign.toList ++ e.digits.chars)

theorem ends_fractionText (fraction : Option Digits) (ends : Ends extendsFraction rest) :
    Ends Char.isDigit (fractionText fraction ++ rest) := by
  refine Ends.append ?_ (ends.mono fun c member => by simp [extendsFraction, member])
  cases fraction with
  | none => exact nofun
  | some digits => exact Ends.cons (by decide) _

theorem ends_exponentText (exponent : Option Exponent) (ends : Ends extendsExponent rest) :
    Ends extendsFraction (exponentText exponent ++ rest) := by
  refine Ends.append ?_ (ends.mono fun c member => by simp [extendsExponent, member])
  cases exponent with
  | none => exact nofun
  | some e => exact Ends.cons (eq_false_of_mem e.marks (by decide)) _

theorem reads_fractionText (fraction : Option Digits) (ends : Ends extendsFraction rest) :
    (optionally fractionChars).Reads id (fractionText fraction ++ rest) (fractionText fraction)
      rest := by
  cases fraction with
  | none => exact reads_optionally_none (Refuses.bind (refuses_oneOf (ends.contains (by decide))))
  | some digits =>
    have digits_read := digits.reads (ends.mono fun c member => by simp [extendsFraction, member])
    refine reads_optionally ((reads_oneOf (List.mem_singleton_self _)).bind fun point same => ?_)
    refine digits_read.bind fun found same' => ?_
    have value : fractionText (some digits) = point ++ found := by
      rw [show point = ['.'] from same, show found = digits.chars from same']
      rfl
    rw [value]
    exact Reads.pure (f := id) (point ++ found)

theorem reads_exponentText (exponent : Option Exponent) (ends : Ends extendsExponent rest) :
    (optionally exponentChars).Reads id (exponentText exponent ++ rest) (exponentText exponent)
      rest := by
  cases exponent with
  | none => exact reads_optionally_none (Refuses.bind (refuses_oneOf (ends.contains (by decide))))
  | some e =>
    have unsigned : Ends ['+', '-'].contains (e.digits.chars ++ rest) :=
      e.digits.ends (by decide) rest
    have digits_read := e.digits.reads (ends.mono fun c member => by
      simp [extendsExponent, extendsFraction, member])
    refine reads_optionally ?_
    rw [exponentText, List.cons_append, List.append_assoc]
    refine (reads_oneOf e.marks).bind fun mark same => ?_
    refine (reads_optionally_oneOf e.signs unsigned).bind fun sign same' => ?_
    refine digits_read.bind fun found same'' => ?_
    have value : e.mark :: (e.sign.toList ++ e.digits.chars) = mark ++ sign ++ found := by
      rw [show mark = [e.mark] from same, show sign = e.sign.toList from same',
        show found = e.digits.chars from same'']
      rfl
    rw [value]
    exact Reads.pure (f := id) (mark ++ sign ++ found)

/-! ## Numerals -/

/-- A number as it is written. -/
structure Numeral where
  minus : Bool
  digits : Digits
  fraction : Option Digits
  exponent : Option Exponent
  letter : Option Char
  letters : ∀ c ∈ letter, c ∈ ['L', 'l', 'd', 'D']

namespace Numeral

variable (m : Numeral)

/-- The sign of a numeral, if it has one. -/
def sign : Option Char := if m.minus then some '-' else none

/-- The text of a numeral without the letter of its type. -/
def body : List Char :=
  m.sign.toList ++ m.digits.chars ++ fractionText m.fraction ++ exponentText m.exponent

/-- The text of a numeral. -/
def text : List Char := m.body ++ m.letter.toList

theorem signs : ∀ c ∈ m.sign, c ∈ ['-'] := by
  unfold sign
  cases m.minus <;> simp

theorem ends_letter (ends : Ends extendsName rest) :
    Ends extendsExponent (m.letter.toList ++ rest) := by
  refine Ends.append (fun c head => ?_) (ends.mono fun c member => ?_)
  · rw [Option.head?_toList] at head
    exact eq_false_of_mem (m.letters c head) (by decide)
  · simp only [extendsExponent, extendsFraction, Bool.or_eq_true, beq_iff_eq] at member
    obtain ((digit | rfl) | rfl) | rfl := member
    · simp [extendsName, continuesName, digit]
    all_goals decide

/-- A numeral is read back where nothing follows that would go on with it. -/
theorem reads (ends : Ends extendsName rest) :
    numberChars.Reads id (m.text ++ rest) m.text rest := by
  -- What stands behind each part does not go on with the part.
  have behind_exponent := m.ends_letter ends
  have behind_fraction := ends_exponentText m.exponent behind_exponent
  have behind_digits := ends_fractionText m.fraction behind_fraction
  have behind_sign : Ends ['-'].contains (m.digits.chars ++ (fractionText m.fraction ++
      (exponentText m.exponent ++ (m.letter.toList ++ rest)))) := m.digits.ends (by decide) _
  have split : m.text ++ rest = m.sign.toList ++ (m.digits.chars ++ (fractionText m.fraction ++
      (exponentText m.exponent ++ (m.letter.toList ++ rest)))) := by
    simp only [text, body, List.append_assoc]
  rw [split]
  refine (reads_optionally_oneOf m.signs behind_sign).bind fun a same_a => ?_
  refine (m.digits.reads behind_digits).bind fun b same_b => ?_
  refine (reads_fractionText m.fraction behind_fraction).bind fun c same_c => ?_
  refine (reads_exponentText m.exponent behind_exponent).bind fun d same_d => ?_
  refine (reads_optionally_oneOf m.letters (ends.contains (by decide))).bind fun e same_e => ?_
  refine (reads_notBefore ends.name).bind fun _ _ => ?_
  have value : m.text = a ++ b ++ c ++ d ++ e := by
    rw [show a = m.sign.toList from same_a, show b = m.digits.chars from same_b,
      show c = fractionText m.fraction from same_c, show d = exponentText m.exponent from same_d,
      show e = m.letter.toList from same_e]
    rfl
  rw [value]
  exact Reads.pure (f := id) (a ++ b ++ c ++ d ++ e)

/-- A numeral starts with its sign or with a digit. -/
theorem exists_cons :
    ∃ first more, m.text = first :: more ∧ (first.isDigit = true ∨ first = '-') := by
  obtain ⟨first, more, shape, digit⟩ := m.digits.exists_cons
  unfold text body sign
  cases m.minus with
  | true => exact ⟨'-', _, rfl, .inr rfl⟩
  | false =>
    rw [shape]
    exact ⟨first, _, rfl, .inl digit⟩

end Numeral

end RecordQuery.Grammar
