import RecordQuery.Binding.Term
import RecordQuery.Proofs.Binding.Numeral
import RecordQuery.Proofs.Display.Shown
import RecordQuery.Proofs.Grammar.Balance

/-!
# Constants are read back

The text of a scalar is a constant of the grammar, and what is bound to that constant is the scalar
again. Not all scalars have such a text: short integers are read back as longer ones, doubles lose
the letter of their type, and a date-time may have no text of its own.

## Main definitions

* `Value.IsLiteral`: whether a value is read back from its text.

## Main statements

* `Value.IsLiteral.reads`: the text of such a value is a constant.
* `Value.IsLiteral.bound`: the constant is bound to the value.
-/

namespace RecordQuery

open Grammar (Boundary Numeral Term)
open Grammar.Recognizer

/-! ## Strings -/

namespace Value

theorem doubleQuotes_quote (s : List Char) :
    doubleQuotes ('\'' :: s) = '\'' :: '\'' :: doubleQuotes s := rfl

theorem doubleQuotes_cons {c : Char} (h : c ≠ '\'') (s : List Char) :
    doubleQuotes (c :: s) = c :: doubleQuotes s := by
  simp [doubleQuotes, h]

theorem stringValue_doubleQuotes (s : List Char) : Binding.stringValue (doubleQuotes s) = s := by
  induction s with
  | nil => rfl
  | cons c s ih =>
    by_cases quote : c = '\''
    · rw [quote, doubleQuotes_quote, Binding.stringValue, ih]
    · rw [doubleQuotes_cons quote, Binding.stringValue, ih]
      exact fun _ same _ => quote same

/-- A body with doubled quotes ends at the first quote that stands alone. -/
theorem stringBodyChars_doubleQuotes (s : List Char) {rest : List Char}
    (ends : Ends (· == '\'') rest) :
    Grammar.stringBodyChars (doubleQuotes s ++ '\'' :: rest) = doubleQuotes s := by
  induction s with
  | nil =>
    cases rest with
    | nil => rfl
    | cons c rest =>
      have other : c ≠ '\'' := by simpa using ends c rfl
      change Grammar.stringBodyChars ('\'' :: c :: rest) = []
      rw [Grammar.stringBodyChars]
      exact fun _ same => other (List.cons.inj same).1
  | cons c s ih =>
    by_cases quote : c = '\''
    · rw [quote, doubleQuotes_quote, List.cons_append, List.cons_append, Grammar.stringBodyChars,
        ih]
    · rw [doubleQuotes_cons quote, List.cons_append, Grammar.stringBodyChars, ih]
      · exact fun _ same _ => quote same
      · exact quote

theorem doubled_doubleQuotes (s : List Char) : Grammar.Doubled (doubleQuotes s) := by
  induction s with
  | nil => exact .nil
  | cons c s ih =>
    by_cases quote : c = '\''
    · rw [quote, doubleQuotes_quote]
      exact .quote ih
    · rw [doubleQuotes_cons quote]
      exact .char quote ih

end Value

/-! ## Integers -/

namespace Binding

theorem toList_toString (n : Int) : (toString n).toList =
    (if n < 0 then ['-'] else []) ++ Nat.toDigits 10 n.natAbs := by
  rw [Int.toString_eq_repr, Int.repr_eq_if]
  by_cases negative : n < 0
  · rw [if_neg (by omega), if_pos negative, String.toList_append, Nat.toList_repr,
      show (-n).toNat = n.natAbs by omega]
    rfl
  · rw [if_pos (by omega), if_neg negative, Nat.toList_repr, show n.toNat = n.natAbs by omega]
    rfl

theorem isDigit_toDigits (n : Nat) : (Nat.toDigits 10 n).all Char.isDigit = true :=
  List.all_eq_true.2 fun _ mem => Nat.isDigit_of_mem_toDigits (by decide) (by decide) mem

theorem digitsValueFrom_eq (acc : Nat) (s : List Char) :
    Text.digitsValueFrom acc s = Nat.ofDigitChars 10 s acc := by
  induction s generalizing acc with
  | nil => rfl
  | cons c s ih =>
    have zero : '0'.toNat = 48 := by decide
    rw [Nat.ofDigitChars_cons, zero, Nat.mul_comm]
    exact ih _

theorem digitsValue_toDigits (n : Nat) : Text.digitsValue (Nat.toDigits 10 n) = n := by
  rw [Text.digitsValue, digitsValueFrom_eq, Nat.ofDigitChars_toDigits (by decide) (by decide)]

/-- The numeral of an integer, with perhaps a letter. -/
def numeral (n : Int) (letter : Option Char) (letters : ∀ c ∈ letter, c ∈ ['L', 'l', 'd', 'D']) :
    Numeral where
  minus := decide (n < 0)
  digits := ⟨Nat.toDigits 10 n.natAbs, Nat.toDigits_ne_nil, isDigit_toDigits _⟩
  fraction := none
  exponent := none
  letter := letter
  letters := letters

section

variable {n : Int} {letter : Option Char} {letters : ∀ c ∈ letter, c ∈ ['L', 'l', 'd', 'D']}

theorem isWhole_numeral : (numeral n letter letters).IsWhole := ⟨rfl, rfl⟩

theorem body_numeral : (numeral n letter letters).body = (toString n).toList := by
  rw [isWhole_numeral.body, toList_toString, Numeral.sign, numeral]
  by_cases negative : n < 0 <;> simp [negative]

theorem text_numeral :
    (numeral n letter letters).text = (toString n).toList ++ letter.toList := by
  rw [Numeral.text, body_numeral, numeral]

theorem int_numeral : (numeral n letter letters).int = n := by
  rw [Numeral.int, ← Text.digitsValue_eq_denoted, numeral]
  dsimp only
  rw [digitsValue_toDigits]
  by_cases negative : n < 0
  · rw [if_pos (decide_eq_true negative), Int.ofNat_natAbs_of_nonpos (by omega), Int.neg_neg]
  · rw [if_neg (by simpa using negative), Int.natAbs_of_nonneg (by omega)]

end

/-- The text of an integer has digits and perhaps a sign only. -/
theorem digit_or_minus_of_mem_toString {n : Int} {c : Char} (mem : c ∈ (toString n).toList) :
    c.isDigit = true ∨ c = '-' := by
  have whole : (numeral n none nofun).IsWhole := isWhole_numeral
  exact Numeral.isWhole_iff.1 whole c (body_numeral ▸ mem)

theorem literal_int32 (n : Int32) :
    (Value.int32 n).literal.toList = (numeral n.toInt none nofun).text := by
  rw [text_numeral, Option.toList_none, List.append_nil]
  rfl

theorem literal_int64 (n : Int64) :
    (Value.int64 n).literal.toList = (numeral n.toInt (some 'L') (by simp)).text := by
  rw [text_numeral, Value.literal, String.toList_append]
  rfl

theorem numberValue?_int32 (n : Int32) :
    numberValue? (Value.int32 n).literal.toList = some (.int32 n) := by
  have fits : Value.ofInt? .int32 n.toInt = some (.int32 n) := Value.ofInt?_eq_some_iff.2 ⟨rfl, rfl⟩
  rw [literal_int32, numberValue?_plain rfl isWhole_numeral, int_numeral, fits]
  rfl

theorem numberValue?_int64 (n : Int64) :
    numberValue? (Value.int64 n).literal.toList = some (.int64 n) := by
  rw [literal_int64, numberValue?_long (.inl rfl), integerValue?_body isWhole_numeral, int_numeral]
  exact Value.ofInt?_eq_some_iff.2 ⟨rfl, rfl⟩

end Binding

/-! ## Guids -/

namespace Text

theorem ofHexFrom?_append (acc : Nat) (s t : List Char) :
    ofHexFrom? acc (s ++ t) = (ofHexFrom? acc s).bind fun n => ofHexFrom? n t := by
  induction s generalizing acc with
  | nil => rfl
  | cons c s ih =>
    rw [List.cons_append, ofHexFrom?, ofHexFrom?]
    cases hexValue? c with
    | none => rfl
    | some d => exact ih _

theorem ofHexFrom?_hexPadded (width acc n : Nat) :
    ofHexFrom? acc (hexPadded width n) = some (acc * 16 ^ width + n % 16 ^ width) := by
  induction width generalizing n with
  | zero => simp [hexPadded, ofHexFrom?, Nat.mod_one]
  | succ width ih =>
    have digit := hexValue?_hexDigit (Nat.mod_lt n (show 0 < 16 by decide))
    rw [hexPadded, ofHexFrom?_append, ih, Option.bind_some, ofHexFrom?, digit]
    refine congrArg some ?_
    have power : acc * (16 * 16 ^ width) = acc * 16 ^ width * 16 := by
      rw [Nat.mul_comm 16, Nat.mul_assoc]
    rw [Nat.pow_succ', Nat.mod_mul, Nat.add_mul, power]
    omega

theorem isGuidChar_hexPadded (width n : Nat) :
    (hexPadded width n).all Grammar.isGuidChar = true := by
  induction width generalizing n with
  | zero => rfl
  | succ width ih =>
    have digits : ∀ d : Fin 16, Grammar.isGuidChar (hexDigit d) = true := by decide
    rw [hexPadded, List.all_append, ih]
    exact (Bool.and_true _).trans (digits ⟨n % 16, Nat.mod_lt n (by decide)⟩)

end Text

namespace Guid

theorem ofGroups?_groups {a b c d e : List Char} (ha : a.length = 8) (hb : b.length = 4)
    (hc : c.length = 4) (hd : d.length = 4) (he : e.length = 12) :
    ofGroups? (a ++ '-' :: b ++ '-' :: c ++ '-' :: d ++ '-' :: e) =
      ofDigits? (a ++ b ++ c ++ d ++ e) := by
  unfold ofGroups?
  simp [List.drop_append, List.getElem?_append, List.drop_of_length_le, ha, hb, hc, hd, he]

theorem ofText?_hyphenate {digits : List Char} (h : digits.length = 32) :
    ofText? (hyphenate digits) = ofDigits? digits := by
  have length : (hyphenate digits).length = 36 := by simp [hyphenate, h]
  have whole : digits.take 8 ++ (digits.drop 8).take 4 ++ (digits.drop 12).take 4 ++
      (digits.drop 16).take 4 ++ digits.drop 20 = digits := by
    have glue : ∀ i j, (digits.drop i).take j ++ digits.drop (i + j) = digits.drop i :=
      fun i j => by rw [← List.drop_drop, List.take_append_drop]
    simp only [List.append_assoc]
    rw [glue 16 4, glue 12 4, glue 8 4, List.take_append_drop]
  unfold ofText?
  rw [length]
  refine (ofGroups?_groups ?_ ?_ ?_ ?_ ?_).trans (by rw [whole]) <;> simp [h]

/-- The hyphenated form of an identifier is read back. -/
theorem ofText?_toText (g : Guid) : ofText? g.toText.toList = some g := by
  have length := Text.length_hexPadded 32 g.bits.toNat
  have small : g.bits.toNat < 16 ^ 32 := g.bits.isLt
  rw [toText, String.toList_ofList, ofText?_hyphenate length, ofDigits?, if_pos length, Text.ofHex?,
    Text.ofHexFrom?_hexPadded, Nat.zero_mul, Nat.zero_add, Nat.mod_eq_of_lt small, Option.map_some,
    BitVec.ofNat_toNat, BitVec.setWidth_eq]

theorem mem_of_mem_hyphenate {digits : List Char} {c : Char} (mem : c ∈ hyphenate digits) :
    c ∈ digits ∨ c = '-' := by
  simp only [hyphenate, List.mem_append, List.mem_cons] at mem
  rcases mem with (((mem | rfl | mem) | rfl | mem) | rfl | mem) | rfl | mem
  · exact .inl (List.mem_of_mem_take mem)
  · exact .inr rfl
  · exact .inl (List.mem_of_mem_drop (List.mem_of_mem_take mem))
  · exact .inr rfl
  · exact .inl (List.mem_of_mem_drop (List.mem_of_mem_take mem))
  · exact .inr rfl
  · exact .inl (List.mem_of_mem_drop (List.mem_of_mem_take mem))
  · exact .inr rfl
  · exact .inl (List.mem_of_mem_drop mem)

theorem isGuidChar_toText (g : Guid) : g.toText.toList.all Grammar.isGuidChar = true := by
  have digits := List.all_eq_true.1 (Text.isGuidChar_hexPadded 32 g.bits.toNat)
  rw [toText, String.toList_ofList]
  refine List.all_eq_true.2 fun c mem => ?_
  obtain digit | rfl := mem_of_mem_hyphenate mem
  · exact digits c digit
  · decide

theorem toText_ne_nil (g : Guid) : g.toText.toList ≠ [] := by
  rw [toText, String.toList_ofList]
  exact List.append_ne_nil_of_right_ne_nil _ (List.cons_ne_nil _ _)

end Guid

/-! ## Date-times -/

namespace DateTime

theorem quote_not_mem_padded (width n : Nat) : '\'' ∉ Text.padded width n := by
  intro mem
  rcases List.mem_append.1 mem with zero | digit
  · exact absurd (List.eq_of_mem_replicate zero) (by decide)
  · exact absurd (List.all_eq_true.1 (Binding.isDigit_toDigits n) _ digit) (by decide)

theorem quote_not_mem_toText (d : DateTime) : '\'' ∉ d.toText.toList := by
  have year : '\'' ∉ yearText d.localDate.year := by
    unfold yearText
    split
    · exact quote_not_mem_padded _ _
    · refine List.not_mem_cons_of_ne_of_not_mem ?_ (quote_not_mem_padded _ _)
      split <;> decide
  have fraction : ∀ n, '\'' ∉ fractionText n := by
    intro n
    unfold fractionText
    split
    · exact List.not_mem_nil
    · split
      · simp [quote_not_mem_padded]
      · split <;> simp [quote_not_mem_padded]
  have offset : '\'' ∉ offsetText d.offset := by
    unfold offsetText
    dsimp only
    split <;> split <;> simp [quote_not_mem_padded]
  rw [toText, String.toList_ofList, clockText]
  simp [quote_not_mem_padded, year, fraction, offset]

theorem toText_ne_nil (d : DateTime) : d.toText.toList ≠ [] := by
  rw [toText, String.toList_ofList]
  exact List.append_ne_nil_of_right_ne_nil _ (List.cons_ne_nil _ _)

end DateTime

/-! ## Scalars that are read back -/

namespace Value

/-- Whether a value is null or a scalar that is read back from its text. -/
def IsLiteral : Value → Prop
  | int16 _ | double _ | collection _ | complex _ => False
  | dateTime d => DateTime.ofText? d.toText.toList = some d
  | _ => True

variable {v : Value} {text rest : List Char}

theorem IsLiteral.bound (h : v.IsLiteral) {context : QueryContext} {limit : Binding.Bounds}
    {scope : Binding.Scope} : Binding.term context limit scope v.shown = .ok (.ofValue v) := by
  cases v with
  | int16 | double | collection | complex => cases h
  | null | bool => rfl
  | string s =>
    rw [shown, Binding.term, stringValue_doubleQuotes, String.ofList_toList]
  | guid g =>
    rw [shown, Binding.term, Guid.ofText?_toText]
    rfl
  | dateTime d =>
    rw [shown, Binding.term, show DateTime.ofText? d.toText.toList = some d from h]
    rfl
  | int32 n =>
    change Binding.term context limit scope (.number 0 (literal (.int32 n)).toList) = _
    rw [Binding.term, Binding.numberValue?_int32]
    rfl
  | int64 n =>
    change Binding.term context limit scope (.number 0 (literal (.int64 n)).toList) = _
    rw [Binding.term, Binding.numberValue?_int64]
    rfl

/-- The text of a literal is a constant of the grammar. -/
theorem IsLiteral.reads (h : v.IsLiteral) (boundary : Boundary rest)
    (start : text.dropWhile Grammar.isSpace = v.literal.toList ++ rest) :
    Grammar.literal.Reads Term.erase text v.shown rest := by
  cases v with
  | int16 | double | collection | complex => cases h
  | null => exact Grammar.reads_null start boundary.name.name
  | bool b =>
    cases b with
    | true => exact Grammar.reads_true start boundary.name.name
    | false => exact Grammar.reads_false start boundary.name.name
  | string s =>
    refine Grammar.reads_string (start.trans ?_) (stringBodyChars_doubleQuotes _ boundary.quote)
    simp [literal, stringLiteral]
  | guid g =>
    refine Grammar.reads_guid (start.trans ?_) g.toText_ne_nil g.isGuidChar_toText
    simp [literal, String.toList_append]
  | dateTime d =>
    refine Grammar.reads_dateTime (start.trans ?_) d.toText_ne_nil (List.all_eq_true.2 ?_)
    · simp [literal, String.toList_append]
    · exact fun c mem => bne_iff_ne.2 fun quote => d.quote_not_mem_toText (quote ▸ mem)
  | int32 n =>
    change Grammar.literal.Reads Term.erase text (.number 0 (literal (.int32 n)).toList) rest
    rw [Binding.literal_int32] at start ⊢
    exact Grammar.reads_numeral _ boundary.name start
  | int64 n =>
    change Grammar.literal.Reads Term.erase text (.number 0 (literal (.int64 n)).toList) rest
    rw [Binding.literal_int64] at start ⊢
    exact Grammar.reads_numeral _ boundary.name start

/-- A literal starts like an operand without parentheses, and with a digit if it is a number that
has no minus sign. -/
theorem IsLiteral.starts (h : v.IsLiteral) : ∃ c more, v.literal.toList = c :: more ∧
    Grammar.startsOperand c = true ∧ c ≠ '(' ∧
      (c.isDigit = true → ∃ n, v.int? = some n ∧ 0 ≤ n) := by
  have integer : ∀ n : Int, ∃ c more, (toString n).toList = c :: more ∧
      Grammar.startsOperand c = true ∧ c ≠ '(' ∧ (c.isDigit = true → 0 ≤ n) := by
    intro n
    rw [Binding.toList_toString]
    by_cases negative : n < 0
    · rw [if_pos negative]
      exact ⟨'-', _, rfl, by decide, by decide, fun digit => absurd digit (by decide)⟩
    · obtain ⟨c, more, digits⟩ :=
        List.exists_cons_of_ne_nil (Nat.toDigits_ne_nil (n := n.natAbs) (b := 10))
      have digit : c.isDigit = true :=
        List.all_eq_true.1 (Binding.isDigit_toDigits n.natAbs) c (digits ▸ List.mem_cons_self)
      rw [if_neg negative, digits]
      refine ⟨c, more, rfl, by simp [Grammar.startsOperand, digit], ?_, fun _ => by omega⟩
      rintro rfl
      exact absurd digit (by decide)
  cases v with
  | int16 | double | collection | complex => cases h
  | null => exact ⟨'n', _, rfl, by decide, by decide, fun digit => absurd digit (by decide)⟩
  | bool b =>
    cases b with
    | true => exact ⟨'t', _, rfl, by decide, by decide, fun digit => absurd digit (by decide)⟩
    | false => exact ⟨'f', _, rfl, by decide, by decide, fun digit => absurd digit (by decide)⟩
  | string s =>
    refine ⟨'\'', doubleQuotes s.toList ++ ['\''], ?_, by decide, by decide,
      fun digit => absurd digit (by decide)⟩
    rw [literal, stringLiteral, String.toList_ofList]
    rfl
  | guid g =>
    refine ⟨'g', "uid'".toList ++ g.toText.toList ++ "'".toList, ?_, by decide, by decide,
      fun digit => absurd digit (by decide)⟩
    rw [literal, String.toList_append, String.toList_append]
    rfl
  | dateTime d =>
    refine ⟨'d', "atetime'".toList ++ d.toText.toList ++ "'".toList, ?_, by decide, by decide,
      fun digit => absurd digit (by decide)⟩
    rw [literal, String.toList_append, String.toList_append]
    rfl
  | int32 n =>
    obtain ⟨c, more, shape, starts, parenthesis, sign⟩ := integer n.toInt
    exact ⟨c, more, shape, starts, parenthesis, fun digit => ⟨_, rfl, sign digit⟩⟩
  | int64 n =>
    obtain ⟨c, more, shape, starts, parenthesis, sign⟩ := integer n.toInt
    refine ⟨c, more ++ "L".toList, ?_, starts, parenthesis, fun digit => ⟨_, rfl, sign digit⟩⟩
    rw [literal, String.toList_append, shape]
    rfl

/-- The minus sign of an integer belongs to the integer. -/
theorem refuses_unary_integer {n : Int} {behind : List Char}
    (start : text.dropWhile Grammar.isSpace = (toString n).toList ++ behind) :
    Grammar.unaryOperator.Refuses text := by
  obtain ⟨d, digits, shape⟩ :=
    List.exists_cons_of_ne_nil (Nat.toDigits_ne_nil (n := n.natAbs) (b := 10))
  have digit : d.isDigit = true :=
    List.all_eq_true.1 (Binding.isDigit_toDigits n.natAbs) d (shape ▸ List.mem_cons_self)
  have other : ∀ c : Char, c.isDigit = false → d ≠ c := by
    rintro _ no_digit rfl
    simp [digit] at no_digit
  rw [Binding.toList_toString, shape] at start
  by_cases negative : n < 0
  · rw [if_pos negative] at start
    refine Grammar.refuses_unary ?_ (Grammar.refuses_minus_digit start digit)
    have word : Grammar.leadingWord text = [] :=
      Grammar.leadingWord_append start rfl (Ends.cons (by decide) _)
    rw [word]
    decide
  · rw [if_neg negative] at start
    have reserved : Grammar.isReserved (Grammar.leadingWord text) = false := by
      refine Grammar.leadingWord_not_reserved ?_
      rw [start]
      refine Ends.cons (Bool.eq_false_iff.2 fun member => ?_) _
      simp only [List.contains_iff_mem, List.mem_cons, List.not_mem_nil, or_false] at member
      rcases member with same | same | same <;> exact other _ (by decide) same
    refine Grammar.refuses_unary (Grammar.ne_of_not_reserved reserved).2.2.2 ?_
    have unsigned : (d == '-') = false := beq_false_of_ne (other '-' (by decide))
    refine Grammar.refuses_minus ?_
    rw [start]
    refine Ends.cons ?_ _
    exact unsigned

/-- A literal starts with no unary operator. -/
theorem IsLiteral.refuses_unary (h : v.IsLiteral) (boundary : Boundary rest)
    (start : text.dropWhile Grammar.isSpace = v.literal.toList ++ rest) :
    Grammar.unaryOperator.Refuses text := by
  have word : ∀ w tail : List Char, text.dropWhile Grammar.isSpace = w ++ tail →
      w.all Grammar.continuesName = true → Ends Grammar.continuesName tail →
      w ≠ "not".toList → Ends (· == '-') (w ++ tail) → Grammar.unaryOperator.Refuses text := by
    intro w tail split letters ends other unsigned
    refine Grammar.refuses_unary ?_ (Grammar.refuses_minus ?_)
    · rwa [Grammar.leadingWord_append split letters ends]
    · rwa [split]
  cases v with
  | int16 | double | collection | complex => cases h
  | null =>
    exact word _ _ start (by decide) boundary.name.name (by decide) (Ends.cons (by decide) _)
  | bool b =>
    cases b <;>
      exact word _ _ start (by decide) boundary.name.name (by decide) (Ends.cons (by decide) _)
  | string s =>
    refine word [] ('\'' :: (doubleQuotes s.toList ++ '\'' :: rest)) (start.trans ?_) rfl
      (Ends.cons (by decide) _) (by decide) (Ends.cons (by decide) _)
    simp [literal, stringLiteral]
  | guid g =>
    refine word "guid".toList ('\'' :: (g.toText.toList ++ '\'' :: rest)) (start.trans ?_)
      (by decide) (Ends.cons (by decide) _) (by decide) (Ends.cons (by decide) _)
    simp [literal, String.toList_append]
  | dateTime d =>
    refine word "datetime".toList ('\'' :: (d.toText.toList ++ '\'' :: rest)) (start.trans ?_)
      (by decide) (Ends.cons (by decide) _) (by decide) (Ends.cons (by decide) _)
    simp [literal, String.toList_append]
  | int32 n => exact refuses_unary_integer start
  | int64 n =>
    rw [literal, String.toList_append, List.append_assoc] at start
    exact refuses_unary_integer start

/-- A literal closes the quotes that it opens, and the parentheses in it stand between quotes. -/
theorem IsLiteral.balanced (h : v.IsLiteral) : Grammar.Balanced v.literal.toList 0 := by
  have integer : ∀ (n : Int) (letter : List Char), letter = [] ∨ letter = ['L'] →
      Grammar.Balanced ((toString n).toList ++ letter) 0 := by
    intro n letter suffix
    have plain : ∀ c : Char, c.isDigit = false → c ≠ '-' → c ≠ 'L' →
        c ∉ (toString n).toList ++ letter := by
      intro c no_digit no_sign no_letter mem
      rcases List.mem_append.1 mem with mem | mem
      · exact (Binding.digit_or_minus_of_mem_toString mem).elim (by simp [no_digit]) no_sign
      · obtain rfl | rfl := suffix
        · cases mem
        · exact no_letter (List.mem_singleton.1 mem)
    refine Grammar.balanced_of_plain ⟨?_, ?_, ?_⟩ <;>
      exact plain _ (by decide) (by decide) (by decide)
  cases v with
  | int16 | double | collection | complex => cases h
  | null => exact Grammar.balanced_of_plain (by decide)
  | bool b => cases b <;> exact Grammar.balanced_of_plain (by decide)
  | string s =>
    have quoted := (doubled_doubleQuotes s.toList).balanced [] (by decide)
    simpa [literal, stringLiteral] using quoted
  | guid g =>
    have plain : ∀ c ∈ g.toText.toList, c ≠ '\'' := by
      rintro _ mem rfl
      exact absurd (List.all_eq_true.1 g.isGuidChar_toText _ mem) (by decide)
    have quoted := (Grammar.Doubled.of_forall_ne plain).balanced "guid".toList (by decide)
    simpa [literal, String.toList_append] using quoted
  | dateTime d =>
    have plain : ∀ c ∈ d.toText.toList, c ≠ '\'' := fun c mem quote =>
      d.quote_not_mem_toText (quote ▸ mem)
    have quoted := (Grammar.Doubled.of_forall_ne plain).balanced "datetime".toList (by decide)
    simpa [literal, String.toList_append] using quoted
  | int32 n =>
    have value := integer n.toInt [] (.inl rfl)
    rwa [List.append_nil] at value
  | int64 n =>
    have value := integer n.toInt ['L'] (.inr rfl)
    rwa [← show "L".toList = ['L'] from rfl, ← String.toList_append] at value

end Value

end RecordQuery
