import Mathlib.Algebra.BigOperators.Group.List.Basic
import RecordQuery.Proofs.Grammar.Lexical

/-!
# Measures of what is read

A measure says what the text between two cursors amounts to: the segments that stand in it, say, or
how deep its parentheses nest. Texts one behind the other amount to the product of what each does, and
plain text to nothing. What a recognizer finds tells what it read amounts to if this holds of its
parts, so a measure is carried through the grammar rule by rule, and only the rules that add to it need
an argument of their own.

## Main definitions

* `Cursor.Reads`: the text between two cursors.
* `Measure`: what the text between two cursors amounts to.
* `Recognizer.Measured`: whether findings tell what was read amounts to.
* `Recognizer.Skips`: whether what is read amounts to nothing.
* `Additive`: whether the operators of a term add nothing to its operands.

## Main statements

* `Recognizer.Measured.bind`, `Recognizer.Measured.many`: measures of sequences and repetitions.
* `expression_measured`: measures of expressions, given those of their operands.
-/

namespace RecordQuery.Grammar

/-! ## Between two cursors -/

/-- `c.Reads read d`: the text from `c` up to `d` is `read`. -/
structure Cursor.Reads (c : Cursor) (read : List Char) (d : Cursor) : Prop where
  rest : c.rest = read ++ d.rest
  offset : d.offset = c.offset + Text.byteLength read

namespace Cursor.Reads

variable {c d e : Cursor} {read more : List Char}

theorem refl (c : Cursor) : c.Reads [] c := ⟨rfl, rfl⟩

theorem trans (first : c.Reads read d) (second : d.Reads more e) : c.Reads (read ++ more) e where
  rest := by rw [first.rest, second.rest, List.append_assoc]
  offset := by rw [second.offset, first.offset, Text.byteLength_append, Nat.add_assoc]

theorem after {rest : List Char} (split : c.rest = read ++ rest) : c.Reads read (c.after read) where
  rest := by simp [Cursor.after, split]
  offset := rfl

theorem takeWhile (c : Cursor) (belongs : Char → Bool) :
    c.Reads (c.rest.takeWhile belongs) (c.after (c.rest.takeWhile belongs)) :=
  after List.takeWhile_append_dropWhile.symm

theorem skip (c : Cursor) : ∃ read, c.Reads read c.skip := ⟨_, takeWhile c isSpace⟩

theorem le (h : c.Reads read d) : c.offset ≤ d.offset := h.offset ▸ Nat.le_add_right ..

end Cursor.Reads

/-- Whether a text has no parentheses and no quotes. -/
abbrev Plain (s : List Char) : Prop := '(' ∉ s ∧ ')' ∉ s ∧ '\'' ∉ s

/-- What the text between two cursors amounts to. -/
structure Measure (M : Type) [Monoid M] where
  /-- The text between two cursors amounts to something. -/
  Amounts : Cursor → M → Cursor → Prop
  plain : ∀ {c d : Cursor} {read : List Char}, c.Reads read d → Plain read → Amounts c 1 d
  append : ∀ {c d e : Cursor} {m n : M}, Amounts c m d → Amounts d n e → Amounts c (m * n) e

namespace Recognizer

variable {α β M : Type} [Monoid M] {μ : Measure M} {p q : Recognizer α} {before : M} {view : α → M}

/-- Behind a text that amounts to `before`, what a recognizer finds tells what it read amounts to. The
`view` is of the finding together with what is before it. -/
def Measured (p : Recognizer α) (μ : Measure M) (before : M) (view : α → M) : Prop :=
  ∀ (c : Cursor) (a : α) (d : Cursor), (p c).outcome = some (a, d) →
    ∃ more, view a = before * more ∧ μ.Amounts c more d

/-- What a recognizer reads amounts to nothing. -/
abbrev Skips (p : Recognizer α) (μ : Measure M) : Prop := p.Measured μ 1 fun _ => 1

theorem skips_of_plain (h : ∀ (c : Cursor) (a : α) (d : Cursor), (p c).outcome = some (a, d) →
    ∃ read, c.Reads read d ∧ Plain read) : p.Skips μ := by
  intro c a d found
  obtain ⟨read, reads, plain⟩ := h c a d found
  exact ⟨1, (one_mul 1).symm, μ.plain reads plain⟩

/-! ## Sequence, choice and repetition -/

namespace Measured

theorem amounts (h : p.Measured μ 1 view) {c d : Cursor} {a : α}
    (found : (p c).outcome = some (a, d)) : μ.Amounts c (view a) d := by
  obtain ⟨more, same, amounts⟩ := h c a d found
  rw [same, one_mul]
  exact amounts

theorem congr {view' : α → M} (h : p.Measured μ before view) (same : ∀ a, view' a = view a) :
    p.Measured μ before view' := fun c a d found => same a ▸ h c a d found

theorem pure {a : α} (same : view a = before) :
    (Pure.pure a : Recognizer α).Measured μ before view := by
  intro c b d found
  cases found
  exact ⟨1, same.trans (mul_one before).symm, μ.plain (.refl c) (by decide)⟩

theorem bind {next : α → Recognizer β} {found : α → M} {view : β → M}
    (first : p.Measured μ 1 found) (second : ∀ a, (next a).Measured μ (before * found a) view) :
    (p >>= next).Measured μ before view := by
  intro c b d outcome
  obtain ⟨a, e, found_a, found_b⟩ := outcome_bind_eq_some.1 outcome
  obtain ⟨more, same, amounts⟩ := second a e b d found_b
  exact ⟨found a * more, by rw [same, mul_assoc], μ.append (first.amounts found_a) amounts⟩

theorem andThen {next : α → Recognizer β} {view : β → M} (first : p.Skips μ)
    (second : ∀ a, (next a).Measured μ before view) : (p >>= next).Measured μ before view :=
  first.bind fun a => (mul_one before).symm ▸ second a

theorem orElse (left : p.Measured μ before view) (right : q.Measured μ before view) :
    (p.orElse q).Measured μ before view := by
  intro c a d found
  rw [outcome_orElse] at found
  obtain found | ⟨-, found⟩ := Option.or_eq_some_iff.1 found
  · exact left c a d found
  · exact right c a d found

theorem firstOf {ps : List (Recognizer α)} (h : ∀ p ∈ ps, p.Measured μ before view) :
    (firstOf ps).Measured μ before view := by
  induction ps with
  | nil => exact nofun
  | cons p rest ih =>
    obtain ⟨first, others⟩ := List.forall_mem_cons.1 h
    exact first.orElse (ih others)

theorem attempt (h : p.Measured μ 1 view) :
    (attempt p).Measured μ 1 fun found => found.elim 1 view := by
  have present : (p >>= fun a => Pure.pure (some a)).Measured μ 1 fun found =>
      found.elim 1 view := h.bind fun a => pure (one_mul (view a)).symm
  exact present.orElse (pure rfl)

theorem manyUpTo (h : p.Measured μ 1 view) (tries : Nat) :
    (manyUpTo p tries).Measured μ 1 fun found => (found.map view).prod := by
  induction tries with
  | zero => exact pure rfl
  | succ tries ih =>
    refine h.attempt.bind fun found => ?_
    cases found with
    | none => exact pure (one_mul 1).symm
    | some a =>
      refine ih.bind fun more => pure ?_
      rw [List.map_cons, List.prod_cons, one_mul]
      rfl

theorem many (h : p.Measured μ 1 view) :
    (many p).Measured μ 1 fun found => (found.map view).prod :=
  fun c a d found => h.manyUpTo _ c a d found

theorem whole (h : p.Measured μ before view) : (whole p).Measured μ before view :=
  fun c a d found => h c a d ((outcome_whole p c).symm.trans found)

theorem reported (h : p.Measured μ before view) : (reported p).Measured μ before view :=
  fun c a d found => h c a d ((outcome_reported p c).symm.trans found)

theorem skips_attempt (h : p.Skips μ) : (Recognizer.attempt p).Skips μ :=
  h.attempt.congr fun found => by cases found <;> rfl

theorem skips_many (h : p.Skips μ) : (Recognizer.many p).Skips μ :=
  h.many.congr fun found => by rw [List.map_const', List.prod_replicate, one_pow]

end Measured

theorem blanks_skips : blanks.Skips μ := skips_of_plain fun c _ _ found => by
  cases found
  have spaces : Local.Inert isSpace := by decide
  exact ⟨_, .takeWhile c isSpace, spaces.plain List.all_takeWhile⟩

theorem Measured.token (h : p.Measured μ before view) : (token p).Measured μ before view :=
  andThen blanks_skips fun _ => h.whole

theorem Measured.rule (h : p.Measured μ before view) : (rule p).Measured μ before view :=
  andThen blanks_skips fun _ => h.reported

/-! ## Characters -/

theorem outcome_one_eq_some {belongs : Char → Bool} {c d : Cursor} {letter : Char}
    (found : (one belongs c).outcome = some (letter, d)) :
    belongs letter = true ∧ c.Reads [letter] d := by
  unfold one at found
  split at found
  · cases found
  case h_2 first rest start =>
    split at found <;> cases found
    case isTrue member => exact ⟨member, start, by simp [Text.byteLength]⟩

theorem reads_of_run {belongs : Char → Bool} {c d : Cursor} {read : List Char}
    (found : (run belongs c).outcome = some (read, d)) : c.Reads read d := by
  cases found
  exact .takeWhile c belongs

theorem outcome_run1_eq_some {belongs : Char → Bool} {c d : Cursor} {read : List Char}
    (found : (run1 belongs c).outcome = some (read, d)) :
    read ≠ [] ∧ read.all belongs = true ∧ c.Reads read d := by
  unfold run1 at found
  dsimp only at found
  split at found <;> cases found
  exact ⟨fun empty => ‹¬ _› (List.isEmpty_iff.2 empty), List.all_takeWhile, .takeWhile c belongs⟩

theorem reads_of_exactly {text : List Char} {c d : Cursor} {u : Unit}
    (found : (exactly text c).outcome = some (u, d)) : c.Reads text d := by
  have split := Local.reads_exactly found
  unfold exactly at found
  split at found <;> cases found
  exact .after split

theorem eq_of_notBefore {belongs : Char → Bool} {c d : Cursor} {u : Unit}
    (found : (notBefore belongs c).outcome = some (u, d)) : c = d := by
  unfold notBefore at found
  split at found
  · cases found
    rfl
  · split at found <;> cases found
    rfl

theorem one_skips {belongs : Char → Bool} (inert : Local.Inert belongs) : (one belongs).Skips μ :=
  skips_of_plain fun _ _ _ found => by
    obtain ⟨member, reads⟩ := outcome_one_eq_some found
    exact ⟨_, reads, inert.plain (by simp [member])⟩

theorem run_skips {belongs : Char → Bool} (inert : Local.Inert belongs) : (run belongs).Skips μ :=
  skips_of_plain fun _ _ _ found => by
    cases found
    exact ⟨_, .takeWhile _ _, inert.plain List.all_takeWhile⟩

theorem run1_skips {belongs : Char → Bool} (inert : Local.Inert belongs) : (run1 belongs).Skips μ :=
  skips_of_plain fun _ _ _ found => by
    obtain ⟨-, members, reads⟩ := outcome_run1_eq_some found
    exact ⟨_, reads, inert.plain members⟩

theorem exactly_skips {text : List Char} (plain : Plain text) : (exactly text).Skips μ :=
  skips_of_plain fun _ _ _ found => ⟨text, reads_of_exactly found, plain⟩

theorem position_skips : position.Skips μ := skips_of_plain fun c _ _ found => by
  cases found
  exact ⟨[], .refl c, by decide⟩

theorem notBefore_skips (belongs : Char → Bool) : (notBefore belongs).Skips μ :=
  skips_of_plain fun c _ _ found => by
    cases eq_of_notBefore found
    exact ⟨[], .refl c, by decide⟩

theorem absent_skips (p : Recognizer α) : (absent p).Skips μ := skips_of_plain fun c _ _ found => by
  unfold absent at found
  split at found <;> cases found
  exact ⟨[], .refl c, by decide⟩

theorem mark_skips {text : String} (plain : Plain text.toList) : (mark text).Skips μ :=
  blanks_skips.andThen fun _ => exactly_skips plain

end Recognizer

open Recognizer

variable {M : Type} [Monoid M] {μ : Measure M}

/-! ## Names, numbers and operators -/

theorem word_skips {text : String} (plain : Plain text.toList) : (word text).Skips μ :=
  Measured.token <| position_skips.andThen fun _ =>
    ((exactly_skips plain).andThen fun _ => notBefore_skips _).andThen fun _ => Measured.pure rfl

theorem nameChars_skips : nameChars.Skips μ :=
  (one_skips (by decide)).andThen fun _ => (run_skips (by decide)).andThen fun _ => Measured.pure rfl

theorem identifier_skips : identifier.Skips μ := by
  have element : Skips (do exactly "$it".toList; return "$it".toList) μ :=
    (exactly_skips (by decide)).andThen fun _ => Measured.pure rfl
  exact Measured.token <| position_skips.andThen fun _ =>
    (element.orElse nameChars_skips).andThen fun _ => Measured.pure rfl

theorem pointName_skips : pointName.Skips μ :=
  (exactly_skips (by decide)).andThen fun _ => nameChars_skips.andThen fun _ => Measured.pure rfl

theorem qualifiedName_skips : qualifiedName.Skips μ :=
  Measured.token <| position_skips.andThen fun _ => nameChars_skips.andThen fun _ =>
    pointName_skips.andThen fun _ => pointName_skips.skips_many.andThen fun _ => Measured.pure rfl

theorem segment_skips : segment.Skips μ := by
  refine (absent_skips _).andThen fun _ => Measured.orElse ?_ ?_
  · exact qualifiedName_skips.andThen fun _ => Measured.pure rfl
  · exact identifier_skips.andThen fun _ => Measured.pure rfl

theorem optionally_skips {p : Recognizer (List Char)} (h : p.Skips μ) : (optionally p).Skips μ :=
  h.skips_attempt.andThen fun _ => Measured.pure rfl

theorem oneOf_skips {chars : List Char} (inert : Local.Inert chars.contains) : (oneOf chars).Skips μ :=
  (one_skips inert).andThen fun _ => Measured.pure rfl

theorem numberChars_skips : numberChars.Skips μ := by
  have digits : (run1 Char.isDigit).Skips μ := run1_skips (by decide)
  refine (optionally_skips (oneOf_skips (by decide))).andThen fun _ => digits.andThen fun _ => ?_
  refine (optionally_skips ?_).andThen fun _ => (optionally_skips ?_).andThen fun _ => ?_
  · exact (oneOf_skips (by decide)).andThen fun _ => digits.andThen fun _ => Measured.pure rfl
  · exact (oneOf_skips (by decide)).andThen fun _ =>
      (optionally_skips (oneOf_skips (by decide))).andThen fun _ =>
        digits.andThen fun _ => Measured.pure rfl
  · exact (optionally_skips (oneOf_skips (by decide))).andThen fun _ =>
      (notBefore_skips _).andThen fun _ => Measured.pure rfl

theorem quantifier_skips : quantifier.Skips μ :=
  ((exactly_skips (by decide)).token.andThen fun _ => Measured.pure rfl).orElse
    ((exactly_skips (by decide)).token.andThen fun _ => Measured.pure rfl)

theorem unaryOperator_skips : unaryOperator.Skips μ := by
  have sign : minus.Skips μ := Measured.token <| position_skips.andThen fun _ =>
    (exactly_skips (by decide)).andThen fun _ => (notBefore_skips _).andThen fun _ =>
      Measured.pure rfl
  refine Measured.firstOf ?_
  simp only [List.forall_mem_cons]
  exact ⟨(word_skips (by decide)).andThen fun _ => Measured.pure rfl,
    sign.andThen fun _ => Measured.pure rfl, nofun⟩

theorem binaryOperator_skips (ops : List BinaryOperator) : (binaryOperator ops).Skips μ := by
  refine Measured.firstOf fun p mem => ?_
  obtain ⟨op, -, rfl⟩ := List.mem_map.1 mem
  exact (word_skips (by cases op <;> decide)).andThen fun _ => Measured.pure rfl

/-! ## Expressions -/

/-- Whether the operators of a term add nothing to its operands. -/
structure Additive (view : Term → M) : Prop where
  unary : ∀ position op operand, view (.unary position op operand) = view operand
  binary : ∀ position op left right, view (.binary position op left right) = view left * view right

variable {view : Term → M} {nested operand : Recognizer Term}

theorem unary_measured (add : Additive view) (h : operand.Measured μ 1 view) :
    (unary operand).Measured μ 1 view := by
  refine unaryOperator_skips.skips_many.andThen fun ops => h.bind fun last => Measured.pure ?_
  rw [one_mul]
  induction ops with
  | nil => rfl
  | cons op ops ih => exact (add.unary ..).trans ih

theorem level_measured (add : Additive view) (h : operand.Measured μ 1 view)
    (ops : List BinaryOperator) : (level ops operand).Measured μ 1 view := by
  have pair : Measured (do
      let op ← binaryOperator ops
      let right ← operand
      return (op.1, op.2, right)) μ 1 fun item => view item.2.2 :=
    (binaryOperator_skips ops).andThen fun _ => h.bind fun _ =>
      Measured.pure (one_mul _).symm
  refine h.bind fun first => pair.many.bind fun more => Measured.pure ?_
  rw [one_mul]
  -- The term so far stands in front of the operations that are left.
  induction more generalizing first with
  | nil => exact (mul_one _).symm
  | cons item more ih =>
    rw [List.map_cons, List.prod_cons, ← mul_assoc, ← add.binary item.1 item.2.1]
    exact ih _

theorem expression_measured (add : Additive view)
    (operands : ∀ {nested : Recognizer Term}, nested.Measured μ 1 view →
      (primary nested).Measured μ 1 view) (fuel : Nat) : (expression fuel).Measured μ 1 view := by
  induction fuel with
  | zero => exact nofun
  | succ fuel ih =>
    have level {operand : Recognizer Term} := @level_measured _ _ μ _ operand add
    exact level (level (level (level (level (unary_measured add (operands ih)) _) _) _) _) _

theorem separated_measured {α : Type} {p : Recognizer α} {view : α → M} (h : p.Measured μ 1 view) :
    (separated p).Measured μ 1 fun found => (found.map view).prod := by
  have others := ((mark_skips (by decide)).andThen fun _ => h : Measured (do mark ","; p) μ 1 _).many
  refine h.bind fun first => others.bind fun more => Measured.pure ?_
  rw [List.map_cons, List.prod_cons, one_mul]

theorem orderTerm_measured (h : nested.Measured μ 1 view) :
    (orderTerm nested).Measured μ 1 fun t => view t.term := by
  have direction : (Recognizer.orElse
      (do let _ ← word "asc"; return OrderDirection.ascending)
      (do let _ ← word "desc"; return OrderDirection.descending)).Skips μ :=
    ((word_skips (by decide)).andThen fun _ => Measured.pure rfl).orElse
      ((word_skips (by decide)).andThen fun _ => Measured.pure rfl)
  exact Measured.rule <| h.bind fun _ => direction.skips_attempt.andThen fun _ =>
    Measured.pure (one_mul _).symm

end RecordQuery.Grammar
