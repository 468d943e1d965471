import RecordQuery.Proofs.Grammar.Balance
import RecordQuery.Proofs.Grammar.Measure

/-!
# The layout of a text

A text that closes what it opens is laid out as plain parts, quoted literals and texts in parentheses,
one behind the other. The layout says what a scan for parentheses finds: how many are open at the
deepest place, and that the characters between quotes are those of the literals.

## Main definitions

* `QuotedLiteral`: a quoted literal with its position.
* `QuotedLiteral.Covers`: whether a character stands between the quotes of a literal.
* `Shape`: how deep a text nests, and its literals.
* `Laid`: how a text is laid out, and `layout`, the same as a measure.

## Main statements

* `Laid.peak`: the deepest place of a text.
* `Laid.quoted_iff`: the characters between quotes.
-/

namespace RecordQuery.Grammar

open Nesting (ground)

/-- A character of two texts one behind the other is one of the first or of the second. -/
theorem split_append {s t before rest : List Char} {x : Char} (h : s ++ t = before ++ x :: rest) :
    (∃ more, s = before ++ x :: more) ∨ ∃ more, before = s ++ more ∧ t = more ++ x :: rest := by
  obtain ⟨more, split, behind⟩ | ⟨more, split, behind⟩ := List.append_eq_append_iff.1 h
  · exact .inr ⟨more, split, behind⟩
  · cases more with
    | nil => exact .inr ⟨[], by simpa using split.symm, behind.symm⟩
    | cons c more =>
      cases behind
      exact .inl ⟨more, split⟩

/-- What is in front of the first quote is known from the text. -/
theorem eq_of_append_quote {s t s' t' : List Char} (h : s ++ '\'' :: t = s' ++ '\'' :: t')
    (plain : Plain s) (plain' : Plain s') : s = s' := by
  obtain ⟨more, rfl⟩ | ⟨more, rfl, behind⟩ := split_append h
  · exact absurd (by simp) plain.2.2
  · cases more with
    | nil => exact (List.append_nil s).symm
    | cons c more =>
      cases behind
      exact absurd (by simp) plain'.2.2

theorem eq_nil_of_byteLength {s : List Char} (h : Text.byteLength s = 0) : s = [] := by
  cases s with
  | nil => rfl
  | cons c rest =>
    have size := c.utf8Size_pos
    rw [Text.byteLength] at h
    omega

/-- A position in bytes is one place of a text. -/
theorem eq_of_byteLength {s t s' t' : List Char} (h : s ++ t = s' ++ t')
    (same : Text.byteLength s = Text.byteLength s') : s = s' := by
  obtain ⟨more, rfl, -⟩ | ⟨more, rfl, -⟩ := List.append_eq_append_iff.1 h
  · rw [Text.byteLength_append] at same
    rw [eq_nil_of_byteLength (by omega : Text.byteLength more = 0), List.append_nil]
  · rw [Text.byteLength_append] at same
    rw [eq_nil_of_byteLength (by omega : Text.byteLength more = 0), List.append_nil]

/-! ## Quoted literals -/

/-- A quoted literal: the byte position at which it starts, the words that its quotes can stand
behind, and what stands between the quotes. -/
structure QuotedLiteral where
  start : Nat
  words : List (List Char)
  body : List Char
  deriving DecidableEq, Repr

namespace QuotedLiteral

/-- The body of a literal between its quotes. -/
def written (q : QuotedLiteral) : List Char := '\'' :: (q.body ++ ['\''])

/-- A literal stands in a text behind `before`. The text starts at a byte position. -/
structure Stands (q : QuotedLiteral) (offset : Nat) (text before word after : List Char) : Prop where
  known : word ∈ q.words
  split : text = before ++ (word ++ (q.written ++ after))
  start : q.start = offset + Text.byteLength before

/-- The character with an index stands in the quoted part of a literal, quotes included. -/
def Covers (q : QuotedLiteral) (offset : Nat) (text : List Char) (i : Nat) : Prop :=
  ∃ before word after, q.Stands offset text before word after ∧
    (before ++ word).length ≤ i ∧ i < (before ++ word).length + q.written.length

variable {q : QuotedLiteral} {offset i : Nat} {s t before word after : List Char}

theorem Stands.append (h : q.Stands offset s before word after) (t : List Char) :
    q.Stands offset (s ++ t) before word (after ++ t) :=
  { h with split := by rw [h.split]; simp only [List.append_assoc] }

theorem Stands.behind (h : q.Stands (offset + Text.byteLength s) t before word after) :
    q.Stands offset (s ++ t) (s ++ before) word after where
  known := h.known
  split := by rw [h.split, List.append_assoc]
  start := by rw [h.start, Text.byteLength_append, Nat.add_assoc]

theorem Stands.wrapped (h : q.Stands (offset + 1) s before word after) :
    q.Stands offset (wrapped s) ('(' :: before) word (after ++ [')']) := by
  have behind : q.Stands offset (['('] ++ s) (['('] ++ before) word after := Stands.behind h
  exact behind.append [')']

/-- A literal stands at one place of a text. -/
theorem Stands.unique {before' word' after' : List Char} (plain : ∀ word ∈ q.words, Plain word)
    (h : q.Stands offset s before word after) (h' : q.Stands offset s before' word' after') :
    before = before' ∧ word = word' := by
  have start : Text.byteLength before = Text.byteLength before' :=
    Nat.add_left_cancel (h.start.symm.trans h'.start)
  have split := h.split.symm.trans h'.split
  obtain rfl := eq_of_byteLength split start
  exact ⟨rfl, eq_of_append_quote (List.append_cancel_left split) (plain word h.known)
    (plain word' h'.known)⟩

theorem Covers.append (h : q.Covers offset s i) (t : List Char) : q.Covers offset (s ++ t) i := by
  obtain ⟨before, word, after, stands, range⟩ := h
  exact ⟨before, word, after ++ t, stands.append t, range⟩

theorem Covers.behind (h : q.Covers (offset + Text.byteLength s) t i) :
    q.Covers offset (s ++ t) (s.length + i) := by
  obtain ⟨before, word, after, stands, low, high⟩ := h
  refine ⟨s ++ before, word, after, stands.behind, ?_, ?_⟩
  · rw [List.append_assoc, List.length_append]
    exact Nat.add_le_add_left low _
  · rw [List.append_assoc, List.length_append, Nat.add_assoc]
    exact Nat.add_lt_add_left high _

theorem Covers.wrapped (h : q.Covers (offset + 1) s i) : q.Covers offset (wrapped s) (i + 1) := by
  have behind : q.Covers offset (['('] ++ s) (1 + i) := Covers.behind h
  rw [Nat.add_comm] at behind
  exact behind.append [')']

end QuotedLiteral

/-- Between the quotes of a literal the scan knows that it is there, and so it does at the quotes. -/
theorem QuotedLiteral.flagged {q : QuotedLiteral} {before after : List Char} {c : Char} {d : Nat}
    {n : Nesting} (h : Doubled q.body) (split : q.written = before ++ c :: after)
    (here : (⟨d, false⟩ : Nesting).after? before = some n) : c = '\'' ∨ n.quoted = true := by
  by_cases quote : c = '\''
  · exact .inl quote
  refine .inr ?_
  cases before with
  | nil =>
    cases split
    exact absurd rfl quote
  | cons _ before =>
    obtain ⟨rfl, inner⟩ := List.cons.inj split
    change (⟨d, true⟩ : Nesting).after? before = some n at here
    obtain ⟨more, body⟩ | ⟨more, -, ends⟩ := split_append inner
    · have between := Nesting.after?_under d ((body ▸ h).after?_before quote)
      cases between.symm.trans here
      rfl
    · cases more with
      | cons => simp at ends
      | nil =>
        cases ends
        exact absurd rfl quote

/-! ## Shapes -/

/-- How deep the parentheses of a text nest, and the quoted literals in it. -/
@[ext] structure Shape where
  depth : Nat
  literals : List QuotedLiteral
  deriving DecidableEq, Repr

namespace Shape

/-- Texts one behind the other nest as deep as the deeper one. -/
instance : Monoid Shape where
  one := ⟨0, []⟩
  mul m n := ⟨max m.depth n.depth, m.literals ++ n.literals⟩
  one_mul m := Shape.ext (Nat.zero_max _) rfl
  mul_one m := Shape.ext (Nat.max_zero _) (List.append_nil _)
  mul_assoc k m n := Shape.ext (Nat.max_assoc ..) (List.append_assoc ..)

@[simp] theorem depth_mul (m n : Shape) : (m * n).depth = max m.depth n.depth := rfl

/-- The shape of a text in parentheses. -/
def deeper (m : Shape) : Shape := ⟨m.depth + 1, m.literals⟩

end Shape

/-- How a text that starts at a byte position is laid out. -/
inductive Laid : Nat → List Char → Shape → Prop
  | plain {offset : Nat} {s : List Char} (plain : Plain s) : Laid offset s 1
  | quoted {q : QuotedLiteral} {word : List Char} (known : word ∈ q.words)
      (plain : ∀ word ∈ q.words, Plain word) (doubled : Doubled q.body) :
      Laid q.start (word ++ q.written) ⟨0, [q]⟩
  | append {offset : Nat} {s t : List Char} {m n : Shape} (first : Laid offset s m)
      (second : Laid (offset + Text.byteLength s) t n) : Laid offset (s ++ t) (m * n)
  | wrapped {offset : Nat} {s : List Char} {m : Shape} (inner : Laid (offset + 1) s m) :
      Laid offset (wrapped s) m.deeper

/-- The layout of a text as a measure. -/
def layout : Measure Shape where
  Amounts c m d := ∃ read, c.Reads read d ∧ Laid c.offset read m
  plain reads plain := ⟨_, reads, .plain plain⟩
  append := by
    rintro c d e m n ⟨read, reads, first⟩ ⟨more, reads', second⟩
    rw [reads.offset] at second
    exact ⟨_, reads.trans reads', first.append second⟩

namespace Laid

variable {offset : Nat} {s before rest : List Char} {m : Shape} {x : Char} {n : Nesting}

/-! ## Parentheses -/

/-- A text that is laid out closes what it opens. -/
theorem closed (h : Laid offset s m) : ground.after? s = some ground := by
  induction h with
  | plain plain => exact Nesting.after?_of_plain ground plain
  | quoted known plain doubled => exact (doubled.balanced _ (plain _ known)).closed
  | append _ _ ih ih' =>
    rw [Nesting.after?_append, ih]
    exact ih'
  | wrapped _ ih => exact after?_wrapped ih

/-- The deepest place of a text is as deep as its layout. -/
theorem peak (h : Laid offset s m) : ground.peak s = m.depth := by
  induction h with
  | plain plain => exact Nesting.peak_of_stays (Nesting.next?_of_plain ground plain)
  | quoted known plain doubled => exact Nat.le_zero.1 (doubled.balanced _ (plain _ known)).shallow
  | append first _ ih ih' => rw [Nesting.peak_append first.closed, ih, ih', Shape.depth_mul]
  | wrapped inner ih =>
    rw [peak_wrapped inner.closed, ih, Nat.add_comm]
    rfl

/-! ## Quotes -/

/-- Plain text has no quotes, and none of it is between quotes. -/
theorem unflagged_of_plain (plain : Plain s) (split : s = before ++ x :: rest)
    (here : ground.after? before = some n) : ¬(x = '\'' ∨ n.quoted = true) := by
  subst split
  obtain ⟨opens, closes, quotes⟩ := plain
  simp only [List.mem_append, List.mem_cons, not_or] at opens closes quotes
  rw [Nesting.after?_of_plain ground ⟨opens.1, closes.1, quotes.1⟩] at here
  cases here
  rintro (rfl | quoted)
  · exact quotes.2.1 rfl
  · cases quoted

/-- A quote and any character between quotes belongs to a literal. -/
theorem covered (h : Laid offset s m) (split : s = before ++ x :: rest)
    (here : ground.after? before = some n) (flagged : x = '\'' ∨ n.quoted = true) :
    ∃ q ∈ m.literals, q.Covers offset s before.length := by
  induction h generalizing before rest n with
  | plain plain => exact absurd flagged (unflagged_of_plain plain split here)
  | @quoted q word known plain doubled =>
    obtain ⟨more, split⟩ | ⟨more, rfl, written⟩ := split_append split
    · exact absurd flagged (unflagged_of_plain (plain word known) split here)
    · refine ⟨q, List.mem_singleton_self q, [], word, [], ⟨known, ?_, rfl⟩, ?_, ?_⟩
      · rw [List.nil_append, List.append_nil]
      · simp
      · simp [written]
  | @append offset s t m n first second ih ih' =>
    obtain ⟨more, within⟩ | ⟨more, rfl, within⟩ := split_append split
    · obtain ⟨q, mem, covers⟩ := ih within here flagged
      exact ⟨q, List.mem_append_left _ mem, covers.append t⟩
    · rw [Nesting.after?_append, first.closed] at here
      obtain ⟨q, mem, covers⟩ := ih' within here flagged
      exact ⟨q, List.mem_append_right _ mem, List.length_append ▸ covers.behind⟩
  | @wrapped offset s m inner ih =>
    cases before with
    | nil =>
      cases split
      cases here
      exact absurd flagged (by decide)
    | cons _ before =>
      obtain ⟨rfl, inner_split⟩ := List.cons.inj split
      change Nesting.inside.after? before = some n at here
      -- A place in the parentheses is one deeper than it is in the text alone, with the same flag.
      obtain ⟨more, rfl⟩ | ⟨more, rfl, ends⟩ := split_append inner_split
      · obtain ⟨n', here', -⟩ := Nesting.exists_of_after?_append inner.closed
        cases (Nesting.after?_under 1 here').symm.trans here
        obtain ⟨q, mem, covers⟩ := ih rfl here' flagged
        exact ⟨q, mem, covers.wrapped⟩
      · cases more with
        | cons => simp at ends
        | nil =>
          cases ends
          rw [List.append_nil] at here
          cases (Nesting.after?_under 1 inner.closed).symm.trans here
          exact absurd flagged (by decide)

/-- Each literal stands in the text, outside of quotes. -/
theorem stands (h : Laid offset s m) : ∀ q ∈ m.literals, ∃ before word after d,
    q.Stands offset s before word after ∧ (∀ word ∈ q.words, Plain word) ∧ Doubled q.body ∧
      ground.after? before = some ⟨d, false⟩ := by
  induction h with
  | plain => exact nofun
  | @quoted q word known plain doubled =>
    refine List.forall_mem_singleton.2 ⟨[], word, [], 0, ⟨known, ?_, rfl⟩, plain, doubled, rfl⟩
    rw [List.nil_append, List.append_nil]
  | @append offset s t m n first second ih ih' =>
    refine List.forall_mem_append.2 ⟨fun q mem => ?_, fun q mem => ?_⟩
    · obtain ⟨before, word, after, d, stands, rest⟩ := ih q mem
      exact ⟨before, word, after ++ t, d, stands.append t, rest⟩
    · obtain ⟨before, word, after, d, stands, plain, doubled, here⟩ := ih' q mem
      refine ⟨s ++ before, word, after, d, stands.behind, plain, doubled, ?_⟩
      rw [Nesting.after?_append, first.closed]
      exact here
  | @wrapped offset s m inner ih =>
    intro q mem
    obtain ⟨before, word, after, d, stands, plain, doubled, here⟩ := ih q mem
    exact ⟨'(' :: before, word, after ++ [')'], 1 + d, stands.wrapped, plain, doubled,
      Nesting.after?_under 1 here⟩

/-- The quotes and the characters between quotes are those of the literals. -/
theorem quoted_iff (h : Laid offset s m) (split : s = before ++ x :: rest)
    (here : ground.after? before = some n) :
    x = '\'' ∨ n.quoted = true ↔ ∃ q ∈ m.literals, q.Covers offset s before.length := by
  refine ⟨h.covered split here, ?_⟩
  rintro ⟨q, mem, front, word, after, stands, low, high⟩
  obtain ⟨front', word', after', d, stands', plain, doubled, start⟩ := h.stands q mem
  obtain ⟨rfl, rfl⟩ := stands.unique plain stands'
  -- The character is behind the word of the literal and not behind its last quote.
  have text : (front ++ word) ++ (q.written ++ after) = before ++ x :: rest := by
    rw [← split, stands.split, List.append_assoc]
  obtain ⟨more, short⟩ | ⟨part, rfl, behind⟩ := split_append text
  · rw [short, List.length_append, List.length_cons] at low
    omega
  obtain ⟨more, written⟩ | ⟨more, rfl, -⟩ := split_append behind
  · rw [List.append_assoc, Nesting.after?_append, start, Option.bind_some, Nesting.after?_append,
      Nesting.after?_of_plain _ (plain word stands.known)] at here
    exact QuotedLiteral.flagged doubled written here
  · simp only [List.length_append] at high
    omega

end Laid

end RecordQuery.Grammar
