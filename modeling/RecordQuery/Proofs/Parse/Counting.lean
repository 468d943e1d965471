import RecordQuery.Proofs.Grammar.Layout
import RecordQuery.Proofs.Parse.Recognition

/-!
# Counting parentheses in recognized texts

Parentheses are counted on the characters of a text, with a flag for quotes, before the grammar is
looked at. For a text that is recognized the count is that of the grammar: the layout of the text is
read off its terms, rule by rule, and the scan follows the layout.

## Main definitions

* `Term.nesting`, `Term.literals`: how deep a term nests, and the quoted literals in it.
* `Counted`: whether the scan of a text agrees with a depth and with literals.

## Main statements

* `expression_measured_layout`: what is recognized tells how the text is laid out.
* `recognize_counted`: the scan of a recognized text agrees with its terms.
-/

namespace RecordQuery.Grammar

open Nesting (ground)
open Recognizer

/-! ## Terms -/

mutual

/-- How many expressions in parentheses, calls and quantifiers of a term are nested at most. -/
def Term.nesting : Term → Nat
  | .group _ inner => Term.nesting inner + 1
  | .call _ _ args => Term.nestingAll args + 1
  | .quantified .. => 1
  | .lambda _ _ _ _ _ _ body => Term.nesting body + 1
  | .unary _ _ operand => Term.nesting operand
  | .binary _ _ left right => max (Term.nesting left) (Term.nesting right)
  | .null _ | .bool _ _ | .string _ _ | .guid _ _ | .dateTime _ _ | .number _ _ | .path _ _ => 0

/-- The same for some terms one behind the other. -/
def Term.nestingAll : List Term → Nat
  | [] => 0
  | t :: rest => max (Term.nesting t) (Term.nestingAll rest)

end

mutual

/-- The quoted literals in a term, in the order in which they stand in its text. -/
def Term.literals : Term → List QuotedLiteral
  | .string start body => [⟨start, [[]], body⟩]
  | .guid start body => [⟨start, ["guid".toList], body⟩]
  | .dateTime start body => [⟨start, ["datetime".toList, "datetimeoffset".toList], body⟩]
  | .lambda _ _ _ _ _ _ body => Term.literals body
  | .call _ _ args => Term.literalsAll args
  | .unary _ _ operand => Term.literals operand
  | .binary _ _ left right => Term.literals left ++ Term.literals right
  | .group _ inner => Term.literals inner
  | .null _ | .bool _ _ | .number _ _ | .path _ _ | .quantified .. => []

/-- The quoted literals in some terms. -/
def Term.literalsAll : List Term → List QuotedLiteral
  | [] => []
  | t :: rest => Term.literals t ++ Term.literalsAll rest

end

/-- The shape of the text of a term. -/
def Term.shape (t : Term) : Shape := ⟨t.nesting, t.literals⟩

theorem additive_shape : Additive Term.shape where
  unary _ _ _ := rfl
  binary _ _ _ _ := rfl

theorem prod_shape (ts : List Term) :
    (ts.map Term.shape).prod = ⟨Term.nestingAll ts, Term.literalsAll ts⟩ := by
  induction ts with
  | nil => rfl
  | cons t rest ih =>
    rw [List.map_cons, List.prod_cons, ih]
    rfl

/-! ## Rules -/

variable {α β : Type} {nested : Recognizer Term} {c d : Cursor}

theorem reads_of_mark {text : String} {u : Unit} (found : (mark text c).outcome = some (u, d)) :
    ∃ gap, Plain gap ∧ c.Reads gap c.skip ∧ c.skip.Reads text.toList d := by
  obtain ⟨_, e, skips, found⟩ := outcome_bind_eq_some.1 found
  cases skips
  have spaces : Local.Inert isSpace := by decide
  exact ⟨_, spaces.plain List.all_takeWhile, .takeWhile c isSpace, reads_of_exactly found⟩

/-- What stands in parentheses nests one deeper. -/
theorem enclosed_measured {body : Recognizer α} {view : α → Shape} {f : α → β}
    {view' : β → Shape} (h : body.Measured layout 1 view)
    (deeper : ∀ a, view' (f a) = (view a).deeper) :
    Measured (do mark "("; let a ← body; mark ")"; return f a) layout 1 view' := by
  intro c b d found
  obtain ⟨_, e, opens, found⟩ := outcome_bind_eq_some.1 found
  obtain ⟨a, e', inside, found⟩ := outcome_bind_eq_some.1 found
  obtain ⟨_, e'', closes, found⟩ := outcome_bind_eq_some.1 found
  cases found
  obtain ⟨gap, plain, reads, opens⟩ := reads_of_mark opens
  obtain ⟨read, inner, laid⟩ := h.amounts inside
  obtain ⟨gap', plain', reads', closes⟩ := reads_of_mark closes
  refine ⟨view' (f a), (one_mul _).symm, gap ++ wrapped (read ++ gap'), ?_, ?_⟩
  · exact reads.trans (opens.trans ((inner.trans reads').trans closes))
  · -- Blanks in front of the closing parenthesis belong to what it encloses.
    have body_laid : Laid (c.skip.offset + 1) (read ++ gap') (view a * 1) := by
      rw [show c.skip.offset + 1 = e.offset from opens.offset.symm]
      exact laid.append (.plain plain')
    rw [deeper, ← one_mul (view a).deeper, ← mul_one (view a)]
    refine .append (.plain plain) ?_
    rw [← reads.offset]
    exact .wrapped body_laid

theorem amounts_of_written {q : QuotedLiteral} {word : List Char} (known : word ∈ q.words)
    (plain : ∀ word ∈ q.words, Plain word) (doubled : Doubled q.body) (start : q.start = c.offset)
    (reads : c.Reads (word ++ q.written) d) : layout.Amounts c ⟨0, [q]⟩ d :=
  ⟨_, reads, start ▸ .quoted known plain doubled⟩

theorem string_measured : string.Measured layout 1 Term.shape := by
  refine Measured.rule ?_
  intro c t d found
  obtain ⟨start, e, here, found⟩ := outcome_bind_eq_some.1 found
  cases here
  obtain ⟨_, e₁, opens, found⟩ := outcome_bind_eq_some.1 found
  obtain ⟨body, e₂, inside, found⟩ := outcome_bind_eq_some.1 found
  obtain ⟨_, e₃, closes, found⟩ := outcome_bind_eq_some.1 found
  cases found
  cases inside
  obtain ⟨rest, split, -⟩ := Local.reads_stringBodyChars e₁.rest
  have reads := (reads_of_exactly opens).trans ((Cursor.Reads.after split).trans
    (reads_of_exactly closes))
  have plain : ∀ word ∈ [[]], Plain word := by decide
  exact ⟨_, (one_mul _).symm, amounts_of_written (List.mem_singleton_self []) plain
    (Doubled.stringBodyChars _) rfl reads⟩

theorem guid_measured : guid.Measured layout 1 Term.shape := by
  refine Measured.rule ?_
  intro c t d found
  obtain ⟨start, e, here, found⟩ := outcome_bind_eq_some.1 found
  cases here
  obtain ⟨_, e₁, opens, found⟩ := outcome_bind_eq_some.1 found
  obtain ⟨body, e₂, inside, found⟩ := outcome_bind_eq_some.1 found
  obtain ⟨_, e₃, closes, found⟩ := outcome_bind_eq_some.1 found
  cases found
  rw [outcome_whole] at inside
  obtain ⟨-, members, inside⟩ := outcome_run1_eq_some inside
  have reads := (reads_of_exactly opens).trans (inside.trans (reads_of_exactly closes))
  have digits : Local.Inert isGuidChar := by decide
  have plain : ∀ word ∈ ["guid".toList], Plain word := by decide
  refine ⟨_, (one_mul _).symm, amounts_of_written (List.mem_singleton_self _) plain ?_ rfl reads⟩
  exact Doubled.of_forall_ne fun x mem same => (digits.plain members).2.2 (same ▸ mem)

theorem dateTime_measured : dateTime.Measured layout 1 Term.shape := by
  refine Measured.rule ?_
  intro c t d found
  obtain ⟨start, e, here, found⟩ := outcome_bind_eq_some.1 found
  cases here
  obtain ⟨_, e₁, begins, found⟩ := outcome_bind_eq_some.1 found
  obtain ⟨offset, e₂, further, found⟩ := outcome_bind_eq_some.1 found
  obtain ⟨_, e₃, opens, found⟩ := outcome_bind_eq_some.1 found
  obtain ⟨body, e₄, inside, found⟩ := outcome_bind_eq_some.1 found
  obtain ⟨_, e₅, closes, found⟩ := outcome_bind_eq_some.1 found
  cases found
  rw [outcome_whole] at inside
  obtain ⟨-, members, inside⟩ := outcome_run1_eq_some inside
  have quotes := (reads_of_exactly opens).trans (inside.trans (reads_of_exactly closes))
  have plain : ∀ word ∈ ["datetime".toList, "datetimeoffset".toList], Plain word := by decide
  have doubled : Doubled body := Doubled.of_forall_ne fun x mem =>
    bne_iff_ne.1 (List.all_eq_true.1 members x mem)
  rw [outcome_attempt] at further
  cases longer : (exactly "offset".toList e₁).outcome with
  | none =>
    rw [longer] at further
    cases further
    have reads := (reads_of_exactly begins).trans quotes
    exact ⟨_, (one_mul _).symm, amounts_of_written (by simp) plain doubled rfl reads⟩
  | some found =>
    rw [longer] at further
    cases further
    have reads := ((reads_of_exactly begins).trans (reads_of_exactly longer)).trans quotes
    exact ⟨_, (one_mul _).symm, amounts_of_written (by simp) plain doubled rfl reads⟩

theorem literal_measured : literal.Measured layout 1 Term.shape := by
  refine Measured.firstOf ?_
  simp only [List.forall_mem_cons]
  refine ⟨?null, ?true, ?false, guid_measured, dateTime_measured, string_measured, ?number, nofun⟩
  case null | true | false =>
    exact (word_skips (by decide)).andThen fun _ => Measured.pure rfl
  case number =>
    exact Measured.token <| position_skips.andThen fun _ => numberChars_skips.andThen fun _ =>
      Measured.pure rfl

theorem group_measured (h : nested.Measured layout 1 Term.shape) :
    (group nested).Measured layout 1 Term.shape :=
  Measured.rule <| position_skips.andThen fun _ => enclosed_measured h fun _ => rfl

theorem call_measured (h : nested.Measured layout 1 Term.shape) :
    (call nested).Measured layout 1 Term.shape := by
  refine Measured.rule <| identifier_skips.andThen fun _ =>
    enclosed_measured (separated_measured h).attempt fun args => ?_
  cases args with
  | none => rfl
  | some args =>
    rw [Option.elim_some, prod_shape]
    rfl

/-- The shape of the text of a quantifier. -/
def lambdaShape (found : Nat × Quantifier × Option (Nat × List Char × Term)) : Shape :=
  (found.2.2.elim 1 fun body => body.2.2.shape).deeper

theorem lambda_measured (h : nested.Measured layout 1 Term.shape) :
    (lambda nested).Measured layout 1 lambdaShape := by
  have bound : Measured (do
      let named ← identifier
      mark ":"
      let body ← nested
      return (named.1, named.2, body)) layout 1 fun body => body.2.2.shape :=
    identifier_skips.andThen fun _ => (mark_skips (by decide)).andThen fun _ =>
      h.bind fun _ => Measured.pure (one_mul _).symm
  exact Measured.rule <| position_skips.andThen fun _ => quantifier_skips.andThen fun _ =>
    enclosed_measured bound.attempt fun _ => rfl

theorem path_measured (h : nested.Measured layout 1 Term.shape) :
    (path nested).Measured layout 1 Term.shape := by
  have slash : (mark "/").Skips layout := mark_skips (by decide)
  have ending := (slash.andThen fun _ => lambda_measured h).attempt
  refine Measured.rule <| segment_skips.andThen fun _ =>
    (slash.andThen fun _ => segment_skips).skips_many.andThen fun _ => ending.bind fun found => ?_
  rw [one_mul]
  match found with
  | none => exact Measured.pure rfl
  | some (position, q, none) => exact Measured.pure rfl
  | some (position, q, some (boundAt, bound, body)) => exact Measured.pure rfl

theorem primary_measured (h : nested.Measured layout 1 Term.shape) :
    (primary nested).Measured layout 1 Term.shape := by
  refine Measured.firstOf ?_
  simp only [List.forall_mem_cons]
  exact ⟨group_measured h, literal_measured, call_measured h, path_measured h, nofun⟩

/-- What is recognized as an expression tells how its text is laid out. -/
theorem expression_measured_layout (fuel : Nat) :
    (expression fuel).Measured layout 1 Term.shape :=
  expression_measured additive_shape primary_measured fuel

/-! ## Whole texts -/

variable {text : List Char} {m : Shape}

/-- Whether the scan of a text for parentheses agrees with a depth and with quoted literals. -/
structure Counted (text : List Char) (depth : Nat) (literals : List QuotedLiteral) : Prop where
  /-- Behind any part of the text the scan has the number of open parentheses and the flag of the
  place that the part leads to. -/
  scan : ∀ before rest, text = before ++ rest → ∃ n, ground.after? before = some n ∧
    ∀ limit more, depth ≤ limit → nestingOverflow? limit (before ++ more) =
      nestingOverflowFrom? limit n.depth n.quoted (Text.byteLength before) more
  /-- The largest number of open parentheses is the depth. -/
  deepest : IsGreatest { d | ∃ before rest n, text = before ++ rest ∧
    ground.after? before = some n ∧ n.depth = d } depth
  /-- The flag is set next to a character just if the character stands in the quoted part of a literal,
  quotes included. It is the same on both sides of a character that is no quote, and a quote switches
  it: between the two quotes that stand for one it is not set. -/
  flag : ∀ before x rest n n', text = before ++ x :: rest → ground.after? before = some n →
    ground.after? (before ++ [x]) = some n' →
      ((n.quoted = true ∨ n'.quoted = true) ↔ ∃ q ∈ literals, q.Covers 0 text before.length) ∧
        n'.quoted = if x = '\'' then !n.quoted else n.quoted
  /-- The literals stand in the text at their positions. -/
  stands : ∀ q ∈ literals, ∃ before word after, q.Stands 0 text before word after
  /-- At the end no parentheses are open, and the flag is not set. -/
  ends : ground.after? text = some ground
  /-- The text is refused just if it nests deeper than it may. -/
  refused : ∀ limit, (nestingOverflow? limit text).isSome ↔ limit < depth

/-- The scan follows the layout. -/
theorem Laid.counted (h : Laid 0 text m) : Counted text m.depth m.literals where
  scan before rest split := by
    obtain ⟨n, here, -⟩ := Nesting.exists_of_after?_append (split ▸ h.closed)
    refine ⟨n, here, fun limit more le => ?_⟩
    have shallow : ground.peak before ≤ limit := by
      have deepest := h.peak
      rw [split, Nesting.peak_append here] at deepest
      omega
    have counted := nestingOverflowFrom?_append here shallow 0 more
    rwa [Nat.zero_add] at counted
  deepest := h.peak ▸ Nesting.isGreatest_peak h.closed
  flag before x rest n n' split here there := by
    rw [Nesting.after?_append, here, Option.bind_some, Nesting.after?_cons] at there
    obtain ⟨_, step, same⟩ := Option.bind_eq_some_iff.1 there
    cases same
    have switch := Nesting.quoted_of_next? step
    refine ⟨?_, switch⟩
    rw [← h.quoted_iff split here, switch]
    split_ifs with quote <;> simp [quote]
  stands q mem := by
    obtain ⟨before, word, after, -, stands, -⟩ := h.stands q mem
    exact ⟨before, word, after, stands⟩
  ends := h.closed
  refused limit := by
    rw [Option.isSome_iff_ne_none, ne_eq, nestingOverflow?_eq_none_iff h.closed, h.peak, not_le]

theorem laid_of_recognize {p : Nat → Recognizer α} {view : α → Shape} {a : α}
    (measured : ∀ fuel, (p fuel).Measured layout 1 view)
    (h : recognize (fun fuel => do let found ← p fuel; endOfText; return found) text = .ok a) :
    Laid 0 text (view a) := by
  obtain ⟨d, found, ends⟩ := recognize_whole_eq_ok_iff.1 h
  obtain ⟨read, reads, laid⟩ := (measured _).amounts found
  have spaces : Local.Inert isSpace := by decide
  have blank : Plain d.rest :=
    spaces.plain (List.all_eq_true.2 (List.dropWhile_eq_nil_iff.1 ends))
  rw [show text = read ++ d.rest from reads.rest, ← mul_one (view a)]
  exact laid.append (.plain blank)

/-- Parentheses and quotes are counted on a recognized text as its terms have them. -/
theorem recognize_counted :
    (∀ text t, recognize filterText text = .ok t → Counted text t.nesting t.literals) ∧
    ∀ text ts, recognize orderByText text = .ok ts →
      Counted text (Term.nestingAll (ts.map OrderTerm.term))
        (Term.literalsAll (ts.map OrderTerm.term)) := by
  constructor
  · intro text t found
    exact (laid_of_recognize expression_measured_layout found).counted
  · intro text ts found
    have laid := laid_of_recognize
      (fun fuel => separated_measured (orderTerm_measured (expression_measured_layout fuel))) found
    have shape : (ts.map fun t => t.term.shape).prod =
        ⟨Term.nestingAll (ts.map OrderTerm.term), Term.literalsAll (ts.map OrderTerm.term)⟩ := by
      rw [← prod_shape, List.map_map]
      rfl
    rw [shape] at laid
    exact laid.counted

/-- Parentheses in literals are not counted, and a quote written twice does not end one. -/
theorem recognize_counted_doubled : ∃ t ts,
    recognize filterText "Lines/any(l: l/Note eq 'it''s (' or f(('a)'), guid'0-f'))".toList = .ok t ∧
    recognize orderByText "f(datetimeoffset'(', '''') desc, (Id)".toList = .ok ts ∧
    Counted "Lines/any(l: l/Note eq 'it''s (' or f(('a)'), guid'0-f'))".toList 3
      [⟨23, [[]], "it''s (".toList⟩, ⟨39, [[]], "a)".toList⟩,
        ⟨46, ["guid".toList], "0-f".toList⟩] ∧
    Counted "f(datetimeoffset'(', '''') desc, (Id)".toList 1
      [⟨2, ["datetime".toList, "datetimeoffset".toList], ['(']⟩, ⟨21, [[]], ['\'', '\'']⟩] := by
  have filter : (recognize filterText
      "Lines/any(l: l/Note eq 'it''s (' or f(('a)'), guid'0-f'))".toList).toOption.map Term.shape =
        some ⟨3, [⟨23, [[]], "it''s (".toList⟩, ⟨39, [[]], "a)".toList⟩,
          ⟨46, ["guid".toList], "0-f".toList⟩]⟩ := by decide +kernel
  have order : (recognize orderByText
      "f(datetimeoffset'(', '''') desc, (Id)".toList).toOption.map (fun ts =>
        Shape.mk (Term.nestingAll (ts.map OrderTerm.term))
          (Term.literalsAll (ts.map OrderTerm.term))) =
        some ⟨1, [⟨2, ["datetime".toList, "datetimeoffset".toList], ['(']⟩,
          ⟨21, [[]], ['\'', '\'']⟩]⟩ := by decide +kernel
  obtain ⟨t, found, shape⟩ := Option.map_eq_some_iff.1 filter
  obtain ⟨ts, found', shape'⟩ := Option.map_eq_some_iff.1 order
  have found := Except.toOption_eq_some.1 found
  have found' := Except.toOption_eq_some.1 found'
  obtain ⟨depth, literals⟩ := Shape.mk.inj shape
  obtain ⟨depth', literals'⟩ := Shape.mk.inj shape'
  rw [← depth, ← literals, ← depth', ← literals']
  exact ⟨t, ts, found, found', recognize_counted.1 _ t found, recognize_counted.2 _ ts found'⟩

end RecordQuery.Grammar
