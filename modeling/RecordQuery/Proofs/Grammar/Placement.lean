import Mathlib.Algebra.FreeMonoid.Basic
import RecordQuery.Proofs.Grammar.Measure

/-!
# Positions of recognized segments

The segments of a recognized term stand in the text where their positions say, one behind the other
in the order in which the term lists them. A recognizer moves on by what it reads, so this is kept
when recognizers are put together: what the second one finds stands behind what the first one found.

## Main definitions

* `Placed`: whether segments stand one behind the other between two cursors, and `placing`, the same as
  a measure.
* `Recognizer.Spells`: whether the segments of what a recognizer finds stand where it read them.
* `Term.segments`: the segments of all paths of a term.
* `StandIn`: whether segments stand in a text in their order.

## Main statements

* `expression_spells`: recognized expressions are spelled by the text.
* `Placed.standIn`: segments that were placed stand in the text.
-/

namespace RecordQuery.Grammar

/-! ## Between two cursors -/

/-- Segments that stand one behind the other between two cursors, each at its position. -/
inductive Placed : Cursor → List Segment → Cursor → Prop
  | nil {c d : Cursor} {gap : List Char} (reads : c.Reads gap d) : Placed c [] d
  | cons {c d e f : Cursor} {gap : List Char} {s : Segment} {rest : List Segment}
      (reads : c.Reads gap e) (here : e.offset = s.position) (text : e.Reads s.text f)
      (more : Placed f rest d) : Placed c (s :: rest) d

namespace Placed

variable {c d e : Cursor} {gap : List Char} {segments more : List Segment}

theorem reads (h : Placed c segments d) : ∃ read, c.Reads read d := by
  induction h with
  | nil reads => exact ⟨_, reads⟩
  | cons gap _ text _ ih =>
    obtain ⟨read, reads⟩ := ih
    exact ⟨_, (gap.trans text).trans reads⟩

/-- Segments may stand behind a gap. -/
theorem behind (reads : c.Reads gap d) (h : Placed d segments e) : Placed c segments e := by
  cases h with
  | nil reads' => exact .nil (reads.trans reads')
  | cons reads' here text more => exact .cons (reads.trans reads') here text more

theorem append (first : Placed c segments d) (second : Placed d more e) :
    Placed c (segments ++ more) e := by
  induction first with
  | nil reads => exact second.behind reads
  | cons reads here text _ ih => exact .cons reads here text (ih second)

theorem singleton {f : Cursor} {s : Segment} (reads : c.Reads gap e) (here : e.offset = s.position)
    (text : e.Reads s.text f) : Placed c [s] f := .cons reads here text (.nil (.refl f))

end Placed

/-- The segments that stand in a text, as a measure. -/
def placing : Measure (FreeMonoid Segment) where
  Amounts := Placed
  plain reads _ := .nil reads
  append := Placed.append

/-! ## Recognizers -/

namespace Recognizer

variable {α β : Type} {p q : Recognizer α} {before : List Segment} {view : α → List Segment}

/-- Behind the segments `before`, those of what a recognizer finds stand where it read them. The
`view` lists the segments of a finding, together with those before it. -/
def Spells (p : Recognizer α) (before : List Segment) (view : α → List Segment) : Prop :=
  ∀ (c : Cursor) (a : α) (d : Cursor), (p c).outcome = some (a, d) →
    ∃ more, view a = before ++ more ∧ Placed c more d

/-- A recognizer moves on by what it reads. What it finds has no segments. -/
abbrev Moves (p : Recognizer α) : Prop := p.Spells [] fun _ => []

theorem moves_iff : p.Moves ↔ ∀ (c : Cursor) (a : α) (d : Cursor),
    (p c).outcome = some (a, d) → ∃ read, c.Reads read d := by
  constructor
  · intro h c a d found
    obtain ⟨more, -, placed⟩ := h c a d found
    exact placed.reads
  · intro h c a d found
    obtain ⟨read, reads⟩ := h c a d found
    exact ⟨[], rfl, .nil reads⟩

namespace Spells

theorem moves (h : p.Spells before view) : p.Moves := moves_iff.2 fun c a d found => by
  obtain ⟨more, -, placed⟩ := h c a d found
  exact placed.reads

theorem pure {a : α} (same : view a = before) :
    (Pure.pure a : Recognizer α).Spells before view := Measured.pure (μ := placing) same

theorem bind {next : α → Recognizer β} {found : α → List Segment} {view : β → List Segment}
    (first : p.Spells [] found) (second : ∀ a, (next a).Spells (before ++ found a) view) :
    (p >>= next).Spells before view := Measured.bind (μ := placing) first second

theorem andThen {next : α → Recognizer β} {view : β → List Segment} (first : p.Moves)
    (second : ∀ a, (next a).Spells before view) : (p >>= next).Spells before view :=
  Measured.andThen (μ := placing) first second

theorem orElse (left : p.Spells before view) (right : q.Spells before view) :
    (p.orElse q).Spells before view := Measured.orElse (μ := placing) left right

theorem firstOf {ps : List (Recognizer α)} (h : ∀ p ∈ ps, p.Spells before view) :
    (firstOf ps).Spells before view := Measured.firstOf (μ := placing) h

theorem attempt (h : p.Spells [] view) :
    (attempt p).Spells [] fun found => found.elim [] view := Measured.attempt (μ := placing) h

/-- Segments of some findings one behind the other are their product. -/
theorem flatMap_eq_prod (view : α → List Segment) (found : List α) :
    found.flatMap view = (found.map view : List (FreeMonoid Segment)).prod := by
  induction found with
  | nil => rfl
  | cons a found ih => exact List.flatMap_cons.trans (congrArg (view a ++ ·) ih)

theorem many (h : p.Spells [] view) : (many p).Spells [] (·.flatMap view) :=
  Measured.congr (Measured.many (μ := placing) h) (flatMap_eq_prod view)

theorem token (h : p.Spells before view) : (token p).Spells before view :=
  Measured.token (μ := placing) h

theorem rule (h : p.Spells before view) : (rule p).Spells before view :=
  Measured.rule (μ := placing) h

theorem whole (h : p.Spells before view) : (whole p).Spells before view :=
  Measured.whole (μ := placing) h

end Spells

/-! ## Characters -/

theorem run1_moves (belongs : Char → Bool) : (run1 belongs).Moves :=
  moves_iff.2 fun _ _ _ found => ⟨_, (outcome_run1_eq_some found).2.2⟩

theorem exactly_moves (text : List Char) : (exactly text).Moves :=
  moves_iff.2 fun _ _ _ found => ⟨_, reads_of_exactly found⟩

theorem position_moves : position.Moves := position_skips (μ := placing)

theorem mark_moves (text : String) : (mark text).Moves :=
  Spells.andThen (blanks_skips (μ := placing)) fun _ => exactly_moves _

end Recognizer

open Recognizer

variable {nested operand : Recognizer Term} {c d : Cursor}

/-! ## Segments -/

theorem reads_of_nameChars {name : List Char} (found : (nameChars c).outcome = some (name, d)) :
    c.Reads name d := by
  obtain ⟨first, e, starts, found⟩ := outcome_bind_eq_some.1 found
  obtain ⟨more, f, continues, found⟩ := outcome_bind_eq_some.1 found
  cases found
  exact (outcome_one_eq_some starts).2.trans (reads_of_run continues)

theorem reads_of_pointName {name : List Char} (found : (pointName c).outcome = some (name, d)) :
    c.Reads name d := by
  obtain ⟨u, e, point, found⟩ := outcome_bind_eq_some.1 found
  obtain ⟨name, f, chars, found⟩ := outcome_bind_eq_some.1 found
  cases found
  exact (reads_of_exactly point).trans (reads_of_nameChars chars)

theorem reads_of_pointNames {tries : Nat} {names : List (List Char)}
    (found : (manyUpTo pointName tries c).outcome = some (names, d)) : c.Reads names.flatten d := by
  induction tries generalizing c names with
  | zero =>
    cases found
    exact .refl _
  | succ tries ih =>
    rw [outcome_manyUpTo_succ] at found
    cases first : (pointName c).outcome with
    | none =>
      rw [first] at found
      cases found
      exact .refl _
    | some item =>
      rw [first] at found
      obtain ⟨⟨more, e⟩, others, same⟩ := Option.map_eq_some_iff.1 found
      cases same
      exact (reads_of_pointName first).trans (ih others)

theorem identifier_spells : identifier.Spells [] fun found => [.member found.1 found.2] := by
  intro c found d outcome
  unfold identifier at outcome
  rw [outcome_token] at outcome
  obtain ⟨start, e, here, outcome⟩ := outcome_bind_eq_some.1 outcome
  cases here
  obtain ⟨name, f, chars, outcome⟩ := outcome_bind_eq_some.1 outcome
  cases outcome
  have text : c.skip.Reads name d := by
    rw [outcome_orElse] at chars
    obtain element | ⟨-, chars⟩ := Option.or_eq_some_iff.1 chars
    · obtain ⟨u, g, word, element⟩ := outcome_bind_eq_some.1 element
      cases element
      exact reads_of_exactly word
    · exact reads_of_nameChars chars
  obtain ⟨gap, blanks⟩ := Cursor.Reads.skip c
  exact ⟨[.member c.skip.offset name], rfl, .singleton blanks rfl text⟩

theorem qualifiedName_spells : qualifiedName.Spells [] fun found => [.cast found.1 found.2] := by
  intro c found d outcome
  unfold qualifiedName at outcome
  rw [outcome_token] at outcome
  obtain ⟨start, e, here, outcome⟩ := outcome_bind_eq_some.1 outcome
  cases here
  obtain ⟨first, e₁, chars, outcome⟩ := outcome_bind_eq_some.1 outcome
  obtain ⟨second, e₂, point, outcome⟩ := outcome_bind_eq_some.1 outcome
  obtain ⟨more, e₃, points, outcome⟩ := outcome_bind_eq_some.1 outcome
  cases outcome
  have text : c.skip.Reads (first ++ second ++ more.flatten) d :=
    ((reads_of_nameChars chars).trans (reads_of_pointName point)).trans (reads_of_pointNames points)
  obtain ⟨gap, blanks⟩ := Cursor.Reads.skip c
  exact ⟨[.cast c.skip.offset _], rfl, .singleton blanks rfl text⟩

theorem segment_spells : segment.Spells [] fun s => [s] := by
  refine Spells.andThen (absent_skips (μ := placing) _) fun _ => Spells.orElse ?_ ?_
  · exact qualifiedName_spells.bind fun found => Spells.pure rfl
  · exact identifier_spells.bind fun found => Spells.pure rfl

theorem segments_spell : (many nextSegment).Spells [] id := by
  have all := ((mark_moves "/").andThen fun _ => segment_spells).many
  intro c found d outcome
  obtain ⟨more, same, placed⟩ := all c found d outcome
  exact ⟨more, (List.flatMap_singleton' found).symm.trans same, placed⟩

/-! ## Terms -/

mutual

/-- The segments of all paths of a term, in the order in which they stand in its text. -/
def Term.segments : Term → List Segment
  | .path first rest | .quantified first rest _ _ => first :: rest
  | .lambda first rest _ _ _ _ body => first :: rest ++ Term.segments body
  | .call _ _ args => Term.segmentsAll args
  | .unary _ _ operand => Term.segments operand
  | .binary _ _ left right => Term.segments left ++ Term.segments right
  | .group _ inner => Term.segments inner
  | .null _ | .bool _ _ | .string _ _ | .guid _ _ | .dateTime _ _ | .number _ _ => []

/-- The segments of all paths of some terms. -/
def Term.segmentsAll : List Term → List Segment
  | [] => []
  | t :: rest => Term.segments t ++ Term.segmentsAll rest

end

theorem Term.segmentsAll_eq_flatMap (ts : List Term) :
    Term.segmentsAll ts = ts.flatMap Term.segments := by
  induction ts with
  | nil => rfl
  | cons t rest ih => rw [segmentsAll, ih, List.flatMap_cons]

/-- The segments of a term whose names are names of the grammar. -/
theorem Term.IsLexical.segments (t : Term) (h : t.IsLexical) : ∀ s ∈ t.segments, s.IsLexical := by
  have path {first : Segment} {rest : List Segment} (names : LexicalPath first rest) :
      ∀ s ∈ first :: rest, s.IsLexical := List.forall_mem_cons.2 ⟨names.starts, names.others⟩
  cases t with
  | null | bool | string | guid | dateTime | number => exact nofun
  | path | quantified => exact path h
  | lambda _ _ _ _ _ _ body =>
    exact List.forall_mem_append.2 ⟨path h.1, Term.IsLexical.segments body h.2.2⟩
  | call _ _ args =>
    intro s mem
    rw [Term.segments, Term.segmentsAll_eq_flatMap] at mem
    obtain ⟨arg, here, mem⟩ := List.mem_flatMap.1 mem
    exact Term.IsLexical.segments arg (Term.allLexical_iff.1 h arg here) s mem
  | unary _ _ operand => exact Term.IsLexical.segments operand h
  | binary _ _ left right =>
    exact List.forall_mem_append.2
      ⟨Term.IsLexical.segments left h.1, Term.IsLexical.segments right h.2⟩
  | group _ inner => exact Term.IsLexical.segments inner h

theorem stringBody_moves : stringBody.Moves := moves_iff.2 fun c _ _ found => by
  cases found
  obtain ⟨rest, split, -⟩ := Local.reads_stringBodyChars c.rest
  exact ⟨_, .after split⟩

theorem literal_spells : literal.Spells [] Term.segments := by
  have quote := exactly_moves ['\'']
  refine Spells.firstOf ?_
  simp only [List.forall_mem_cons]
  refine ⟨?null, ?true, ?false, ?guid, ?dateTime, ?string, ?number, nofun⟩
  case null | true | false =>
    exact Spells.andThen (word_skips (μ := placing) (by decide)) fun _ => Spells.pure rfl
  case guid =>
    exact Spells.rule <| position_moves.andThen fun _ => (exactly_moves _).andThen fun _ =>
      (run1_moves _).whole.andThen fun _ => quote.andThen fun _ => Spells.pure rfl
  case dateTime =>
    exact Spells.rule <| position_moves.andThen fun _ => (exactly_moves _).andThen fun _ =>
      (exactly_moves _).attempt.moves.andThen fun _ => quote.andThen fun _ =>
        (run1_moves _).whole.andThen fun _ => quote.andThen fun _ => Spells.pure rfl
  case string =>
    exact Spells.rule <| position_moves.andThen fun _ => quote.andThen fun _ =>
      stringBody_moves.andThen fun _ => quote.andThen fun _ => Spells.pure rfl
  case number =>
    exact Spells.token <| position_moves.andThen fun _ => 
      Spells.andThen (numberChars_skips (μ := placing)) fun _ => Spells.pure rfl

theorem group_spells (inner : nested.Spells [] Term.segments) :
    (group nested).Spells [] Term.segments :=
  Spells.rule <| position_moves.andThen fun _ => (mark_moves _).andThen fun _ =>
    inner.bind fun _ => (mark_moves _).andThen fun _ => Spells.pure rfl

theorem separated_spells {α : Type} {p : Recognizer α} {view : α → List Segment}
    (h : p.Spells [] view) : (separated p).Spells [] (·.flatMap view) :=
  Measured.congr (separated_measured (μ := placing) h) (Spells.flatMap_eq_prod view)

theorem call_spells (inner : nested.Spells [] Term.segments) :
    (call nested).Spells [] Term.segments := by
  refine Spells.rule <| identifier_spells.moves.andThen fun _ =>
    (mark_moves _).andThen fun _ => ?_
  refine (separated_spells inner).attempt.bind fun args => (mark_moves _).andThen fun _ =>
    Spells.pure ?_
  cases args with
  | none => rfl
  | some args => exact Term.segmentsAll_eq_flatMap args

/-- The segments in the body of a quantifier, if it has one. -/
def bodySegments (found : Nat × Quantifier × Option (Nat × List Char × Term)) : List Segment :=
  found.2.2.elim [] fun body => body.2.2.segments

theorem lambda_spells (inner : nested.Spells [] Term.segments) :
    (lambda nested).Spells [] bodySegments := by
  have bound : Spells (do
      let named ← identifier
      mark ":"
      let body ← nested
      return (named.1, named.2, body)) [] fun body => body.2.2.segments :=
    identifier_spells.moves.andThen fun _ => (mark_moves _).andThen fun _ =>
      inner.bind fun _ => Spells.pure rfl
  exact Spells.rule <| position_moves.andThen fun _ => Spells.andThen (quantifier_skips (μ := placing)) fun _ =>
    (mark_moves _).andThen fun _ => bound.attempt.bind fun _ => (mark_moves _).andThen fun _ =>
      Spells.pure rfl

theorem path_spells (inner : nested.Spells [] Term.segments) :
    (path nested).Spells [] Term.segments := by
  have ending := ((mark_moves "/").andThen fun _ => lambda_spells inner).attempt
  refine Spells.rule <| segment_spells.bind fun first => segments_spell.bind fun rest =>
    ending.bind fun found => ?_
  match found with
  | none => exact Spells.pure (List.append_nil _).symm
  | some (position, q, none) => exact Spells.pure (List.append_nil _).symm
  | some (position, q, some (boundAt, bound, body)) => exact Spells.pure rfl

theorem primary_spells (inner : nested.Spells [] Term.segments) :
    (primary nested).Spells [] Term.segments := by
  refine Spells.firstOf ?_
  simp only [List.forall_mem_cons]
  exact ⟨group_spells inner, literal_spells, call_spells inner, path_spells inner, nofun⟩

/-- Operators are no segments. -/
theorem additive_segments : @Additive (FreeMonoid Segment) _ Term.segments where
  unary _ _ _ := rfl
  binary _ _ _ _ := rfl

/-- The text spells the segments of a recognized expression. -/
theorem expression_spells (fuel : Nat) : (expression fuel).Spells [] Term.segments :=
  expression_measured (μ := placing) additive_segments primary_spells fuel

theorem orderTerm_spells (inner : nested.Spells [] Term.segments) :
    (orderTerm nested).Spells [] fun t => t.term.segments :=
  orderTerm_measured (μ := placing) inner

/-! ## Whole texts -/

theorem endOfText_moves : endOfText.Moves := Spells.token <| moves_iff.2 fun c _ _ found => by
  split at found <;> cases found
  exact ⟨[], .refl _⟩

theorem filterText_spells (fuel : Nat) : (filterText fuel).Spells [] Term.segments :=
  (expression_spells fuel).bind fun _ => endOfText_moves.andThen fun _ => Spells.pure rfl

theorem orderByText_spells (fuel : Nat) :
    (orderByText fuel).Spells [] fun ts => ts.flatMap fun t => t.term.segments :=
  (separated_spells (orderTerm_spells (expression_spells fuel))).bind fun _ =>
    endOfText_moves.andThen fun _ => Spells.pure rfl

/-- Segments that stand in a text where their positions say, in their order. -/
structure StandIn (text : List Char) (segments : List Segment) : Prop where
  places : ∀ s ∈ segments, ∃ before after, text = before ++ s.text ++ after ∧
    s.position = Text.byteLength before
  order : segments.Pairwise fun s next => s.position + Text.byteLength s.text ≤ next.position

namespace Placed

variable {segments : List Segment}

theorem le_position (h : Placed c segments d) : ∀ s ∈ segments, c.offset ≤ s.position := by
  induction h with
  | nil => exact nofun
  | cons reads here text _ ih =>
    refine List.forall_mem_cons.2 ⟨here ▸ reads.le, fun s mem => ?_⟩
    exact Nat.le_trans (Nat.le_trans reads.le text.le) (ih s mem)

theorem order (h : Placed c segments d) :
    segments.Pairwise fun s next => s.position + Text.byteLength s.text ≤ next.position := by
  induction h with
  | nil => exact .nil
  | cons reads here text more ih =>
    refine .cons (fun s mem => ?_) ih
    rw [← here, ← text.offset]
    exact more.le_position s mem

theorem places (h : Placed c segments d) : ∀ s ∈ segments, ∃ before after,
    c.rest = before ++ s.text ++ after ∧ s.position = c.offset + Text.byteLength before := by
  induction h with
  | nil => exact nofun
  | @cons c _ _ f gap s _ reads here text _ ih =>
    refine List.forall_mem_cons.2 ⟨⟨gap, f.rest, ?_, ?_⟩, fun s' mem => ?_⟩
    · rw [reads.rest, text.rest, List.append_assoc]
    · rw [← here, reads.offset]
    · obtain ⟨before, after, split, position⟩ := ih s' mem
      have there := reads.trans text
      refine ⟨gap ++ s.text ++ before, after, ?_, ?_⟩
      · rw [there.rest, split]
        simp only [List.append_assoc]
      · rw [position, there.offset, Text.byteLength_append (gap ++ s.text), Nat.add_assoc]

theorem standIn {text : List Char} (h : Placed (.start text) segments d) :
    StandIn text segments where
  places s mem := by
    obtain ⟨before, after, split, position⟩ := h.places s mem
    exact ⟨before, after, split, position.trans (Nat.zero_add _)⟩
  order := h.order

end Placed

theorem StandIn.of_infix {text : List Char} {segments all : List Segment} (h : StandIn text all)
    (part : segments <:+: all) : StandIn text segments where
  places s mem := h.places s (part.subset mem)
  order := h.order.sublist part.sublist

/-- What is recognized in a text stands in it. -/
theorem standIn_of_recognize {α : Type} {p : Nat → Recognizer α} {view : α → List Segment}
    (spells : ∀ fuel, (p fuel).Spells [] view) {text : List Char} {a : α}
    (h : recognize p text = .ok a) : StandIn text (view a) := by
  unfold recognize at h
  dsimp only at h
  split at h
  case h_1 b d found =>
    cases h
    obtain ⟨segments, same, placed⟩ := spells _ _ _ _ found
    exact same ▸ placed.standIn
  case h_2 => cases h

end RecordQuery.Grammar
