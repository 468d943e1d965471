import RecordQuery.Proofs.Grammar.Placement

/-!
# Where the segments of a path stand

A recognizer moves its position on by the bytes that it reads, so the end of a text stays where it
is. With the text that is left this gives the position itself, and so the positions of the segments
of a path: each stands behind the bytes of those before it and of a slash.

## Main definitions

* `Recognizer.Counts`: whether a recognizer counts the bytes that it reads.
* `Segment.ofText`, `placed`: the segments for the parts of a text between slashes.

## Main statements

* `Recognizer.Counts.outcome`: what was read up to where says what is found.
* `outcome_segment`, `outcome_segments`: segments are found with their positions.
* `outcome_path`, `outcome_expressionOver`: so are the paths and the expressions made of them.
-/

namespace RecordQuery.Grammar

/-! ## Counting bytes -/

namespace Cursor

/-- The byte position of the end of the text. -/
def stop (c : Cursor) : Nat := c.offset + Text.byteLength c.rest

variable {c : Cursor} {read more rest : List Char}

theorem rest_after (h : c.rest = read ++ rest) : (c.after read).rest = rest := by
  simp [after, h]

theorem rest_after_all (h : c.rest = read) : (c.after read).rest = [] :=
  rest_after (h.trans (List.append_nil read).symm)

theorem stop_after (h : c.rest = read ++ rest) : (c.after read).stop = c.stop := by
  rw [stop, stop, rest_after h, h, Text.byteLength_append]
  exact Nat.add_assoc ..

theorem after_append (c : Cursor) (read more : List Char) :
    c.after (read ++ more) = (c.after read).after more := by
  simp [after, Nat.add_assoc]

theorem eq_after {d : Cursor} (h : c.rest = read ++ d.rest) (same : d.stop = c.stop) :
    d = c.after read := by
  have rest := rest_after h
  have offset : d.offset = (c.after read).offset := by
    rw [← stop_after h, stop, stop, rest] at same
    omega
  obtain ⟨position, left⟩ := d
  cases offset
  cases rest
  rfl

theorem skip_of_ends (h : Recognizer.Ends isSpace c.rest) : c.skip = c := by
  simp [skip, h.takeWhile, after, Text.byteLength]

end Cursor

namespace Recognizer

variable {α β γ : Type} {p q : Recognizer α} {c d : Cursor}

/-- A recognizer counts the bytes that it reads, so the end of the text stays where it is. -/
def Counts (p : Recognizer α) : Prop :=
  ∀ (c : Cursor) (a : α) (d : Cursor), (p c).outcome = some (a, d) → d.stop = c.stop

/-- Moving on by what is read is to count its bytes. -/
theorem Spells.counts {before : List Segment} {view : α → List Segment}
    (h : p.Spells before view) : p.Counts := by
  intro c a d found
  obtain ⟨read, reads⟩ := moves_iff.1 h.moves c a d found
  rw [Cursor.stop, Cursor.stop, reads.offset, reads.rest, Text.byteLength_append, Nat.add_assoc]

/-- What is read from a text up to some rest is found with the cursor behind it. -/
theorem Counts.outcome {f : α → γ} {read rest : List Char} {b : γ} (counts : p.Counts)
    (h : p.Reads f (read ++ rest) b rest) (start : c.rest = read ++ rest) :
    ∃ a, (p c).outcome = some (a, c.after read) ∧ f a = b := by
  obtain ⟨a, d, found, same, rest_d⟩ := h.outcome start
  have here : d = c.after read := Cursor.eq_after (by rw [start, rest_d]) (counts c a d found)
  exact ⟨a, here ▸ found, same⟩

/-! ## Outcomes in sequence -/

theorem outcome_bind_of_eq {next : α → Recognizer β} {a : α} (h : (p c).outcome = some (a, d)) :
    ((p >>= next) c).outcome = (next a d).outcome := by
  rw [outcome_bind, h]
  rfl

theorem Refuses.outcome_orElse (h : p.Refuses c.rest) : (p.orElse q c).outcome = (q c).outcome := by
  rw [Recognizer.outcome_orElse, h c rfl, Option.none_or]

theorem Refuses.outcome_attempt (h : p.Refuses c.rest) :
    (Recognizer.attempt p c).outcome = some (none, c) := by
  rw [Recognizer.outcome_attempt, h c rfl]

theorem Refuses.outcome_many (h : p.Refuses c.rest) : (many p c).outcome = some ([], c) := by
  show (manyUpTo p (c.rest.length + 1) c).outcome = _
  rw [outcome_manyUpTo_succ, h c rfl]

end Recognizer

open Recognizer

variable {nested operand : Recognizer Term} {s rest : List Char} {c d : Cursor}

/-! ## Segments -/

/-- A name is given with the position behind the blanks. -/
theorem position_of_identifier {position : Nat} {name : List Char}
    (h : (identifier c).outcome = some ((position, name), d)) : position = c.skip.offset := by
  unfold identifier at h
  rw [outcome_token] at h
  obtain ⟨start, e, here, h⟩ := outcome_bind_eq_some.1 h
  cases here
  obtain ⟨chars, e, -, h⟩ := outcome_bind_eq_some.1 h
  cases h
  rfl

theorem position_of_qualifiedName {position : Nat} {type : List Char}
    (h : (qualifiedName c).outcome = some ((position, type), d)) : position = c.skip.offset := by
  unfold qualifiedName at h
  rw [outcome_token] at h
  obtain ⟨start, e, here, h⟩ := outcome_bind_eq_some.1 h
  cases here
  obtain ⟨first, e, -, h⟩ := outcome_bind_eq_some.1 h
  obtain ⟨second, e, -, h⟩ := outcome_bind_eq_some.1 h
  obtain ⟨more, e, -, h⟩ := outcome_bind_eq_some.1 h
  cases h
  rfl

theorem position_of_segment {found : Segment} (h : (segment c).outcome = some (found, d)) :
    found.position = c.skip.offset := by
  obtain ⟨u, e, no_quantifier, h⟩ := outcome_bind_eq_some.1 h
  have same : c = e := by
    unfold absent at no_quantifier
    split at no_quantifier <;> cases no_quantifier
    rfl
  cases same
  rw [outcome_orElse] at h
  obtain h | ⟨-, h⟩ := Option.or_eq_some_iff.1 h
  · obtain ⟨⟨position, type⟩, e, found, h⟩ := outcome_bind_eq_some.1 h
    cases h
    exact position_of_qualifiedName found
  · obtain ⟨⟨position, name⟩, e, found, h⟩ := outcome_bind_eq_some.1 h
    cases h
    exact position_of_identifier found

theorem Segment.eq_of_erase {s t : Segment} (same : s.erase = t.erase)
    (position : s.position = t.position) : s = t := by
  cases s <;> cases t <;> cases same <;> cases position <;> rfl

/-- The segment for a text without slashes: a cast if there is a point in it. -/
def Segment.ofText (position : Nat) (text : List Char) : Segment :=
  if text.contains '.' then .cast position text else .member position text

@[simp] theorem Segment.position_ofText (position : Nat) (text : List Char) :
    (ofText position text).position = position := by
  unfold ofText
  split <;> rfl

@[simp] theorem Segment.text_ofText (position : Nat) (text : List Char) :
    (ofText position text).text = text := by
  unfold ofText
  split <;> rfl

theorem IsName.contains_point (h : IsName s) : s.contains '.' = false := by
  refine Bool.eq_false_iff.2 fun point => ?_
  exact absurd (List.all_eq_true.1 h.letters '.' (List.contains_iff_mem.1 point)) (by decide)

theorem IsQualified.contains_point (h : IsQualified s) : s.contains '.' = true := by
  obtain ⟨first, second, more, -, -, -, rfl⟩ := h
  simp [dotted]

theorem Segment.isLexical_ofText (name : IsName s ∨ IsQualified s) (position : Nat) :
    (ofText position s).IsLexical := by
  unfold ofText
  obtain name | name := name
  · rw [name.contains_point]
    exact .inr name
  · rw [name.contains_point]
    exact name

theorem ends_blank_of_name (name : IsName s ∨ IsQualified s) (rest : List Char) :
    Ends isSpace (s ++ rest) := by
  have lexical := Segment.isLexical_ofText name 0
  rw [← Segment.text_ofText 0 s]
  refine lexical.ends fun x starts => ?_
  obtain starts | rfl := starts
  · exact isSpace_eq_false (continuesName_of_startsName starts)
  · decide

/-- A segment is found at the position where it stands. -/
theorem outcome_segment (name : IsName s ∨ IsQualified s) (start : c.rest = s ++ rest)
    (glued : Ends extendsName rest) (apart : Ends (· == '(') (rest.dropWhile isSpace)) :
    (segment c).outcome = some (.ofText c.offset s, c.after s) := by
  have lexical := Segment.isLexical_ofText name c.offset
  have no_blank := ends_blank_of_name name rest
  have here : (s ++ rest).dropWhile isSpace = (Segment.ofText c.offset s).text ++ rest := by
    rw [no_blank.dropWhile, Segment.text_ofText]
  obtain ⟨found, outcome, same⟩ :=
    segment_spells.counts.outcome (reads_segment lexical here glued apart) start
  have position : found.position = c.offset := by
    rw [position_of_segment outcome, Cursor.skip_of_ends (start ▸ no_blank)]
  rw [outcome, Segment.eq_of_erase same (position.trans (Segment.position_ofText ..).symm)]

/-! ## Paths -/

/-- Texts with a slash before each. -/
def slashed (texts : List (List Char)) : List Char := texts.flatMap ('/' :: ·)

/-- The segments for texts between slashes, of which the first one has a position. -/
def placed (position : Nat) : List (List Char) → List Segment
  | [] => []
  | text :: rest =>
    .ofText position text :: placed (position + Text.byteLength text + 1) rest

theorem segmentsText_placed (texts : List (List Char)) (position : Nat) :
    segmentsText (placed position texts) = slashed texts := by
  induction texts generalizing position with
  | nil => rfl
  | cons text rest ih =>
    have further := ih (position + Text.byteLength text + 1)
    simp only [segmentsText, slashed, placed, List.flatMap_cons, Segment.text_ofText] at further ⊢
    rw [further]

theorem isLexical_placed {texts : List (List Char)}
    (names : ∀ text ∈ texts, IsName text ∨ IsQualified text) (position : Nat) :
    ∀ s ∈ placed position texts, s.IsLexical := by
  induction texts generalizing position with
  | nil => exact nofun
  | cons text rest ih =>
    obtain ⟨name, others⟩ := List.forall_mem_cons.1 names
    exact List.forall_mem_cons.2 ⟨Segment.isLexical_ofText name position, ih others _⟩

theorem ends_slashed {belongs : Char → Bool} (slash : belongs '/' = false)
    (texts : List (List Char)) : Ends belongs (slashed texts) := by
  cases texts with
  | nil => exact nofun
  | cons text rest => exact Ends.cons slash _

theorem dropWhile_slashed (texts : List (List Char)) :
    (slashed texts).dropWhile isSpace = slashed texts := (ends_slashed (by decide) texts).dropWhile

theorem outcome_slash (start : c.rest = '/' :: rest) :
    (mark "/" c).outcome = some ((), c.after ['/']) := by
  have no_blank : c.skip = c := Cursor.skip_of_ends (start ▸ Ends.cons (by decide) rest)
  show ((blanks >>= fun _ => exactly ['/']) c).outcome = _
  rw [outcome_bind_of_eq (d := c) (a := ()) (by rw [blanks, no_blank])]
  simp [exactly, start]

/-- The segments behind the first one of a path are found where they stand, up to the end. -/
theorem outcome_segments {texts : List (List Char)} (start : c.rest = slashed texts)
    (names : ∀ text ∈ texts, IsName text ∨ IsQualified text) {tries : Nat}
    (enough : texts.length < tries) : (manyUpTo nextSegment tries c).outcome =
      some (placed (c.offset + 1) texts, c.after (slashed texts)) := by
  obtain ⟨tries, rfl⟩ := Nat.exists_eq_add_one_of_ne_zero (Nat.ne_zero_of_lt enough)
  induction texts generalizing c tries with
  | nil =>
    have ends : nextSegment.Refuses c.rest := by
      rw [start]
      exact refuses_nextSegment nofun
    rw [outcome_manyUpTo_succ, ends c rfl]
    simp [placed, slashed, Cursor.after, Text.byteLength]
  | cons text texts ih =>
    obtain ⟨name, others⟩ := List.forall_mem_cons.1 names
    have enough : texts.length < tries := Nat.lt_of_succ_lt_succ enough
    obtain ⟨tries, rfl⟩ := Nat.exists_eq_add_one_of_ne_zero (Nat.ne_zero_of_lt enough)
    have split : c.rest = '/' :: (text ++ slashed texts) := start
    have behind : (c.after ['/']).rest = text ++ slashed texts := Cursor.rest_after split
    have found : (nextSegment c).outcome =
        some (.ofText (c.offset + 1) text, (c.after ['/']).after text) := by
      refine (outcome_bind_of_eq (outcome_slash split)).trans ?_
      refine outcome_segment name behind (ends_slashed (by decide) texts) ?_
      rw [dropWhile_slashed]
      exact ends_slashed (by decide) texts
    have further := ih (Cursor.rest_after behind) others tries enough
    have shape : slashed (text :: texts) = ['/'] ++ text ++ slashed texts := rfl
    rw [outcome_manyUpTo_succ, found]
    dsimp only
    rw [further, shape, Cursor.after_append, Cursor.after_append]
    rfl

theorem length_le_slashed (texts : List (List Char)) : texts.length ≤ (slashed texts).length := by
  induction texts with
  | nil => exact Nat.le_refl _
  | cons text rest ih =>
    simp only [slashed, List.flatMap_cons, List.length_append, List.length_cons] at ih ⊢
    omega

/-- Names between slashes that are read as a path: the first word is not reserved. -/
structure SpellsPath (first : List Char) (more : List (List Char)) : Prop where
  names : ∀ text ∈ first :: more, IsName text ∨ IsQualified text
  free : isReserved (leadingWord (first ++ slashed more)) = false

/-- The path of some names, of which the first one has a position. -/
def pathTerm (position : Nat) (first : List Char) (more : List (List Char)) : Term :=
  .path (.ofText position first) (placed (position + Text.byteLength first + 1) more)

namespace SpellsPath

variable {first : List Char} {more : List (List Char)}

theorem no_blank (h : SpellsPath first more) : Ends isSpace (first ++ slashed more) :=
  ends_blank_of_name (List.forall_mem_cons.1 h.names).1 _

theorem inPath (h : SpellsPath first more) : (first ++ slashed more).all inPath = true := by
  obtain ⟨name, others⟩ := List.forall_mem_cons.1 h.names
  have first_inPath := (Segment.isLexical_ofText name 0).inPath
  rw [Segment.text_ofText] at first_inPath
  rw [List.all_append, first_inPath, ← segmentsText_placed more 0,
    inPath_segmentsText (isLexical_placed others 0)]
  rfl

theorem startsPath (h : SpellsPath first more) :
    StartsPath (first ++ slashed more) (.ofText 0 first) (slashed more) := by
  have lexical := Segment.isLexical_ofText (List.forall_mem_cons.1 h.names).1 0
  have here : (first ++ slashed more).dropWhile isSpace =
      (Segment.ofText 0 first).text ++ slashed more := by
    rw [h.no_blank.dropWhile, Segment.text_ofText]
  refine ⟨here, lexical, ?_, ends_slashed (by decide) more, ?_⟩
  · obtain word | ⟨word, -⟩ :=
      leadingWord_segment lexical here (ends_slashed (by decide) more)
    · exact word ▸ h.free
    · rw [word]
      decide
  · rw [dropWhile_slashed]
    exact ends_slashed (by decide) more

variable (h : SpellsPath first more) (start : c.rest = first ++ slashed more)

include h start

theorem skip_eq : c.skip = c := Cursor.skip_of_ends (start ▸ h.no_blank)

theorem outcome_path : (path nested c).outcome =
    some (pathTerm c.offset first more, c.after (first ++ slashed more)) := by
  obtain ⟨name, others⟩ := List.forall_mem_cons.1 h.names
  have apart : Ends (· == '(') ((slashed more).dropWhile isSpace) := by
    rw [dropWhile_slashed]
    exact ends_slashed (by decide) more
  have behind : (c.after first).rest = slashed more := Cursor.rest_after start
  have segments : (many nextSegment (c.after first)).outcome =
      some (placed ((c.after first).offset + 1) more, (c.after first).after (slashed more)) := by
    refine outcome_segments behind others (Nat.lt_succ_of_le ?_)
    rw [behind]
    exact length_le_slashed more
  have ended : ((c.after first).after (slashed more)).rest = [] := Cursor.rest_after_all behind
  have no_quantifier : Refuses (do mark "/"; lambda nested)
      ((c.after first).after (slashed more)).rest := by
    rw [ended]
    exact Refuses.bind (refuses_mark_of_ends (by rfl) nofun)
  unfold path
  rw [outcome_rule, h.skip_eq start, outcome_bind_of_eq
    (outcome_segment name start (ends_slashed (by decide) more) apart)]
  refine (outcome_bind_of_eq segments).trans ?_
  refine (outcome_bind_of_eq no_quantifier.outcome_attempt).trans ?_
  rw [Cursor.after_append]
  rfl

theorem outcome_primary : (primary nested c).outcome =
    some (pathTerm c.offset first more, c.after (first ++ slashed more)) := by
  have begins : StartsPath c.rest (.ofText 0 first) (slashed more) := start ▸ h.startsPath
  refine (Refuses.outcome_orElse begins.refuses_group).trans ?_
  refine (Refuses.outcome_orElse begins.refuses_literal).trans ?_
  refine (Refuses.outcome_orElse begins.refuses_call).trans ?_
  rw [firstOf, outcome_orElse, h.outcome_path start]
  rfl

end SpellsPath

/-! ## Expressions -/

variable {t : Term}

theorem outcome_unary (no_operator : unaryOperator.Refuses c.rest)
    (h : (operand c).outcome = some (t, d)) : (unary operand c).outcome = some (t, d) :=
  (outcome_bind_of_eq no_operator.outcome_many).trans (outcome_bind_of_eq h)

theorem outcome_level {ops : List BinaryOperator} (h : (operand c).outcome = some (t, d))
    (ends : (binaryOperator ops).Refuses d.rest) :
    (level ops operand c).outcome = some (t, d) := by
  refine (outcome_bind_of_eq h).trans ?_
  exact outcome_bind_of_eq (Refuses.outcome_many (Refuses.bind ends))

theorem outcome_levels {levels : List (List BinaryOperator)}
    (h : (operand c).outcome = some (t, d))
    (ends : ∀ ops ∈ levels, (binaryOperator ops).Refuses d.rest) :
    (levels.foldr level operand c).outcome = some (t, d) := by
  induction levels with
  | nil => exact h
  | cons ops levels ih =>
    obtain ⟨here, others⟩ := List.forall_mem_cons.1 ends
    exact outcome_level (ih others) here

/-- A path that is the rest of a text is an expression. -/
theorem SpellsPath.outcome_expressionOver {first : List Char} {more : List (List Char)}
    (h : SpellsPath first more) (start : c.rest = first ++ slashed more) :
    (expressionOver nested c).outcome =
      some (pathTerm c.offset first more, c.after (first ++ slashed more)) := by
  have begins : StartsPath c.rest (.ofText 0 first) (slashed more) := start ▸ h.startsPath
  rw [expressionOver_eq]
  refine outcome_levels (outcome_unary begins.refuses_unary (h.outcome_primary start)) ?_
  have no_operator : NoOperator [] := nofun
  rw [Cursor.rest_after_all start]
  exact fun ops _ => no_operator.refuses ops

/-! ## Order clauses -/

theorem outcome_orderTerm (no_blank : c.skip = c) (h : (nested c).outcome = some (t, d))
    (ended : d.rest = []) : (orderTerm nested c).outcome = some (⟨t, .ascending⟩, d) := by
  have no_direction : Refuses (Recognizer.orElse
      (do let _ ← word "asc"; return OrderDirection.ascending)
      (do let _ ← word "desc"; return OrderDirection.descending)) d.rest := by
    rw [ended]
    exact Refuses.both
      (Refuses.bind (refuses_word_of_leadingWord (by decide) (by decide)))
      (Refuses.bind (refuses_word_of_leadingWord (by decide) (by decide)))
  unfold orderTerm
  rw [outcome_rule, no_blank, outcome_bind_of_eq h]
  exact outcome_bind_of_eq no_direction.outcome_attempt

theorem outcome_separated {α : Type} {p : Recognizer α} {a : α}
    (h : (p c).outcome = some (a, d)) (ended : d.rest = []) :
    (separated p c).outcome = some ([a], d) := by
  have no_comma : Refuses (do mark ","; p) d.rest := by
    rw [ended]
    exact Refuses.bind (refuses_mark_of_ends (by rfl) nofun)
  refine (outcome_bind_of_eq h).trans ?_
  exact outcome_bind_of_eq no_comma.outcome_many

/-- A path that is a whole text is one ascending term of a clause. -/
theorem SpellsPath.outcome_separated {first : List Char} {more : List (List Char)}
    (h : SpellsPath first more) (fuel : Nat) :
    (separated (orderTerm (expression (fuel + 1))) (.start (first ++ slashed more))).outcome =
      some ([⟨pathTerm 0 first more, .ascending⟩],
        (Cursor.start (first ++ slashed more)).after (first ++ slashed more)) := by
  have ended := Cursor.rest_after_all (c := .start (first ++ slashed more)) rfl
  exact Grammar.outcome_separated
    (outcome_orderTerm (h.skip_eq rfl) (h.outcome_expressionOver rfl) ended) ended

end RecordQuery.Grammar
