import RecordQuery.Proofs.Grammar.Balance

/-!
# Joining order clauses

Two accepted texts to order by with a comma between them are accepted, and the terms of the second
follow those of the first. A comma in a string or in a call has its quotes or parentheses around it
in its own text, so the joining comma is read where the first text ends. Each term is bound in the
scope of the query alone, so it keeps its meaning.

## Main definitions

* `Grammar.nextItem`: an item of a list behind a comma.
* `Grammar.ReadsList`: whether a list of items is read at the start of a text.

## Main statements

* `Grammar.Local.readsList`: a list that was read to the end of a text is read in front of more.
* `Grammar.recognize_orderByText_joined`: the terms of joined texts, up to positions.
* `parseOrderBy_joined`: joined clauses.
-/

namespace RecordQuery

namespace Grammar

open Recognizer

variable {α γ : Type} {f : α → γ} {p p' : Recognizer α} {s t u rest : List Char} {n : Nat}
  {a : α} {c d : Cursor} {as : List α} {bs : List γ}

/-! ## Lists in front of more text -/

/-- An item of a list behind a comma. -/
def nextItem (p : Recognizer α) : Recognizer α := do
  mark ","
  p

/-- A list of items is read: one at the start of a text, and the others behind commas. -/
def ReadsList (p : Recognizer α) (view : α → γ) (s : List Char) (bs : List γ)
    (rest : List Char) : Prop :=
  ∃ b others between, bs = b :: others ∧ p.Reads view s b between ∧ between.length ≤ s.length ∧
    (nextItem p).ReadsMany view between others rest

theorem ReadsList.separated (h : ReadsList p f s bs rest) :
    (separated p).Reads (List.map f) s bs rest := by
  obtain ⟨b, others, between, rfl, first, -, more⟩ := h
  refine first.bind fun a same => more.many.bind fun as same' => ?_
  rw [← same, ← same']
  exact Reads.pure (f := List.map f) (a :: as)

/-- A list goes on with another one behind a comma. -/
theorem ReadsList.behind_comma (h : ReadsList p f s bs rest)
    (start : t.dropWhile isSpace = ',' :: s) : (nextItem p).ReadsMany f t bs rest := by
  obtain ⟨b, others, between, rfl, first, shorter, more⟩ := h
  have comma : (mark ",").Reads id t () s := reads_mark start
  have item : (nextItem p).Reads f t b between := comma.bind fun _ _ => first
  refine item.readsMany (Nat.lt_of_le_of_lt shorter ?_) more
  have blanks := (List.dropWhile_sublist isSpace (l := t)).length_le
  rwa [start] at blanks

theorem dropWhile_append_of_eq_cons {b : Char} (h : s.dropWhile isSpace = b :: u)
    (t : List Char) : (s ++ t).dropWhile isSpace = b :: (u ++ t) := by
  rw [List.dropWhile_append, if_neg (by simp [h]), h, List.cons_append]

/-- What was found behind a comma stands behind a comma at the ground. -/
theorem outcome_nextItem (short : c.rest.length < n)
    (closed : Nesting.ground.after? c.rest = some .ground)
    (found : (nextItem p c).outcome = some (a, d)) :
    ∃ c', c.rest.dropWhile isSpace = ',' :: c'.rest ∧ c'.rest.length < n ∧
      Nesting.ground.after? c'.rest = some .ground ∧ (p c').outcome = some (a, d) := by
  unfold nextItem at found
  rw [outcome_bind, Option.bind_eq_some_iff] at found
  obtain ⟨⟨_, c'⟩, comma, found⟩ := found
  obtain ⟨shorter, closed'⟩ := Local.comma_end.rest_of_reads (k := 0) short comma closed
  rw [← rest_skip]
  have blanks : (exactly [','] c.skip).outcome = some ((), c') := comma
  exact ⟨c', Local.reads_exactly blanks, by omega, closed', found⟩

namespace Local

variable (h : Local t n 1 .ground .ground f p p')

include h

/-- An item that was read in a text that ends at the ground is read in front of more. -/
theorem readsList_cons (short : c.rest.length < n)
    (closed : Nesting.ground.after? c.rest = some .ground)
    (found : (p c).outcome = some (a, d))
    (more : (nextItem p').ReadsMany f (d.rest ++ t) bs rest) :
    ReadsList p' f (c.rest ++ t) (f a :: bs) rest := by
  refine ⟨f a, bs, d.rest ++ t, rfl, fun c' start => ?_, ?_, more⟩
  · rw [h.follows 0 short closed start, found_eq_some.2 ⟨a, d, found, rfl, rfl⟩]
    rfl
  · obtain ⟨read, split, -⟩ := h.reads short found
    simp [split]

/-- Items behind commas that were read in such a text are read in front of more. -/
theorem readsMany_nextItem (tries : Nat) (short : c.rest.length < n)
    (closed : Nesting.ground.after? c.rest = some .ground)
    (found : (manyUpTo (nextItem p) tries c).outcome = some (as, d))
    (more : (nextItem p').ReadsMany f (d.rest ++ t) bs rest) :
    (nextItem p').ReadsMany f (c.rest ++ t) (as.map f ++ bs) rest := by
  -- Where the items end, for want of tries or of a comma, what stands behind them goes on.
  induction tries generalizing c as with
  | zero =>
    cases found
    exact more
  | succ tries ih =>
    rw [outcome_manyUpTo_succ] at found
    cases next : (nextItem p c).outcome with
    | none =>
      rw [next] at found
      cases found
      exact more
    | some item =>
      obtain ⟨a, e⟩ := item
      simp only [next, Option.map_eq_some_iff, Prod.mk.injEq] at found
      obtain ⟨⟨others, _⟩, found, rfl, rfl⟩ := found
      obtain ⟨c', start, short', closed', item⟩ := outcome_nextItem short closed next
      obtain ⟨shorter, closed''⟩ := h.rest_of_reads (k := 0) short' item closed'
      have onward := ih (by omega) closed'' found
      exact (h.readsList_cons short' closed' item onward).behind_comma
        (dropWhile_append_of_eq_cons start t)

/-- A list that was read in a text that ends at the ground is read in front of more, and goes on
with the items that are read from there. -/
theorem readsList (short : c.rest.length < n)
    (closed : Nesting.ground.after? c.rest = some .ground)
    (found : (Grammar.separated p c).outcome = some (as, d))
    (more : (nextItem p').ReadsMany f (d.rest ++ t) bs rest) :
    ReadsList p' f (c.rest ++ t) (as.map f ++ bs) rest := by
  unfold Grammar.separated at found
  rw [outcome_bind, Option.bind_eq_some_iff] at found
  obtain ⟨⟨a, e⟩, first, found⟩ := found
  dsimp only at found
  rw [outcome_bind, Option.bind_eq_some_iff] at found
  obtain ⟨⟨others, _⟩, found, same⟩ := found
  cases same
  obtain ⟨shorter, closed'⟩ := h.rest_of_reads (k := 0) short first closed
  exact h.readsList_cons short closed first
    (h.readsMany_nextItem _ (by omega) closed' found more)

end Local

/-! ## Order clauses behind each other -/

/-- A recognized order clause is read in front of more text, and goes on with the terms that are
read behind its last blanks. -/
theorem readsList_of_recognize {ts : List OrderTerm} (h : recognize orderByText s = .ok ts) :
    ∃ blanks, blanks.dropWhile isSpace = [] ∧ ∀ {t : List Char} {fuel : Nat}
      {us : List OrderTerm} {rest : List Char}, Stops t → s.length < fuel →
        (nextItem (orderTerm (expression fuel))).ReadsMany OrderTerm.erase (blanks ++ t) us rest →
          ReadsList (orderTerm (expression fuel)) OrderTerm.erase (s ++ t)
            (ts.map OrderTerm.erase ++ us) rest := by
  have closed := closed_of_recognize_orderByText h
  obtain ⟨d, found, ends⟩ := recognize_whole_eq_ok_iff.1 h
  refine ⟨d.rest, ends, fun stops enough more => ?_⟩
  have terms := Local.orderTerm stops (Local.expression stops (Nat.le_refl _) enough)
  exact terms.readsList (c := .start s) (Nat.lt_succ_self _) closed found more

/-- Two recognized order clauses with a comma between them are one. -/
theorem recognize_orderByText_joined {ts us : List OrderTerm}
    (hs : recognize orderByText s = .ok ts) (hu : recognize orderByText u = .ok us) :
    ∃ vs, recognize orderByText (s ++ ',' :: u) = .ok vs ∧
      vs.map OrderTerm.erase = (ts ++ us).map OrderTerm.erase := by
  obtain ⟨blanks, blank, first⟩ := readsList_of_recognize hs
  obtain ⟨blanks', blank', second⟩ := readsList_of_recognize hu
  have long : s.length < (s ++ ',' :: u).length + 1 ∧ u.length < (s ++ ',' :: u).length + 1 := by
    simp only [List.length_append, List.length_cons]
    omega
  have stops : Stops (',' :: u) := by
    rintro _ ⟨⟩
    exact .inr rfl
  have comma : (blanks ++ ',' :: u).dropWhile isSpace = ',' :: u := by
    rw [List.dropWhile_append, if_pos (by simp [blank])]
    rfl
  have no_comma : (mark ",").Refuses (blanks' ++ []) :=
    refuses_mark (by rw [List.append_nil, blank']; decide)
  have ended : Stops [] := nofun
  have alone := second ended long.2 no_comma.bind.readsMany
  simp only [List.append_nil] at alone
  obtain ⟨vs, d, found, same, ends⟩ :=
    (first stops long.1 (alone.behind_comma comma)).separated.outcome
      (c := .start (s ++ ',' :: u)) rfl
  rw [List.map_append]
  exact ⟨vs, recognize_whole_eq_ok_iff.2 ⟨d, found, by rw [ends, blank']⟩, same⟩

end Grammar

/-! ## Binding -/

open Grammar (Balanced OrderTerm)

variable {context : QueryContext} {limit : Binding.Bounds} {s u : String}
  {clause clause' : OrderByClause}

theorem bindOrderTerms_append {ts us : List OrderTerm} {terms terms' : List OrderByTerm}
    (hs : bindOrderTerms limit context ts = .ok terms)
    (hu : bindOrderTerms limit context us = .ok terms') :
    bindOrderTerms limit context (ts ++ us) = .ok (terms ++ terms') := by
  induction ts generalizing terms with
  | nil =>
    cases hs
    exact hu
  | cons t ts ih =>
    simp only [bindOrderTerms, Except.bind_eq_ok] at hs
    obtain ⟨e, bound, more, others, same⟩ := hs
    cases same
    simp only [List.cons_append, bindOrderTerms, Except.bind_eq_ok]
    exact ⟨e, bound, more ++ terms', ih others, rfl⟩

/-- The positions of terms do not matter. -/
theorem bindOrderTerms_eq_ok_of_erase {ts us : List OrderTerm} {terms : List OrderByTerm}
    (same : ts.map OrderTerm.erase = us.map OrderTerm.erase)
    (h : bindOrderTerms limit context ts = .ok terms) :
    bindOrderTerms limit context us = .ok terms := by
  induction ts generalizing us terms with
  | nil =>
    obtain rfl := List.map_eq_nil_iff.1 same.symm
    exact h
  | cons t ts ih =>
    obtain ⟨t', us, rfl, here, others⟩ := List.map_eq_cons_iff.1 same.symm
    obtain ⟨term, direction⟩ := OrderTerm.mk.inj here
    simp only [bindOrderTerms, Except.bind_eq_ok] at h ⊢
    obtain ⟨e, bound, more, bound', all⟩ := h
    rw [direction]
    exact ⟨e, Binding.term_eq_ok_of_erase term.symm bound, more, ih others.symm bound', all⟩

theorem parseOrderBy_eq_ok_iff : parseOrderBy s context = .ok clause ↔
    Text.blank s = false ∧ Grammar.nestingOverflow? maxDepth s.toList = none ∧
      ∃ ts, Grammar.recognize Grammar.orderByText s.toList = .ok ts ∧
        bindOrderTerms (some maxDepth) context ts = .ok clause.terms := by
  unfold parseOrderBy parseOrderByWithin
  simp only [Except.bind_eq_ok, recognizeWithin_eq_ok_iff, Option.mem_some_iff, forall_eq']
  constructor
  · rintro ⟨ts, ⟨visible, shallow, found⟩, terms, bound, same⟩
    cases same
    exact ⟨visible, shallow, ts, found, bound⟩
  · rintro ⟨visible, shallow, ts, found, bound⟩
    exact ⟨ts, ⟨visible, shallow, found⟩, clause.terms, bound, rfl⟩

/-- What is known of the parentheses of an accepted text. -/
theorem balanced_of_parseOrderBy (h : parseOrderBy s context = .ok clause) :
    Balanced s.toList maxDepth := by
  obtain ⟨-, shallow, ts, found, -⟩ := parseOrderBy_eq_ok_iff.1 h
  have closed := Grammar.closed_of_recognize_orderByText found
  exact ⟨closed, (Grammar.nestingOverflow?_eq_none_iff closed).1 shallow⟩

/-- Accepted texts to order by can be joined by a comma. Their terms are those of the first text and
then those of the second one, bound to the same expressions and with the same directions. -/
theorem parseOrderBy_joined (hs : parseOrderBy s context = .ok clause)
    (hu : parseOrderBy u context = .ok clause') :
    parseOrderBy (s ++ "," ++ u) context = .ok ⟨clause.terms ++ clause'.terms⟩ := by
  have shape : (s ++ "," ++ u).toList = s.toList ++ ',' :: u.toList := by
    simp [String.toList_append]
  have balanced : Balanced (s.toList ++ ',' :: u.toList) maxDepth :=
    (balanced_of_parseOrderBy hs).append
      ((balanced_of_parseOrderBy hu).behind (s := [',']) (by decide))
  obtain ⟨-, -, ts, found, bound⟩ := parseOrderBy_eq_ok_iff.1 hs
  obtain ⟨-, -, us, found', bound'⟩ := parseOrderBy_eq_ok_iff.1 hu
  obtain ⟨vs, joined, same⟩ := Grammar.recognize_orderByText_joined found found'
  rw [← shape] at balanced joined
  refine parseOrderBy_eq_ok_iff.2 ⟨?_, ?_, vs, joined, ?_⟩
  · refine Text.blank_eq_false_iff.2 ⟨',', ?_, by decide⟩
    rw [shape]
    exact List.mem_append_right _ List.mem_cons_self
  · exact (Grammar.nestingOverflow?_eq_none_iff balanced.closed).2 balanced.shallow
  · exact bindOrderTerms_eq_ok_of_erase same.symm (bindOrderTerms_append bound bound')

/-- Commas in strings and calls join nothing, and both texts bind the same range variable. -/
theorem parseOrderBy_joined_orders : ∃ clause clause' : OrderByClause,
    parseOrderBy "Lines/any(l: l/Note eq 'a, b') desc, round(Total)" orderContext = .ok clause ∧
    parseOrderBy " Lines/all(l: indexof(l/Note, ',') gt 0) asc " orderContext = .ok clause' ∧
    parseOrderBy ("Lines/any(l: l/Note eq 'a, b') desc, round(Total)" ++ "," ++
      " Lines/all(l: indexof(l/Note, ',') gt 0) asc ") orderContext =
        .ok ⟨clause.terms ++ clause'.terms⟩ ∧
    (clause.terms ++ clause'.terms).map (·.direction) = [.descending, .ascending, .ascending] := by
  have accepted : (parseOrderBy "Lines/any(l: l/Note eq 'a, b') desc, round(Total)"
      orderContext).toOption.map (fun clause => clause.terms.map (·.direction)) =
        some [.descending, .ascending] := by decide +kernel
  have accepted' : (parseOrderBy " Lines/all(l: indexof(l/Note, ',') gt 0) asc "
      orderContext).toOption.map (fun clause => clause.terms.map (·.direction)) =
        some [.ascending] := by decide +kernel
  obtain ⟨clause, h, directions⟩ := Option.map_eq_some_iff.1 accepted
  obtain ⟨clause', h', directions'⟩ := Option.map_eq_some_iff.1 accepted'
  have h := Except.toOption_eq_some.1 h
  have h' := Except.toOption_eq_some.1 h'
  exact ⟨clause, clause', h, h', parseOrderBy_joined h h', by
    rw [List.map_append, directions, directions']
    rfl⟩

end RecordQuery
