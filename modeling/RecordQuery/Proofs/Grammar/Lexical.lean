import RecordQuery.Proofs.Grammar.Operands

/-!
# Names in recognized terms

The names in a recognized term are names of the grammar, and no path starts with a reserved word. A
constant word is tried before a path, and a path is tried only where no further unary operator
stands.

## Main definitions

* `Recognizer.Gives`: a property of all that a recognizer finds.
* `Term.IsLexical`: whether the names in a term are names of the grammar.

## Main statements

* `expression_gives`: the names in recognized expressions are names of the grammar.
-/

namespace RecordQuery.Grammar

namespace Recognizer

variable {α β : Type} {p q : Recognizer α} {P : α → Prop} {Q : β → Prop}

theorem outcome_bind_eq_some {next : α → Recognizer β} {c d : Cursor} {b : β} :
    ((p >>= next) c).outcome = some (b, d) ↔
      ∃ a e, (p c).outcome = some (a, e) ∧ (next a e).outcome = some (b, d) := by
  rw [outcome_bind, Option.bind_eq_some_iff]
  exact Prod.exists

/-- Whatever a recognizer finds has a property. -/
def Gives (p : Recognizer α) (P : α → Prop) : Prop :=
  ∀ (c : Cursor) (a : α) (d : Cursor), (p c).outcome = some (a, d) → P a

namespace Gives

theorem trivial (p : Recognizer α) : p.Gives fun _ => True := fun _ _ _ _ => True.intro

theorem imp {P' : α → Prop} (h : p.Gives P) (weaker : ∀ a, P a → P' a) : p.Gives P' :=
  fun c a d found => weaker a (h c a d found)

theorem pure {a : α} (h : P a) : (Pure.pure a : Recognizer α).Gives P := by
  intro c b d found
  cases found
  exact h

theorem bind {next : α → Recognizer β} (first : p.Gives P) (second : ∀ a, P a → (next a).Gives Q) :
    (p >>= next).Gives Q := by
  intro c b d found
  obtain ⟨a, e, found_a, found_b⟩ := outcome_bind_eq_some.1 found
  exact second a (first _ _ _ found_a) _ _ _ found_b

theorem andThen {next : α → Recognizer β} (second : ∀ a, (next a).Gives Q) :
    (p >>= next).Gives Q := (trivial p).bind fun a _ => second a

theorem orElse (left : p.Gives P) (right : q.Gives P) : (p.orElse q).Gives P := by
  intro c a d found
  rw [outcome_orElse] at found
  obtain found | ⟨-, found⟩ := Option.or_eq_some_iff.1 found
  · exact left _ _ _ found
  · exact right _ _ _ found

theorem attempt (h : p.Gives P) : (attempt p).Gives fun found => ∀ a ∈ found, P a := by
  intro c found d outcome
  rw [outcome_attempt] at outcome
  cases first : (p c).outcome with
  | none =>
    rw [first] at outcome
    cases outcome
    exact nofun
  | some item =>
    rw [first] at outcome
    cases outcome
    rintro a ⟨⟩
    exact h _ _ _ first

theorem manyUpTo (h : p.Gives P) (tries : Nat) :
    (manyUpTo p tries).Gives fun found => ∀ a ∈ found, P a := by
  induction tries with
  | zero => exact pure nofun
  | succ tries ih =>
    intro c found d outcome
    rw [outcome_manyUpTo_succ] at outcome
    cases first : (p c).outcome with
    | none =>
      rw [first] at outcome
      cases outcome
      exact nofun
    | some item =>
      rw [first] at outcome
      obtain ⟨⟨more, e⟩, others, same⟩ := Option.map_eq_some_iff.1 outcome
      cases same
      exact List.forall_mem_cons.2 ⟨h _ _ _ first, ih _ _ _ others⟩

theorem many (h : p.Gives P) : (many p).Gives fun found => ∀ a ∈ found, P a := fun c a d found =>
  h.manyUpTo _ c a d found

theorem token (h : p.Gives P) : (token p).Gives P :=
  andThen fun _ c a d found => h c a d ((outcome_whole p c).symm.trans found)

theorem rule (h : p.Gives P) : (rule p).Gives P :=
  andThen fun _ c a d found => h c a d ((outcome_reported p c).symm.trans found)

end Gives

theorem outcome_token (p : Recognizer α) (c : Cursor) :
    (token p c).outcome = (p c.skip).outcome := by
  show ((blanks >>= fun _ => whole p) c).outcome = _
  rw [outcome_bind]
  exact outcome_whole p c.skip

theorem outcome_rule (p : Recognizer α) (c : Cursor) : (rule p c).outcome = (p c.skip).outcome := by
  show ((blanks >>= fun _ => reported p) c).outcome = _
  rw [outcome_bind]
  exact outcome_reported p c.skip

/-- A repetition of something that takes characters stops where there is no more of it. -/
theorem ends_of_many (shrinks : ∀ {c : Cursor} {a : α} {d : Cursor},
    (p c).outcome = some (a, d) → d.rest.length < c.rest.length) {c d : Cursor} {found : List α}
    (h : (many p c).outcome = some (found, d)) : (p d).outcome = none := by
  have ends : ∀ tries, ∀ {c : Cursor} {found : List α}, c.rest.length < tries →
      (manyUpTo p tries c).outcome = some (found, d) → (p d).outcome = none := by
    intro tries
    induction tries with
    | zero => exact fun enough => absurd enough (Nat.not_lt_zero _)
    | succ tries ih =>
      intro c found enough outcome
      rw [outcome_manyUpTo_succ] at outcome
      cases first : (p c).outcome with
      | none =>
        rw [first] at outcome
        cases outcome
        exact first
      | some item =>
        rw [first] at outcome
        obtain ⟨⟨more, e⟩, others, same⟩ := Option.map_eq_some_iff.1 outcome
        cases same
        have shorter := shrinks first
        exact ih (by omega) others
  exact ends _ (Nat.lt_succ_self _) h

end Recognizer

open Recognizer

/-! ## Names -/

theorem one_gives (belongs : Char → Bool) : (one belongs).Gives (belongs · = true) := by
  intro c a d found
  unfold one at found
  split at found
  · cases found
  · split at found <;> cases found
    assumption

theorem run_gives (belongs : Char → Bool) : (run belongs).Gives (·.all belongs = true) := by
  intro c a d found
  cases found
  exact List.all_takeWhile

theorem nameChars_gives : nameChars.Gives IsName :=
  (one_gives startsName).bind fun first starts => (run_gives continuesName).bind fun more continues =>
    Gives.pure ⟨first, more, rfl, starts, continues⟩

theorem identifier_gives : identifier.Gives (IsIdentifier ·.2) := by
  refine Gives.token (Gives.andThen fun start => ?_)
  have chars : (Recognizer.orElse (do exactly "$it".toList; return "$it".toList) nameChars).Gives
      IsIdentifier :=
    (Gives.andThen fun _ => Gives.pure (.inl rfl)).orElse (nameChars_gives.imp fun _ => .inr)
  exact chars.bind fun name h => Gives.pure h

theorem pointName_gives : pointName.Gives fun s => ∃ name, IsName name ∧ s = '.' :: name :=
  Gives.andThen fun _ => nameChars_gives.bind fun name h => Gives.pure ⟨name, h, rfl⟩

theorem qualifiedName_gives : qualifiedName.Gives (IsQualified ·.2) := by
  refine Gives.token (Gives.andThen fun start => ?_)
  refine nameChars_gives.bind fun first first_name => pointName_gives.bind fun point second => ?_
  refine pointName_gives.many.bind fun more others => Gives.pure ?_
  obtain ⟨second, second_name, rfl⟩ := second
  have names : ∃ names : List (List Char),
      (∀ name ∈ names, IsName name) ∧ more = names.map ('.' :: ·) := by
    induction more with
    | nil => exact ⟨[], nofun, rfl⟩
    | cons point more ih =>
      obtain ⟨⟨name, is_name, rfl⟩, later⟩ := List.forall_mem_cons.1 others
      obtain ⟨names, all, rfl⟩ := ih later
      exact ⟨name :: names, List.forall_mem_cons.2 ⟨is_name, all⟩, rfl⟩
  obtain ⟨names, all, rfl⟩ := names
  refine ⟨first, second, names, first_name, second_name, all, ?_⟩
  simp [dotted, List.flatMap_def]

theorem segment_gives : segment.Gives Segment.IsLexical := by
  refine Gives.andThen fun _ => Gives.orElse ?_ ?_
  · exact qualifiedName_gives.bind fun found h => Gives.pure (P := Segment.IsLexical) h
  · exact identifier_gives.bind fun found h => Gives.pure (P := Segment.IsLexical) h

/-- A name is read as far as it goes. -/
theorem takeWhile_of_nameChars {c d : Cursor} {name : List Char}
    (h : (nameChars c).outcome = some (name, d)) : c.rest.takeWhile continuesName = name := by
  obtain ⟨first, e, found, h⟩ := outcome_bind_eq_some.1 h
  obtain ⟨more, e', found', h⟩ := outcome_bind_eq_some.1 h
  cases h
  have starts := one_gives startsName _ _ _ found
  unfold one at found
  split at found
  · cases found
  case h_2 letter rest start =>
    split at found <;> cases found
    cases found'
    rw [start, List.takeWhile_cons_of_pos (continuesName_of_startsName starts)]

theorem leadingWord_of_qualifiedName {c d : Cursor} {position : Nat} {type : List Char}
    (h : (qualifiedName c).outcome = some ((position, type), d)) :
    leadingWord c.rest = (Segment.cast position type).word := by
  unfold qualifiedName at h
  rw [outcome_token] at h
  obtain ⟨start, e, here, h⟩ := outcome_bind_eq_some.1 h
  cases here
  obtain ⟨first, e', found, h⟩ := outcome_bind_eq_some.1 h
  obtain ⟨second, e'', found', h⟩ := outcome_bind_eq_some.1 h
  obtain ⟨more, e''', -, h⟩ := outcome_bind_eq_some.1 h
  cases h
  obtain ⟨second, -, rfl⟩ := pointName_gives _ _ _ found'
  have name := nameChars_gives _ _ _ found
  have word : (first ++ '.' :: second ++ more.flatten).takeWhile (· != '.') = first := by
    rw [List.append_assoc]
    exact name.takeWhile_point (Ends.cons (by decide) _)
  rw [leadingWord, ← rest_skip, takeWhile_of_nameChars found]
  exact word.symm

theorem leadingWord_of_identifier {c d : Cursor} {position : Nat} {name : List Char}
    (h : (identifier c).outcome = some ((position, name), d)) :
    leadingWord c.rest = name ∨ name = "$it".toList := by
  unfold identifier at h
  rw [outcome_token] at h
  obtain ⟨start, e, here, h⟩ := outcome_bind_eq_some.1 h
  cases here
  obtain ⟨chars, e', found, h⟩ := outcome_bind_eq_some.1 h
  cases h
  rw [outcome_orElse] at found
  obtain found | ⟨-, found⟩ := Option.or_eq_some_iff.1 found
  · obtain ⟨u, e, -, found⟩ := outcome_bind_eq_some.1 found
    cases found
    exact .inr rfl
  · rw [leadingWord, ← rest_skip]
    exact .inl (takeWhile_of_nameChars found)

/-- The first word of a segment is the word that the text starts with, if it is no element. -/
theorem leadingWord_of_segment {c d : Cursor} {s : Segment}
    (h : (segment c).outcome = some (s, d)) :
    leadingWord c.rest = s.word ∨ s.word = "$it".toList := by
  obtain ⟨u, e, no_quantifier, h⟩ := outcome_bind_eq_some.1 h
  have same : c = e := by
    unfold absent at no_quantifier
    split at no_quantifier <;> cases no_quantifier
    rfl
  cases same
  rw [outcome_orElse] at h
  obtain h | ⟨-, h⟩ := Option.or_eq_some_iff.1 h
  · obtain ⟨⟨position, type⟩, e, found, h⟩ := outcome_bind_eq_some.1 h
    cases h
    exact .inl (leadingWord_of_qualifiedName found)
  · obtain ⟨⟨position, name⟩, e, found, h⟩ := outcome_bind_eq_some.1 h
    cases h
    have lexical := identifier_gives _ _ _ found
    have word : (Segment.member position name).word = name := Segment.word_member lexical
    rw [word]
    exact leadingWord_of_identifier found

/-! ## Terms -/

/-- Whether the segments of a path are names of their kinds, and the first word is not reserved. -/
structure LexicalPath (first : Segment) (rest : List Segment) : Prop where
  starts : first.IsLexical
  free : isReserved first.word = false
  others : ∀ s ∈ rest, s.IsLexical

mutual

/-- Whether the names in a term are names of the grammar. -/
def Term.IsLexical : Term → Prop
  | .path first rest | .quantified first rest _ _ => LexicalPath first rest
  | .lambda first rest _ _ _ bound body =>
    LexicalPath first rest ∧ IsIdentifier bound ∧ Term.IsLexical body
  | .call _ _ args => Term.AllLexical args
  | .unary _ _ operand => Term.IsLexical operand
  | .binary _ _ left right => Term.IsLexical left ∧ Term.IsLexical right
  | .group _ inner => Term.IsLexical inner
  | .null _ | .bool _ _ | .string _ _ | .guid _ _ | .dateTime _ _ | .number _ _ => True

/-- Whether the names in some terms are names of the grammar. -/
def Term.AllLexical : List Term → Prop
  | [] => True
  | t :: rest => Term.IsLexical t ∧ Term.AllLexical rest

end

theorem Term.allLexical_iff {ts : List Term} : Term.AllLexical ts ↔ ∀ t ∈ ts, t.IsLexical := by
  induction ts with
  | nil => exact iff_of_true True.intro nofun
  | cons t rest ih => rw [AllLexical, ih, List.forall_mem_cons]

theorem literal_gives : literal.Gives Term.IsLexical := by
  refine Gives.orElse (Gives.andThen fun _ => Gives.pure True.intro) ?_
  refine Gives.orElse (Gives.andThen fun _ => Gives.pure True.intro) ?_
  refine Gives.orElse (Gives.andThen fun _ => Gives.pure True.intro) ?_
  have guid_gives : guid.Gives Term.IsLexical :=
    Gives.rule <| Gives.andThen fun _ => Gives.andThen fun _ => Gives.andThen fun _ =>
      Gives.andThen fun _ => Gives.pure True.intro
  have dateTime_gives : dateTime.Gives Term.IsLexical :=
    Gives.rule <| Gives.andThen fun _ => Gives.andThen fun _ => Gives.andThen fun _ =>
      Gives.andThen fun _ => Gives.andThen fun _ => Gives.andThen fun _ => Gives.pure True.intro
  have string_gives : string.Gives Term.IsLexical :=
    Gives.rule <| Gives.andThen fun _ => Gives.andThen fun _ => Gives.andThen fun _ =>
      Gives.andThen fun _ => Gives.pure True.intro
  have number_gives : number.Gives Term.IsLexical :=
    Gives.token <| Gives.andThen fun _ => Gives.andThen fun _ => Gives.pure True.intro
  exact guid_gives.orElse (dateTime_gives.orElse (string_gives.orElse (number_gives.orElse nofun)))

variable {nested operand : Recognizer Term}

/-- Where neither a constant nor a unary operator stands, the text starts with no reserved word. -/
theorem not_reserved_of_none {c : Cursor} (no_constant : (literal c).outcome = none)
    (no_operator : (unaryOperator c).outcome = none) : isReserved (leadingWord c.rest) = false := by
  refine Bool.eq_false_iff.2 fun reserved => ?_
  have split : ∀ {word : List Char}, leadingWord c.rest = word → c.rest.dropWhile isSpace =
      word ++ (c.rest.dropWhile isSpace).dropWhile continuesName := by
    rintro _ rfl
    exact List.takeWhile_append_dropWhile.symm
  have ends : Ends continuesName ((c.rest.dropWhile isSpace).dropWhile continuesName) :=
    ends_dropWhile _ _
  simp only [isReserved, List.contains_iff_mem, List.mem_cons, List.not_mem_nil, or_false,
    ← String.toList_inj, String.toList_ofList] at reserved
  rcases reserved with word | word | word | word
  · obtain ⟨t, d, found, -⟩ := (reads_null (split word) ends).outcome (c := c) rfl
    cases no_constant.symm.trans found
  · obtain ⟨t, d, found, -⟩ := (reads_true (split word) ends).outcome (c := c) rfl
    cases no_constant.symm.trans found
  · obtain ⟨t, d, found, -⟩ := (reads_false (split word) ends).outcome (c := c) rfl
    cases no_constant.symm.trans found
  · obtain ⟨op, d, found, -⟩ := (reads_not (split word) ends).outcome (c := c) rfl
    cases no_operator.symm.trans found

theorem group_gives (inner : nested.Gives Term.IsLexical) :
    (group nested).Gives Term.IsLexical :=
  Gives.rule <| Gives.andThen fun _ => Gives.andThen fun _ => inner.bind fun _ lexical =>
    Gives.andThen fun _ => Gives.pure (P := Term.IsLexical) lexical

theorem call_gives (inner : nested.Gives Term.IsLexical) :
    (call nested).Gives Term.IsLexical := by
  have args : (separated nested).Gives fun ts => ∀ t ∈ ts, t.IsLexical :=
    inner.bind fun first first_lexical =>
      (Gives.andThen fun _ => inner).many.bind fun more others =>
        Gives.pure (List.forall_mem_cons.2 ⟨first_lexical, others⟩)
  refine Gives.rule (Gives.andThen fun name => Gives.andThen fun _ => ?_)
  refine args.attempt.bind fun found all => Gives.andThen fun _ => Gives.pure ?_
  cases found with
  | none => exact True.intro
  | some ts => exact Term.allLexical_iff.2 (all ts rfl)

/-- A path starts with the first word of the text, if it starts with no element. -/
theorem path_gives (inner : nested.Gives Term.IsLexical) {c d : Cursor} {t : Term}
    (free : isReserved (leadingWord c.rest) = false) (h : (path nested c).outcome = some (t, d)) :
    t.IsLexical := by
  unfold path at h
  rw [outcome_rule] at h
  obtain ⟨first, e, found, h⟩ := outcome_bind_eq_some.1 h
  obtain ⟨rest, e', found', h⟩ := outcome_bind_eq_some.1 h
  obtain ⟨ending, e'', found'', h⟩ := outcome_bind_eq_some.1 h
  have same_word : leadingWord c.skip.rest = leadingWord c.rest := by
    rw [leadingWord, rest_skip, (ends_dropWhile isSpace _).dropWhile]
    rfl
  have lexical : LexicalPath first rest := by
    refine ⟨segment_gives _ _ _ found, ?_, ?_⟩
    · obtain word | word := leadingWord_of_segment found
      · rw [← word, same_word, free]
      · rw [word]
        decide
    · exact (Gives.andThen fun _ => segment_gives).many _ _ _ found'
  have lambda_gives : (lambda nested).Gives fun found =>
      ∀ body ∈ found.2.2, IsIdentifier body.2.1 ∧ body.2.2.IsLexical := by
    have bound : Gives (do
        let named ← identifier
        mark ":"
        let body ← nested
        return (named.1, named.2, body)) fun body => IsIdentifier body.2.1 ∧ body.2.2.IsLexical :=
      identifier_gives.bind fun name is_name => Gives.andThen fun _ => inner.bind fun t lexical =>
        Gives.pure ⟨is_name, lexical⟩
    exact Gives.rule <| Gives.andThen fun start => Gives.andThen fun q => Gives.andThen fun _ =>
      bound.attempt.bind fun body all => Gives.andThen fun _ => Gives.pure all
  have ending_lexical := (Gives.andThen fun _ => lambda_gives).attempt _ _ _ found''
  cases ending with
  | none =>
    cases h
    exact lexical
  | some ending =>
    obtain ⟨position, q, body⟩ := ending
    cases body with
    | none =>
      cases h
      exact lexical
    | some body =>
      cases h
      exact ⟨lexical, ending_lexical _ rfl _ rfl⟩

/-- An operand where neither a constant word nor a unary operator stands. -/
theorem primary_gives (inner : nested.Gives Term.IsLexical) {c d : Cursor} {t : Term}
    (no_operator : (unaryOperator c).outcome = none)
    (h : (primary nested c).outcome = some (t, d)) : t.IsLexical := by
  unfold primary firstOf at h
  rw [outcome_orElse] at h
  obtain h | ⟨-, h⟩ := Option.or_eq_some_iff.1 h
  · exact group_gives inner _ _ _ h
  unfold firstOf at h
  rw [outcome_orElse] at h
  obtain h | ⟨no_constant, h⟩ := Option.or_eq_some_iff.1 h
  · exact literal_gives _ _ _ h
  unfold firstOf at h
  rw [outcome_orElse] at h
  obtain h | ⟨-, h⟩ := Option.or_eq_some_iff.1 h
  · exact call_gives inner _ _ _ h
  unfold firstOf at h
  rw [outcome_orElse] at h
  obtain h | ⟨-, h⟩ := Option.or_eq_some_iff.1 h
  · exact path_gives inner (not_reserved_of_none no_constant no_operator) h
  · cases h

theorem unary_gives (inner : nested.Gives Term.IsLexical) :
    (unary (primary nested)).Gives Term.IsLexical := by
  intro c t d h
  obtain ⟨ops, e, found, h⟩ := outcome_bind_eq_some.1 h
  obtain ⟨last, e', found', h⟩ := outcome_bind_eq_some.1 h
  cases h
  have shrinks : ∀ {c : Cursor} {op : Nat × UnaryOperator} {d : Cursor},
      (unaryOperator c).outcome = some (op, d) → d.rest.length < c.rest.length := by
    intro c op d found
    have tight : Local [] (c.rest.length + 1) 1 .ground .ground Prod.snd unaryOperator unaryOperator :=
      Local.unaryOperator nofun
    obtain ⟨read, split, some_char, -⟩ := tight.reads (Nat.lt_succ_self _) found
    rw [split, List.length_append]
    omega
  have lexical := primary_gives inner (ends_of_many shrinks found) found'
  have all : ∀ ops : List (Nat × UnaryOperator),
      (ops.foldr (fun op operand => Term.unary op.1 op.2 operand) last).IsLexical := by
    intro ops
    induction ops with
    | nil => exact lexical
    | cons op ops ih => exact ih
  exact all ops

theorem level_gives (h : operand.Gives Term.IsLexical) (ops : List BinaryOperator) :
    (level ops operand).Gives Term.IsLexical := by
  have pair : Gives (do
      let op ← binaryOperator ops
      let right ← operand
      return (op.1, op.2, right)) fun item => item.2.2.IsLexical :=
    Gives.andThen fun _ => h.bind fun _ lexical => Gives.pure lexical
  refine h.bind fun first lexical => pair.many.bind fun more others => Gives.pure ?_
  induction more generalizing first with
  | nil => exact lexical
  | cons item more ih =>
    obtain ⟨right, others⟩ := List.forall_mem_cons.1 others
    exact ih _ ⟨lexical, right⟩ others

/-- The names in a recognized expression are names of the grammar. -/
theorem expression_gives (fuel : Nat) : (expression fuel).Gives Term.IsLexical := by
  induction fuel with
  | zero => exact nofun
  | succ fuel ih =>
    refine level_gives (level_gives (level_gives (level_gives (level_gives ?_ _) _) _) _) _
    exact unary_gives ih

end RecordQuery.Grammar
