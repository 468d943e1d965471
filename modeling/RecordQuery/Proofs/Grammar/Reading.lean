import RecordQuery.Proofs.Grammar.LocalTerms

/-!
# Reading texts

What a recognizer finds in a text is found from the parts of the text: each part is read where the
one before it ended, and what is tried in vain is refused.

## Main definitions

* `Recognizer.Reads`: what a recognizer reads at the start of a text.
* `Recognizer.Refuses`: whether a recognizer fails on a text.

## Main statements

* `Recognizer.Reads.level`, `Recognizer.Reads.levelPair`: reading operands and binary operations.
* `expressionOver_reads_operand`, `expressionOver_reads_binary`: reading expressions.
-/

namespace RecordQuery.Grammar

namespace Recognizer

variable {α β γ δ : Type}

/-- A recognizer reads a value at the start of a text, wherever the text stands. -/
def Reads (p : Recognizer α) (view : α → γ) (s : List Char) (b : γ) (rest : List Char) : Prop :=
  ∀ c : Cursor, c.rest = s → p.found view c = some (b, rest)

/-- A recognizer fails at the start of a text, wherever the text stands. -/
def Refuses (p : Recognizer α) (s : List Char) : Prop :=
  ∀ c : Cursor, c.rest = s → (p c).outcome = none

variable {p q : Recognizer α} {f : α → γ} {g : β → δ} {s s' s'' rest : List Char} {b : γ} {e : δ}

theorem Reads.outcome (h : p.Reads f s b rest) {c : Cursor} (start : c.rest = s) :
    ∃ a d, (p c).outcome = some (a, d) ∧ f a = b ∧ d.rest = rest := found_eq_some.1 (h c start)

/-! ## Sequences and choices -/

theorem Reads.pure (a : α) : (Pure.pure a : Recognizer α).Reads f s (f a) s := by
  intro c start
  simp [found, start]

theorem Reads.bind {next : α → Recognizer β} (first : p.Reads f s b s')
    (second : ∀ a, f a = b → (next a).Reads g s' e s'') : (p >>= next).Reads g s e s'' := by
  intro c start
  obtain ⟨a, d, found_a, same, rest_d⟩ := first.outcome start
  have found_b := second a same d rest_d
  unfold found at found_b ⊢
  rw [outcome_bind, found_a]
  exact found_b

theorem Refuses.bind {next : α → Recognizer β} (h : p.Refuses s) : (p >>= next).Refuses s := by
  intro c start
  rw [outcome_bind, h c start]
  rfl

theorem Reads.bind_refuses {next : α → Recognizer β} (first : p.Reads f s b s')
    (second : ∀ a, f a = b → (next a).Refuses s') : (p >>= next).Refuses s := by
  intro c start
  obtain ⟨a, d, found_a, same, rest_d⟩ := first.outcome start
  rw [outcome_bind, found_a]
  exact second a same d rest_d

theorem Reads.orElse (h : p.Reads f s b rest) : (p.orElse q).Reads f s b rest := by
  intro c start
  obtain ⟨a, d, found_a, same, rest_d⟩ := h.outcome start
  unfold found
  rw [outcome_orElse, found_a]
  simp [same, rest_d]

theorem Refuses.orElse (left : p.Refuses s) (right : q.Reads f s b rest) :
    (p.orElse q).Reads f s b rest := by
  intro c start
  unfold found
  rw [outcome_orElse, left c start]
  exact right c start

theorem Refuses.both (left : p.Refuses s) (right : q.Refuses s) : (p.orElse q).Refuses s := by
  intro c start
  rw [outcome_orElse, left c start, right c start]
  rfl

theorem refuses_firstOf {ps : List (Recognizer α)} (h : ∀ p ∈ ps, p.Refuses s) :
    (firstOf ps).Refuses s := by
  induction ps with
  | nil => exact fun _ _ => rfl
  | cons p rest ih =>
    obtain ⟨first, others⟩ := List.forall_mem_cons.1 h
    exact first.both (ih others)

theorem Reads.attempt (h : p.Reads f s b rest) :
    (attempt p).Reads (Option.map f) s (some b) rest := by
  intro c start
  obtain ⟨a, d, found_a, same, rest_d⟩ := h.outcome start
  simp [found, outcome_attempt, found_a, same, rest_d]

theorem Refuses.attempt (h : p.Refuses s) : (attempt p).Reads (Option.map f) s none s := by
  intro c start
  simp [found, outcome_attempt, h c start, start]

/-! ## Repetition -/

/-- A repetition reads some values at the start of a text, with any number of tries that is enough
for the characters of the text. -/
def ReadsMany (p : Recognizer α) (view : α → γ) (s : List Char) (bs : List γ)
    (rest : List Char) : Prop :=
  ∀ tries, s.length < tries → (manyUpTo p tries).Reads (List.map view) s bs rest

theorem ReadsMany.many {bs : List γ} (h : p.ReadsMany f s bs rest) :
    (many p).Reads (List.map f) s bs rest := by
  intro c start
  exact h (c.rest.length + 1) (by rw [start]; exact Nat.lt_succ_self _) c start

theorem Refuses.readsMany (h : p.Refuses s) : p.ReadsMany f s [] s := by
  intro tries enough c start
  obtain ⟨tries, rfl⟩ := Nat.exists_eq_add_of_lt enough
  simp [found, outcome_manyUpTo_succ, h c start, start]

theorem Reads.readsMany {bs : List γ} (h : p.Reads f s b s') (shorter : s'.length < s.length)
    (more : p.ReadsMany f s' bs rest) : p.ReadsMany f s (b :: bs) rest := by
  intro tries enough c start
  obtain ⟨tries, rfl⟩ := Nat.exists_eq_add_of_le' (Nat.lt_of_le_of_lt (Nat.zero_le _) enough)
  obtain ⟨a, d, found_a, same, rest_d⟩ := h.outcome start
  obtain ⟨as, e, found_as, same', rest_e⟩ := (more tries (by omega)).outcome rest_d
  simp [found, outcome_manyUpTo_succ, found_a, found_as, same, same', rest_e]

/-! ## Characters -/

theorem reads_position : position.Reads (fun _ => ()) s () s := by
  intro c start
  simp [found, position, start]

theorem reads_exactly (text rest : List Char) :
    (exactly text).Reads id (text ++ rest) () rest := by
  intro c start
  have leads : text.isPrefixOf c.rest = true := by simp [start]
  simp [found, exactly, leads, Local.rest_after start]

theorem refuses_exactly {text : List Char} (h : ¬ text <+: s) : (exactly text).Refuses s := by
  intro c start
  simp [exactly, start, h]

/-- Whether a text does not go on with a character of a class. -/
def Ends (belongs : Char → Bool) (s : List Char) : Prop := ∀ c, s.head? = some c → belongs c = false

variable {belongs : Char → Bool}

theorem Ends.takeWhile (h : Ends belongs s) : s.takeWhile belongs = [] := by
  cases s with
  | nil => rfl
  | cons c rest => rw [List.takeWhile_cons_of_neg (by simp [h c rfl])]

theorem Ends.dropWhile (h : Ends belongs s) : s.dropWhile belongs = s := by
  cases s with
  | nil => rfl
  | cons c rest => rw [List.dropWhile_cons_of_neg (by simp [h c rfl])]

theorem takeWhile_append_of_ends {read : List Char} (all : ∀ c ∈ read, belongs c)
    (h : Ends belongs rest) : (read ++ rest).takeWhile belongs = read := by
  rw [List.takeWhile_append_of_pos all, h.takeWhile, List.append_nil]

theorem reads_run {read : List Char} (all : ∀ c ∈ read, belongs c) (h : Ends belongs rest) :
    (run belongs).Reads id (read ++ rest) read rest := by
  intro c start
  unfold found run
  rw [start, takeWhile_append_of_ends all h]
  simp [Local.rest_after start]

theorem reads_run1 {read : List Char} (some_char : read ≠ []) (all : ∀ c ∈ read, belongs c)
    (h : Ends belongs rest) : (run1 belongs).Reads id (read ++ rest) read rest := by
  intro c start
  unfold found run1
  rw [start, takeWhile_append_of_ends all h]
  simp [some_char, Local.rest_after start]

theorem refuses_run1 (h : Ends belongs s) : (run1 belongs).Refuses s := by
  intro c start
  unfold run1
  rw [start, h.takeWhile]
  rfl

theorem reads_one {c : Char} (h : belongs c) : (one belongs).Reads id (c :: rest) c rest := by
  intro cursor start
  simp [found, one, start, h]

theorem refuses_one (h : Ends belongs s) : (one belongs).Refuses s := by
  intro cursor start
  unfold one
  rw [start]
  cases s with
  | nil => rfl
  | cons c rest => simp [h c rfl]

theorem reads_notBefore (h : Ends belongs s) : (notBefore belongs).Reads id s () s := by
  intro cursor start
  unfold found notBefore
  rw [start]
  cases s with
  | nil => simp [start]
  | cons c rest => simp [h c rfl, start]

theorem refuses_notBefore {c : Char} (h : belongs c) : (notBefore belongs).Refuses (c :: rest) := by
  intro cursor start
  simp [notBefore, start, h]

/-! ## Tokens -/

theorem rest_skip (c : Cursor) : c.skip.rest = c.rest.dropWhile isSpace :=
  Local.rest_after List.takeWhile_append_dropWhile.symm

theorem reads_blanks (s : List Char) : blanks.Reads id s () (s.dropWhile isSpace) := by
  intro c start
  simp [found, blanks, rest_skip, start]

theorem reads_whole (h : p.Reads f s b rest) : (whole p).Reads f s b rest := by
  intro c start
  have value := h c start
  unfold found at value ⊢
  rwa [outcome_whole]

theorem Reads.token (h : p.Reads f (s.dropWhile isSpace) b rest) : (token p).Reads f s b rest :=
  (reads_blanks s).bind fun _ _ => reads_whole h

theorem Refuses.token (h : p.Refuses (s.dropWhile isSpace)) : (token p).Refuses s := by
  refine (reads_blanks s).bind_refuses fun _ _ c start => ?_
  rw [outcome_whole, h c start]

theorem Reads.rule (h : p.Reads f (s.dropWhile isSpace) b rest) : (rule p).Reads f s b rest := by
  refine (reads_blanks s).bind fun _ _ c start => ?_
  have value := h c start
  unfold found at value ⊢
  rwa [outcome_reported]

theorem Refuses.rule (h : p.Refuses (s.dropWhile isSpace)) : (rule p).Refuses s := by
  refine (reads_blanks s).bind_refuses fun _ _ c start => ?_
  rw [outcome_reported, h c start]

theorem reads_mark {text : String} {rest : List Char} (h : s.dropWhile isSpace = text.toList ++ rest) :
    (mark text).Reads id s () rest := by
  refine (reads_blanks s).bind fun _ _ => ?_
  rw [h]
  exact reads_exactly _ _

theorem refuses_mark {text : String} (h : ¬ text.toList <+: s.dropWhile isSpace) :
    (mark text).Refuses s := (reads_blanks s).bind_refuses fun _ _ => refuses_exactly h

end Recognizer

open Recognizer

variable {γ : Type} {s s' rest : List Char}

/-! ## Words -/

theorem reads_word {text : String} (h : s.dropWhile isSpace = text.toList ++ rest)
    (ends : Ends continuesName rest) : (word text).Reads (fun _ => ()) s () rest := by
  refine Reads.token ?_
  rw [h]
  refine reads_position.bind fun start _ => ?_
  refine ((reads_exactly _ _).bind fun _ _ => reads_notBefore ends).bind fun _ _ => ?_
  exact Reads.pure (f := fun _ => ()) start

/-- A name is not another word. -/
theorem refuses_word {text : String} {name : List Char}
    (h : s.dropWhile isSpace = name ++ rest) (letters : name.all continuesName = true)
    (ends : Ends continuesName rest) (other : name ≠ text.toList)
    (text_letters : text.toList.all continuesName = true) : (word text).Refuses s := by
  refine Refuses.token ?_
  rw [h]
  refine reads_position.bind_refuses fun start _ => Refuses.bind ?_
  by_cases leads : text.toList <+: name ++ rest
  · obtain ⟨behind, split⟩ := leads
    rw [← split]
    refine (reads_exactly _ _).bind_refuses fun _ _ => ?_
    obtain ⟨more, same, continues⟩ | ⟨more, same, continues⟩ := List.append_eq_append_iff.1 split
    · cases more with
      | nil => exact (other (by rw [same, List.append_nil])).elim
      | cons c more =>
        rw [continues]
        exact refuses_notBefore (List.all_eq_true.1 letters c (by simp [same]))
    · cases more with
      | nil => exact (other (by rw [same, List.append_nil])).elim
      | cons c more =>
        have letter := List.all_eq_true.1 text_letters c (by simp [same])
        exact absurd letter (by simp [ends c (by simp [continues])])
  · exact Refuses.bind (refuses_exactly leads)

/-! ## Operators -/

theorem letters_text (op : BinaryOperator) : op.text.toList.all continuesName = true := by
  cases op <;> decide

theorem text_ne_text {op op' : BinaryOperator} (h : op ≠ op') :
    op.text.toList ≠ op'.text.toList := by
  cases op <;> cases op' <;> first | exact absurd rfl h | decide

/-- A text that no binary operator follows. -/
def NoOperator (s : List Char) : Prop := Ends continuesName (s.dropWhile isSpace)

theorem NoOperator.refuses (h : NoOperator s) (ops : List BinaryOperator) :
    (binaryOperator ops).Refuses s := by
  refine refuses_firstOf fun p mem => ?_
  obtain ⟨op, -, rfl⟩ := List.mem_map.1 mem
  have other : [] ≠ op.text.toList := by cases op <;> decide
  exact Refuses.bind (refuses_word (List.nil_append _).symm rfl h other (letters_text op))

/-- The text of a binary operator between operands. -/
def operatorText (op : BinaryOperator) : List Char := ' ' :: op.text.toList ++ [' ']

theorem dropWhile_operatorText (op : BinaryOperator) (s : List Char) :
    (operatorText op ++ s).dropWhile isSpace = op.text.toList ++ ' ' :: s := by
  cases op <;> rfl

theorem ends_blank (s : List Char) : Ends continuesName (' ' :: s) := by
  intro c head
  cases head
  decide

theorem refuses_binaryOperator {op : BinaryOperator} {ops : List BinaryOperator} (h : op ∉ ops)
    (s : List Char) : (binaryOperator ops).Refuses (operatorText op ++ s) := by
  refine refuses_firstOf fun p mem => ?_
  obtain ⟨op', listed, rfl⟩ := List.mem_map.1 mem
  have other : op ≠ op' := fun same => h (same ▸ listed)
  exact Refuses.bind (refuses_word (dropWhile_operatorText op s) (letters_text op) (ends_blank s)
    (text_ne_text other) (letters_text op'))

theorem reads_binaryOperator {op : BinaryOperator} {ops : List BinaryOperator} (h : op ∈ ops)
    (s : List Char) :
    (binaryOperator ops).Reads Prod.snd (operatorText op ++ s) op (' ' :: s) := by
  induction ops with
  | nil => cases h
  | cons op' rest ih =>
    by_cases same : op = op'
    · subst same
      exact ((reads_word (dropWhile_operatorText op s) (ends_blank s)).bind fun i _ =>
        Reads.pure (f := Prod.snd) (i, op)).orElse
    · have mem : op ∈ rest := (List.mem_cons.1 h).resolve_left same
      exact Refuses.orElse (Refuses.bind (refuses_word (dropWhile_operatorText op s)
        (letters_text op) (ends_blank s) (text_ne_text same) (letters_text op'))) (ih mem)

/-! ## Levels of operators -/

variable {operand nested : Recognizer Term} {ops : List BinaryOperator} {op : BinaryOperator}
  {t u : Term}

/-- Where no operator of a level follows, an operand is all there is. -/
theorem reads_level (h : operand.Reads Term.erase s t rest)
    (ends : (binaryOperator ops).Refuses rest) : (level ops operand).Reads Term.erase s t rest := by
  refine h.bind fun first same => ?_
  have none_more : (operation ops operand).ReadsMany eraseOperation rest [] rest :=
    (Refuses.bind ends).readsMany
  refine none_more.many.bind fun more none_left => ?_
  rw [List.map_eq_nil_iff.1 none_left, ← same]
  exact Reads.pure first

/-- An operation that no operator of its level follows. -/
theorem reads_level_binary (left : operand.Reads Term.erase s t (operatorText op ++ s'))
    (mem : op ∈ ops) (right : operand.Reads Term.erase (' ' :: s') u rest)
    (shorter : rest.length ≤ s'.length) (ends : (binaryOperator ops).Refuses rest) :
    (level ops operand).Reads Term.erase s (.binary 0 op t u) rest := by
  refine left.bind fun first same => ?_
  have none_more : (operation ops operand).ReadsMany eraseOperation rest [] rest :=
    (Refuses.bind ends).readsMany
  have pair : (operation ops operand).Reads eraseOperation (operatorText op ++ s') (op, u) rest := by
    refine (reads_binaryOperator mem s').bind fun found same => right.bind fun second same' => ?_
    rw [← same, ← same']
    exact Reads.pure (f := eraseOperation) (found.1, found.2, second)
  have shorter : rest.length < (operatorText op ++ s').length := by
    simp only [operatorText, List.length_append, List.length_cons]
    omega
  refine (pair.readsMany shorter none_more).many.bind fun more one_more => ?_
  obtain ⟨item, others, rfl, here, none_left⟩ := List.map_eq_cons_iff.1 one_more
  obtain ⟨rfl, rfl⟩ := Prod.mk.inj here
  rw [List.map_eq_nil_iff.1 none_left, ← same]
  exact Reads.pure (f := Term.erase) (.binary item.1 item.2.1 first item.2.2)

/-- The binary operators by level, from the loosest to the tightest. -/
def levels : List (List BinaryOperator) :=
  [[.or], [.and], [.eq, .ne, .ge, .gt, .le, .lt], [.add, .sub], [.mul, .div, .mod]]

theorem expressionOver_eq (nested : Recognizer Term) :
    expressionOver nested = levels.foldr level (unary (primary nested)) := rfl

theorem reads_levels {levels : List (List BinaryOperator)} (h : operand.Reads Term.erase s t rest)
    (ends : ∀ ops ∈ levels, (binaryOperator ops).Refuses rest) :
    (levels.foldr level operand).Reads Term.erase s t rest := by
  induction levels with
  | nil => exact h
  | cons ops levels ih =>
    obtain ⟨here, others⟩ := List.forall_mem_cons.1 ends
    exact reads_level (ih others) here

/-- An operation is found on the level of its operator, and its operands on the tighter ones. -/
theorem reads_levels_binary {levels : List (List BinaryOperator)}
    (apart : levels.Pairwise fun ops ops' => ∀ op ∈ ops, op ∉ ops')
    (left : operand.Reads Term.erase s t (operatorText op ++ s')) (mem : ∃ ops ∈ levels, op ∈ ops)
    (right : operand.Reads Term.erase (' ' :: s') u rest) (shorter : rest.length ≤ s'.length)
    (ends : ∀ ops ∈ levels, (binaryOperator ops).Refuses rest) :
    (levels.foldr level operand).Reads Term.erase s (.binary 0 op t u) rest := by
  induction levels with
  | nil =>
    obtain ⟨ops, mem, -⟩ := mem
    cases mem
  | cons ops levels ih =>
    obtain ⟨tighter, apart⟩ := List.pairwise_cons.1 apart
    obtain ⟨here, others⟩ := List.forall_mem_cons.1 ends
    by_cases level : op ∈ ops
    · have left_tighter : ∀ ops' ∈ levels, (binaryOperator ops').Refuses (operatorText op ++ s') :=
        fun ops' mem => refuses_binaryOperator (tighter ops' mem op level) s'
      exact reads_level_binary (reads_levels left left_tighter) level (reads_levels right others)
        shorter here
    · obtain ⟨ops', mem, member⟩ := mem
      have mem : ops' ∈ levels := (List.mem_cons.1 mem).resolve_left fun same =>
        level (same ▸ member)
      exact reads_level (ih apart ⟨ops', mem, member⟩ others) here

/-- An operand that no operator follows is an expression. -/
theorem reads_operand (h : (unary (primary nested)).Reads Term.erase s t rest)
    (ends : NoOperator rest) : (expressionOver nested).Reads Term.erase s t rest := by
  rw [expressionOver_eq]
  exact reads_levels h fun ops _ => ends.refuses ops

/-- Two operands with an operator between them are an expression. -/
theorem reads_operation
    (left : (unary (primary nested)).Reads Term.erase s t (operatorText op ++ s'))
    (right : (unary (primary nested)).Reads Term.erase (' ' :: s') u rest)
    (shorter : rest.length ≤ s'.length) (ends : NoOperator rest) :
    (expressionOver nested).Reads Term.erase s (.binary 0 op t u) rest := by
  have listed : ∀ op : BinaryOperator, ∃ ops ∈ levels, op ∈ ops := by
    intro op
    cases op <;> decide
  rw [expressionOver_eq]
  exact reads_levels_binary (by decide) left (listed op) right shorter
    fun ops _ => ends.refuses ops

/-! ## Operands -/

/-- Unary operators and the operand behind them. -/
theorem reads_unary {ops : List UnaryOperator}
    (before : unaryOperator.ReadsMany Prod.snd s ops s')
    (innermost : operand.Reads Term.erase s' t rest) :
    (unary operand).Reads Term.erase s (ops.foldr (fun op t => .unary 0 op t) t) rest := by
  refine before.many.bind fun found same => innermost.bind fun last same' => ?_
  have erased : ∀ found : List (Nat × UnaryOperator),
      (found.foldr (fun op operand => Term.unary op.1 op.2 operand) last).erase =
        (found.map Prod.snd).foldr (fun op t => .unary 0 op t) last.erase := by
    intro found
    induction found with
    | nil => rfl
    | cons item found ih => simp only [List.foldr_cons, List.map_cons, Term.erase, ih]
  rw [← same, ← same', ← erased]
  exact Reads.pure _

theorem reads_not (h : s.dropWhile isSpace = "not".toList ++ rest)
    (ends : Ends continuesName rest) : unaryOperator.Reads Prod.snd s .not rest :=
  ((reads_word h ends).bind fun i _ => Reads.pure (f := Prod.snd) (i, UnaryOperator.not)).orElse

/-- A text that starts with a name other than `not`, and with no minus sign, has no unary operator
at its start. -/
theorem refuses_unaryOperator {name : List Char} (h : s.dropWhile isSpace = name ++ rest)
    (letters : name.all continuesName = true) (ends : Ends continuesName rest)
    (other : name ≠ "not".toList) (sign : ¬ ['-'] <+: s.dropWhile isSpace) :
    unaryOperator.Refuses s := by
  refine refuses_firstOf fun p mem => ?_
  obtain rfl | rfl : p = _ ∨ p = _ := by simpa using mem
  · exact Refuses.bind (refuses_word h letters ends other (by decide))
  · refine Refuses.bind (Refuses.token ?_)
    exact reads_position.bind_refuses fun _ _ => Refuses.bind (refuses_exactly sign)

theorem reads_group (opens : s.dropWhile isSpace = '(' :: s')
    (inner : nested.Reads Term.erase s' t rest) {behind : List Char}
    (closes : rest.dropWhile isSpace = ')' :: behind) :
    (group nested).Reads Term.erase s (.group 0 t) behind := by
  refine Reads.rule ?_
  rw [opens]
  have mark_opens : (mark "(").Reads id ('(' :: s') () s' := reads_mark rfl
  have mark_closes : (mark ")").Reads id rest () behind := reads_mark closes
  refine reads_position.bind fun start _ => mark_opens.bind fun _ _ => ?_
  refine inner.bind fun found same => mark_closes.bind fun _ _ => ?_
  rw [← same]
  exact Reads.pure (f := Term.erase) (.group start found)

/-- An expression in parentheses is an operand. -/
theorem reads_primary_group (opens : s.dropWhile isSpace = '(' :: s')
    (inner : nested.Reads Term.erase s' t rest) {behind : List Char}
    (closes : rest.dropWhile isSpace = ')' :: behind) :
    (primary nested).Reads Term.erase s (.group 0 t) behind := (reads_group opens inner closes).orElse

end RecordQuery.Grammar
