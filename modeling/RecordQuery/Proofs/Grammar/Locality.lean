import RecordQuery.Grammar.Token
import RecordQuery.Proofs.Grammar.Nesting

/-!
# Local recognizers

A recognizer is local if the end of a text is to it like a closing parenthesis or a comma: where
every parenthesis and quote of a text has its partner, the recognizer finds in the text what it finds
in the same text with more behind it. Whatever it tries, it cannot reach past the end, because an
unfinished literal or an open parenthesis would have to be there.

Two recognizers are compared, of which the first reads the text alone. They may differ in how much
nesting they provide for, so they have to agree only on texts that are short enough. What they find
is compared as far as a view shows it, which leaves out positions.

## Main definitions

* `Recognizer.found`: what a recognizer finds, and the text behind that.
* `Stops`: whether a text is empty or starts with a closing parenthesis or a comma.
* `Local`: whether two recognizers find the same without and with more text.

## Main statements

* `Local.bind`, `Local.orElse`, `Local.many`: the ways to put recognizers together keep locality.
-/

namespace RecordQuery.Grammar

variable {α β γ δ : Type}

/-- What a recognizer finds, as far as a view shows it, and the text behind that. -/
def Recognizer.found (p : Recognizer α) (view : α → γ) (c : Cursor) : Option (γ × List Char) :=
  (p c).outcome.map fun (a, d) => (view a, d.rest)

theorem Recognizer.found_eq_some {p : Recognizer α} {view : α → γ} {c : Cursor} {b : γ}
    {rest : List Char} : p.found view c = some (b, rest) ↔
      ∃ a d, (p c).outcome = some (a, d) ∧ view a = b ∧ d.rest = rest := by
  simp [found]

/-- A text that no token reads on into. -/
def Stops (t : List Char) : Prop := ∀ c, t.head? = some c → c = ')' ∨ c = ','

/-- A recognizer `p` reads a text of less than `n` characters, and at least `w` of them, which lead
from one place to another. Where the text ends at the ground, `p'` finds the same when `t` follows,
as far as a view shows it. -/
structure Local (t : List Char) (n w : Nat) (here there : Nesting) (view : α → γ)
    (p p' : Recognizer α) : Prop where
  reads : ∀ {c : Cursor} {a : α} {d : Cursor}, c.rest.length < n → (p c).outcome = some (a, d) →
    ∃ read, c.rest = read ++ d.rest ∧ w ≤ read.length ∧ here.after? read = some there
  follows : ∀ {c c' : Cursor} (k : Nat), c.rest.length < n →
    (here.under k).after? c.rest = some .ground → c'.rest = c.rest ++ t →
      p'.found view c' = (p.found view c).map fun (b, rest) => (b, rest ++ t)

namespace Local

open Recognizer

variable {t : List Char} {n n' w w' v : Nat} {here middle there : Nesting} {f : α → γ} {g : β → δ}
  {p p' q q' : Recognizer α}

/-- The text behind what was read, and its end. -/
theorem rest_of_reads (h : Local t n w here there f p p') {c d : Cursor} {a : α} {k : Nat}
    (short : c.rest.length < n) (found : (p c).outcome = some (a, d))
    (closed : (here.under k).after? c.rest = some .ground) :
    d.rest.length < n - w ∧ (there.under k).after? d.rest = some .ground := by
  obtain ⟨read, split, long, leads⟩ := h.reads short found
  rw [split, Nesting.after?_append, Nesting.after?_under k leads] at closed
  rw [split, List.length_append] at short
  exact ⟨by omega, closed⟩

theorem weaken (h : Local t n w here there f p p') (hn : n' ≤ n) (hw : w' ≤ w) :
    Local t n' w' here there f p p' where
  reads short found := by
    obtain ⟨read, split, long, leads⟩ := h.reads (Nat.lt_of_lt_of_le short hn) found
    exact ⟨read, split, Nat.le_trans hw long, leads⟩
  follows k short closed more := h.follows k (Nat.lt_of_lt_of_le short hn) closed more

theorem atLeast (w : Nat) (hw : w' ≤ w) (h : Local t n w here there f p p') :
    Local t n w' here there f p p' := h.weaken (Nat.le_refl n) hw

theorem under (h : Local t n w here there f p p') (k : Nat) :
    Local t n w (here.under k) (there.under k) f p p' where
  reads short found := by
    obtain ⟨read, split, long, leads⟩ := h.reads short found
    exact ⟨read, split, long, Nesting.after?_under k leads⟩
  follows l short closed more := by
    rw [Nesting.under_under] at closed
    exact h.follows (l + k) short closed more

/-! ## Sequences -/

theorem pure {a a' : α} (same : f a = f a') :
    Local t n 0 here here f (pure a : Recognizer α) (Pure.pure a') where
  reads {c a d} _ found := by
    cases found
    exact ⟨[], rfl, Nat.le_refl _, rfl⟩
  follows k _ _ more := by simp [Recognizer.found, more, same]

theorem bind {next next' : α → Recognizer β} (first : Local t n w here middle f p p')
    (second : ∀ a a', f a = f a' → Local t (n - w) v middle there g (next a) (next' a')) :
    Local t n (w + v) here there g (p >>= next) (p' >>= next') where
  reads {c b e} short found := by
    rw [outcome_bind, Option.bind_eq_some_iff] at found
    obtain ⟨⟨a, d⟩, one, two⟩ := found
    obtain ⟨read, split, long, leads⟩ := first.reads short one
    have shorter : d.rest.length < n - w := by
      rw [split, List.length_append] at short
      omega
    obtain ⟨more, split', long', leads'⟩ := (second a a rfl).reads shorter two
    refine ⟨read ++ more, by rw [split, split', List.append_assoc], ?_, ?_⟩
    · rw [List.length_append]
      omega
    · rw [Nesting.after?_append, leads]
      exact leads'
  follows {c c'} k short closed more := by
    have same := first.follows k short closed more
    unfold Recognizer.found at same ⊢
    rw [outcome_bind, outcome_bind]
    cases one : (p c).outcome with
    | none =>
      have one' : (p' c').outcome = none := by simpa [one] using same
      rw [one']
      rfl
    | some ad =>
      obtain ⟨a, d⟩ := ad
      obtain ⟨a', d', one', eq, rest⟩ : ∃ a' d', (p' c').outcome = some (a', d') ∧
          f a' = f a ∧ d'.rest = d.rest ++ t := by simpa [one] using same
      obtain ⟨shorter, closed'⟩ := first.rest_of_reads short one closed
      rw [one']
      exact (second a a' eq.symm).follows k shorter closed' rest

/-- A sequence whose first part is compared as it is. -/
theorem andThen {p p' : Recognizer α} {next next' : α → Recognizer β}
    (first : Local t n w here middle id p p')
    (second : ∀ a, Local t (n - w) v middle there g (next a) (next' a)) :
    Local t n (w + v) here there g (p >>= next) (p' >>= next') :=
  first.bind fun a a' same => by
    obtain rfl : a = a' := same
    exact second a

theorem fail : Local t n w here there f (Recognizer.fail : Recognizer α) Recognizer.fail where
  reads _ found := by cases found
  follows _ _ _ _ := rfl

/-! ## Choice and repetition -/

theorem orElse (left : Local t n w here there f p p') (right : Local t n w here there f q q') :
    Local t n w here there f (p.orElse q) (p'.orElse q') where
  reads short found := by
    rw [outcome_orElse, Option.or_eq_some_iff] at found
    obtain found | ⟨_, found⟩ := found
    · exact left.reads short found
    · exact right.reads short found
  follows {c c'} k short closed more := by
    have one := left.follows k short closed more
    have two := right.follows k short closed more
    unfold Recognizer.found at one two ⊢
    rw [outcome_orElse, outcome_orElse, Option.map_or, Option.map_or, one, two, ← Option.map_or]

theorem attempt (h : Local t n w here here f p p') :
    Local t n 0 here here (Option.map f) (attempt p) (Recognizer.attempt p') := by
  have found : Local t n (0 + 0) here here (Option.map f) (p >>= fun a => Pure.pure (some a))
      (p' >>= fun a => Pure.pure (some a)) :=
    (h.weaken (Nat.le_refl n) (Nat.zero_le w)).bind fun a a' same => pure (congrArg some same)
  exact found.orElse (pure rfl)

theorem reads_manyUpTo (h : Local t n (w + 1) here here f p p') (i : Nat) {c d : Cursor}
    {as : List α} (short : c.rest.length < n)
    (found : (Recognizer.manyUpTo p i c).outcome = some (as, d)) :
    ∃ read, c.rest = read ++ d.rest ∧ 0 ≤ read.length ∧ here.after? read = some here := by
  induction i generalizing c as with
  | zero =>
    cases found
    exact ⟨[], rfl, Nat.le_refl _, rfl⟩
  | succ i ih =>
    rw [outcome_manyUpTo_succ] at found
    cases one : (p c).outcome with
    | none =>
      rw [one] at found
      cases found
      exact ⟨[], rfl, Nat.le_refl _, rfl⟩
    | some ad =>
      obtain ⟨a, e⟩ := ad
      simp only [one, Option.map_eq_some_iff, Prod.mk.injEq] at found
      obtain ⟨⟨more, _⟩, found, rfl, rfl⟩ := found
      obtain ⟨read, split, -, leads⟩ := h.reads short one
      have shorter : e.rest.length < n := by
        rw [split, List.length_append] at short
        omega
      obtain ⟨read', split', -, leads'⟩ := ih shorter found
      refine ⟨read ++ read', by rw [split, split', List.append_assoc], Nat.zero_le _, ?_⟩
      rw [Nesting.after?_append, leads]
      exact leads'

/-- Repetition finds the same as long as there are tries left for all characters. -/
theorem follows_manyUpTo (h : Local t n (w + 1) here here f p p') (k i i' : Nat) {c c' : Cursor}
    (short : c.rest.length < n) (enough : c.rest.length < i) (enough' : c'.rest.length < i')
    (closed : (here.under k).after? c.rest = some .ground) (more : c'.rest = c.rest ++ t) :
    (Recognizer.manyUpTo p' i').found (List.map f) c' =
      ((Recognizer.manyUpTo p i).found (List.map f) c).map fun (b, rest) => (b, rest ++ t) := by
  induction i generalizing c c' i' with
  | zero => omega
  | succ i ih =>
    cases i' with
    | zero => omega
    | succ i' =>
      have same := h.follows k short closed more
      unfold Recognizer.found at same ⊢
      rw [outcome_manyUpTo_succ, outcome_manyUpTo_succ]
      cases one : (p c).outcome with
      | none =>
        have one' : (p' c').outcome = none := by simpa [one] using same
        simp [one', more]
      | some ad =>
        obtain ⟨a, d⟩ := ad
        obtain ⟨a', d', one', eq, rest⟩ : ∃ a' d', (p' c').outcome = some (a', d') ∧
            f a' = f a ∧ d'.rest = d.rest ++ t := by simpa [one] using same
        obtain ⟨read, split, long, -⟩ := h.reads short one
        obtain ⟨shorter, closed'⟩ := h.rest_of_reads short one closed
        have lengths := congrArg List.length split
        have lengths' := congrArg List.length more
        have lengths'' := congrArg List.length rest
        simp only [List.length_append] at lengths lengths' lengths''
        have others := ih i' (by omega) (by omega) (by omega) closed' rest
        unfold Recognizer.found at others
        simp only [one']
        cases two : (Recognizer.manyUpTo p i d).outcome with
        | none =>
          have two' : (Recognizer.manyUpTo p' i' d').outcome = none := by simpa [two] using others
          simp [two']
        | some bs =>
          obtain ⟨bs, e⟩ := bs
          obtain ⟨bs', e', two', eq', rest'⟩ : ∃ bs' e',
              (Recognizer.manyUpTo p' i' d').outcome = some (bs', e') ∧
                bs'.map f = bs.map f ∧ e'.rest = e.rest ++ t := by simpa [two] using others
          simp [two', eq, eq', rest']

theorem many (h : Local t n (w + 1) here here f p p') :
    Local t n 0 here here (List.map f) (many p) (Recognizer.many p') where
  reads short found := h.reads_manyUpTo _ short found
  follows k short closed more :=
    h.follows_manyUpTo k _ _ short (Nat.lt_succ_self _) (Nat.lt_succ_self _) closed more

theorem absent (h : Local t n w here there f p p') :
    Local t n 0 here here id (absent p) (Recognizer.absent p') where
  reads {c a d} _ found := by
    unfold Recognizer.absent at found
    split at found <;> cases found
    exact ⟨[], rfl, Nat.le_refl _, rfl⟩
  follows {c c'} k short closed more := by
    have same := h.follows k short closed more
    unfold Recognizer.found Recognizer.absent
    cases one : (p c).outcome with
    | none =>
      have one' : (p' c').outcome = none := by simpa [Recognizer.found, one] using same
      simp [one', more]
    | some ad =>
      obtain ⟨a', d', one', -⟩ : ∃ a' d', (p' c').outcome = some (a', d') ∧
          f a' = f ad.1 ∧ d'.rest = ad.2.rest ++ t := by simpa [Recognizer.found, one] using same
      simp [one']

/-! ## Tokens -/

theorem whole (h : Local t n w here there f p p') :
    Local t n w here there f (whole p) (Recognizer.whole p') where
  reads {c a d} short found := h.reads short (outcome_whole p c ▸ found)
  follows {c c'} k short closed more := by
    simpa [Recognizer.found] using h.follows k short closed more

theorem reported (h : Local t n w here there f p p') :
    Local t n w here there f (reported p) (Recognizer.reported p') where
  reads {c a d} short found := h.reads short (outcome_reported p c ▸ found)
  follows {c c'} k short closed more := by
    simpa [Recognizer.found] using h.follows k short closed more

theorem position : Local t n 0 here here (fun _ => ()) position Recognizer.position where
  reads {c a d} _ found := by
    cases found
    exact ⟨[], rfl, Nat.le_refl _, rfl⟩
  follows k _ _ more := by simp [Recognizer.found, Recognizer.position, more]

/-! ## Characters -/

/-- A class without parentheses, quotes and commas. -/
def Inert (belongs : Char → Bool) : Prop :=
  belongs '(' = false ∧ belongs ')' = false ∧ belongs '\'' = false ∧ belongs ',' = false

instance (belongs : Char → Bool) : Decidable (Inert belongs) :=
  inferInstanceAs (Decidable (_ ∧ _ ∧ _ ∧ _))

variable {belongs : Char → Bool}

theorem Inert.plain (h : Inert belongs) {s : List Char} (members : s.all belongs = true) :
    '(' ∉ s ∧ ')' ∉ s ∧ '\'' ∉ s := by
  have members := List.all_eq_true.1 members
  refine ⟨fun mem => ?_, fun mem => ?_, fun mem => ?_⟩
  · exact absurd (members _ mem) (Bool.eq_false_iff.1 h.1)
  · exact absurd (members _ mem) (Bool.eq_false_iff.1 h.2.1)
  · exact absurd (members _ mem) (Bool.eq_false_iff.1 h.2.2.1)

/-- Where a class ends in a text, it ends at the same place with more behind it. -/
theorem takeWhile_append_of_stops (stops : Stops t) (h : Inert belongs) (s : List Char) :
    (s ++ t).takeWhile belongs = s.takeWhile belongs := by
  have none_left : t.takeWhile belongs = [] := by
    cases t with
    | nil => rfl
    | cons c rest =>
      obtain rfl | rfl := stops c rfl
      · rw [List.takeWhile_cons_of_neg (Bool.eq_false_iff.1 h.2.1)]
      · rw [List.takeWhile_cons_of_neg (Bool.eq_false_iff.1 h.2.2.2)]
  rw [List.takeWhile_append]
  split
  case isTrue all =>
    rw [none_left, List.append_nil]
    exact (List.IsPrefix.eq_of_length (List.takeWhile_prefix belongs) all).symm
  case isFalse => rfl

theorem rest_after {c : Cursor} {read rest : List Char} (h : c.rest = read ++ rest) :
    (c.after read).rest = rest := by
  simp [Cursor.after, h]

theorem run (stops : Stops t) (h : Inert belongs) :
    Local t n 0 here here id (run belongs) (Recognizer.run belongs) where
  reads {c a d} _ found := by
    cases found
    refine ⟨c.rest.takeWhile belongs, ?_, Nat.zero_le _, ?_⟩
    · rw [rest_after (List.takeWhile_append_dropWhile).symm, List.takeWhile_append_dropWhile]
    · exact Nesting.after?_of_plain _ (h.plain List.all_takeWhile)
  follows {c c'} k _ _ more := by
    have split : c.rest = c.rest.takeWhile belongs ++ c.rest.dropWhile belongs :=
      List.takeWhile_append_dropWhile.symm
    have split' : c'.rest = c.rest.takeWhile belongs ++ (c.rest.dropWhile belongs ++ t) := by
      rw [more, ← List.append_assoc, ← split]
    simp only [Recognizer.found, Recognizer.run, Option.map_some, more,
      takeWhile_append_of_stops stops h, rest_after split]
    rw [rest_after split']

theorem run1 (stops : Stops t) (h : Inert belongs) :
    Local t n 1 here here id (run1 belongs) (Recognizer.run1 belongs) where
  reads {c a d} short found := by
    unfold Recognizer.run1 at found
    dsimp only at found
    split at found
    case isTrue => cases found
    case isFalse some_char =>
      cases found
      have all : Local t n 0 here here id (Recognizer.run belongs) (Recognizer.run belongs) :=
        run stops h
      obtain ⟨read, split, -, leads⟩ := all.reads short rfl
      have rest : read = c.rest.takeWhile belongs := by
        have whole : c.rest = c.rest.takeWhile belongs ++ c.rest.dropWhile belongs :=
          List.takeWhile_append_dropWhile.symm
        rw [rest_after whole] at split
        exact List.append_cancel_right (split.symm.trans whole)
      refine ⟨read, split, ?_, leads⟩
      rw [rest]
      exact List.length_pos_iff.2 (by simpa using some_char)
  follows {c c'} k short closed more := by
    have all : Local t n 0 here here id (Recognizer.run belongs) (Recognizer.run belongs) :=
      run stops h
    have same := all.follows k short closed more
    unfold Recognizer.found Recognizer.run at same
    unfold Recognizer.found Recognizer.run1
    rw [more, takeWhile_append_of_stops stops h] at same ⊢
    dsimp only
    split
    · rfl
    · exact same

theorem one (stops : Stops t) (h : Inert belongs) :
    Local t n 1 here here id (one belongs) (Recognizer.one belongs) where
  reads {c a d} _ found := by
    unfold Recognizer.one at found
    split at found
    case h_1 => cases found
    case h_2 x rest start =>
      split at found <;> cases found
      case isTrue member =>
        refine ⟨[a], start, Nat.le_refl _, Nesting.after?_of_plain _ (h.plain ?_)⟩
        rw [List.all_cons, List.all_nil, Bool.and_true, member]
  follows {c c'} k _ _ more := by
    unfold Recognizer.found Recognizer.one
    rw [more]
    cases c.rest with
    | cons x rest =>
      dsimp only [List.cons_append]
      split <;> simp
    | nil =>
      cases t with
      | nil => rfl
      | cons x rest =>
        obtain rfl | rfl := stops x rfl
        · simp [h.2.1]
        · simp [h.2.2.2]

theorem notBefore (stops : Stops t) (h : Inert belongs) :
    Local t n 0 here here id (notBefore belongs) (Recognizer.notBefore belongs) where
  reads {c a d} _ found := by
    unfold Recognizer.notBefore at found
    split at found
    · cases found
      exact ⟨[], rfl, Nat.zero_le _, rfl⟩
    · split at found <;> cases found
      exact ⟨[], rfl, Nat.zero_le _, rfl⟩
  follows {c c'} k _ _ more := by
    unfold Recognizer.found Recognizer.notBefore
    cases start : c.rest with
    | cons x rest =>
      rw [more, start]
      dsimp only [List.cons_append]
      split <;> simp [more, start]
    | nil =>
      cases t with
      | nil => simp [more, start]
      | cons x rest =>
        obtain rfl | rfl := stops x rfl
        · simp [more, start, h.2.1]
        · simp [more, start, h.2.2.2]

/-- A run between quotes ends at the quote that the text must have. -/
theorem run1_quoted (quoted : here.quoted = true) (h : belongs '\'' = false) :
    Local t n 1 here here id (Recognizer.run1 belongs) (Recognizer.run1 belongs) where
  reads {c a d} short found := by
    unfold Recognizer.run1 at found
    dsimp only at found
    split at found
    case isTrue => cases found
    case isFalse some_char =>
      cases found
      have whole : c.rest = c.rest.takeWhile belongs ++ c.rest.dropWhile belongs :=
        List.takeWhile_append_dropWhile.symm
      refine ⟨c.rest.takeWhile belongs, by rw [rest_after whole, ← whole], ?_, ?_⟩
      · exact List.length_pos_iff.2 (by simpa using some_char)
      · refine Nesting.after?_of_quoted quoted fun x mem => ?_
        rintro rfl
        exact absurd (List.all_eq_true.1 List.all_takeWhile _ mem) (Bool.eq_false_iff.1 h)
  follows {c c'} k _ closed more := by
    have ends : '\'' ∈ c.rest := by
      refine Decidable.byContradiction fun missing => ?_
      have stays : (here.under k).after? c.rest = some (here.under k) :=
        Nesting.after?_of_quoted quoted fun x mem same => missing (same ▸ mem)
      have unquoted := congrArg Nesting.quoted (Option.some.inj (stays.symm.trans closed))
      exact absurd unquoted (by simp [Nesting.under, quoted, Nesting.ground])
    have partial_run : (c.rest.takeWhile belongs).length ≠ c.rest.length := by
      intro all
      have same := (List.takeWhile_prefix (l := c.rest) belongs).eq_of_length all
      rw [← same] at ends
      exact absurd (List.all_eq_true.1 List.all_takeWhile _ ends) (Bool.eq_false_iff.1 h)
    have split : c.rest = c.rest.takeWhile belongs ++ c.rest.dropWhile belongs :=
      List.takeWhile_append_dropWhile.symm
    have split' : c'.rest = c.rest.takeWhile belongs ++ (c.rest.dropWhile belongs ++ t) := by
      rw [more, ← List.append_assoc, ← split]
    have same_run : c'.rest.takeWhile belongs = c.rest.takeWhile belongs := by
      rw [more, List.takeWhile_append, if_neg partial_run]
    unfold Recognizer.found Recognizer.run1
    rw [same_run]
    dsimp only
    split
    · rfl
    · simp [rest_after split, rest_after split']

/-! ## Fixed texts -/

theorem reads_exactly {text : List Char} {c d : Cursor} {u : Unit}
    (found : (Recognizer.exactly text c).outcome = some (u, d)) : c.rest = text ++ d.rest := by
  unfold Recognizer.exactly at found
  split at found <;> cases found
  case isTrue start =>
    obtain ⟨rest, split⟩ := List.isPrefixOf_iff_prefix.1 start
    rw [rest_after split.symm, split]

theorem follows_exactly {text : List Char} {c c' : Cursor} (more : c'.rest = c.rest ++ t)
    (same : text.isPrefixOf (c.rest ++ t) = text.isPrefixOf c.rest) :
    (Recognizer.exactly text).found id c' =
      ((Recognizer.exactly text).found id c).map fun (b, rest) => (b, rest ++ t) := by
  unfold Recognizer.found Recognizer.exactly
  rw [more, same]
  split
  case isFalse => rfl
  case isTrue start =>
    obtain ⟨rest, split⟩ := List.isPrefixOf_iff_prefix.1 start
    have split' : c'.rest = text ++ (rest ++ t) := by rw [more, ← split, List.append_assoc]
    simp [rest_after split.symm, rest_after split']

theorem isPrefixOf_append_of_stops (stops : Stops t) {text : List Char}
    (inert : ')' ∉ text ∧ ',' ∉ text) (s : List Char) :
    text.isPrefixOf (s ++ t) = text.isPrefixOf s := by
  induction text generalizing s with
  | nil => rfl
  | cons x rest ih =>
    simp only [List.mem_cons, not_or, ← ne_eq] at inert
    obtain ⟨⟨closes, closes'⟩, ⟨separates, separates'⟩⟩ := inert
    cases s with
    | cons y s =>
      simp only [List.cons_append, List.isPrefixOf_cons_cons, ih ⟨closes', separates'⟩]
    | nil =>
      cases t with
      | nil => rfl
      | cons y t =>
        obtain rfl | rfl := stops y rfl
        · simp [List.isPrefixOf_cons_cons, closes.symm]
        · simp [List.isPrefixOf_cons_cons, separates.symm]

/-- A text without closing parentheses and commas. -/
theorem exactly (stops : Stops t) {text : List Char} (inert : ')' ∉ text ∧ ',' ∉ text)
    (leads : here.after? text = some there) :
    Local t n text.length here there id (exactly text) (Recognizer.exactly text) where
  reads _ found := ⟨text, reads_exactly found, Nat.le_refl _, leads⟩
  follows _ _ _ more := follows_exactly more (isPrefixOf_append_of_stops stops inert _)

/-- A character inside parentheses or quotes, where the text cannot end. -/
theorem exactly_open {x : Char} (open_here : here ≠ .ground)
    (leads : here.after? [x] = some there) :
    Local t n 1 here there id (Recognizer.exactly [x]) (Recognizer.exactly [x]) where
  reads _ found := ⟨[x], reads_exactly found, Nat.le_refl _, leads⟩
  follows {c c'} k _ closed more := by
    refine follows_exactly more ?_
    cases start : c.rest with
    | cons y rest => simp [List.isPrefixOf_cons_cons]
    | nil =>
      rw [start] at closed
      have ends := Option.some.inj closed
      refine (open_here ?_).elim
      have depth := congrArg Nesting.depth ends
      have quoted := congrArg Nesting.quoted ends
      simp only [Nesting.under, Nesting.ground] at depth quoted
      ext
      · simp only [Nesting.ground]
        omega
      · exact quoted

/-! ## Blanks -/

theorem spaces (stops : Stops t) : Local t n 0 here here id (Recognizer.run isSpace)
    (Recognizer.run isSpace) := run stops (by decide)

theorem blanks (stops : Stops t) : Local t n 0 here here id blanks Recognizer.blanks where
  reads {c a d} short found := by
    cases found
    exact (spaces stops).reads short rfl
  follows {c c'} k short closed more := by
    have same := (spaces stops).follows k short closed more
    simp only [Recognizer.found, Recognizer.run, Option.map_some, Option.some.injEq, id_eq,
      Prod.mk.injEq] at same
    obtain ⟨chars, rest⟩ := same
    rw [chars] at rest
    simp [Recognizer.found, Recognizer.blanks, Cursor.skip, chars, rest]

theorem token (stops : Stops t) (h : Local t n w here there f p p') :
    Local t n w here there f (token p) (Recognizer.token p') := by
  have local_bind : Local t n (0 + w) here there f (Recognizer.blanks >>= fun _ =>
      Recognizer.whole p) (Recognizer.blanks >>= fun _ => Recognizer.whole p') :=
    (blanks stops).bind fun _ _ _ => h.whole
  exact local_bind.weaken (Nat.le_refl n) (by omega)

theorem rule (stops : Stops t) (h : Local t n w here there f p p') :
    Local t n w here there f (rule p) (Recognizer.rule p') := by
  have local_bind : Local t n (0 + w) here there f (Recognizer.blanks >>= fun _ =>
      Recognizer.reported p) (Recognizer.blanks >>= fun _ => Recognizer.reported p') :=
    (blanks stops).bind fun _ _ _ => h.reported
  exact local_bind.weaken (Nat.le_refl n) (by omega)

/-- An opening parenthesis or another mark that no text ends with. -/
theorem mark (stops : Stops t) {text : String}
    (inert : ')' ∉ text.toList ∧ ',' ∉ text.toList)
    (leads : here.after? text.toList = some there) :
    Local t n text.toList.length here there id (mark text) (Recognizer.mark text) := by
  have local_bind : Local t n (0 + text.toList.length) here there id (Recognizer.blanks >>= fun _ =>
      Recognizer.exactly text.toList) (Recognizer.blanks >>= fun _ =>
        Recognizer.exactly text.toList) :=
    (blanks stops).bind fun _ _ _ => exactly stops inert leads
  exact local_bind.weaken (Nat.le_refl n) (by omega)

/-- A mark inside parentheses. -/
theorem mark_open (stops : Stops t) {text : String} {x : Char} (single : text.toList = [x])
    (open_here : here ≠ .ground) (leads : here.after? [x] = some there) :
    Local t n 1 here there id (Recognizer.mark text) (Recognizer.mark text) := by
  have local_bind : Local t n (0 + 1) here there id (Recognizer.blanks >>= fun _ =>
      Recognizer.exactly [x]) (Recognizer.blanks >>= fun _ => Recognizer.exactly [x]) :=
    (blanks stops).bind fun _ _ _ => exactly_open open_here leads
  rw [← single] at local_bind
  exact local_bind

end Local

end RecordQuery.Grammar
