import Mathlib.Order.Bounds.Defs
import RecordQuery.Grammar.Nesting
import RecordQuery.Text.Path

/-!
# Nesting at the places of a text

Reading a text from left to right, a place is known by the number of parentheses that are open there
and by whether it stands between quotes. A text that closes more parentheses than are open has no
place behind it. Where every parenthesis has its partner, the depths in a part of a text are those
of the part alone, on top of what is open around it.

## Main definitions

* `Nesting`, `Nesting.after?`: places, and the place behind a text.
* `Nesting.peak`: how many parentheses are open at the deepest place of a text.

## Main statements

* `Nesting.isGreatest_peak`: the deepest place is one of the places of a text.
* `nestingOverflow?_eq_none_iff`: parentheses nest too deep if the deepest place does.
* `nestingOverflowFrom?_append`: what a place has to do with the count of parentheses.
-/

namespace RecordQuery.Grammar

/-- How many parentheses are open at a place, and whether it stands between quotes. -/
@[ext] structure Nesting where
  depth : Nat
  quoted : Bool
  deriving DecidableEq, Repr

namespace Nesting

/-- Outside of parentheses and quotes. -/
def ground : Nesting := ⟨0, false⟩

/-- Inside one pair of parentheses. -/
def inside : Nesting := ⟨1, false⟩

/-- Between quotes. -/
def betweenQuotes : Nesting := ⟨0, true⟩

/-- A place inside some further pairs of parentheses. -/
def under (k : Nat) (n : Nesting) : Nesting := ⟨k + n.depth, n.quoted⟩

@[simp] theorem under_under (k l : Nat) (n : Nesting) : (n.under l).under k = n.under (k + l) := by
  simp [under, Nat.add_assoc]

/-! ## The place behind a text -/

/-- The place behind a character. -/
def next? (n : Nesting) (c : Char) : Option Nesting :=
  if c == '\'' then some ⟨n.depth, !n.quoted⟩
  else if n.quoted then some n
  else if c == '(' then some ⟨n.depth + 1, false⟩
  else if c == ')' then
    match n.depth with
    | 0 => none
    | d + 1 => some ⟨d, false⟩
  else some n

/-- The place behind a text. -/
def after? (n : Nesting) : List Char → Option Nesting
  | [] => some n
  | c :: rest => (n.next? c).bind (·.after? rest)

/-- How many parentheses are open at the deepest place of a text. -/
def peak (n : Nesting) : List Char → Nat
  | [] => n.depth
  | c :: rest => max n.depth ((n.next? c).elim 0 (·.peak rest))

variable {n m : Nesting} {s t : List Char} {c : Char}

theorem after?_cons (n : Nesting) (c : Char) (rest : List Char) :
    n.after? (c :: rest) = (n.next? c).bind (·.after? rest) := rfl

theorem after?_append (n : Nesting) (s t : List Char) :
    n.after? (s ++ t) = (n.after? s).bind (·.after? t) := by
  induction s generalizing n with
  | nil => rfl
  | cons c rest ih =>
    rw [List.cons_append, after?_cons, after?_cons, Option.bind_assoc]
    exact Option.bind_congr fun m _ => ih m

theorem exists_of_after?_append (h : n.after? (s ++ t) = some m) :
    ∃ k, n.after? s = some k ∧ k.after? t = some m := by
  rw [after?_append] at h
  exact Option.bind_eq_some_iff.1 h

/-- What a character can do to a place. -/
theorem next?_cases (h : n.next? c = some m) :
    (c = '\'' ∧ m = ⟨n.depth, !n.quoted⟩) ∨
    (c ≠ '\'' ∧ n.quoted = true ∧ m = n) ∨
    (c = '(' ∧ n.quoted = false ∧ m = ⟨n.depth + 1, false⟩) ∨
    (c = ')' ∧ n = ⟨m.depth + 1, false⟩ ∧ m = ⟨m.depth, false⟩) ∨
    (c ≠ '\'' ∧ c ≠ '(' ∧ c ≠ ')' ∧ m = n) := by
  obtain ⟨depth, quoted⟩ := n
  by_cases quotes : c = '\''
  · exact .inl ⟨quotes, Option.some.inj (h.symm.trans (by simp [next?, quotes]))⟩
  by_cases open_quote : quoted = true
  · have same : m = ⟨depth, quoted⟩ :=
      Option.some.inj (h.symm.trans (by simp [next?, quotes, open_quote]))
    exact .inr (.inl ⟨quotes, open_quote, same⟩)
  have closed_quote : quoted = false := Bool.eq_false_iff.2 open_quote
  subst closed_quote
  by_cases opens : c = '('
  · have same : m = ⟨depth + 1, false⟩ :=
      Option.some.inj (h.symm.trans (by simp [next?, opens]))
    exact .inr (.inr (.inl ⟨opens, rfl, same⟩))
  by_cases closes : c = ')'
  · cases depth with
    | zero => simp [next?, closes] at h
    | succ d =>
      have same : m = ⟨d, false⟩ := Option.some.inj (h.symm.trans (by simp [next?, closes]))
      exact .inr (.inr (.inr (.inl ⟨closes, by rw [same], by rw [same]⟩)))
  · have same : m = ⟨depth, false⟩ :=
      Option.some.inj (h.symm.trans (by simp [next?, quotes, opens, closes]))
    exact .inr (.inr (.inr (.inr ⟨quotes, opens, closes, same⟩)))

/-- A quote switches between inside and outside of quotes, and no other character does. -/
theorem quoted_of_next? (h : n.next? c = some m) :
    m.quoted = if c = '\'' then !n.quoted else n.quoted := by
  obtain ⟨rfl, rfl⟩ | ⟨quotes, -, rfl⟩ | ⟨rfl, unquoted, rfl⟩ | ⟨rfl, opened, closed⟩ |
    ⟨quotes, -, -, rfl⟩ := next?_cases h
  · rfl
  · rw [if_neg quotes]
  · exact unquoted.symm
  · rw [opened, closed]
    rfl
  · rw [if_neg quotes]

theorem next?_under (k : Nat) (h : n.next? c = some m) :
    (n.under k).next? c = some (m.under k) := by
  obtain ⟨rfl, rfl⟩ | ⟨quotes, quoted, rfl⟩ | ⟨rfl, quoted, rfl⟩ | ⟨rfl, rfl, unquoted⟩ |
    ⟨quotes, opens, closes, rfl⟩ := next?_cases h
  · rfl
  · simp [next?, under, quotes, quoted]
  · simp [next?, under, quoted, Nat.add_assoc]
  · rw [unquoted]
    rfl
  · simp [next?, under, quotes, opens, closes]

theorem after?_under (k : Nat) (h : n.after? s = some m) :
    (n.under k).after? s = some (m.under k) := by
  induction s generalizing n with
  | nil =>
    cases h
    rfl
  | cons c rest ih =>
    obtain ⟨next, step, onward⟩ := Option.bind_eq_some_iff.1 h
    rw [after?_cons, next?_under k step]
    exact ih onward

/-- Characters that leave the place as it is one by one do so together. -/
theorem after?_of_stays (h : ∀ c ∈ s, n.next? c = some n) : n.after? s = some n := by
  induction s with
  | nil => rfl
  | cons c rest ih =>
    obtain ⟨step, onward⟩ := List.forall_mem_cons.1 h
    rw [after?_cons, step]
    exact ih onward

/-- Characters other than parentheses and quotes leave the place as it is. -/
theorem next?_of_plain (n : Nesting) (plain : '(' ∉ s ∧ ')' ∉ s ∧ '\'' ∉ s) :
    ∀ c ∈ s, n.next? c = some n := by
  rintro c mem
  have opens : c ≠ '(' := fun same => plain.1 (same ▸ mem)
  have closes : c ≠ ')' := fun same => plain.2.1 (same ▸ mem)
  have quotes : c ≠ '\'' := fun same => plain.2.2 (same ▸ mem)
  simp [next?, opens, closes, quotes]

theorem after?_of_plain (n : Nesting) (plain : '(' ∉ s ∧ ')' ∉ s ∧ '\'' ∉ s) :
    n.after? s = some n := after?_of_stays (next?_of_plain n plain)

/-- Between quotes, parentheses do not count. -/
theorem next?_of_quoted (quoted : n.quoted = true) (plain : ∀ c ∈ s, c ≠ '\'') :
    ∀ c ∈ s, n.next? c = some n := fun c mem => by simp [next?, quoted, plain c mem]

theorem after?_of_quoted (quoted : n.quoted = true) (plain : ∀ c ∈ s, c ≠ '\'') :
    n.after? s = some n := after?_of_stays (next?_of_quoted quoted plain)

/-! ## The deepest place -/

theorem depth_le_peak (n : Nesting) (s : List Char) : n.depth ≤ n.peak s := by
  cases s with
  | nil => exact Nat.le_refl _
  | cons => exact Nat.le_max_left ..

theorem peak_of_stays (h : ∀ c ∈ s, n.next? c = some n) : n.peak s = n.depth := by
  induction s with
  | nil => rfl
  | cons c rest ih =>
    obtain ⟨step, onward⟩ := List.forall_mem_cons.1 h
    rw [peak, step, Option.elim_some, ih onward, Nat.max_self]

theorem peak_append (h : n.after? s = some m) (t : List Char) :
    n.peak (s ++ t) = max (n.peak s) (m.peak t) := by
  induction s generalizing n with
  | nil =>
    cases h
    exact (Nat.max_eq_right (depth_le_peak _ t)).symm
  | cons c rest ih =>
    obtain ⟨next, step, onward⟩ := Option.bind_eq_some_iff.1 h
    simp only [List.cons_append, peak, step, Option.elim_some, ih onward, Nat.max_assoc]

theorem peak_under (k : Nat) (h : n.after? s = some m) : (n.under k).peak s = k + n.peak s := by
  induction s generalizing n with
  | nil => rfl
  | cons c rest ih =>
    obtain ⟨next, step, onward⟩ := Option.bind_eq_some_iff.1 h
    simp only [peak, step, next?_under k step, Option.elim_some, ih onward]
    exact Nat.add_max_add_left k _ _

/-- The deepest place is one of the places of a text. -/
theorem isGreatest_peak (h : n.after? s = some m) :
    IsGreatest { d | ∃ before rest k, s = before ++ rest ∧ n.after? before = some k ∧ k.depth = d }
      (n.peak s) := by
  induction s generalizing n with
  | nil =>
    refine ⟨⟨[], [], n, rfl, rfl, rfl⟩, ?_⟩
    rintro _ ⟨before, rest, k, split, here, rfl⟩
    obtain ⟨rfl, -⟩ := List.append_eq_nil_iff.1 split.symm
    cases here
    exact Nat.le_refl _
  | cons c rest ih =>
    obtain ⟨next, step, onward⟩ := Option.bind_eq_some_iff.1 h
    obtain ⟨⟨before, behind, k, split, here, deepest⟩, bound⟩ := ih onward
    rw [peak, step, Option.elim_some]
    constructor
    · obtain first | later := Nat.le_total (next.peak rest) n.depth
      · rw [Nat.max_eq_left first]
        exact ⟨[], c :: rest, n, rfl, rfl, rfl⟩
      · rw [Nat.max_eq_right later]
        refine ⟨c :: before, behind, k, by rw [split, List.cons_append], ?_, deepest⟩
        rw [after?_cons, step]
        exact here
    · rintro _ ⟨before, behind, k, split, here, rfl⟩
      cases before with
      | nil =>
        cases here
        exact Nat.le_max_left ..
      | cons _ before =>
        obtain ⟨rfl, onto⟩ := List.cons.inj split
        rw [after?_cons, step] at here
        exact Nat.le_trans (bound ⟨before, behind, k, onto, here, rfl⟩) (Nat.le_max_right ..)

end Nesting

/-! ## Too many parentheses -/

variable {limit : Nat} {n m : Nesting} {s : List Char} {c : Char}

/-- A character is followed by the next place, unless that is too deep. -/
theorem nestingOverflowFrom?_cons (step : n.next? c = some m) (within : n.depth ≤ limit)
    (offset : Nat) (rest : List Char) :
    nestingOverflowFrom? limit n.depth n.quoted offset (c :: rest) =
      if m.depth ≤ limit then
        nestingOverflowFrom? limit m.depth m.quoted (offset + c.utf8Size) rest
      else some offset := by
  rw [nestingOverflowFrom?]
  obtain ⟨rfl, rfl⟩ | ⟨quotes, quoted, rfl⟩ | ⟨rfl, quoted, rfl⟩ | ⟨rfl, rfl, unquoted⟩ |
    ⟨quotes, opens, closes, rfl⟩ := Nesting.next?_cases step
  · simp [within]
  · simp [quotes, quoted, within]
  · by_cases room : n.depth + 1 ≤ limit
    · simp [quoted, room, Nat.not_lt.2 room]
    · simp [quoted, room, Nat.not_le.1 room]
  · have room : m.depth ≤ limit := Nat.le_of_succ_le within
    rw [unquoted]
    simp [room]
  · simp [quotes, opens, closes, within]

/-- Too many parentheses are open somewhere if there are too many at the deepest place. -/
theorem nestingOverflowFrom?_eq_none_iff (h : n.after? s = some m) (within : n.depth ≤ limit)
    (offset : Nat) :
    nestingOverflowFrom? limit n.depth n.quoted offset s = none ↔ n.peak s ≤ limit := by
  induction s generalizing n offset with
  | nil => exact iff_of_true rfl within
  | cons c rest ih =>
    obtain ⟨next, step, onward⟩ := Option.bind_eq_some_iff.1 h
    rw [nestingOverflowFrom?_cons step within, Nesting.peak, step, Option.elim_some]
    split
    next room =>
      rw [ih onward room]
      omega
    next deep =>
      have deepest := Nesting.depth_le_peak next rest
      exact iff_of_false nofun (by omega)

/-- Behind a text that is not too deep, parentheses are counted on from the place that it leads to. -/
theorem nestingOverflowFrom?_append (h : n.after? s = some m) (within : n.peak s ≤ limit)
    (offset : Nat) (more : List Char) :
    nestingOverflowFrom? limit n.depth n.quoted offset (s ++ more) =
      nestingOverflowFrom? limit m.depth m.quoted (offset + Text.byteLength s) more := by
  induction s generalizing n offset with
  | nil =>
    cases h
    rfl
  | cons c rest ih =>
    obtain ⟨next, step, onward⟩ := Option.bind_eq_some_iff.1 h
    rw [Nesting.peak, step, Option.elim_some] at within
    have room : next.depth ≤ limit := Nat.le_trans (Nesting.depth_le_peak next rest) (by omega)
    rw [List.cons_append, nestingOverflowFrom?_cons step (by omega), if_pos room,
      ih onward (by omega), Text.byteLength, Nat.add_assoc]

theorem nestingOverflow?_eq_none_iff (h : Nesting.ground.after? s = some m) :
    nestingOverflow? limit s = none ↔ Nesting.ground.peak s ≤ limit :=
  nestingOverflowFrom?_eq_none_iff h (Nat.zero_le _) 0

end RecordQuery.Grammar
