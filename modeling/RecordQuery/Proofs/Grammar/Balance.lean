import RecordQuery.Proofs.Parse.Wrapping

/-!
# Balanced texts

A balanced text closes every parenthesis and every quote that it opens. Balanced texts one behind
the other are balanced, and nest as deep as the deepest of them. A text in which every quote is written
twice can stand between quotes.

## Main definitions

* `Balanced`: whether a text is balanced and nests no deeper than a number of parentheses.
* `Doubled`: whether every quote in a text is written twice.

## Main statements

* `Balanced.append`, `Balanced.wrapped`: balanced texts behind each other and in parentheses.
* `Doubled.balanced`: texts between quotes.
-/

namespace RecordQuery.Grammar

open Nesting (betweenQuotes ground)

/-- Whether a text closes what it opens, and at most `k` parentheses are open anywhere in it. -/
structure Balanced (s : List Char) (k : Nat) : Prop where
  closed : ground.after? s = some ground
  shallow : ground.peak s ≤ k

variable {s t body : List Char} {k l : Nat}

theorem balanced_nil : Balanced [] 0 := ⟨rfl, Nat.le_refl _⟩

theorem balanced_of_plain (plain : '(' ∉ s ∧ ')' ∉ s ∧ '\'' ∉ s) : Balanced s 0 :=
  ⟨Nesting.after?_of_plain ground plain,
    Nat.le_of_eq (Nesting.peak_of_stays (Nesting.next?_of_plain ground plain))⟩

namespace Balanced

theorem mono (h : Balanced s k) (le : k ≤ l) : Balanced s l := ⟨h.closed, h.shallow.trans le⟩

theorem append (hs : Balanced s k) (ht : Balanced t k) : Balanced (s ++ t) k := by
  refine ⟨?_, ?_⟩
  · rw [Nesting.after?_append, hs.closed]
    exact ht.closed
  · rw [Nesting.peak_append hs.closed]
    exact Nat.max_le.2 ⟨hs.shallow, ht.shallow⟩

/-- A plain text in front of a balanced one. -/
theorem behind (ht : Balanced t k) (plain : '(' ∉ s ∧ ')' ∉ s ∧ '\'' ∉ s) : Balanced (s ++ t) k :=
  ((balanced_of_plain plain).mono (Nat.zero_le k)).append ht

theorem wrapped (h : Balanced s k) : Balanced (Grammar.wrapped s) (k + 1) := by
  refine ⟨after?_wrapped h.closed, ?_⟩
  rw [peak_wrapped h.closed, Nat.add_comm]
  exact Nat.succ_le_succ h.shallow

end Balanced

/-! ## Quoted texts -/

/-- Whether every quote in a text is written twice. -/
inductive Doubled : List Char → Prop
  | nil : Doubled []
  | quote {rest : List Char} (more : Doubled rest) : Doubled ('\'' :: '\'' :: rest)
  | char {c : Char} {rest : List Char} (other : c ≠ '\'') (more : Doubled rest) : Doubled (c :: rest)

namespace Doubled

variable {body rest : List Char} {c : Char}

theorem of_forall_ne (h : ∀ c ∈ body, c ≠ '\'') : Doubled body := by
  induction body with
  | nil => exact .nil
  | cons c rest ih =>
    obtain ⟨other, others⟩ := List.forall_mem_cons.1 h
    exact .char other (ih others)

theorem stringBodyChars (s : List Char) : Doubled (stringBodyChars s) := by
  fun_induction Grammar.stringBodyChars s with
  | case1 => exact .nil
  | case2 rest ih => exact .quote ih
  | case3 => exact .nil
  | case4 c rest _ other ih => exact .char other ih

theorem next?_betweenQuotes (other : c ≠ '\'') : betweenQuotes.next? c = some betweenQuotes := by
  simp [Nesting.next?, betweenQuotes, other]

/-- A body closes what it opens. -/
theorem closed (h : Doubled body) : betweenQuotes.after? body = some betweenQuotes := by
  induction h with
  | nil => rfl
  | quote _ ih => exact ih
  | char other _ ih =>
    rw [Nesting.after?_cons, next?_betweenQuotes other]
    exact ih

theorem peak (h : Doubled body) : betweenQuotes.peak body = 0 := by
  induction h with
  | nil => rfl
  | quote _ ih =>
    change max 0 (max 0 (betweenQuotes.peak _)) = 0
    rw [ih]
    rfl
  | char other _ ih =>
    rw [Nesting.peak, next?_betweenQuotes other, Option.elim_some, ih]
    rfl

/-- Any character but a quote is between quotes. -/
theorem after?_before {before after : List Char} (h : Doubled (before ++ c :: after))
    (other : c ≠ '\'') : betweenQuotes.after? before = some betweenQuotes := by
  generalize split : before ++ c :: after = body at h
  induction h generalizing before with
  | nil => simp at split
  | quote _ ih =>
    rcases before with _ | ⟨_, _ | ⟨_, before⟩⟩
    · cases split
      exact absurd rfl other
    · cases split
      exact absurd rfl other
    · simp only [List.cons_append, List.cons.injEq] at split
      obtain ⟨rfl, rfl, split⟩ := split
      change betweenQuotes.after? before = _
      exact ih split
  | char other' _ ih =>
    cases before with
    | nil => rfl
    | cons _ before =>
      simp only [List.cons_append, List.cons.injEq] at split
      obtain ⟨rfl, split⟩ := split
      rw [Nesting.after?_cons, next?_betweenQuotes other']
      exact ih split

/-- A word with a body between quotes behind it. -/
theorem balanced (h : Doubled body) (word : List Char)
    (plain : '(' ∉ word ∧ ')' ∉ word ∧ '\'' ∉ word) :
    Balanced (word ++ '\'' :: (body ++ ['\''])) 0 := by
  have quoted : Balanced ('\'' :: (body ++ ['\''])) 0 := by
    refine ⟨?_, ?_⟩
    · change betweenQuotes.after? (body ++ ['\'']) = _
      rw [Nesting.after?_append, h.closed]
      rfl
    · change max 0 (betweenQuotes.peak (body ++ ['\''])) ≤ 0
      rw [Nesting.peak_append h.closed, h.peak]
      decide
  exact quoted.behind plain

end Doubled

end RecordQuery.Grammar
