import Mathlib.Order.Bounds.Basic
import RecordQuery.Text.Search

/-!
# Where a text occurs

Searching a list goes from the left to the right, so what is found is the least index at which the
pattern occurs. The lists are texts or their bytes. The bounds of a slice count characters.

## Main definitions

* `Text.OccursAt`: whether a list occurs in another one at an index.

## Main statements

* `Text.indexOf_eq_some_iff`, `Text.indexOf_eq_none_iff`: what a search finds.
* `Text.OccursAt.slice_eq`: the slice where a text occurs.
-/

namespace RecordQuery.Text

section

variable {α : Type} {pattern text rest : List α} {c : α} {i : Nat}

/-- Whether `pattern` occurs in a text behind the first `i` of its items. -/
def OccursAt (pattern text : List α) (i : Nat) : Prop :=
  ∃ before after, text = before ++ pattern ++ after ∧ before.length = i

theorem occursAt_zero_iff : OccursAt pattern text 0 ↔ pattern <+: text := by
  constructor
  · rintro ⟨before, after, rfl, empty⟩
    rw [List.eq_nil_of_length_eq_zero empty]
    exact List.prefix_append pattern after
  · rintro ⟨after, rfl⟩
    exact ⟨[], after, rfl, rfl⟩

theorem occursAt_cons_succ_iff :
    OccursAt pattern (c :: rest) (i + 1) ↔ OccursAt pattern rest i := by
  constructor
  · rintro ⟨before, after, split, length⟩
    cases before with
    | nil => cases length
    | cons d before =>
      obtain ⟨-, split⟩ := List.cons.inj split
      exact ⟨before, after, split, Nat.succ.inj length⟩
  · rintro ⟨before, after, rfl, rfl⟩
    exact ⟨c :: before, after, rfl, rfl⟩

theorem occursAt_nil_iff : OccursAt pattern [] i ↔ pattern = [] ∧ i = 0 := by
  constructor
  · rintro ⟨before, after, split, rfl⟩
    simp_all
  · rintro ⟨rfl, rfl⟩
    exact occursAt_zero_iff.2 (List.prefix_refl [])

theorem OccursAt.le (h : OccursAt pattern text i) : i + pattern.length ≤ text.length := by
  obtain ⟨before, after, rfl, rfl⟩ := h
  simp only [List.length_append]
  exact Nat.le_add_right ..

/-! ## Searching -/

theorem isLeast_zero (here : pattern <+: text) : IsLeast {i | OccursAt pattern text i} 0 :=
  ⟨occursAt_zero_iff.2 here, fun _ _ => Nat.zero_le _⟩

variable [BEq α] [LawfulBEq α]

/-- A search finds the least index, and fails only if there is none. -/
theorem indexOf_spec (pattern text : List α) :
    (∀ i, indexOf pattern text = some i → IsLeast {i | OccursAt pattern text i} i) ∧
      (indexOf pattern text = none → ∀ i, ¬ OccursAt pattern text i) := by
  induction text with
  | nil =>
    rw [indexOf]
    by_cases empty : pattern = []
    · subst empty
      refine ⟨fun i found => ?_, nofun⟩
      cases found
      exact isLeast_zero (List.prefix_refl [])
    · rw [if_neg (by simpa using empty)]
      exact ⟨nofun, fun _ i occurs => empty (occursAt_nil_iff.1 occurs).1⟩
  | cons c rest ih =>
    rw [indexOf_cons]
    by_cases here : pattern <+: c :: rest
    · rw [if_pos (List.isPrefixOf_iff_prefix.2 here)]
      refine ⟨fun i found => ?_, nofun⟩
      cases found
      exact isLeast_zero here
    · rw [if_neg (mt List.isPrefixOf_iff_prefix.1 here)]
      constructor
      · intro i found
        obtain ⟨j, behind, rfl⟩ := Option.map_eq_some_iff.1 found
        obtain ⟨occurs, least⟩ := ih.1 j behind
        refine ⟨occursAt_cons_succ_iff.2 occurs, fun k earlier => ?_⟩
        cases k with
        | zero => exact (here (occursAt_zero_iff.1 earlier)).elim
        | succ k => exact Nat.succ_le_succ (least (occursAt_cons_succ_iff.1 earlier))
      · intro missing i occurs
        cases i with
        | zero => exact here (occursAt_zero_iff.1 occurs)
        | succ i =>
          exact ih.2 (Option.map_eq_none_iff.1 missing) i (occursAt_cons_succ_iff.1 occurs)

theorem indexOf_eq_none_iff : indexOf pattern text = none ↔ ∀ i, ¬ OccursAt pattern text i := by
  refine ⟨(indexOf_spec pattern text).2, fun missing => ?_⟩
  refine Option.eq_none_iff_forall_ne_some.2 fun i found => ?_
  exact missing i ((indexOf_spec pattern text).1 i found).1

theorem indexOf_eq_some_iff :
    indexOf pattern text = some i ↔ IsLeast {i | OccursAt pattern text i} i := by
  refine ⟨(indexOf_spec pattern text).1 i, fun least => ?_⟩
  cases found : indexOf pattern text with
  | none => exact (indexOf_eq_none_iff.1 found i least.1).elim
  | some j => rw [((indexOf_spec pattern text).1 j found).unique least]

/-- A text begins with another one if it is found at once. -/
theorem indexOf_eq_some_zero_iff : indexOf pattern text = some 0 ↔ pattern <+: text := by
  rw [indexOf_eq_some_iff]
  exact ⟨fun least => occursAt_zero_iff.1 least.1, isLeast_zero⟩

end

/-! ## Slices -/

variable {pattern text : List Char} {i : Nat}

theorem OccursAt.slice_eq (h : OccursAt pattern text i) :
    slice text i (some pattern.length) = pattern := by
  obtain ⟨before, after, rfl, rfl⟩ := h
  rw [slice, List.append_assoc, List.drop_left, List.take_left]

/-- A text ends with another one if its last characters, as many as the other one has, are that. -/
theorem suffix_iff_slice_eq : pattern <:+ text ↔
    pattern.length ≤ text.length ∧ slice text (text.length - pattern.length) none = pattern := by
  rw [List.suffix_iff_eq_drop, slice]
  constructor
  · intro same
    have length := congrArg List.length same
    rw [List.length_drop] at length
    exact ⟨by omega, same.symm⟩
  · exact fun ⟨_, same⟩ => same.symm

theorem slice_append_slice (text : List Char) (k : Nat) :
    slice text 0 (some k) ++ slice text k none = text := List.take_append_drop k text

end RecordQuery.Text
