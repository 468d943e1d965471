import Mathlib.Data.List.TakeWhile
import RecordQuery.Parse
import RecordQuery.Proofs.Binding.Positions
import RecordQuery.Proofs.Grammar.Reading

/-!
# Accepted filter texts

A filter text is accepted if it is recognized and bound. The recognition of a text says what the
text reads like in front of a closing parenthesis, and reading a text says that it is recognized.

## Main statements

* `parseFilter_eq_ok_iff`: what makes up the acceptance of a text.
* `Grammar.reads_of_recognize`: recognized texts read alike inside parentheses.
* `parseFilter_of_reads`: acceptance from reading.
-/

namespace RecordQuery

namespace Grammar

open Recognizer

variable {s rest : List Char} {t : Term}

theorem outcome_endOfText (c : Cursor) : (endOfText c).outcome =
    if c.rest.dropWhile isSpace = [] then some ((), c.skip) else none := by
  have skipped : (endOfText c).outcome =
      if c.skip.rest.isEmpty then some ((), c.skip) else none := by
    show ((blanks >>= fun _ => whole _) c).outcome = _
    rw [outcome_bind]
    refine (outcome_whole _ c.skip).trans ?_
    split <;> rfl
  simp only [skipped, rest_skip, List.isEmpty_iff]

/-- A text is recognized as a whole if nothing but blanks are left behind what was read. -/
theorem recognize_whole_eq_ok_iff {α : Type} {p : Nat → Recognizer α} {a : α} :
    recognize (fun fuel => do let found ← p fuel; endOfText; return found) s = .ok a ↔
      ∃ d, (p (s.length + 1) (.start s)).outcome = some (a, d) ∧
        d.rest.dropWhile isSpace = [] := by
  have whole : ((do let found ← p (s.length + 1); endOfText; return found : Recognizer α)
      (.start s)).outcome = (p (s.length + 1) (.start s)).outcome.bind fun found =>
        if found.2.rest.dropWhile isSpace = [] then some (found.1, found.2.skip) else none := by
    rw [outcome_bind]
    refine Option.bind_congr fun found _ => ?_
    obtain ⟨t, d⟩ := found
    dsimp only
    rw [outcome_bind, outcome_endOfText]
    split <;> rfl
  unfold recognize
  dsimp only
  rw [whole]
  cases (p (s.length + 1) (.start s)).outcome with
  | none => simp
  | some found =>
    obtain ⟨a', d⟩ := found
    constructor
    · intro h
      by_cases ends : d.rest.dropWhile isSpace = []
      · simp only [Option.bind_some, if_pos ends, Except.ok.injEq] at h
        exact ⟨d, by rw [h], ends⟩
      · simp only [Option.bind_some, if_neg ends] at h
        cases h
    · rintro ⟨_, same, ends⟩
      cases same
      simp only [Option.bind_some, if_pos ends]

theorem recognize_filterText_eq_ok_iff : recognize filterText s = .ok t ↔
    ∃ d, (expression (s.length + 1) (.start s)).outcome = some (t, d) ∧
      d.rest.dropWhile isSpace = [] := recognize_whole_eq_ok_iff

/-- A text that was read up to blanks has a partner for every parenthesis and quote. -/
theorem closed_of_reads {α γ : Type} {p p' : Recognizer α} {f : α → γ} {a : α} {d : Cursor}
    (h : Local [] (s.length + 1) 1 .ground .ground f p p')
    (found : (p (.start s)).outcome = some (a, d)) (ends : d.rest.dropWhile isSpace = []) :
    Nesting.ground.after? s = some .ground := by
  obtain ⟨read, split, -, leads⟩ := h.reads (Nat.lt_succ_self _) found
  have blank : d.rest.all isSpace = true :=
    List.all_eq_true.2 (List.dropWhile_eq_nil_iff.1 ends)
  have plain : Local.Inert isSpace := by decide
  have stays := Nesting.after?_of_plain .ground (plain.plain blank)
  change s = _ at split
  rw [split, Nesting.after?_append, leads]
  exact stays

/-- A recognized order clause has a partner for every parenthesis and quote. -/
theorem closed_of_recognize_orderByText {ts : List OrderTerm}
    (h : recognize orderByText s = .ok ts) : Nesting.ground.after? s = some .ground := by
  obtain ⟨d, found, ends⟩ := recognize_whole_eq_ok_iff.1 h
  have stops : Stops [] := nofun
  have expressions : Local [] (s.length + 1) 1 .ground .ground Term.erase
      (expression (s.length + 1)) (expression (s.length + 1)) :=
    Local.expression stops (Nat.le_refl _) (Nat.le_refl _)
  exact closed_of_reads (Local.separated (fun _ => Local.comma_end)
    (Local.orderTerm stops expressions)) found ends

/-- A recognized text has a partner for every parenthesis and quote, and it reads alike in front of
a closing parenthesis or a comma. -/
theorem reads_of_recognize (h : recognize filterText s = .ok t) :
    Nesting.ground.after? s = some .ground ∧ ∃ blanks, blanks.dropWhile isSpace = [] ∧
      ∀ {u : List Char} {fuel : Nat}, Stops u → s.length < fuel →
        (expression fuel).Reads Term.erase (s ++ u) t.erase (blanks ++ u) := by
  obtain ⟨d, found, ends⟩ := recognize_filterText_eq_ok_iff.1 h
  have expressions : ∀ {u : List Char} {fuel : Nat}, Stops u → s.length < fuel →
      Local u (s.length + 1) 1 .ground .ground Term.erase (expression (s.length + 1))
        (expression fuel) := fun stops enough => Local.expression stops (Nat.le_refl _) enough
  have closed : Nesting.ground.after? s = some .ground :=
    closed_of_reads (expressions (u := []) nofun (Nat.lt_succ_self _)) found ends
  refine ⟨closed, d.rest, ends, fun stops enough c start => ?_⟩
  have same := (expressions stops enough).follows (c := .start s) 0 (Nat.lt_succ_self _) closed
    start
  rw [same, found_eq_some.2 ⟨t, d, found, rfl, rfl⟩]
  rfl

theorem recognize_of_reads (h : (expression (s.length + 1)).Reads Term.erase s t rest)
    (ends : rest.dropWhile isSpace = []) :
    ∃ t', recognize filterText s = .ok t' ∧ t'.erase = t := by
  obtain ⟨t', d, found, same, rest_d⟩ := h.outcome (c := .start s) rfl
  exact ⟨t', recognize_filterText_eq_ok_iff.2 ⟨d, found, by rw [rest_d, ends]⟩, same⟩

end Grammar

open Grammar (Term)

variable {context : QueryContext} {text : String} {e : Expr}

theorem recognizeWithin_eq_ok_iff {α : Type} {limit : Binding.Bounds}
    {p : Nat → Grammar.Recognizer α} {a : α} : recognizeWithin limit p text = .ok a ↔
      Text.blank text = false ∧ (∀ n ∈ limit, Grammar.nestingOverflow? n text.toList = none) ∧
        Grammar.recognize p text.toList = .ok a := by
  unfold recognizeWithin
  cases Text.blank text with
  | true => simp
  | false =>
    cases limit with
    | none => cases Grammar.recognize p text.toList <;> simp
    | some n =>
      rw [Option.bind_some]
      cases deep : Grammar.nestingOverflow? n text.toList with
      | some => simp [deep]
      | none => cases Grammar.recognize p text.toList <;> simp [deep]

theorem parseFilterWithin_eq_ok_iff {limit : Binding.Bounds} :
    parseFilterWithin limit text context = .ok e ↔
      ∃ t, recognizeWithin limit Grammar.filterText text = .ok t ∧
        Binding.term context limit (.top context) t = .ok e ∧ e.type.isBoolean := by
  unfold parseFilterWithin
  simp only [Except.bind_eq_ok]
  constructor
  · rintro ⟨t, found, e', bound, h⟩
    split at h <;> cases h
    exact ⟨t, found, bound, ‹_›⟩
  · rintro ⟨t, found, bound, boolean⟩
    exact ⟨t, found, e, bound, by rw [if_pos boolean]; rfl⟩

theorem parseFilter_eq_ok_iff : parseFilter text context = .ok e ↔
    Text.blank text = false ∧ Grammar.nestingOverflow? maxDepth text.toList = none ∧
      ∃ t, Grammar.recognize Grammar.filterText text.toList = .ok t ∧
        Binding.term context (some maxDepth) (.top context) t = .ok e ∧ e.type.isBoolean := by
  unfold parseFilter
  simp only [parseFilterWithin_eq_ok_iff, recognizeWithin_eq_ok_iff, Option.mem_some_iff,
    forall_eq']
  constructor
  · rintro ⟨t, ⟨visible, shallow, found⟩, bound, boolean⟩
    exact ⟨visible, shallow, t, found, bound, boolean⟩
  · rintro ⟨visible, shallow, t, found, bound, boolean⟩
    exact ⟨t, ⟨visible, shallow, found⟩, bound, boolean⟩

/-- A text is accepted if it reads like a term that is bound to a truth value. -/
theorem parseFilter_of_reads {t : Term} {rest : List Char} (blank : Text.blank text = false)
    (shallow : Grammar.nestingOverflow? maxDepth text.toList = none)
    (reads : (Grammar.expression (text.toList.length + 1)).Reads Term.erase text.toList t.erase rest)
    (ends : rest.dropWhile Grammar.isSpace = [])
    (bound : Binding.term context (some maxDepth) (.top context) t = .ok e)
    (boolean : e.type.isBoolean) : parseFilter text context = .ok e := by
  obtain ⟨t', found, same⟩ := Grammar.recognize_of_reads reads ends
  exact parseFilter_eq_ok_iff.2
    ⟨blank, shallow, t', found, Binding.term_eq_ok_of_erase same.symm bound, boolean⟩

end RecordQuery
