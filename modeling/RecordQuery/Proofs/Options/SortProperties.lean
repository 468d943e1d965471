import Mathlib.Data.List.Forall2
import RecordQuery.OrderBy
import RecordQuery.Proofs.Expr.Part
import RecordQuery.Proofs.Parse.Recognition

/-!
# Sort properties of clauses

A clause has a sort property for every term, in the order of the terms, if each term is a primitive
property of the element. Otherwise the first term that is none is at fault. A clause that was read
from a text has at least one term.

## Main definitions

* `Expr.SortsBy`: whether an expression is a primitive property of the element.

## Main statements

* `sortPropertiesFrom_eq_ok_iff`, `sortPropertiesFrom_eq_error_iff`: what the sort properties of
  terms are, and which term is at fault.
* `sortProperties_of_parseOrderBy`: clauses that were read have no other fault.
-/

namespace RecordQuery

/-! ## Terms -/

/-- Whether an expression is a primitive property of the element, perhaps through casts. -/
def Expr.SortsBy (e : Expr) (q : Property) : Prop :=
  ∃ type source prim, e = .property type source q ∧ q.type = .primitive prim ∧ source.CastOfElement

theorem Expr.sortProperty?_eq_some_iff {e : Expr} {q : Property} :
    e.sortProperty? = some q ↔ e.SortsBy q := by
  constructor
  · intro h
    unfold sortProperty? at h
    split at h
    case h_2 => cases h
    case h_1 type source q' =>
      split at h <;> cases h
      case isTrue primitive =>
        obtain ⟨primitive, element⟩ := Bool.and_eq_true_iff.1 primitive
        obtain ⟨prim, hp⟩ := Option.isSome_iff_exists.1 primitive
        refine ⟨type, source, prim, rfl, ?_, (isElement_iff source).1 element⟩
        unfold TypeRef.primitive? at hp
        split at hp <;> cases hp
        assumption
  · rintro ⟨type, source, prim, rfl, primitive, element⟩
    have element := (isElement_iff source).2 element
    simp [sortProperty?, primitive, TypeRef.primitive?, element]

theorem Expr.sortProperty?_eq_none_iff {e : Expr} :
    e.sortProperty? = none ↔ ¬ ∃ q, e.SortsBy q := by
  simp only [← sortProperty?_eq_some_iff, ← Option.isSome_iff_exists, Option.not_isSome_iff_eq_none]

theorem Expr.SortsBy.unique {e : Expr} {q r : Property} (h : e.SortsBy q) (h' : e.SortsBy r) :
    q = r :=
  Option.some.inj
    ((sortProperty?_eq_some_iff.2 h).symm.trans (sortProperty?_eq_some_iff.2 h'))

/-! ## Clauses -/

/-- Whether a sort property is the one of a term. -/
def OrderByTerm.Gives (t : OrderByTerm) (s : SortProperty) : Prop :=
  t.expr.SortsBy s.property ∧ s.direction = t.direction

theorem sortPropertiesFrom_eq_ok_iff {terms : List OrderByTerm} {index : Nat}
    {properties : List SortProperty} :
    sortPropertiesFrom index terms = .ok properties ↔
      List.Forall₂ OrderByTerm.Gives terms properties := by
  induction terms generalizing index properties with
  | nil => simp [sortPropertiesFrom, eq_comm]
  | cons t rest ih =>
    rw [List.forall₂_cons_left_iff]
    unfold sortPropertiesFrom
    split
    case h_1 missing =>
      have no_property := Expr.sortProperty?_eq_none_iff.1 missing
      constructor
      · intro h
        cases h
      · rintro ⟨s, _, gives, _⟩
        exact (no_property ⟨_, gives.1⟩).elim
    case h_2 q found =>
      have sorts := Expr.sortProperty?_eq_some_iff.1 found
      rw [Except.bind_eq_ok]
      constructor
      · rintro ⟨more, hm, h⟩
        cases h
        exact ⟨_, more, ⟨sorts, rfl⟩, ih.1 hm, rfl⟩
      · rintro ⟨⟨q', direction⟩, more, ⟨sorts', same⟩, hm, rfl⟩
        cases sorts.unique sorts'
        cases same
        exact ⟨more, ih.2 hm, rfl⟩

theorem sortPropertiesFrom_eq_error_iff {terms : List OrderByTerm} {index : Nat}
    {error : OrderByError} :
    sortPropertiesFrom index terms = .error error ↔
      ∃ before t after, terms = before ++ t :: after ∧ (∀ s ∈ before, ∃ q, s.expr.SortsBy q) ∧
        (¬ ∃ q, t.expr.SortsBy q) ∧
        error = .notAProperty (index + before.length) t.expr.text := by
  induction terms generalizing index with
  | nil => simp [sortPropertiesFrom]
  | cons t rest ih =>
    unfold sortPropertiesFrom
    split
    case h_1 missing =>
      have no_property := Expr.sortProperty?_eq_none_iff.1 missing
      constructor
      · intro h
        cases h
        exact ⟨[], t, rest, rfl, nofun, no_property, rfl⟩
      · rintro ⟨before, t', after, split, given, _, rfl⟩
        cases before with
        | nil =>
          cases split
          rfl
        | cons s before =>
          cases split
          exact (no_property (given _ List.mem_cons_self)).elim
    case h_2 q found =>
      have sorts := Expr.sortProperty?_eq_some_iff.1 found
      have rest_fails : (sortPropertiesFrom (index + 1) rest >>= fun more =>
          pure (⟨q, t.direction⟩ :: more)) = .error error ↔
            sortPropertiesFrom (index + 1) rest = .error error := by
        cases sortPropertiesFrom (index + 1) rest <;> simp
      rw [rest_fails, ih]
      constructor
      · rintro ⟨before, t', after, rfl, given, no_property, rfl⟩
        refine ⟨t :: before, t', after, rfl, List.forall_mem_cons.2 ⟨⟨q, sorts⟩, given⟩,
          no_property, ?_⟩
        rw [List.length_cons]
        congr 1
        omega
      · rintro ⟨before, t', after, split, given, no_property, rfl⟩
        cases before with
        | nil =>
          cases split
          exact (no_property ⟨q, sorts⟩).elim
        | cons s before =>
          cases split
          refine ⟨before, t', after, rfl, (List.forall_mem_cons.1 given).2, no_property, ?_⟩
          rw [List.length_cons]
          congr 1
          omega

theorem exists_sortsBy_of_gives {terms : List OrderByTerm} {properties : List SortProperty}
    (h : List.Forall₂ OrderByTerm.Gives terms properties) :
    ∀ t ∈ terms, ∃ q, t.expr.SortsBy q := by
  induction h with
  | nil => exact nofun
  | cons gives _ ih => exact List.forall_mem_cons.2 ⟨⟨_, gives.1⟩, ih⟩

theorem exists_gives_of_sortsBy {terms : List OrderByTerm}
    (h : ∀ t ∈ terms, ∃ q, t.expr.SortsBy q) :
    ∃ properties, List.Forall₂ OrderByTerm.Gives terms properties := by
  cases found : sortPropertiesFrom 0 terms with
  | ok properties => exact ⟨properties, sortPropertiesFrom_eq_ok_iff.1 found⟩
  | error error =>
    obtain ⟨before, t, after, rfl, -, missing, -⟩ := sortPropertiesFrom_eq_error_iff.1 found
    exact (missing (h t (by simp))).elim

/-! ## Clauses of texts -/

open Grammar (OrderTerm Recognizer)

variable {context : QueryContext} {limit : Binding.Bounds}

theorem length_bindOrderTerms (ts : List OrderTerm) {terms : List OrderByTerm}
    (h : bindOrderTerms limit context ts = .ok terms) : terms.length = ts.length := by
  induction ts generalizing terms with
  | nil =>
    cases h
    rfl
  | cons t rest ih =>
    obtain ⟨e, _, h⟩ := Except.bind_eq_ok.1 h
    obtain ⟨more, hm, h⟩ := Except.bind_eq_ok.1 h
    cases h
    simp [ih hm]

/-- What stands between commas is at least one thing. -/
theorem ne_nil_of_separated {α : Type} {p : Recognizer α} {c d : Grammar.Cursor} {found : List α}
    (h : (Grammar.separated p c).outcome = some (found, d)) : found ≠ [] := by
  unfold Grammar.separated at h
  simp only [Recognizer.outcome_bind, Option.bind_eq_some_iff, Recognizer.outcome_pure,
    Option.some.injEq, Prod.mk.injEq] at h
  obtain ⟨⟨first, _⟩, _, ⟨more, _⟩, _, rfl, _⟩ := h
  exact List.cons_ne_nil _ _

theorem terms_ne_nil_of_parseOrderBy {text : String} {clause : OrderByClause}
    (h : parseOrderBy text context = .ok clause) : clause.terms ≠ [] := by
  obtain ⟨ts, recognized, h⟩ := Except.bind_eq_ok.1 h
  obtain ⟨terms, bound, h⟩ := Except.bind_eq_ok.1 h
  cases h
  have some_term : ts ≠ [] := by
    obtain ⟨-, -, found⟩ := recognizeWithin_eq_ok_iff.1 recognized
    obtain ⟨d, outcome, -⟩ := Grammar.recognize_whole_eq_ok_iff.1 found
    exact ne_nil_of_separated outcome
  rw [← List.length_pos_iff, length_bindOrderTerms ts bound]
  exact List.length_pos_iff.2 some_term

/-- The sort properties of a clause that was read depend on its terms alone. -/
theorem sortProperties_of_parseOrderBy {text : String} {clause : OrderByClause}
    (h : parseOrderBy text context = .ok clause) :
    clause.sortProperties = sortPropertiesFrom 0 clause.terms := by
  have some_term := terms_ne_nil_of_parseOrderBy h
  rw [OrderByClause.sortProperties, if_neg (by simpa using some_term)]

end RecordQuery
