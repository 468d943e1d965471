import RecordQuery.Proofs.Binding.Depth
import RecordQuery.Proofs.Parse.Recognition

/-!
# The guard against deep nesting

Texts are refused when their parentheses nest too deep, before their grammar is looked at, and when
an expression becomes too deep while it is bound. Both checks together refuse what is too deep and
nothing else: what is accepted is what would be accepted without them, no deeper than the limit.

## Main statements

* `parseFilterWithin_some_iff`, `parseOrderByWithin_some_iff`: what a limit refuses.
* `parse_guard`: what the limit of the library refuses.
-/

namespace RecordQuery

open Grammar (Nesting OrderTerm Term)

variable {context : QueryContext} {n : Nat} {text : String}

/-! ## Parentheses -/

/-- A limit refuses the recognized texts whose deepest place is too deep. -/
theorem recognizeWithin_some_iff {α : Type} {p : Nat → Grammar.Recognizer α} {a : α}
    (closed : Grammar.recognize p text.toList = .ok a →
      Nesting.ground.after? text.toList = some .ground) :
    recognizeWithin (some n) p text = .ok a ↔
      recognizeWithin none p text = .ok a ∧ Nesting.ground.peak text.toList ≤ n := by
  simp only [recognizeWithin_eq_ok_iff, Option.mem_some_iff, forall_eq', Option.not_mem_none,
    false_imp_iff, implies_true, true_and]
  constructor
  · rintro ⟨visible, shallow, found⟩
    exact ⟨⟨visible, found⟩, (Grammar.nestingOverflow?_eq_none_iff (closed found)).1 shallow⟩
  · rintro ⟨⟨visible, found⟩, shallow⟩
    exact ⟨visible, (Grammar.nestingOverflow?_eq_none_iff (closed found)).2 shallow, found⟩

/-! ## Filters -/

/-- A limit with room for a leaf refuses the filters whose text or expression is too deep. -/
theorem parseFilterWithin_some_iff (room : 0 < n) {e : Expr} :
    parseFilterWithin (some n) text context = .ok e ↔
      parseFilterWithin none text context = .ok e ∧ e.depth ≤ n ∧
        Nesting.ground.peak text.toList ≤ n := by
  have recognized : ∀ t, recognizeWithin (some n) Grammar.filterText text = .ok t ↔
      recognizeWithin none Grammar.filterText text = .ok t ∧
        Nesting.ground.peak text.toList ≤ n := fun t =>
    recognizeWithin_some_iff fun found => (Grammar.reads_of_recognize found).1
  simp only [parseFilterWithin_eq_ok_iff, recognized, Binding.term_eq_ok_iff room]
  constructor
  · rintro ⟨t, ⟨found, flat⟩, ⟨bound, shallow⟩, boolean⟩
    exact ⟨⟨t, found, bound, boolean⟩, shallow, flat⟩
  · rintro ⟨⟨t, found, bound, boolean⟩, shallow, flat⟩
    exact ⟨t, ⟨found, flat⟩, ⟨bound, shallow⟩, boolean⟩

/-! ## Order clauses -/

theorem bindOrderTerms_some_iff (room : 0 < n) {ts : List OrderTerm} {terms : List OrderByTerm} :
    bindOrderTerms (some n) context ts = .ok terms ↔
      bindOrderTerms none context ts = .ok terms ∧ ∀ term ∈ terms, term.expr.depth ≤ n := by
  induction ts generalizing terms with
  | nil =>
    refine ⟨fun h => ⟨h, ?_⟩, And.left⟩
    cases h
    simp
  | cons t rest ih =>
    unfold bindOrderTerms
    simp only [Except.bind_eq_ok, Binding.term_eq_ok_iff room, ih, Except.pure_eq, Except.ok.injEq]
    constructor
    · rintro ⟨e, ⟨bound, shallow⟩, more, ⟨others, all⟩, rfl⟩
      exact ⟨⟨e, bound, more, others, rfl⟩, List.forall_mem_cons.2 ⟨shallow, all⟩⟩
    · rintro ⟨⟨e, bound, more, others, rfl⟩, all⟩
      obtain ⟨shallow, all⟩ := List.forall_mem_cons.1 all
      exact ⟨e, ⟨bound, shallow⟩, more, ⟨others, all⟩, rfl⟩

/-- A limit with room for a leaf refuses the clauses whose text or one of whose terms is too deep. -/
theorem parseOrderByWithin_some_iff (room : 0 < n) {clause : OrderByClause} :
    parseOrderByWithin (some n) text context = .ok clause ↔
      parseOrderByWithin none text context = .ok clause ∧
        (∀ term ∈ clause.terms, term.expr.depth ≤ n) ∧ Nesting.ground.peak text.toList ≤ n := by
  have recognized : ∀ ts, recognizeWithin (some n) Grammar.orderByText text = .ok ts ↔
      recognizeWithin none Grammar.orderByText text = .ok ts ∧
        Nesting.ground.peak text.toList ≤ n := fun ts =>
    recognizeWithin_some_iff Grammar.closed_of_recognize_orderByText
  unfold parseOrderByWithin
  simp only [Except.bind_eq_ok, recognized, bindOrderTerms_some_iff room, Except.pure_eq,
    Except.ok.injEq]
  constructor
  · rintro ⟨ts, ⟨found, flat⟩, terms, ⟨bound, all⟩, rfl⟩
    exact ⟨⟨ts, found, terms, bound, rfl⟩, all, flat⟩
  · rintro ⟨⟨ts, found, terms, bound, rfl⟩, all, flat⟩
    exact ⟨ts, ⟨found, flat⟩, terms, ⟨bound, all⟩, rfl⟩

/-! ## The limit of the library -/

/-- A text is accepted if and only if it is accepted without a limit, and neither its parentheses nor
what it stands for nest deeper than the limit. What it stands for is the same then. -/
theorem parse_guard (text : String) (context : QueryContext) :
    (∀ e, parseFilter text context = .ok e ↔ parseFilterWithin none text context = .ok e ∧
      e.depth ≤ maxDepth ∧ Nesting.ground.peak text.toList ≤ maxDepth) ∧
    ∀ clause, parseOrderBy text context = .ok clause ↔
      parseOrderByWithin none text context = .ok clause ∧
        (∀ term ∈ clause.terms, term.expr.depth ≤ maxDepth) ∧
          Nesting.ground.peak text.toList ≤ maxDepth :=
  ⟨fun _ => parseFilterWithin_some_iff (by decide), fun _ => parseOrderByWithin_some_iff (by decide)⟩

end RecordQuery
