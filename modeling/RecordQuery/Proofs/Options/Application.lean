import RecordQuery.Proofs.Options.Admission
import RecordQuery.Proofs.Schema.Build

/-!
# Applying admitted requests

A request that a policy admits can be applied to any source. What stands in the way is one thing
only, which no policy looks for: two terms of the order clause that are the same property, however
each was reached. Then the first term whose property an earlier term has is at fault.

It does not matter whether the options are applied that were validated, which keep what they found,
or the ones from before.

## Main definitions

* `OrderByTerm.SameProperty`: whether two terms are the same property.
* `OrderByClause.Repeats`: the property of the first term that repeats another one.

## Main statements

* `applyOrderBy_eq_ok_iff`, `applyOrderBy_eq_error_iff`: when sort properties give an order.
* `QueryOptions.apply_of_validate`: when admitted options can be applied.
-/

namespace RecordQuery

/-! ## Repeated properties -/

/-- Whether two terms are the same property: one of the same name and the same declaring type. -/
def OrderByTerm.SameProperty (s t : OrderByTerm) : Prop :=
  ∃ q r, s.expr.SortsBy q ∧ t.expr.SortsBy r ∧ q.declaring = r.declaring ∧ q.name = r.name

/-- Whether a property is that of the first term of a clause that repeats an earlier one. -/
def OrderByClause.Repeats (clause : OrderByClause) (q : Property) : Prop :=
  ∃ before t after, clause.terms = before ++ t :: after ∧ t.expr.SortsBy q ∧
    (∃ s ∈ before, s.SameProperty t) ∧ before.Pairwise fun s s' => ¬ s.SameProperty s'

/-- Whether no two terms of a clause are the same property. -/
def OrderByClause.Distinct (clause : OrderByClause) : Prop :=
  clause.terms.Pairwise fun s t => ¬ s.SameProperty t

theorem Property.identity_eq_iff {q r : Property} :
    q.identity = r.identity ↔ q.declaring = r.declaring ∧ q.name = r.name := by
  simp [identity]

theorem OrderByTerm.sameProperty_iff {s t : OrderByTerm} {c d : SortProperty} (hs : s.Gives c)
    (ht : t.Gives d) : s.SameProperty t ↔ c.property.identity = d.property.identity := by
  rw [Property.identity_eq_iff]
  constructor
  · rintro ⟨q, r, hq, hr, same⟩
    rwa [hs.1.unique hq, ht.1.unique hr]
  · intro same
    exact ⟨_, _, hs.1, ht.1, same⟩

/-- Lists that match item by item are cut at the same place. -/
theorem forall₂_split {α β : Type} {R : α → β → Prop} {as : List α} {before after : List β} {b : β}
    (h : List.Forall₂ R as (before ++ b :: after)) :
    ∃ before' a after', as = before' ++ a :: after' ∧ List.Forall₂ R before' before ∧ R a b := by
  have start := List.forall₂_take_append _ _ _ h
  obtain ⟨a, after', here, -, rest⟩ :=
    List.forall₂_cons_right_iff.1 (List.forall₂_drop_append _ _ _ h)
  exact ⟨_, a, after', by rw [← rest, List.take_append_drop], start, here⟩

theorem pairwise_iff_nodup_identity {terms : List OrderByTerm} {properties : List SortProperty}
    (h : List.Forall₂ OrderByTerm.Gives terms properties) :
    terms.Pairwise (fun s t => ¬ s.SameProperty t) ↔
      (properties.map (·.property.identity)).Nodup := by
  induction h with
  | nil => simp
  | @cons t c terms properties gives rest ih =>
    have others : (∀ s ∈ terms, ¬ t.SameProperty s) ↔
        c.property.identity ∉ properties.map (·.property.identity) := by
      clear ih
      induction rest with
      | nil => simp
      | cons gives' _ ih =>
        rw [List.forall_mem_cons, OrderByTerm.sameProperty_iff gives gives', ih, List.map_cons,
          List.mem_cons, not_or]
    rw [List.pairwise_cons, List.map_cons, List.nodup_cons, ih, others]

theorem repeatedProperty?_eq_none_iff {clause : OrderByClause} {properties : List SortProperty}
    (h : List.Forall₂ OrderByTerm.Gives clause.terms properties) :
    repeatedProperty? properties = none ↔ clause.Distinct := by
  rw [repeatedProperty?, Option.map_eq_none_iff, firstRepeat?_eq_none_iff,
    OrderByClause.Distinct, pairwise_iff_nodup_identity h]
  simp

/-- The same property is met before a term and before its sort property. -/
theorem exists_sameProperty_iff {before : List OrderByTerm} {properties : List SortProperty}
    {t : OrderByTerm} {c : SortProperty} (h : List.Forall₂ OrderByTerm.Gives before properties)
    (here : t.Gives c) : (∃ s ∈ before, s.SameProperty t) ↔
      c.property.identity ∈ properties.map (·.property.identity) := by
  induction h with
  | nil => simp
  | cons gives _ ih =>
    rw [List.exists_mem_cons_iff, OrderByTerm.sameProperty_iff gives here, ih, List.map_cons,
      List.mem_cons, eq_comm]

theorem repeatedProperty?_eq_some_iff {clause : OrderByClause} {properties : List SortProperty}
    (h : List.Forall₂ OrderByTerm.Gives clause.terms properties) {name : String} :
    repeatedProperty? properties = some name ↔ ∃ q, clause.Repeats q ∧ name = q.name := by
  rw [repeatedProperty?, Option.map_eq_some_iff]
  simp only [firstRepeat?_eq_some_iff, List.not_mem_nil, false_or, not_false_eq_true,
    implies_true, and_true]
  constructor
  · rintro ⟨_, ⟨_, _, split, again, distinct⟩, rfl⟩
    obtain ⟨before, rest, rfl, rfl, cut⟩ := List.map_eq_append_iff.1 split
    obtain ⟨c, after, rfl, rfl, rfl⟩ := List.map_eq_cons_iff.1 cut
    obtain ⟨before', t, after', split, matched, here⟩ := forall₂_split h
    exact ⟨c.property, ⟨before', t, after', split, here.1,
      (exists_sameProperty_iff matched here).2 again,
      (pairwise_iff_nodup_identity matched).2 distinct⟩, rfl⟩
  · rintro ⟨q, ⟨before, t, after, split, sorts, again, distinct⟩, rfl⟩
    rw [split] at h
    obtain ⟨before', c, after', rfl, matched, here⟩ := forall₂_split h.flip
    have matched : List.Forall₂ OrderByTerm.Gives before before' := matched.flip
    have here : t.Gives c := here
    refine ⟨c.property.identity, ⟨before'.map (·.property.identity),
      after'.map (·.property.identity), by simp, ?_, ?_⟩, ?_⟩
    · exact (exists_sameProperty_iff matched here).1 again
    · exact (pairwise_iff_nodup_identity matched).1 distinct
    · rw [sorts.unique here.1]
      rfl

section Sources

variable {σ ο α : Type} [Queryable σ ο α] [HasRecord α] {clause : OrderByClause}
  {properties : List SortProperty}

theorem applyOrderBy_eq_ok_iff (some_term : clause.terms ≠ [])
    (h : List.Forall₂ OrderByTerm.Gives clause.terms properties) (source : σ) :
    (∃ ordered, applyOrderBy properties source = .ok ordered) ↔ clause.Distinct := by
  rw [← repeatedProperty?_eq_none_iff h]
  unfold applyOrderBy
  cases repeatedProperty? properties with
  | some name => simp
  | none =>
    cases properties with
    | nil => exact (some_term (List.forall₂_nil_right_iff.1 h)).elim
    | cons => simp

theorem applyOrderBy_eq_error_iff (some_term : clause.terms ≠ [])
    (h : List.Forall₂ OrderByTerm.Gives clause.terms properties) (source : σ)
    {error : OrderByError} : applyOrderBy properties source = .error error ↔
      ∃ q, clause.Repeats q ∧ error = .duplicateProperty q.name := by
  have names : (∃ q, clause.Repeats q ∧ error = .duplicateProperty q.name) ↔
      ∃ name, repeatedProperty? properties = some name ∧ error = .duplicateProperty name := by
    simp only [repeatedProperty?_eq_some_iff h]
    exact ⟨fun ⟨q, repeats, same⟩ => ⟨q.name, ⟨q, repeats, rfl⟩, same⟩,
      fun ⟨_, ⟨q, repeats, rfl⟩, same⟩ => ⟨q, repeats, same⟩⟩
  rw [names]
  unfold applyOrderBy
  cases repeatedProperty? properties with
  | some name => simp [eq_comm]
  | none =>
    cases properties with
    | nil => exact (some_term (List.forall₂_nil_right_iff.1 h)).elim
    | cons => simp

end Sources

/-! ## Options -/

section Options

variable {σ ο α : Type} [Queryable σ ο α] [HasRecord α] {context : QueryContext} {text : String}

theorem FilterOption.apply_eq (o : FilterOption) (source : σ) :
    o.apply source =
      ((o.expr.1.mapError .parse).map (applyFilter · o.expr.2.context source), o.expr.2) := by
  unfold FilterOption.apply
  rcases o.expr with ⟨_ | e, o'⟩ <;> rfl

theorem FilterOption.IsFor.apply {o : FilterOption} (h : o.IsFor text context) {e : Expr}
    (parsed : parseFilter text context = .ok e) (source : σ) :
    ∃ filtered, o.apply source = (.ok filtered, o.expr.2) := by
  rw [apply_eq, h.expr_eq, parsed]
  exact ⟨_, rfl⟩

theorem OrderByOption.apply_eq (o : OrderByOption) (source : σ) :
    o.apply source = (o.sortProperties.1 >>= fun properties =>
      (RecordQuery.applyOrderBy properties source).mapError .orderBy, o.sortProperties.2) := by
  unfold OrderByOption.apply
  rcases o.sortProperties with ⟨_ | properties, o'⟩
  · rfl
  · dsimp only
    rw [Except.ok_bind]
    cases RecordQuery.applyOrderBy properties source <;> rfl

theorem OrderByOption.IsFor.apply {o : OrderByOption} (h : o.IsFor text context)
    {properties : List SortProperty} (found : propertiesOf text context = .ok properties)
    (source : σ) : (o.apply source).1 = (applyOrderBy properties source).mapError .orderBy := by
  rw [apply_eq, h.sortProperties_eq, found]
  rfl

theorem OrderByOption.propertiesOf_eq_ok {clause : OrderByClause}
    {properties : List SortProperty} (parsed : parseOrderBy text context = .ok clause)
    (h : List.Forall₂ OrderByTerm.Gives clause.terms properties) :
    propertiesOf text context = .ok properties := by
  unfold propertiesOf
  rw [parsed]
  change clause.sortProperties.mapError QueryError.orderBy = _
  rw [Except.mapError_eq_ok, sortProperties_of_parseOrderBy parsed]
  exact sortPropertiesFrom_eq_ok_iff.2 h

namespace QueryOptions

variable {params : List (String × String)} {o : QueryOptions} {p : Policy}

/-- A filter that can be parsed filters any source. -/
theorem AreFor.applyFilter (h : o.AreFor context params)
    (parses : ∀ text, params.lookup "$filter" = some text → ∃ e, parseFilter text context = .ok e)
    (source : σ) : ∃ filtered o', o.applyFilter source = (.ok filtered, o') ∧
      o'.AreFor context params := by
  unfold QueryOptions.applyFilter
  split
  case h_1 => exact ⟨source, o, rfl, h⟩
  case h_2 f given =>
    have stands := h.filter
    rw [given] at stands
    cases lookup : params.lookup "$filter" with
    | none =>
      rw [lookup] at stands
      cases stands
    | some text =>
      rw [lookup] at stands
      cases stands with
      | some stands =>
        obtain ⟨e, parsed⟩ := parses text lookup
        obtain ⟨filtered, applied⟩ := stands.apply parsed source
        rw [applied]
        exact ⟨filtered, _, rfl, h.setFilter given fun _ stands => stands.expr⟩

/-- A source is ordered as the properties of the clause say, if there is one. -/
theorem AreFor.applyOrderBy (h : o.AreFor context params) (source : σ) :
    (params.lookup "$orderby" = none → o.applyOrderBy source = (.ok source, o)) ∧
    ∀ text properties, params.lookup "$orderby" = some text →
      OrderByOption.propertiesOf text context = .ok properties →
      (o.applyOrderBy source).1 =
        ((RecordQuery.applyOrderBy properties source).map Queryable.plain).mapError .orderBy := by
  have stands := h.orderBy
  unfold QueryOptions.applyOrderBy
  constructor
  · intro missing
    rw [missing] at stands
    cases given : o.orderBy with
    | none => rfl
    | some f =>
      rw [given] at stands
      cases stands
  · intro text properties given found
    rw [given] at stands
    cases kept : o.orderBy with
    | none =>
      rw [kept] at stands
      cases stands
    | some f =>
      rw [kept] at stands
      cases stands with
      | some stands =>
        have answer := stands.apply found source
        dsimp only
        split
        case h_1 heq =>
          rw [heq] at answer
          rw [Except.mapError_eq_ok.1 answer.symm]
          rfl
        case h_2 heq =>
          rw [heq] at answer
          obtain ⟨fault, failed, rfl⟩ := Except.mapError_eq_error.1 answer.symm
          rw [failed]
          rfl

/-- Options whose filter can be parsed give what ordering gives. -/
theorem AreFor.apply (h : o.AreFor context params)
    (parses : ∀ text, params.lookup "$filter" = some text → ∃ e, parseFilter text context = .ok e)
    (source : σ) : ∃ (filtered : σ) (o' : QueryOptions), o'.AreFor context params ∧
      ((∃ q, (o.apply source).1 = .ok q) ↔ ∃ q, (o'.applyOrderBy filtered).1 = .ok q) ∧
      ∀ error, (o.apply source).1 = .error error ↔ (o'.applyOrderBy filtered).1 = .error error := by
  obtain ⟨filtered, o', filters, stands⟩ := h.applyFilter parses source
  refine ⟨filtered, o', stands, ?_⟩
  unfold QueryOptions.apply
  rw [filters]
  dsimp only
  split
  case h_1 heq => simp [heq]
  case h_2 heq => simp [heq]

/-- Options whose order clause has sort properties can be applied unless one of these repeats. -/
theorem AreFor.apply_iff (h : o.AreFor context params)
    (parses : ∀ text, params.lookup "$filter" = some text → ∃ e, parseFilter text context = .ok e)
    {clause : OrderByClause} {properties : List SortProperty}
    (given : params.lookup "$orderby" = some text)
    (parsed : parseOrderBy text context = .ok clause)
    (gives : List.Forall₂ OrderByTerm.Gives clause.terms properties) (source : σ) :
    ((∃ q, (o.apply source).1 = .ok q) ↔ clause.Distinct) ∧
    ∀ error, (o.apply source).1 = .error error ↔
      ∃ q, clause.Repeats q ∧ error = .orderBy (.duplicateProperty q.name) := by
  obtain ⟨filtered, o', stands, succeeds, fails⟩ := h.apply parses source
  have some_term := terms_ne_nil_of_parseOrderBy parsed
  have answer := (stands.applyOrderBy filtered).2 text properties given
    (OrderByOption.propertiesOf_eq_ok parsed gives)
  simp only [succeeds, fails, answer]
  constructor
  · rw [← applyOrderBy_eq_ok_iff some_term gives filtered]
    cases RecordQuery.applyOrderBy properties filtered <;> simp [Except.map]
  · intro error
    have faults : (∃ q, clause.Repeats q ∧ error = .orderBy (.duplicateProperty q.name)) ↔
        ∃ fault, RecordQuery.applyOrderBy properties filtered = .error fault ∧
          error = .orderBy fault := by
      simp only [applyOrderBy_eq_error_iff some_term gives filtered]
      exact ⟨fun ⟨q, repeats, same⟩ => ⟨_, ⟨q, repeats, rfl⟩, same⟩,
        fun ⟨_, ⟨q, repeats, rfl⟩, same⟩ => ⟨q, repeats, same⟩⟩
    rw [faults]
    cases RecordQuery.applyOrderBy properties filtered <;>
      simp [Except.map, eq_comm]

/-- Admitted options can be applied to any source, unless two terms of the order clause are the same
property. Then the first term that repeats an earlier one is at fault. -/
theorem apply_of_validate {applied : QueryOptions} (accepted : ofParams context params = .ok o)
    (valid : (o.validate p).1 = .ok ()) (memo : applied = o ∨ applied = (o.validate p).2)
    (source : σ) :
    ((∃ q, (applied.apply source).1 = .ok q) ↔ ∀ text clause,
      params.lookup "$orderby" = some text → parseOrderBy text context = .ok clause →
        clause.Distinct) ∧
    ∀ error, (applied.apply source).1 = .error error ↔ ∃ text clause q,
      params.lookup "$orderby" = some text ∧ parseOrderBy text context = .ok clause ∧
        clause.Repeats q ∧ error = .orderBy (.duplicateProperty q.name) := by
  have stands : applied.AreFor context params := by
    have before : o.AreFor context params := by
      rw [(ofParams_eq_ok_iff.1 accepted).2]
      exact areFor_requested
    obtain rfl | rfl := memo
    · exact before
    · exact before.validate p
  have admits := (validate_eq_ok_iff accepted).1 valid
  have parses : ∀ text, params.lookup "$filter" = some text →
      ∃ e, parseFilter text context = .ok e := by
    intro text given
    obtain ⟨e, parsed, -⟩ := (admits .filter text given).2
    exact ⟨e, parsed⟩
  cases given : params.lookup "$orderby" with
  | none =>
    obtain ⟨filtered, o', stands', succeeds, fails⟩ := stands.apply parses source
    have answer := (stands'.applyOrderBy filtered).1 given
    simp [succeeds, fails, answer]
  | some text =>
    obtain ⟨clause, parsed, listed⟩ := (admits .orderBy text given).2
    obtain ⟨properties, gives⟩ := exists_gives_of_sortsBy fun t mem =>
      let ⟨q, sorts, _⟩ := listed t mem
      ⟨q, sorts⟩
    obtain ⟨succeeds, fails⟩ := stands.apply_iff parses given parsed gives source
    have only : ∀ text' clause', some text = some text' →
        parseOrderBy text' context = .ok clause' → clause' = clause := by
      intro text' clause' same parsed'
      cases same
      exact Except.ok.inj (parsed'.symm.trans parsed)
    rw [succeeds]
    refine ⟨⟨fun distinct text' clause' same parsed' => ?_, fun h => h text clause rfl parsed⟩,
      fun error => (fails error).trans ⟨?_, ?_⟩⟩
    · exact only text' clause' same parsed' ▸ distinct
    · rintro ⟨q, repeats, rfl⟩
      exact ⟨text, clause, q, rfl, parsed, repeats, rfl⟩
    · rintro ⟨text', clause', q, same, parsed', repeats, rfl⟩
      exact ⟨q, only text' clause' same parsed' ▸ repeats, rfl⟩

end QueryOptions

end Options

/-- An order of lines by their quantities, their notes, and again their quantities. -/
def repeatingParams : List (String × String) := [("$orderby", "Quantity,Note,Quantity desc")]

theorem QueryOptions.apply_of_validate_repeating : ∃ o, ofParams lineContext repeatingParams = .ok o ∧
    (o.validate .permissive).1 = .ok () ∧
    ((o.validate .permissive).2.apply (Pipeline.ofItems lines)).1.toBool = false ∧
    ∃ text clause q, repeatingParams.lookup "$orderby" = some text ∧
      parseOrderBy text lineContext = .ok clause ∧ clause.Repeats q ∧ q.name = "Quantity" := by
  have known : (ofParams lineContext repeatingParams).toOption.map (fun o =>
      ((o.validate .permissive).1,
        match ((o.validate .permissive).2.apply (Pipeline.ofItems lines)).1 with
        | .ok _ => none
        | .error error => some error)) =
      some (.ok (), some (.orderBy (.duplicateProperty "Quantity"))) := by decide +kernel
  obtain ⟨o, accepted, known⟩ := Option.map_eq_some_iff.1 known
  obtain ⟨valid, fails⟩ := Prod.mk.inj known
  have accepted := Except.toOption_eq_some.1 accepted
  have fails : ((o.validate .permissive).2.apply (Pipeline.ofItems lines)).1 =
      .error (.orderBy (.duplicateProperty "Quantity")) := by
    split at fails <;> simp_all
  obtain ⟨text, clause, q, given, parsed, repeats, same⟩ :=
    ((apply_of_validate accepted valid (.inr rfl) (Pipeline.ofItems lines)).2 _).1 fails
  refine ⟨o, accepted, valid, by rw [fails]; rfl, text, clause, q, given, parsed, repeats, ?_⟩
  simpa [eq_comm] using same

end RecordQuery
