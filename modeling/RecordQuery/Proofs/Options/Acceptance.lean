import RecordQuery.Proofs.Options.Parameters
import RecordQuery.Proofs.Text.Basic

/-!
# Acceptable parameters

Whether parameters are accepted can be said of all of them together: every option occurs at most once,
no value of an option is blank, and those of the paging options are decimal numbers of 64 bits. The
options then hold these values as they are, and the numbers that they denote. None of this depends on
the order of the parameters or on parameters of other names.

## Main definitions

* `AcceptableParams`: which parameters are accepted.
* `QueryOptions.Holds`: whether options are those of some parameters.

## Main statements

* `wellFormedParams_iff`: the texts of all options can be read if the parameters are acceptable.
* `QueryOptions.ofParams_eq_ok_iff_holds`: acceptable parameters have exactly the options they hold.
* `QueryOptions.ofParams_perm`: permuted parameters have the same options.
* `QueryOptions.ofParams_accepts`: acceptance, its result, and what they do not depend on.
-/

namespace RecordQuery

/-! ## Acceptable parameters -/

/-- Whether a text is a decimal number of 64 bits. -/
def PagingOption.IsCount (raw : String) : Prop :=
  raw ≠ "" ∧ (∀ c ∈ raw.toList, c.isDigit) ∧ Text.denoted raw.toList ≤ 2 ^ 64 - 1

theorem PagingOption.count?_eq_some_iff {raw : String} {n : Nat} :
    count? raw.toList = some n ↔ IsCount raw ∧ n = Text.denoted raw.toList := by
  have digits : ¬ (raw.toList.isEmpty || !raw.toList.all Char.isDigit) ↔
      raw ≠ "" ∧ ∀ c ∈ raw.toList, c.isDigit := by simp
  have fits : Text.denoted raw.toList < 2 ^ 64 ↔ Text.denoted raw.toList ≤ 2 ^ 64 - 1 := by omega
  unfold count? IsCount
  rw [← and_assoc, ← digits, ← fits, Text.digitsValue_eq_denoted]
  grind

/-- Whether every option occurs at most once among parameters, no value of an option is blank, and
those of the paging options are decimal numbers of 64 bits. -/
structure AcceptableParams (params : List (String × String)) : Prop where
  once : ∀ kind : OptionKind, (params.map Prod.fst).count kind.text ≤ 1
  filled : ∀ (kind : OptionKind) (raw : String), (kind.text, raw) ∈ params →
    ∃ c ∈ raw.toList, Text.isBlank c = false
  counts : ∀ (kind : PagingKind) (raw : String), (kind.option.text, raw) ∈ params →
    PagingOption.IsCount raw

variable {params params' : List (String × String)} {context : QueryContext} {o : QueryOptions}

theorem mem_textsOf {kind : OptionKind} {raw : String} :
    raw ∈ textsOf kind params ↔ (kind.text, raw) ∈ params := by
  simp [textsOf]

theorem length_textsOf (kind : OptionKind) (params : List (String × String)) :
    (textsOf kind params).length = (params.map Prod.fst).count kind.text := by
  induction params with
  | nil => rfl
  | cons param rest ih =>
    obtain ⟨name, raw⟩ := param
    rw [textsOf_cons, List.map_cons, List.count_cons, ← ih]
    by_cases same : name = kind.text <;> simp [same]

/-- Parameters are accepted if they are acceptable. -/
theorem wellFormedParams_iff : WellFormedParams params ↔ AcceptableParams params := by
  have number : ∀ raw : String,
      (PagingOption.count? raw.toList).isSome ↔ PagingOption.IsCount raw := fun raw => by
    simp [Option.isSome_iff_exists, PagingOption.count?_eq_some_iff]
  simp only [WellFormedParams, OptionKind.Reads, mem_textsOf, length_textsOf,
    Text.blank_eq_false_iff, number]
  constructor
  · intro wellFormed
    refine ⟨fun kind => (wellFormed kind).1, fun kind raw mem => ((wellFormed kind).2 raw mem).1,
      fun kind raw mem => ((wellFormed kind.option).2 raw mem).2 ?_⟩
    cases kind <;> simp [PagingKind.option]
  · rintro ⟨once, filled, counts⟩ kind
    refine ⟨once kind, fun raw mem => ⟨filled kind raw mem, ?_⟩⟩
    rintro (rfl | rfl)
    · exact counts .skip raw mem
    · exact counts .top raw mem

/-- The value of an option that occurs at most once is known by its occurrence. -/
theorem lookup_eq_some_iff (h : AcceptableParams params) {kind : OptionKind} {raw : String} :
    params.lookup kind.text = some raw ↔ (kind.text, raw) ∈ params := by
  rw [← head?_textsOf, ← mem_textsOf]
  have once : (textsOf kind params).length ≤ 1 := by
    rw [length_textsOf]
    exact h.once kind
  match textsOf kind params, once with
  | [], _ => simp
  | [other], _ => simp [eq_comm]

namespace QueryOptions

/-! ## Options of parameters -/

/-- Whether options are those of some parameters: an option is there with a value if it occurs with
that value, nothing has been parsed yet, and paging options have the numbers that they denote. -/
structure Holds (o : QueryOptions) (context : QueryContext) (params : List (String × String)) :
    Prop where
  context_eq : o.context = context
  filter : ∀ f, o.filter = some f ↔ ∃ raw, ("$filter", raw) ∈ params ∧ f = ⟨raw, context, none⟩
  orderBy : ∀ s, o.orderBy = some s ↔
    ∃ raw, ("$orderby", raw) ∈ params ∧ s = ⟨raw, context, none, none⟩
  skip : ∀ n, o.skip = some n ↔
    ∃ raw, ("$skip", raw) ∈ params ∧ n = ⟨.skip, raw, Text.denoted raw.toList⟩
  top : ∀ n, o.top = some n ↔
    ∃ raw, ("$top", raw) ∈ params ∧ n = ⟨.top, raw, Text.denoted raw.toList⟩

theorem Holds.unique {o' : QueryOptions} (h : o.Holds context params)
    (h' : o'.Holds context params) : o = o' := by
  cases o
  cases o'
  obtain ⟨rfl, filter, orderBy, skip, top⟩ := h
  obtain ⟨rfl, filter', orderBy', skip', top'⟩ := h'
  congr 1
  · exact Option.ext fun f => (filter f).trans (filter' f).symm
  · exact Option.ext fun s => (orderBy s).trans (orderBy' s).symm
  · exact Option.ext fun n => (skip n).trans (skip' n).symm
  · exact Option.ext fun n => (top n).trans (top' n).symm

theorem requested_holds (h : AcceptableParams params) :
    (requested context params).Holds context params := by
  have texts : ∀ (kind : OptionKind) (raw : String),
      params.lookup kind.text = some raw ↔ (kind.text, raw) ∈ params :=
    fun _ _ => lookup_eq_some_iff h
  have paging : ∀ (kind : PagingKind) (n : PagingOption),
      (params.lookup kind.option.text).bind (PagingOption.ofText? kind) = some n ↔
        ∃ raw, (kind.option.text, raw) ∈ params ∧ n = ⟨kind, raw, Text.denoted raw.toList⟩ := by
    intro kind n
    simp only [Option.bind_eq_some_iff, texts]
    refine exists_congr fun raw => and_congr_right fun mem => ?_
    have count := PagingOption.count?_eq_some_iff.2 ⟨h.counts kind raw mem, rfl⟩
    rw [PagingOption.ofText?, count, Option.map_some, Option.some.injEq, eq_comm]
  refine ⟨rfl, fun f => ?_, fun s => ?_, paging .skip, paging .top⟩
  · rw [requested, Option.map_eq_some_iff]
    exact exists_congr fun raw => and_congr (texts .filter raw) eq_comm
  · rw [requested, Option.map_eq_some_iff]
    exact exists_congr fun raw => and_congr (texts .orderBy raw) eq_comm

/-- Acceptable parameters have exactly the options that they hold. -/
theorem ofParams_eq_ok_iff_holds :
    ofParams context params = .ok o ↔ AcceptableParams params ∧ o.Holds context params := by
  rw [ofParams_eq_ok_iff, wellFormedParams_iff]
  refine and_congr_right fun acceptable => ?_
  constructor
  · rintro rfl
    exact requested_holds acceptable
  · exact fun holds => holds.unique (requested_holds acceptable)

end QueryOptions

/-! ## Irrelevant differences -/

/-- Whether two lists of parameters give the same values to the options, as often. -/
structure SameOptions (params params' : List (String × String)) : Prop where
  names : ∀ kind : OptionKind,
    (params.map Prod.fst).count kind.text = (params'.map Prod.fst).count kind.text
  values : ∀ (kind : OptionKind) (raw : String),
    (kind.text, raw) ∈ params ↔ (kind.text, raw) ∈ params'

theorem SameOptions.symm (same : SameOptions params params') : SameOptions params' params :=
  ⟨fun kind => (same.names kind).symm, fun kind raw => (same.values kind raw).symm⟩

/-- Neither the order of parameters matters nor others of other names. -/
theorem sameOptions_of_perm {others : List (String × String)}
    (foreign : ∀ p ∈ others, ∀ kind : OptionKind, p.1 ≠ kind.text)
    (perm : params'.Perm (params ++ others)) : SameOptions params params' := by
  refine ⟨fun kind => ?_, fun kind raw => ?_⟩
  · have none : kind.text ∉ others.map Prod.fst := by
      intro mem
      obtain ⟨p, member, name⟩ := List.mem_map.1 mem
      exact foreign p member kind name
    rw [(perm.map Prod.fst).count_eq, List.map_append, List.count_append,
      List.count_eq_zero_of_not_mem none, Nat.add_zero]
  · rw [perm.mem_iff, List.mem_append]
    exact (or_iff_left fun mem => foreign _ mem kind rfl).symm

theorem AcceptableParams.of_same (h : AcceptableParams params) (same : SameOptions params params') :
    AcceptableParams params' where
  once kind := same.names kind ▸ h.once kind
  filled kind raw mem := h.filled kind raw ((same.values kind raw).2 mem)
  counts kind raw mem := h.counts kind raw ((same.values kind.option raw).2 mem)

namespace QueryOptions

theorem Holds.of_same (h : o.Holds context params) (same : SameOptions params params') :
    o.Holds context params' := by
  have values : ∀ (kind : OptionKind) (q : String → Prop),
      (∃ raw, (kind.text, raw) ∈ params ∧ q raw) ↔ ∃ raw, (kind.text, raw) ∈ params' ∧ q raw :=
    fun kind q => exists_congr fun raw => and_congr_left' (same.values kind raw)
  exact ⟨h.context_eq, fun f => (h.filter f).trans (values .filter _),
    fun s => (h.orderBy s).trans (values .orderBy _), fun n => (h.skip n).trans (values .skip _),
    fun n => (h.top n).trans (values .top _)⟩

theorem ofParams_of_same (same : SameOptions params params') (h : ofParams context params = .ok o) :
    ofParams context params' = .ok o := by
  obtain ⟨acceptable, holds⟩ := ofParams_eq_ok_iff_holds.1 h
  exact ofParams_eq_ok_iff_holds.2 ⟨acceptable.of_same same, holds.of_same same⟩

/-- The order of accepted parameters does not matter. -/
theorem ofParams_perm (perm : params'.Perm params) (h : ofParams context params = .ok o) :
    ofParams context params' = .ok o := by
  have same : params'.Perm (params ++ []) := by rwa [List.append_nil]
  exact ofParams_of_same (sameOptions_of_perm (List.forall_mem_nil _) same) h

/-- Parameters are accepted exactly if they are acceptable, and have the options that they hold.
Neither permuting parameters nor inserting others of other names changes that. -/
theorem ofParams_accepts (context : QueryContext) (params : List (String × String)) :
    ((∃ o, ofParams context params = .ok o) ↔ AcceptableParams params) ∧
    (∀ o, ofParams context params = .ok o → o.Holds context params) ∧
    ∀ (others params' : List (String × String)),
      (∀ p ∈ others, ∀ kind : OptionKind, p.1 ≠ kind.text) → params'.Perm (params ++ others) →
        ∀ o, ofParams context params' = .ok o ↔ ofParams context params = .ok o := by
  refine ⟨⟨?_, fun acceptable => ?_⟩, fun o h => (ofParams_eq_ok_iff_holds.1 h).2, ?_⟩
  · rintro ⟨o, h⟩
    exact (ofParams_eq_ok_iff_holds.1 h).1
  · exact ⟨_, ofParams_eq_ok_iff_holds.2 ⟨acceptable, requested_holds acceptable⟩⟩
  · intro others params' foreign perm o
    have same := sameOptions_of_perm foreign perm
    exact ⟨ofParams_of_same same.symm, ofParams_of_same same⟩

/-- Seven records of the greatest quantity, with a number that has leading zeros, and a parameter that
is no option. -/
theorem ofParams_accepts_seven : ∃ o,
    ofParams default [("$format", "json"), ("$top", "007"), ("$orderby", "Quantity desc")] = .ok o ∧
      o.top = some ⟨.top, "007", 7⟩ ∧ o.skip = none := by
  let params : List (String × String) := [("$orderby", "Quantity desc"), ("$top", "007")]
  have acceptable : AcceptableParams params := by
    refine ⟨fun kind => by cases kind <;> decide, fun kind raw mem => ?_, fun kind raw mem => ?_⟩
    · have value : raw = "Quantity desc" ∨ raw = "007" := by grind
      obtain rfl | rfl := value
      · exact ⟨'Q', by decide, by decide⟩
      · exact ⟨'7', by decide, by decide⟩
    · have value : raw = "007" := by
        cases kind <;> simp_all [params, PagingKind.option, OptionKind.text]
      subst value
      exact ⟨by decide, List.all_eq_true.1 (by decide), by decide⟩
  obtain ⟨accepted, held, unchanged⟩ := ofParams_accepts default params
  obtain ⟨o, given⟩ := accepted.2 acceptable
  have holds := held o given
  refine ⟨o, (unchanged [("$format", "json")] _ ?_ (by decide) o).2 given, ?_, ?_⟩
  · rintro p mem kind
    cases List.mem_singleton.1 mem
    cases kind <;> decide
  · exact (holds.top _).2 ⟨"007", by decide, by decide⟩
  · refine Option.eq_none_iff_forall_ne_some.2 fun n skip => ?_
    obtain ⟨raw, mem, -⟩ := (holds.skip n).1 skip
    simp [params] at mem

end QueryOptions

end RecordQuery
