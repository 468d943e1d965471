import RecordQuery.Options.Basic
import RecordQuery.Proofs.Except

/-!
# Options among parameters

Parameters are accepted if every option occurs at most once among them and every text of an option
can be read. The options are then known from the texts alone, so neither the order of the parameters
nor any other parameters matter.

The invariant of the collection is that an option that was added before must not occur again: then
the options that are there stay, and the others come from the parameters that are left.

## Main definitions

* `textsOf`: the texts that parameters give for an option.
* `WellFormedParams`: whether parameters are accepted.
* `QueryOptions.requested`: the options of accepted parameters.

## Main statements

* `QueryOptions.ofParams_eq_ok_iff`: which parameters are accepted, and what their options are.
-/

namespace RecordQuery

/-! ## Texts of options -/

theorem OptionKind.text_inj {kind other : OptionKind} : kind.text = other.text ↔ kind = other := by
  cases kind <;> cases other <;> decide

theorem OptionKind.ofText?_eq_some {name : String} {kind : OptionKind} :
    PolicyTag.ofText? name = some kind ↔ kind.text = name := by
  constructor
  · intro h
    exact eq_of_beq (List.find?_some h :)
  · rintro rfl
    cases kind <;> rfl

/-- The texts that parameters give for an option. -/
def textsOf (kind : OptionKind) (params : List (String × String)) : List String :=
  params.filterMap fun (name, raw) => if name = kind.text then some raw else none

theorem textsOf_cons (kind : OptionKind) (name raw : String) (rest : List (String × String)) :
    textsOf kind ((name, raw) :: rest) =
      if name = kind.text then raw :: textsOf kind rest else textsOf kind rest := by
  rw [textsOf, List.filterMap_cons]
  split <;> simp_all [textsOf]

theorem head?_textsOf (kind : OptionKind) (params : List (String × String)) :
    (textsOf kind params).head? = params.lookup kind.text := by
  induction params with
  | nil => rfl
  | cons param rest ih =>
    obtain ⟨name, raw⟩ := param
    rw [textsOf_cons, List.lookup_cons]
    by_cases same : name = kind.text
    · rw [if_pos same, same, beq_self_eq_true]
      rfl
    · rw [if_neg same, ih, beq_false_of_ne (Ne.symm same)]

/-- The paging option of a text that is a number. -/
def PagingOption.ofText? (kind : PagingKind) (raw : String) : Option PagingOption :=
  (count? raw.toList).map fun n => ⟨kind, raw, n⟩

/-- Whether a text can be the text of an option. -/
def OptionKind.Reads (kind : OptionKind) (raw : String) : Prop :=
  Text.blank raw = false ∧
    (kind = .skip ∨ kind = .top → (PagingOption.count? raw.toList).isSome)

/-- Whether every option occurs at most once among parameters, with a text that can be read. -/
def WellFormedParams (params : List (String × String)) : Prop :=
  ∀ kind, (textsOf kind params).length ≤ 1 ∧ ∀ raw ∈ textsOf kind params, kind.Reads raw

theorem WellFormedParams.reads_of_lookup {params : List (String × String)}
    (h : WellFormedParams params) (kind : OptionKind) {raw : String}
    (given : params.lookup kind.text = some raw) : kind.Reads raw := by
  rw [← head?_textsOf] at given
  exact (h kind).2 raw (List.mem_of_head? given)

namespace QueryOptions

/-! ## One option -/

/-- Set an option to a text that can be read. -/
def put (o : QueryOptions) (kind : OptionKind) (raw : String) : QueryOptions :=
  match kind with
  | .filter => { o with filter := some (.ofText raw o.context) }
  | .orderBy => { o with orderBy := some (.ofText raw o.context) }
  | .skip => { o with skip := PagingOption.ofText? .skip raw }
  | .top => { o with top := PagingOption.ofText? .top raw }

theorem has_put (o : QueryOptions) {kind : OptionKind} {raw : String} (reads : kind.Reads raw)
    (other : OptionKind) : (o.put kind raw).has other ↔ kind = other ∨ o.has other := by
  have number := reads.2
  cases kind <;> cases other <;> simp_all [put, has, PagingOption.ofText?]

theorem set_eq_ok {o o' : QueryOptions} {kind : OptionKind} {raw : String} :
    o.set kind raw = .ok o' ↔
      (kind = .skip ∨ kind = .top → (PagingOption.count? raw.toList).isSome) ∧
        o' = o.put kind raw := by
  cases kind with
  | filter | orderBy =>
    simp only [set, put, reduceCtorEq, or_self, false_implies, true_and, Except.ok.injEq]
    exact eq_comm
  | skip | top =>
    unfold set put PagingOption.ofText PagingOption.ofText?
    cases PagingOption.count? raw.toList <;> simp [eq_comm]

theorem add_eq_ok {o o' : QueryOptions} {kind : OptionKind} {raw : String} :
    o.add kind raw = .ok o' ↔ kind.Reads raw ∧ ¬ o.has kind ∧ o' = o.put kind raw := by
  unfold add OptionKind.Reads
  cases blank : Text.blank raw with
  | true => simp
  | false =>
    rw [if_neg Bool.false_ne_true, Except.bind_eq_ok]
    constructor
    · rintro ⟨added, set, h⟩
      obtain ⟨reads, rfl⟩ := set_eq_ok.1 set
      split at h <;> cases h
      exact ⟨⟨rfl, reads⟩, ‹_›, rfl⟩
    · rintro ⟨⟨-, reads⟩, new, rfl⟩
      exact ⟨_, set_eq_ok.2 ⟨reads, rfl⟩, if_neg new⟩

/-! ## All options -/

/-- Options that are there, and those that parameters give for the others. -/
def fill (o : QueryOptions) (params : List (String × String)) : QueryOptions where
  context := o.context
  filter := o.filter.or ((textsOf .filter params).head?.map (.ofText · o.context))
  orderBy := o.orderBy.or ((textsOf .orderBy params).head?.map (.ofText · o.context))
  skip := o.skip.or ((textsOf .skip params).head?.bind (PagingOption.ofText? .skip))
  top := o.top.or ((textsOf .top params).head?.bind (PagingOption.ofText? .top))

theorem fill_cons_put {o : QueryOptions} {kind : OptionKind} {raw : String}
    (reads : kind.Reads raw) (new : ¬ o.has kind) (rest : List (String × String)) :
    (o.put kind raw).fill rest = o.fill ((kind.text, raw) :: rest) := by
  cases kind with
  | filter | orderBy => simp_all [put, fill, has, textsOf_cons, OptionKind.text_inj]
  | skip | top =>
    obtain ⟨n, number⟩ := Option.isSome_iff_exists.1 (reads.2 (by simp))
    simp_all [put, fill, has, textsOf_cons, OptionKind.text_inj, PagingOption.ofText?]

/-- How parameters are accepted next to options that were added before. -/
theorem wellFormed_cons {taken : OptionKind → Prop} {kind : OptionKind} {raw : String}
    {rest : List (String × String)} :
    (WellFormedParams ((kind.text, raw) :: rest) ∧
        ∀ k, taken k → textsOf k ((kind.text, raw) :: rest) = []) ↔
      kind.Reads raw ∧ ¬ taken kind ∧
        WellFormedParams rest ∧ ∀ k, kind = k ∨ taken k → textsOf k rest = [] := by
  have here : textsOf kind ((kind.text, raw) :: rest) = raw :: textsOf kind rest := by
    rw [textsOf_cons, if_pos rfl]
  have elsewhere : ∀ k, kind ≠ k → textsOf k ((kind.text, raw) :: rest) = textsOf k rest :=
    fun k ne => by rw [textsOf_cons, if_neg (mt OptionKind.text_inj.1 ne)]
  constructor
  · rintro ⟨wellFormed, unused⟩
    obtain ⟨once, reads⟩ := wellFormed kind
    rw [here] at once reads
    have none_left : textsOf kind rest = [] := List.length_eq_zero_iff.1 (by simpa using once)
    refine ⟨reads raw List.mem_cons_self, fun used => ?_, fun k => ?_, ?_⟩
    · have := unused kind used
      rw [here] at this
      cases this
    · by_cases same : kind = k
      · subst same
        rw [none_left]
        exact ⟨Nat.zero_le 1, nofun⟩
      · exact elsewhere k same ▸ wellFormed k
    · rintro k (rfl | used)
      · exact none_left
      · have none := unused k used
        rw [textsOf_cons] at none
        split at none
        · cases none
        · exact none
  · rintro ⟨reads, new, wellFormed, unused⟩
    refine ⟨fun k => ?_, fun k used => ?_⟩
    · by_cases same : kind = k
      · subst same
        rw [here, unused kind (.inl rfl)]
        exact ⟨Nat.le_refl 1, by simpa using reads⟩
      · exact elsewhere k same ▸ wellFormed k
    · have ne : kind ≠ k := by
        rintro rfl
        exact new used
      rw [elsewhere k ne]
      exact unused k (.inr used)

theorem addParams_eq_ok (params : List (String × String)) {o o' : QueryOptions} :
    o.addParams params = .ok o' ↔
      (WellFormedParams params ∧ ∀ kind, o.has kind → textsOf kind params = []) ∧
        o' = o.fill params := by
  induction params generalizing o with
  | nil =>
    have wellFormed : WellFormedParams [] := fun kind => ⟨Nat.zero_le 1, nofun⟩
    have same : o.fill [] = o := by simp [fill, textsOf]
    rw [addParams, same, Except.ok.injEq]
    exact ⟨fun h => ⟨⟨wellFormed, fun _ _ => rfl⟩, h.symm⟩, fun h => h.2.symm⟩
  | cons param rest ih =>
    obtain ⟨name, raw⟩ := param
    unfold addParams
    split
    case h_1 unknown =>
      have ignored : ∀ kind, textsOf kind ((name, raw) :: rest) = textsOf kind rest :=
        fun kind => by
          rw [textsOf_cons, if_neg]
          rintro rfl
          cases unknown.symm.trans (OptionKind.ofText?_eq_some.2 rfl)
      rw [ih]
      simp [WellFormedParams, fill, ignored]
    case h_2 kind known =>
      obtain rfl := OptionKind.ofText?_eq_some.1 known
      rw [wellFormed_cons, Except.bind_eq_ok]
      constructor
      · rintro ⟨o₁, added, h⟩
        obtain ⟨reads, new, rfl⟩ := add_eq_ok.1 added
        obtain ⟨⟨wellFormed, unused⟩, rfl⟩ := ih.1 h
        refine ⟨⟨reads, new, wellFormed, fun k used => unused k ?_⟩, fill_cons_put reads new rest⟩
        exact (has_put o reads k).2 used
      · rintro ⟨⟨reads, new, wellFormed, unused⟩, rfl⟩
        refine ⟨_, add_eq_ok.2 ⟨reads, new, rfl⟩, ih.2 ⟨⟨wellFormed, fun k used => ?_⟩, ?_⟩⟩
        · exact unused k ((has_put o reads k).1 used)
        · exact (fill_cons_put reads new rest).symm

/-- The options that parameters give, each by its first text. -/
def requested (context : QueryContext) (params : List (String × String)) : QueryOptions where
  context := context
  filter := (params.lookup "$filter").map (.ofText · context)
  orderBy := (params.lookup "$orderby").map (.ofText · context)
  skip := (params.lookup "$skip").bind (PagingOption.ofText? .skip)
  top := (params.lookup "$top").bind (PagingOption.ofText? .top)

theorem fill_empty (context : QueryContext) (params : List (String × String)) :
    (empty context).fill params = requested context params := by
  simp only [fill, empty, head?_textsOf, Option.none_or]
  rfl

/-- Parameters are accepted if every option occurs at most once, with a text that can be read. -/
theorem ofParams_eq_ok_iff {context : QueryContext} {params : List (String × String)}
    {o : QueryOptions} :
    ofParams context params = .ok o ↔ WellFormedParams params ∧ o = requested context params := by
  rw [ofParams, addParams_eq_ok, fill_empty]
  refine and_congr_left fun _ => and_iff_left fun kind used => ?_
  cases kind <;> cases used

end QueryOptions

end RecordQuery
