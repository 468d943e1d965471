import RecordQuery.Proofs.Options.Acceptance
import RecordQuery.Proofs.Pipeline.Ordering
import RecordQuery.Proofs.Typing.Binding

/-!
# What a request answers

The answer to a request comes from four steps, each of which is left out when its option is not
given: keep the items that the filter accepts, sort them by the columns of the clause, drop items
from the start, and cut the rest. Applied options record just these steps on a pipeline.

The columns to sort by must each hold nulls and values of one type, without NaN, for otherwise the
items are in no order that a sort could follow. Then there is just one answer.

## Main definitions

* `rowOrder`: the order of two items by some columns.
* `Answers`: whether a list is the answer of a request for some items.

## Main statements

* `QueryOptions.execute_apply`: applied options execute to the answer of their parameters, and the
  order of the parameters does not matter.
-/

namespace RecordQuery

variable {α : Type}

/-! ## Steps -/

/-- A step that is taken if a text is given for it. -/
def Optionally (text? : Option String) (step : String → List α → List α → Prop)
    (input output : List α) : Prop :=
  match text? with
  | none => output = input
  | some text => step text input output

/-- Drop as many items from the start as a text says, or keep as many. -/
def Cuts (kind : PagingKind) (text : String) (input output : List α) : Prop :=
  ∃ n, PagingOption.count? text.toList = some n ∧ output = match kind with
    | .skip => input.drop n
    | .top => input.take n

section Records

variable [HasRecord α] {context : QueryContext} {params : List (String × String)}

/-- The order of two items by columns: the first column on which they differ decides. Nulls come
first ascending and last descending. -/
def rowOrder (columns : List SortProperty) (a b : α) : Ordering :=
  let value (a : α) (p : SortProperty) := (HasRecord.record a).read p.property.name
  ((columns.map fun p => p.direction.apply ((value a p).sortOrder (value b p))).find?
    (· ≠ .eq)).getD .eq

/-- Keep the items that a filter accepts. -/
def Filters (context : QueryContext) (text : String) (input output : List α) : Prop :=
  ∃ e, parseFilter text context = .ok e ∧
    output = input.filter fun a => evaluatePredicate (HasRecord.record a) e context.model

/-- The columns that a clause sorts by. -/
def ClauseColumns (context : QueryContext) (text : String) (columns : List SortProperty) : Prop :=
  ∃ clause, parseOrderBy text context = .ok clause ∧ clause.sortProperties = .ok columns

/-- Sort items by the columns of a clause, with ties in their old order. -/
def Sorts (context : QueryContext) (text : String) (input output : List α) : Prop :=
  ∃ columns, ClauseColumns context text columns ∧ SortsStably (rowOrder columns) input output

/-- Whether a list is the answer of a request for some items. -/
def Answers (context : QueryContext) (params : List (String × String))
    (items result : List α) : Prop :=
  ∃ kept sorted rest,
    Optionally (params.lookup "$filter") (Filters context) items kept ∧
    Optionally (params.lookup "$orderby") (Sorts context) kept sorted ∧
    Optionally (params.lookup "$skip") (Cuts .skip) sorted rest ∧
    Optionally (params.lookup "$top") (Cuts .top) rest result

/-- Whether every column to sort by holds nulls and values of one type, without NaN. -/
def UniformColumns (context : QueryContext) (params : List (String × String))
    (items : List α) : Prop :=
  ∀ text columns, params.lookup "$orderby" = some text → ClauseColumns context text columns →
    ∀ p ∈ columns, ∃ type, ∀ a ∈ items,
      ((HasRecord.record a).read p.property.name).Orderable type

end Records

/-! ## There is one answer -/

theorem Optionally.unique {text? : Option String} {step : String → List α → List α → Prop}
    {input output output' : List α}
    (step_unique : ∀ text, text? = some text → step text input output →
      step text input output' → output = output')
    (h : Optionally text? step input output) (h' : Optionally text? step input output') :
    output = output' := by
  cases text? with
  | none => exact h.trans h'.symm
  | some text => exact step_unique text rfl h h'

theorem Cuts.unique {kind : PagingKind} {text : String} {input output output' : List α}
    (h : Cuts kind text input output) (h' : Cuts kind text input output') : output = output' := by
  obtain ⟨n, number, rfl⟩ := h
  obtain ⟨n', number', rfl⟩ := h'
  cases number.symm.trans number'
  rfl

theorem PagingOption.cuts_apply {kind : PagingKind} {text : String} {paging : PagingOption}
    {source : Pipeline α}
    (h : ofText? kind text = some paging) :
    Cuts kind text source.execute (paging.apply source).execute := by
  obtain ⟨n, number, rfl⟩ := Option.map_eq_some_iff.1 h
  refine ⟨n, number, ?_⟩
  cases kind <;> exact Pipeline.execute_record source _

theorem QueryOptions.applyPaging_spec {kind : PagingKind} {source : Pipeline α}
    (text? : Option String)
    (reads : ∀ text, text? = some text → (PagingOption.count? text.toList).isSome) :
    Optionally text? (Cuts kind) source.execute
      (applyPaging (text?.bind (PagingOption.ofText? kind)) source).execute := by
  cases text? with
  | none => rfl
  | some text =>
    obtain ⟨n, number⟩ := Option.isSome_iff_exists.1 (reads text rfl)
    have read : PagingOption.ofText? kind text = some ⟨kind, text, n⟩ := by
      rw [PagingOption.ofText?, number]
      rfl
    rw [Option.bind_some, read]
    exact PagingOption.cuts_apply read

variable [HasRecord α] {context : QueryContext} {params : List (String × String)}

theorem rowOrder_eq (columns : List SortProperty) :
    (rowOrder columns : α → α → Ordering) = compareByKeys (columns.map SortProperty.key) := by
  funext a b
  rw [compareByKeys_eq, List.map_map]
  rfl

theorem UniformColumns.ordersTotally {items : List α} (h : UniformColumns context params items)
    {text : String} {columns : List SortProperty} (given : params.lookup "$orderby" = some text)
    (found : ClauseColumns context text columns) : OrdersTotally (rowOrder columns) items := by
  rw [rowOrder_eq]
  refine compareByKeys_ordersTotally (List.forall_mem_map.2 fun p hp => ?_)
  exact SortKey.Uniform.ordersTotally (h text columns given found p hp)

theorem ClauseColumns.unique {text : String} {columns columns' : List SortProperty}
    (h : ClauseColumns context text columns) (h' : ClauseColumns context text columns') :
    columns = columns' := by
  obtain ⟨clause, parsed, found⟩ := h
  obtain ⟨clause', parsed', found'⟩ := h'
  cases parsed.symm.trans parsed'
  cases found.symm.trans found'
  rfl

theorem Filters.unique {text : String} {input output output' : List α}
    (h : Filters context text input output) (h' : Filters context text input output') :
    output = output' := by
  obtain ⟨e, parsed, rfl⟩ := h
  obtain ⟨e', parsed', rfl⟩ := h'
  cases parsed.symm.trans parsed'
  rfl

theorem Sorts.unique {text : String} {input output output' : List α}
    (total : ∀ columns, ClauseColumns context text columns →
      OrdersTotally (rowOrder columns) input)
    (h : Sorts context text input output) (h' : Sorts context text input output') :
    output = output' := by
  obtain ⟨columns, found, sorts⟩ := h
  obtain ⟨columns', found', sorts'⟩ := h'
  obtain rfl := found.unique found'
  exact sorts.unique (total columns found) sorts'

/-- The items that a filter keeps are among the items. -/
theorem Optionally.mem_of_filters {text? : Option String} {input output : List α}
    (h : Optionally text? (Filters context) input output) : ∀ a ∈ output, a ∈ input := by
  intro a ha
  cases text? with
  | none => exact h ▸ ha
  | some text =>
    obtain ⟨e, _, rfl⟩ := h
    exact (List.mem_filter.1 ha).1

theorem Answers.unique {items result result' : List α}
    (uniform : UniformColumns context params items)
    (h : Answers context params items result) (h' : Answers context params items result') :
    result = result' := by
  obtain ⟨kept, sorted, rest, filters, sorts, drops, takes⟩ := h
  obtain ⟨kept', sorted', rest', filters', sorts', drops', takes'⟩ := h'
  obtain rfl := Optionally.unique (fun _ _ => Filters.unique) filters filters'
  have total : ∀ text, params.lookup "$orderby" = some text → ∀ columns,
      ClauseColumns context text columns → OrdersTotally (rowOrder columns) kept :=
    fun text given columns found =>
      (uniform.ordersTotally given found).subset filters.mem_of_filters
  obtain rfl := Optionally.unique (fun text given => Sorts.unique (total text given)) sorts sorts'
  obtain rfl := Optionally.unique (fun _ _ => Cuts.unique) drops drops'
  exact Optionally.unique (fun _ _ => Cuts.unique) takes takes'

/-! ## Applied options -/

variable {source q : Pipeline α}

theorem FilterOption.apply_ofText {text : String} {f : FilterOption}
    (h : (ofText text context).apply source = (.ok q, f)) :
    Filters context text source.execute q.execute := by
  unfold ofText apply expr at h
  dsimp only at h
  cases parsed : parseFilter text context with
  | error => simp [parsed] at h
  | ok e =>
    simp only [parsed, Prod.mk.injEq, Except.ok.injEq] at h
    obtain ⟨rfl, -⟩ := h
    exact ⟨e, parsed, Pipeline.execute_record source _⟩

theorem OrderByOption.apply_ofText {text : String} {f : OrderByOption} {ordered : OrderedPipeline α}
    (h : (ofText text context).apply source = (.ok ordered, f)) :
    ∃ columns, ClauseColumns context text columns ∧
      ordered = .last (columns.map SortProperty.key) source := by
  unfold ofText apply sortProperties clause at h
  dsimp only at h
  cases parsed : parseOrderBy text context with
  | error => simp [parsed] at h
  | ok clause =>
    cases found : clause.sortProperties with
    | error => simp [parsed, found] at h
    | ok columns =>
      simp only [parsed, found] at h
      split at h <;> cases h
      exact ⟨columns, ⟨clause, parsed, found⟩, applyOrderBy_eq_ok ‹_›⟩

namespace QueryOptions

variable {o o' : QueryOptions}

theorem applyFilter_spec (text? : Option String)
    (h : o.filter = text?.map (.ofText · context)) (applied : o.applyFilter source = (.ok q, o')) :
    Optionally text? (Filters context) source.execute q.execute ∧
      o'.orderBy = o.orderBy ∧ o'.skip = o.skip ∧ o'.top = o.top := by
  unfold applyFilter at applied
  rw [h] at applied
  cases text? with
  | none =>
    cases applied
    exact ⟨rfl, rfl, rfl, rfl⟩
  | some text =>
    obtain ⟨result, rfl⟩ := Prod.mk.inj applied
    exact ⟨FilterOption.apply_ofText (Prod.ext result rfl), rfl, rfl, rfl⟩

theorem applyOrderBy_spec (text? : Option String)
    (h : o.orderBy = text?.map (.ofText · context)) (applied : o.applyOrderBy source = (.ok q, o'))
    (total : ∀ text columns, text? = some text → ClauseColumns context text columns →
      OrdersTotally (rowOrder columns) source.execute) :
    Optionally text? (Sorts context) source.execute q.execute ∧
      o'.skip = o.skip ∧ o'.top = o.top := by
  unfold applyOrderBy at applied
  rw [h] at applied
  cases text? with
  | none =>
    cases applied
    exact ⟨rfl, rfl, rfl⟩
  | some text =>
    dsimp only [Option.map_some] at applied
    split at applied
    case h_2 => cases applied
    case h_1 ordered f sorted =>
      cases applied
      obtain ⟨columns, found, rfl⟩ := OrderByOption.apply_ofText sorted
      refine ⟨⟨columns, found, ?_⟩, rfl, rfl⟩
      have sorts := insertionSort_sortsStably (total text columns rfl found)
      rw [rowOrder_eq] at sorts ⊢
      exact (Pipeline.execute_record source _) ▸ sorts

/-- Accepted options execute to the answer of their parameters, whatever the order of these. -/
theorem execute_apply (accepted : ofParams context params = .ok o)
    (applied : (o.apply source).1 = .ok q)
    (uniform : UniformColumns context params source.execute) :
    (∀ result, Answers context params source.execute result ↔ result = q.execute) ∧
      ∀ permuted, permuted.Perm params → ofParams context permuted = .ok o := by
  obtain ⟨wellFormed, rfl⟩ := ofParams_eq_ok_iff.1 accepted
  unfold apply at applied
  split at applied
  case h_1 => cases applied
  case h_2 filtered o₁ filters =>
    split at applied
    case h_1 => cases applied
    case h_2 ordered o₂ sorts =>
      cases applied
      obtain ⟨filters, orderBy, skip, top⟩ := applyFilter_spec (params.lookup "$filter") rfl filters
      obtain ⟨sorts, skip', top'⟩ := applyOrderBy_spec (params.lookup "$orderby") orderBy sorts
        fun text columns given found =>
          (uniform.ordersTotally given found).subset filters.mem_of_filters
      rw [skip', skip, top', top]
      have drops : Optionally (params.lookup "$skip") (Cuts .skip) ordered.execute _ :=
        applyPaging_spec _ fun _ given => (wellFormed.reads_of_lookup .skip given).2 (.inl rfl)
      have takes : Optionally (params.lookup "$top") (Cuts .top)
          (applyPaging (requested context params).skip ordered).execute _ :=
        applyPaging_spec _ fun _ given => (wellFormed.reads_of_lookup .top given).2 (.inr rfl)
      have answer : Answers context params source.execute _ :=
        ⟨_, _, _, filters, sorts, drops, takes⟩
      exact ⟨fun result => ⟨fun h => h.unique uniform answer, fun h => h ▸ answer⟩,
        fun permuted perm => ofParams_perm perm accepted⟩

end QueryOptions

/-- A line of a quantity, or null. -/
def lineOf (quantity : Value) : Record := .ofMembers (some "Line") [("Quantity", quantity)]

/-- Queries about the lines of orders. -/
def lineContext : QueryContext where
  model := orderContext.model
  element := ⟨"Line", .complex, none,
    [⟨"Line", "Quantity", .primitive .int32⟩, ⟨"Line", "Note", .primitive .string⟩]⟩

/-- A page of the lines of a quantity other than three, the greatest quantity first. -/
def pageParams : List (String × String) :=
  [("$top", "2"), ("$orderby", "Quantity desc"), ("$skip", "1"), ("$filter", "Quantity ne 3")]

def lines : List Record := [.int32 2, .null, .int32 5, .int32 3, .int32 4].map lineOf

theorem uniform_lines : UniformColumns lineContext pageParams lines := by
  rintro text columns given ⟨clause, parsed, found⟩ p hp
  cases given
  have known : ((parseOrderBy "Quantity desc" lineContext).toOption.bind
      fun clause => clause.sortProperties.toOption).map (·.map (·.property.name)) =
        some ["Quantity"] := by decide +kernel
  have names : columns.map (·.property.name) = ["Quantity"] := by
    simpa [parsed, found, Except.toOption] using known
  have named : p.property.name = "Quantity" := by
    simpa [names] using List.mem_map_of_mem (f := (·.property.name)) hp
  rw [named]
  refine ⟨.int32, List.forall_mem_map.2 fun v hv => ?_⟩
  have quantity : v.Orderable .int32 := by
    refine ⟨?_, fun x double => ?_⟩
    · simp only [List.mem_cons, List.not_mem_nil, or_false] at hv
      obtain rfl | rfl | rfl | rfl | rfl := hv <;> first | exact .inl rfl | exact .inr rfl
    · subst double
      simp at hv
  exact quantity

theorem QueryOptions.execute_apply_page : ∃ o q, ofParams lineContext pageParams = .ok o ∧
    (o.apply (Pipeline.ofItems lines)).1 = .ok q ∧
    q.execute.map (fun r => (r.read "Quantity").int?) = [some 4, some 2] ∧
    ∀ result, Answers lineContext pageParams lines result ↔ result = q.execute := by
  have known : ((ofParams lineContext pageParams).toOption.bind
      fun o => (o.apply (Pipeline.ofItems lines)).1.toOption).map
        (fun q => q.execute.map (fun r => (r.read "Quantity").int?)) =
          some [some 4, some 2] := by decide +kernel
  obtain ⟨q, known, page⟩ := Option.map_eq_some_iff.1 known
  obtain ⟨o, accepted, applied⟩ := Option.bind_eq_some_iff.1 known
  have accepted := Except.toOption_eq_some.1 accepted
  have applied := Except.toOption_eq_some.1 applied
  exact ⟨o, q, accepted, applied, page, (execute_apply accepted applied uniform_lines).1⟩

end RecordQuery
