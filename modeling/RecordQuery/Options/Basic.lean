import RecordQuery.Options.Filter
import RecordQuery.Options.OrderBy
import RecordQuery.Options.Paging

/-!
# Query options

The options of a request: a filter, an order and the two paging options, each at most once. They are
validated and applied in this order, whatever the order of the parameters of the request.

## Main definitions

* `QueryOptions`: the options of a request.
* `QueryOptions.ofParams`: the options that are among some parameters.
* `QueryOptions.validateWith`, `QueryOptions.apply`: validation and use.
-/

namespace RecordQuery

/-- The options of a request. -/
structure QueryOptions where
  context : QueryContext
  filter : Option FilterOption
  orderBy : Option OrderByOption
  skip : Option PagingOption
  top : Option PagingOption
  deriving Inhabited

namespace QueryOptions

/-! ## Parameters -/

/-- No options. -/
def empty (context : QueryContext) : QueryOptions := ⟨context, none, none, none, none⟩

/-- Whether an option is there. -/
def has (o : QueryOptions) : OptionKind → Bool
  | .filter => o.filter.isSome
  | .orderBy => o.orderBy.isSome
  | .skip => o.skip.isSome
  | .top => o.top.isSome

/-- Set an option to a text. -/
def set (o : QueryOptions) (kind : OptionKind) (raw : String) : Except QueryError QueryOptions :=
  match kind with
  | .filter => .ok { o with filter := some (.ofText raw o.context) }
  | .orderBy => .ok { o with orderBy := some (.ofText raw o.context) }
  | .skip => do
    let paging ← PagingOption.ofText .skip raw
    return { o with skip := some paging }
  | .top => do
    let paging ← PagingOption.ofText .top raw
    return { o with top := some paging }

/-- Add an option with a text that is not blank, unless there is one of its kind. -/
def add (o : QueryOptions) (kind : OptionKind) (raw : String) : Except QueryError QueryOptions :=
  if Text.blank raw then .error (.emptyOption kind)
  else do
    let added ← o.set kind raw
    if o.has kind then .error (.duplicateOption kind) else return added

/-- Add the options that are among some parameters. -/
def addParams (o : QueryOptions) : List (String × String) → Except QueryError QueryOptions
  | [] => .ok o
  | (name, value) :: rest =>
    match PolicyTag.ofText? name with
    | none => o.addParams rest
    | some kind => do
      let o ← o.add kind value
      o.addParams rest

/-- The options that are among some parameters; other parameters are ignored. -/
def ofParams (context : QueryContext) (params : List (String × String)) :
    Except QueryError QueryOptions := (empty context).addParams params

/-! ## Validation -/

/-- Validate a paging option if it is there. -/
def validatePaging (p : Policy) : Option PagingOption → Except QueryError Unit
  | none => .ok ()
  | some o =>
    match o.validate p with
    | .ok _ => .ok ()
    | .error e => .error (.validation e)

/-- Validate the filter if it is there. -/
def validateFilter {σ : Type} (h : Hooks σ) (p : Policy) (o : QueryOptions) (s : σ) :
    Except QueryError Unit × QueryOptions × σ :=
  match o.filter with
  | none => (.ok (), o, s)
  | some f =>
    let (result, f, s) := f.validateWith h p s
    (result, { o with filter := some f }, s)

/-- Validate the order if it is there. -/
def validateOrderBy {σ : Type} (h : Hooks σ) (p : Policy) (o : QueryOptions) (s : σ) :
    Except QueryError Unit × QueryOptions × σ :=
  match o.orderBy with
  | none => (.ok (), o, s)
  | some f =>
    let (result, f, s) := f.validateWith h p s
    (result, { o with orderBy := some f }, s)

/-- Validate the options that are there, with hooks for the filter and for the order. The first
refusal ends the validation. -/
def validateWith {σ : Type} (filterHooks orderHooks : Hooks σ) (p : Policy) (o : QueryOptions)
    (s : σ) : Except QueryError Unit × QueryOptions × σ :=
  match o.validateFilter filterHooks p s with
  | (.error e, o, s) => (.error e, o, s)
  | (.ok _, o, s) =>
    match o.validateOrderBy orderHooks p s with
    | (.error e, o, s) => (.error e, o, s)
    | (.ok _, o, s) =>
      match validatePaging p o.skip with
      | .error e => (.error e, o, s)
      | .ok _ => (validatePaging p o.top, o, s)

/-- Validate the options that are there. -/
def validate (p : Policy) (o : QueryOptions) : Except QueryError Unit × QueryOptions :=
  let (result, o, _) := o.validateWith Hooks.stock Hooks.stock p ()
  (result, o)

/-! ## Use -/

variable {σ ο α : Type} [Queryable σ ο α] [HasRecord α]

/-- Filter a source if there is a filter. -/
def applyFilter (o : QueryOptions) (source : σ) : Except QueryError σ × QueryOptions :=
  match o.filter with
  | none => (.ok source, o)
  | some f =>
    let (result, f) := f.apply source
    (result, { o with filter := some f })

/-- Order a source if there is an order. -/
def applyOrderBy (o : QueryOptions) (source : σ) : Except QueryError σ × QueryOptions :=
  match o.orderBy with
  | none => (.ok source, o)
  | some f =>
    match f.apply source with
    | (.ok ordered, f) => (.ok (Queryable.plain ordered), { o with orderBy := some f })
    | (.error e, f) => (.error e, { o with orderBy := some f })

/-- Cut a source if there is a paging option. -/
def applyPaging (paging : Option PagingOption) (source : σ) : σ :=
  match paging with
  | none => source
  | some p => p.apply source

/-- Filter, order and cut a source. Nothing is validated. -/
def apply (o : QueryOptions) (source : σ) : Except QueryError σ × QueryOptions :=
  match o.applyFilter source with
  | (.error e, o) => (.error e, o)
  | (.ok filtered, o) =>
    match o.applyOrderBy filtered with
    | (.error e, o) => (.error e, o)
    | (.ok ordered, o) => (.ok (applyPaging o.top (applyPaging o.skip ordered)), o)

end QueryOptions

end RecordQuery
