import RecordQuery.Parse
import RecordQuery.Pipeline.Query
import RecordQuery.Text.Quoted
import RecordQuery.Validate.Expr

/-!
# Filter options

A filter option is a text that is parsed when its expression is first needed. The expression is kept
for later; an error is not, so a faulty text is parsed each time.

## Main definitions

* `FilterOption`: the options.
* `FilterOption.expr`: the expression, and the option that keeps it.
* `FilterOption.validateWith`, `FilterOption.apply`: validation and use.
-/

namespace RecordQuery

/-- A filter text and its expression once it has been parsed. -/
structure FilterOption where
  raw : String
  context : QueryContext
  parsed : Option Expr
  deriving Inhabited

namespace FilterOption

/-- The option for a text. -/
def ofText (raw : String) (context : QueryContext) : FilterOption := ⟨raw, context, none⟩

/-- The expression of an option, and the option that keeps it. -/
def expr (o : FilterOption) : Except ParseError Expr × FilterOption :=
  match o.parsed with
  | some e => (.ok e, o)
  | none =>
    match parseFilter o.raw o.context with
    | .ok e => (.ok e, { o with parsed := some e })
    | .error e => (.error e, o)

/-- Validate the expression of an option that is allowed. -/
def validateExpr {σ : Type} (h : Hooks σ) (p : Policy) (o : FilterOption) (s : σ) :
    Except QueryError Unit × FilterOption × σ :=
  match o.expr with
  | (.error e, o) => (.error (.parse e), o, s)
  | (.ok e, o) =>
    match (e.validateWith h p).run.run s with
    | (.error e, s) => (.error (.validation e), o, s)
    | (.ok _, s) => (.ok (), o, s)

/-- Validate an option under a policy, with hooks. -/
def validateWith {σ : Type} (h : Hooks σ) (p : Policy) (o : FilterOption) (s : σ) :
    Except QueryError Unit × FilterOption × σ :=
  match (h.enter .filterOption).run.run s with
  | (.error e, s) => (.error (.validation e), o, s)
  | (.ok _, s) =>
    if p.options.contains .filter then o.validateExpr h p s
    else (.error (.validation (.optionNotAllowed .filter)), o, s)

/-- Validate an option under a policy. -/
def validate (p : Policy) (o : FilterOption) : Except QueryError Unit × FilterOption :=
  let (result, o, _) := o.validateWith Hooks.stock p ()
  (result, o)

/-- Filter a source. -/
def apply {σ ο α : Type} [Queryable σ ο α] [HasRecord α] (o : FilterOption) (source : σ) :
    Except QueryError σ × FilterOption :=
  match o.expr with
  | (.error e, o) => (.error (.parse e), o)
  | (.ok e, o) => (.ok (applyFilter e o.context source), o)

/-- The text of an option and whether it has been parsed. -/
def description (o : FilterOption) : String :=
  "FilterQueryOption \x7b raw: " ++ Text.quoted o.raw ++ ", parsed: " ++
    toString o.parsed.isSome ++ " \x7d"

end FilterOption

end RecordQuery
