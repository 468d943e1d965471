import RecordQuery.Parse
import RecordQuery.Pipeline.Query
import RecordQuery.Text.Quoted
import RecordQuery.Validate.Expr

/-!
# Order options

An order option is a text that is parsed when its clause is first needed, and whose sort properties
are found when they are first needed. Both are kept for later; errors are not.

## Main definitions

* `OrderByOption`: the options.
* `OrderByOption.clause`, `OrderByOption.sortProperties`: what the text stands for, and the option
  that keeps it.
* `OrderByOption.validateWith`, `OrderByOption.apply`: validation and use.
-/

namespace RecordQuery

/-- A text to order by, with its clause and its sort properties once they have been found. -/
structure OrderByOption where
  raw : String
  context : QueryContext
  parsed : Option OrderByClause
  found : Option (List SortProperty)
  deriving Inhabited

namespace OrderByOption

/-- The option for a text. -/
def ofText (raw : String) (context : QueryContext) : OrderByOption := ⟨raw, context, none, none⟩

/-- The clause of an option, and the option that keeps it. -/
def clause (o : OrderByOption) : Except ParseError OrderByClause × OrderByOption :=
  match o.parsed with
  | some c => (.ok c, o)
  | none =>
    match parseOrderBy o.raw o.context with
    | .ok c => (.ok c, { o with parsed := some c })
    | .error e => (.error e, o)

/-- The sort properties of an option, and the option that keeps them. -/
def sortProperties (o : OrderByOption) :
    Except QueryError (List SortProperty) × OrderByOption :=
  match o.found with
  | some properties => (.ok properties, o)
  | none =>
    match o.clause with
    | (.error e, o) => (.error (.parse e), o)
    | (.ok c, o) =>
      match c.sortProperties with
      | .ok properties => (.ok properties, { o with found := some properties })
      | .error e => (.error (.orderBy e), o)

/-- Visit the terms of a clause with their sort properties. -/
def validateTerms {σ : Type} (h : Hooks σ) (p : Policy) :
    List (OrderByTerm × SortProperty) → Walk σ Unit
  | [] => pure ()
  | (t, s) :: rest => do
    let name := s.property.name
    h.enter (.orderByProperty name)
    allow (p.allowsOrderBy name) (.orderByPropertyNotAllowed name)
    t.expr.validateWith h p
    validateTerms h p rest

/-- Validate the clause of an option that is allowed. -/
def validateClause {σ : Type} (h : Hooks σ) (p : Policy) (o : OrderByOption) (s : σ) :
    Except QueryError Unit × OrderByOption × σ :=
  match o.clause with
  | (.error e, o) => (.error (.parse e), o, s)
  | (.ok c, o) =>
    match o.sortProperties with
    | (.error e, o) => (.error e, o, s)
    | (.ok properties, o) =>
      match (validateTerms h p (c.terms.zip properties)).run.run s with
      | (.error e, s) => (.error (.validation e), o, s)
      | (.ok _, s) => (.ok (), o, s)

/-- Validate an option under a policy, with hooks. -/
def validateWith {σ : Type} (h : Hooks σ) (p : Policy) (o : OrderByOption) (s : σ) :
    Except QueryError Unit × OrderByOption × σ :=
  match (h.enter .orderByOption).run.run s with
  | (.error e, s) => (.error (.validation e), o, s)
  | (.ok _, s) =>
    if p.options.contains .orderBy then o.validateClause h p s
    else (.error (.validation (.optionNotAllowed .orderBy)), o, s)

/-- Validate an option under a policy. -/
def validate (p : Policy) (o : OrderByOption) : Except QueryError Unit × OrderByOption :=
  let (result, o, _) := o.validateWith Hooks.stock p ()
  (result, o)

/-- Order a source. -/
def apply {σ ο α : Type} [Queryable σ ο α] [HasRecord α] (o : OrderByOption) (source : σ) :
    Except QueryError ο × OrderByOption :=
  match o.sortProperties with
  | (.error e, o) => (.error e, o)
  | (.ok properties, o) =>
    match applyOrderBy properties source with
    | .ok ordered => (.ok ordered, o)
    | .error e => (.error (.orderBy e), o)

/-- The text of an option and whether it has been parsed. -/
def description (o : OrderByOption) : String :=
  "OrderByQueryOption \x7b raw: " ++ Text.quoted o.raw ++ ", parsed: " ++
    toString o.parsed.isSome ++ " \x7d"

end OrderByOption

end RecordQuery
