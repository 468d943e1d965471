import RecordQuery.Binding.Term
import RecordQuery.Grammar.Expression
import RecordQuery.Grammar.Nesting
import RecordQuery.OrderBy
import RecordQuery.Text.Blank

/-!
# Parsing query texts

A text is rejected if it is blank, if its parentheses nest too deep, if it does not follow the
grammar, and if its names or types do not fit the schema, in this order.

## Main definitions

* `parseFilter`: the expression of a filter text, which is a truth value.
* `parseOrderBy`: the clause of a text to order by.
* `maxDepth`: how deep parentheses and expressions may nest.
-/

namespace RecordQuery

/-- How deep the parentheses of a text and the expression of a text may nest. -/
def maxDepth : Nat := 100

/-- The terms of a text that is neither blank nor too deeply nested. -/
def recognizeWithin {α : Type} (limit : Binding.Bounds) (p : Nat → Grammar.Recognizer α)
    (text : String) : Except ParseError α :=
  if Text.blank text then .error .emptyExpression
  else match limit.bind fun n => (Grammar.nestingOverflow? n text.toList).map (n, ·) with
    | some (n, position) => .error (.tooDeep n position)
    | none =>
      match Grammar.recognize p text.toList with
      | .ok a => .ok a
      | .error position => .error (.syntaxError position)

/-- The expression of a filter text, with a bound on its nesting. -/
def parseFilterWithin (limit : Binding.Bounds) (text : String) (context : QueryContext) :
    Except ParseError Expr := do
  let t ← recognizeWithin limit Grammar.filterText text
  let e ← Binding.term context limit (.top context) t
  if e.type.isBoolean then return e
  else .error (.typeMismatch (.type .boolean) e.type t.start)

/-- The terms of a clause. -/
def bindOrderTerms (limit : Binding.Bounds) (context : QueryContext) :
    List Grammar.OrderTerm → Except ParseError (List OrderByTerm)
  | [] => .ok []
  | t :: rest => do
    let e ← Binding.term context limit (.top context) t.term
    let more ← bindOrderTerms limit context rest
    return ⟨e, t.direction⟩ :: more

/-- The clause of a text to order by, with a bound on the nesting of its terms. -/
def parseOrderByWithin (limit : Binding.Bounds) (text : String) (context : QueryContext) :
    Except ParseError OrderByClause := do
  let ts ← recognizeWithin limit Grammar.orderByText text
  let terms ← bindOrderTerms limit context ts
  return ⟨terms⟩

/-- The expression of a filter text. -/
def parseFilter (text : String) (context : QueryContext) : Except ParseError Expr :=
  parseFilterWithin (some maxDepth) text context

/-- The clause of a text to order by. -/
def parseOrderBy (text : String) (context : QueryContext) : Except ParseError OrderByClause :=
  parseOrderByWithin (some maxDepth) text context

end RecordQuery
