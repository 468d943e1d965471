import RecordQuery.OrderBy
import RecordQuery.ParseError
import RecordQuery.Policy.AllowedSet

/-!
# Errors of queries

What a policy forbids in a query, and everything that can be wrong with a query. All but a faulty
configuration is the fault of the query.

## Main definitions

* `ValidationError`: what a policy forbids.
* `QueryError`: what can be wrong with a query.
* `QueryError.isClientError`: whether the query is at fault.
-/

namespace RecordQuery

/-- What a policy forbids. Hooks can refuse an expression with a text of their own. -/
inductive ValidationError where
  | optionNotAllowed (option : OptionKind)
  | logicalOperatorNotAllowed (op : LogicalOperator)
  | arithmeticOperatorNotAllowed (op : ArithmeticOperator)
  | functionNotAllowed (f : Builtin)
  | orderByPropertyNotAllowed (name : String)
  | pagingTooLarge (kind : PagingKind) (value max : Nat)
  | custom (text : String)
  deriving DecidableEq, Repr

def ValidationError.message : ValidationError → String
  | optionNotAllowed option => "query option " ++ option.text ++ " is not allowed"
  | logicalOperatorNotAllowed op => "logical operator '" ++ op.text ++ "' is not allowed"
  | arithmeticOperatorNotAllowed op => "arithmetic operator '" ++ op.text ++ "' is not allowed"
  | functionNotAllowed f => "function '" ++ f.text ++ "' is not allowed"
  | orderByPropertyNotAllowed name => "ordering by property '" ++ name ++ "' is not allowed"
  | pagingTooLarge kind value max =>
    kind.option.text ++ " " ++ toString value ++ " exceeds the maximum of " ++ toString max
  | custom text => text

/-- The error for an operator that is not allowed. -/
def OperatorTag.notAllowed : OperatorTag → ValidationError
  | arithmetic op => .arithmeticOperatorNotAllowed op
  | logical op => .logicalOperatorNotAllowed op

/-- What can be wrong with a query. -/
inductive QueryError where
  | parse (e : ParseError)
  | orderBy (e : OrderByError)
  | validation (e : ValidationError)
  | config (e : ConfigError)
  | invalidPaging (kind : PagingKind) (value : String)
  | duplicateOption (option : OptionKind)
  | emptyOption (option : OptionKind)
  deriving DecidableEq, Repr

namespace QueryError

def message : QueryError → String
  | parse e => "parse error: " ++ e.message
  | orderBy e => "order by error: " ++ e.message
  | validation e => "validation error: " ++ e.message
  | config e => "configuration error: " ++ e.message
  | invalidPaging kind value =>
    kind.option.text ++ " must be a non-negative integer, got '" ++ value ++ "'"
  | duplicateOption option => "query option " ++ option.text ++ " is specified more than once"
  | emptyOption option => "query option " ++ option.text ++ " is empty"

/-- Whether the query is at fault, and not the configuration. -/
def isClientError : QueryError → Bool
  | config _ => false
  | _ => true

end QueryError

end RecordQuery
