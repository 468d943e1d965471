import RecordQuery.Schema.Type

/-!
# Errors of query texts

Why a text is no expression of the query language, or why its names and types do not fit the
schema. All errors but the first carry the byte position at which they were found.

## Main definitions

* `ParseError`: the causes.
* `ParseError.position?`: where the error was found.
* `ParseError.message`: the wording.
-/

namespace RecordQuery

/-- What an operand should have been. -/
inductive Expectation where
  | type (p : PrimitiveType)
  | numericOperand
  | numericOperands
  | primitiveOperand
  | collection
  deriving DecidableEq, Repr

def Expectation.text : Expectation → String
  | type p => p.edmName
  | numericOperand => "a numeric operand"
  | numericOperands => "numeric operands"
  | primitiveOperand => "a primitive operand"
  | collection => "a collection"

/-- The literals whose text may be malformed. -/
inductive LiteralKind where
  | guid
  | dateTime
  | number
  deriving DecidableEq, Repr

def LiteralKind.text : LiteralKind → String
  | guid => "guid"
  | dateTime => "datetime"
  | number => "number"

/-- Why a query text is rejected. -/
inductive ParseError where
  | emptyExpression
  | syntaxError (position : Nat)
  | unknownProperty (name owner : String) (position : Nat)
  | unknownType (name : String) (position : Nat)
  | invalidCast (source target : String) (position : Nat)
  | unknownFunction (name : String) (position : Nat)
  | arityMismatch (function : String) (least most found position : Nat)
  | typeMismatch (expected : Expectation) (found : TypeRef) (position : Nat)
  | collectionNotQuantified (name : String) (position : Nat)
  | duplicateRangeVariable (name : String) (position : Nat)
  | missingLambdaBody (position : Nat)
  | invalidLiteral (kind : LiteralKind) (text : String) (position : Nat)
  | tooDeep (limit position : Nat)
  deriving DecidableEq, Repr

/-- How many arguments a function takes, as a text. -/
def arityText (least most : Nat) : String :=
  if least = most then toString most else toString least ++ " to " ++ toString most

namespace ParseError

/-- The byte position at which the error was found. -/
def position? : ParseError → Option Nat
  | emptyExpression => none
  | syntaxError position
  | unknownProperty _ _ position
  | unknownType _ position
  | invalidCast _ _ position
  | unknownFunction _ position
  | arityMismatch _ _ _ _ position
  | typeMismatch _ _ position
  | collectionNotQuantified _ position
  | duplicateRangeVariable _ position
  | missingLambdaBody position
  | invalidLiteral _ _ position
  | tooDeep _ position => some position

/-- The wording without the position. -/
def problem : ParseError → String
  | emptyExpression => "empty expression"
  | syntaxError _ => "syntax error"
  | unknownProperty name owner _ => "unknown property '" ++ name ++ "' on type '" ++ owner ++ "'"
  | unknownType name _ => "unknown type '" ++ name ++ "'"
  | invalidCast source target _ => "type '" ++ target ++ "' is not related to '" ++ source ++ "'"
  | unknownFunction name _ => "unknown function '" ++ name ++ "'"
  | arityMismatch function least most found _ =>
    "function '" ++ function ++ "' expects " ++ arityText least most ++ " argument(s), got " ++
      toString found
  | typeMismatch .. => "type mismatch"
  | collectionNotQuantified name _ =>
    "collection property '" ++ name ++ "' must be followed by any() or all()"
  | duplicateRangeVariable name _ => "range variable '" ++ name ++ "' is already declared"
  | missingLambdaBody _ => "all() requires a range variable and a body"
  | invalidLiteral kind text _ => "invalid " ++ kind.text ++ " literal '" ++ text ++ "'"
  | tooDeep limit _ => "expression nests deeper than " ++ toString limit ++ " levels"

/-- The wording. -/
def message (e : ParseError) : String :=
  let located := match e.position? with
    | some position => e.problem ++ " at position " ++ toString position
    | none => e.problem
  match e with
  | typeMismatch expected found _ =>
    located ++ ": expected " ++ expected.text ++ ", found " ++ found.text
  | _ => located

end ParseError

end RecordQuery
