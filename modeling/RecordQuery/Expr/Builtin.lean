import RecordQuery.Schema.Type

/-!
# Built-in functions

The functions of the query language and the types of their parameters and results. The two
quantifiers are among them, so that a policy can treat them like functions, but they have no
signature and cannot be called.

## Main definitions

* `Builtin`: the functions.
* `Signature`, `Builtin.signature?`: parameters and result of a function.
-/

namespace RecordQuery

inductive Builtin where
  | substringOf
  | endsWith
  | startsWith
  | length
  | indexOf
  | replace
  | substring
  | toLower
  | toUpper
  | trim
  | concat
  | year
  | month
  | day
  | hour
  | minute
  | second
  | round
  | floor
  | ceiling
  | any
  | all
  deriving DecidableEq, Repr, Inhabited

/-- Parameters and result of a function. The last `optional` parameters may be left out. -/
structure Signature where
  params : List PrimitiveType
  optional : Nat
  returns : PrimitiveType
  deriving DecidableEq, Repr

namespace Signature

def least (s : Signature) : Nat := s.params.length - s.optional

def most (s : Signature) : Nat := s.params.length

/-- Whether a function can be called with a number of arguments. -/
def accepts (s : Signature) (count : Nat) : Bool := s.least ≤ count && count ≤ s.most

end Signature

namespace Builtin

/-- All functions, quantifiers included. -/
def list : List Builtin :=
  [substringOf, endsWith, startsWith, length, indexOf, replace, substring, toLower, toUpper, trim,
   concat, year, month, day, hour, minute, second, round, floor, ceiling, any, all]

/-- The name by which a query text calls a function. -/
def text : Builtin → String
  | substringOf => "substringof"
  | endsWith => "endswith"
  | startsWith => "startswith"
  | length => "length"
  | indexOf => "indexof"
  | replace => "replace"
  | substring => "substring"
  | toLower => "tolower"
  | toUpper => "toupper"
  | trim => "trim"
  | concat => "concat"
  | year => "year"
  | month => "month"
  | day => "day"
  | hour => "hour"
  | minute => "minute"
  | second => "second"
  | round => "round"
  | floor => "floor"
  | ceiling => "ceiling"
  | any => "any"
  | all => "all"

/-- The function with a name. -/
def ofText? (text : String) : Option Builtin := list.find? (·.text == text)

/-- Parameters and result of a function; the quantifiers have none. -/
def signature? : Builtin → Option Signature
  | substringOf | endsWith | startsWith => some ⟨[.string, .string], 0, .boolean⟩
  | length => some ⟨[.string], 0, .int32⟩
  | indexOf => some ⟨[.string, .string], 0, .int32⟩
  | replace => some ⟨[.string, .string, .string], 0, .string⟩
  | substring => some ⟨[.string, .int32, .int32], 1, .string⟩
  | toLower | toUpper | trim => some ⟨[.string], 0, .string⟩
  | concat => some ⟨[.string, .string], 0, .string⟩
  | year | month | day | hour | minute | second => some ⟨[.dateTime], 0, .int32⟩
  | round | floor | ceiling => some ⟨[.double], 0, .double⟩
  | any | all => none

end Builtin

end RecordQuery
