import RecordQuery.Pipeline.Basic
import RecordQuery.Policy.Basic
import RecordQuery.Power
import RecordQuery.QueryError
import RecordQuery.Text.Digits

/-!
# Paging options

The options that leave out records at the start of a list or after a number of them. Their texts are
decimal digits and nothing else, for a number of at most 64 bits.

## Main definitions

* `PagingOption`, `PagingOption.ofText`: the options and their reading.
* `PagingOption.validate`, `PagingOption.apply`: validation and use.
-/

namespace RecordQuery

/-- A paging option with its number. -/
structure PagingOption where
  kind : PagingKind
  raw : String
  value : Nat
  deriving DecidableEq, Repr, Inhabited

namespace PagingOption

/-- The number that a text of digits stands for, if it fits 64 bits. -/
def count? (raw : List Char) : Option Nat :=
  if raw.isEmpty || !raw.all Char.isDigit then none
  else
    let n := Text.digitsValue raw
    if n < 2 ^ 64 then some n else none

/-- The option for a text. -/
def ofText (kind : PagingKind) (raw : String) : Except QueryError PagingOption :=
  match count? raw.toList with
  | some n => .ok ⟨kind, raw, n⟩
  | none => .error (.invalidPaging kind raw)

/-- What a policy refuses in an option, if anything. -/
def validate (p : Policy) (o : PagingOption) : Except ValidationError Unit :=
  if p.options.contains o.kind.option then
    match p.bound o.kind with
    | some max => if max < o.value then .error (.pagingTooLarge o.kind o.value max) else .ok ()
    | none => .ok ()
  else .error (.optionNotAllowed o.kind.option)

/-- Cut a source. -/
def apply {σ ο α : Type} [Queryable σ ο α] (o : PagingOption) (source : σ) : σ :=
  match o.kind with
  | .skip => Queryable.skip o.value source
  | .top => Queryable.take o.value source

end PagingOption

end RecordQuery
