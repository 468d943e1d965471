import RecordQuery.Binary64.Arithmetic
import RecordQuery.Power
import RecordQuery.Value.Text

/-!
# Casting values

A value casts to a primitive type if it is null, if it already has that type, or if both types are
numeric and the number is in the range of the target. A double loses its fraction when it is cast to
an integer.

## Main definitions

* `CastError`: why a cast fails.
* `Value.ofInt?`: an integer of a given type.
* `Value.castTo`: the cast.
-/

namespace RecordQuery

/-- Why a cast fails. The value is kept as its text. -/
inductive CastError where
  | incompatibleTypes (value : String) (target : PrimitiveType)
  | numericOverflow (value : String) (target : PrimitiveType)
  deriving DecidableEq, Repr

def CastError.message : CastError → String
  | incompatibleTypes value target => "cannot cast " ++ value ++ " to " ++ target.name
  | numericOverflow value target =>
    "numeric overflow: '" ++ value ++ "' cannot fit in " ++ target.name

/-- The least and greatest number of an integer type. -/
def PrimitiveType.intRange? : PrimitiveType → Option (Int × Int)
  | int16 => some (-(2 ^ 15), 2 ^ 15 - 1)
  | int32 => some (-(2 ^ 31), 2 ^ 31 - 1)
  | int64 => some (-(2 ^ 63), 2 ^ 63 - 1)
  | _ => none

namespace Value

/-- The value of an integer type for a number in its range. -/
def ofInt (target : PrimitiveType) (n : Int) : Value :=
  match target with
  | .int16 => int16 (Int16.ofInt n)
  | .int32 => int32 (Int32.ofInt n)
  | .int64 => int64 (Int64.ofInt n)
  | _ => null

/-- The value of an integer type for a number, if the number is in its range. -/
def ofInt? (target : PrimitiveType) (n : Int) : Option Value :=
  match target.intRange? with
  | some (low, high) => if low ≤ n ∧ n ≤ high then some (ofInt target n) else none
  | none => none

/-- Cast a value to a primitive type. -/
def castTo (v : Value) (target : PrimitiveType) : Except CastError Value :=
  let incompatible := .error (.incompatibleTypes v.literal target)
  if v.isNull || v.primitiveType? == some target then .ok v
  else match v with
    | double x =>
      match target.intRange? with
      | some (low, high) =>
        match x.toIntWithin? low high with
        | some n => .ok (ofInt target n)
        | none => .error (.numericOverflow x.toText target)
      | none => incompatible
    | _ =>
      match v.int? with
      | some n =>
        if target = .double then .ok (double (Binary64.ofInt n))
        else if target.isNumeric then
          match ofInt? target n with
          | some w => .ok w
          | none => .error (.numericOverflow (toString n) target)
        else incompatible
      | none => incompatible

/-- Cast a value, or null if that fails. -/
def castOrNull (v : Value) (target : PrimitiveType) : Value :=
  match v.castTo target with
  | .ok w => w
  | .error _ => null

theorem castTo_self {v : Value} {p : PrimitiveType} (h : v.primitiveType? = some p) :
    v.castTo p = .ok v := by simp [castTo, h]

end Value

end RecordQuery
