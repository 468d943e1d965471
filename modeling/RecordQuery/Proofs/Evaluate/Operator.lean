import RecordQuery.Evaluate.Basic
import RecordQuery.Proofs.Typing.Value

/-!
# Types of results

An operation gives null or a value of the type of its node. For arithmetic and calls this needs
nothing about the operands: what does not compute gives null. A negation has the type of its
operand.

## Main statements

* `Evaluate.arithmetic_fits`, `Evaluate.negation_fits`, `Evaluate.function_fits`: types of results.
-/

namespace RecordQuery.Evaluate

open Value (castOrNull_int64_fits fits_primitive null_fits ofInt?_fits)

/-! ## Operators -/

theorem arithmeticAt?_fits (p : PrimitiveType) (op : BinaryOperator) (a b : Value) :
    ((arithmeticAt? p op a b).getD .null).Fits (.primitive p) := by
  cases h : arithmeticAt? p op a b with
  | none => exact null_fits _
  | some v =>
    unfold arithmeticAt? at h
    split at h
    case isTrue double =>
      obtain ⟨_, _, h⟩ := Option.bind_eq_some_iff.1 h
      obtain ⟨_, _, h⟩ := Option.bind_eq_some_iff.1 h
      obtain ⟨_, _, h⟩ := Option.bind_eq_some_iff.1 h
      cases h
      exact fits_primitive (double ▸ rfl)
    case isFalse single =>
      obtain ⟨_, _, h⟩ := Option.bind_eq_some_iff.1 h
      obtain ⟨_, _, h⟩ := Option.bind_eq_some_iff.1 h
      obtain ⟨c, _, h⟩ := Option.bind_eq_some_iff.1 h
      cases h
      exact castOrNull_int64_fits single c

theorem arithmetic_fits (p : PrimitiveType) (op : BinaryOperator) (a b : Value) :
    (arithmetic (.primitive p) op a b).Fits (.primitive p) := arithmeticAt?_fits p op a b

theorem complement_fits (v : Value) : (complement v).Fits .boolean := by
  cases v <;> simp [complement]

theorem negation_fits {v : Value} {p : PrimitiveType} (h : v.Fits (.primitive p)) :
    (negation v).Fits (.primitive p) := by
  obtain rfl | kind := h
  · exact null_fits _
  · cases v with
    | int16 | int32 | int64 =>
      cases kind
      exact ofInt?_fits _ _
    | double x =>
      cases kind
      exact fits_primitive rfl
    | _ => exact null_fits _

/-! ## Functions -/

theorem ofChars_fits (s : List Char) : (ofChars s).Fits (.primitive .string) := fits_primitive rfl

theorem ofCount_fits (n : Int) : (ofCount n).Fits (.primitive .int32) := ofInt?_fits _ _

theorem substring_fits (text : List Char) (start length : Option Int) :
    (substring text start length).Fits (.primitive .string) := by
  unfold substring
  split
  case h_1 => exact null_fits _
  case h_2 =>
    split
    case isTrue => exact null_fits _
    case isFalse =>
      split
      case h_1 => exact ofChars_fits _
      case h_2 =>
        split
        case isTrue => exact null_fits _
        case isFalse => exact ofChars_fits _

theorem datePart_fits (args : List Value) (part : DateTime → Int) :
    (datePart args part).Fits (.primitive .int32) := by
  unfold datePart
  split
  · exact ofCount_fits _
  · exact null_fits _

theorem rounding_fits (args : List Value) (round : Binary64 → Binary64) :
    (rounding args round).Fits (.primitive .double) := by
  unfold rounding
  split
  · exact fits_primitive rfl
  · exact null_fits _

theorem functionOf_fits {f : Builtin} {s : Signature} (signature : f.signature? = some s)
    (args : List Value) : (functionOf f args).Fits (.primitive s.returns) := by
  cases f with
  | substringOf | endsWith | startsWith =>
    cases signature
    exact Value.bool_fits _
  | length =>
    cases signature
    exact ofCount_fits _
  | indexOf =>
    cases signature
    exact castOrNull_int64_fits (by decide) _
  | replace | toLower | toUpper | trim | concat =>
    cases signature
    exact ofChars_fits _
  | substring =>
    cases signature
    exact substring_fits _ _ _
  | year | month | day | hour | minute | second =>
    cases signature
    exact datePart_fits _ _
  | round | floor | ceiling =>
    cases signature
    exact rounding_fits _ _
  | any | all => cases signature

/-- A call gives null or a value of the type that its function returns. -/
theorem function_fits {f : Builtin} {s : Signature} (signature : f.signature? = some s)
    (args : List Value) : (function f args).Fits (.primitive s.returns) := by
  unfold function
  split
  · exact null_fits _
  · exact functionOf_fits signature args

end RecordQuery.Evaluate
