import RecordQuery.Proofs.Evaluate.Preservation
import RecordQuery.Proofs.Value.Narrowing

/-!
# Integer arithmetic

Arithmetic on integers of one type is exact: it gives the integer that the operation has in
mathematics, or null if the type has no such integer. Quotients are truncated toward zero, and a
remainder is what the truncated quotient leaves. A remainder always fits its type, and so it is null
only for the divisor zero, and where the quotient overflows 64 bits.

## Main definitions

* `PrimitiveType.InRange`: whether an integer type has a number.
* `Value.IsInteger`, `Value.IsExact`: whether a value stands for a number, or else is null.
* `Evaluate.IsIntegerResult`: what each operation has to give.
* `Evaluate.narrowed`: a result in 64 bits, narrowed to a type.

## Main statements

* `Evaluate.narrowed_checked`: checking and narrowing together give the exact number or null.
* `Evaluate.arithmetic_isIntegerResult`: the operations on two integers.
* `Evaluate.value_integer`: the values of arithmetic and negated expressions.
-/

namespace RecordQuery

/-- Whether an integer type has a number. -/
def PrimitiveType.InRange (p : PrimitiveType) (n : Int) : Prop :=
  ∃ low high, p.intRange? = some (low, high) ∧ low ≤ n ∧ n ≤ high

namespace Value

variable {v : Value} {p : PrimitiveType} {n : Int}

/-- Whether a value is of an integer type and stands for a number. -/
def IsInteger (v : Value) (p : PrimitiveType) (n : Int) : Prop :=
  v.primitiveType? = some p ∧ v.int? = some n

/-- Whether a value of an integer type stands for a number, or is null if the type does not have
it. -/
def IsExact (v : Value) (p : PrimitiveType) (n : Int) : Prop :=
  (p.InRange n → v.IsInteger p n) ∧ (¬ p.InRange n → v = null)

theorem exists_ofInt?_iff : (∃ v, ofInt? p n = some v) ↔ p.InRange n := by
  unfold ofInt? PrimitiveType.InRange
  cases p.intRange? with
  | none => simp
  | some range =>
    obtain ⟨low, high⟩ := range
    simp

theorem ofInt?_eq_none_iff : ofInt? p n = none ↔ ¬ p.InRange n := by
  rw [← exists_ofInt?_iff, not_exists]
  exact Option.eq_none_iff_forall_ne_some

theorem IsInteger.inRange (h : v.IsInteger p n) : p.InRange n :=
  exists_ofInt?_iff.1 ⟨v, ofInt?_eq_some_iff.2 h⟩

theorem isInteger_ofInt? (h : p.InRange n) : ((ofInt? p n).getD null).IsInteger p n := by
  obtain ⟨v, made⟩ := exists_ofInt?_iff.2 h
  rw [made]
  exact ofInt?_eq_some_iff.1 made

theorem isExact_ofInt? (p : PrimitiveType) (n : Int) : ((ofInt? p n).getD null).IsExact p n := by
  refine ⟨isInteger_ofInt?, fun outside => ?_⟩
  rw [ofInt?_eq_none_iff.2 outside]
  rfl

/-- Doubles are no integers. -/
theorem IsInteger.ne_double (h : v.IsInteger p n) : p ≠ .double := by
  rintro rfl
  obtain ⟨low, high, range, -⟩ := h.inRange
  cases range

end Value

/-! ## Ranges of results -/

/-- A remainder is in the range of the divisor, whichever signs there are. -/
theorem PrimitiveType.InRange.tmod {p : PrimitiveType} {b : Int} (h : p.InRange b) (ne : b ≠ 0)
    (a : Int) : p.InRange (a.tmod b) := by
  have less : (a.tmod b).natAbs < b.natAbs := by
    rw [Int.natAbs_tmod]
    exact Nat.mod_lt _ (Int.natAbs_pos.2 ne)
  obtain ⟨low, high, range, above, below⟩ := h
  refine ⟨low, high, range, ?_⟩
  cases p with
  | int16 | int32 | int64 =>
    cases range
    constructor <;> omega
  | _ => cases range

/-- Only the 64-bit integers go down to `-2 ^ 63`. -/
theorem PrimitiveType.InRange.eq_int64 {p : PrimitiveType} (h : p.InRange (-(2 ^ 63))) :
    p = .int64 := by
  obtain ⟨low, high, range, above, -⟩ := h
  cases p with
  | int64 => rfl
  | int16 | int32 =>
    cases range
    omega
  | _ => cases range

namespace Evaluate

variable {p : PrimitiveType} {op : BinaryOperator} {a b : Int} {u v : Value}

/-! ## Operations -/

/-- Whether a value is what an operation on two integers of a type has to give. -/
def IsIntegerResult (p : PrimitiveType) (op : BinaryOperator) (a b : Int) (v : Value) : Prop :=
  match op with
  | .add => v.IsExact p (a + b)
  | .sub => v.IsExact p (a - b)
  | .mul => v.IsExact p (a * b)
  | .div => if b = 0 then v = .null else v.IsExact p (towardZero (a / b : ℚ))
  | .mod =>
    if b = 0 ∨ (p = .int64 ∧ a = -(2 ^ 63) ∧ b = -1) then v = .null
    else v.IsInteger p (a - b * towardZero (a / b : ℚ))
  | _ => False

theorem checked_eq_some_iff {n : Int} {c : Int64} : checked n = some c ↔ c.toInt = n := by
  unfold checked
  rw [Option.ite_none_right_eq_some, Option.some.injEq]
  constructor
  · rintro ⟨bounds, rfl⟩
    exact Int64.toInt_ofInt_of_le bounds.1 (by omega)
  · rintro rfl
    exact ⟨⟨c.le_toInt, c.toInt_le⟩, Int64.ofInt_toInt c⟩

/-- The 64 bits have every number of an integer type. -/
theorem exists_checked (h : p.InRange a) : ∃ c, checked a = some c := by
  obtain ⟨low, high, range, above, below⟩ := h
  have bounds : -(2 ^ 63) ≤ a ∧ a ≤ 2 ^ 63 - 1 := by
    cases p with
    | int16 | int32 | int64 =>
      cases range
      omega
    | _ => cases range
  exact ⟨Int64.ofInt a, if_pos bounds⟩

/-- A result in 64 bits, narrowed to a type. -/
def narrowed (p : PrimitiveType) (result : Option Int64) : Value :=
  (result.map fun c => (Value.int64 c).castOrNull p).getD .null

/-- The bounds of 64 bits and those of the type leave as much as the bounds of the type alone. -/
theorem narrowed_checked (single : p ≠ .double) (n : Int) :
    narrowed p (checked n) = (Value.ofInt? p n).getD .null := by
  cases found : checked n with
  | some c =>
    obtain rfl := checked_eq_some_iff.1 found
    exact Value.castOrNull_int64 single c
  | none =>
    have outside : ¬ p.InRange n := fun inside => by
      obtain ⟨c, held⟩ := exists_checked inside
      cases found.symm.trans held
    rw [Value.ofInt?_eq_none_iff.2 outside]
    rfl

theorem isExact_narrowed_checked (single : p ≠ .double) (n : Int) :
    (narrowed p (checked n)).IsExact p n := by
  rw [narrowed_checked single]
  exact Value.isExact_ofInt? p n

/-- Integers are computed in 64 bits, and narrowed to their type at the end. -/
theorem arithmetic_of_isInteger (left : u.IsInteger p a) (right : v.IsInteger p b) :
    arithmetic (.primitive p) op u v = narrowed p (checkedResult? op a b) := by
  change (arithmeticAt? p op u v).getD .null = _
  unfold arithmeticAt?
  rw [if_neg left.ne_double, left.2, right.2, narrowed, Option.map_eq_bind]
  rfl

theorem arithmetic_isIntegerResult (computes : op.isArithmetic) (left : u.IsInteger p a)
    (right : v.IsInteger p b) :
    IsIntegerResult p op a b (arithmetic (.primitive p) op u v) := by
  have bounded := isExact_narrowed_checked left.ne_double
  rw [arithmetic_of_isInteger left right]
  cases op with
  | add | sub | mul => exact bounded _
  | div =>
    simp only [IsIntegerResult, checkedResult?, towardZero_div]
    by_cases zero : b = 0
    · rw [if_pos zero, if_pos zero]
      rfl
    · rw [if_neg zero, if_neg zero]
      exact bounded _
  | mod =>
    simp only [IsIntegerResult, checkedResult?, towardZero_div, ← Int.tmod_def]
    -- the least 64-bit integer is an operand at one type only, so the type need not be asked for
    have overflows : (p = .int64 ∧ a = -(2 ^ 63) ∧ b = -1) ↔ (a = -(2 ^ 63) ∧ b = -1) := by
      refine and_iff_right_of_imp fun least => ?_
      exact (least.1 ▸ left.inRange).eq_int64
    simp only [overflows]
    by_cases fails : b = 0 ∨ (a = -(2 ^ 63) ∧ b = -1)
    · rw [if_pos fails, if_pos fails]
      rfl
    · rw [if_neg fails, if_neg fails]
      exact (bounded _).1 (right.inRange.tmod (fun zero => fails (.inl zero)) a)
  | _ => cases computes

theorem negation_isExact (h : u.IsInteger p a) : (negation u).IsExact p (-a) := by
  obtain ⟨kind, int⟩ := h
  cases u with
  | int16 | int32 | int64 =>
    cases kind
    cases int
    exact Value.isExact_ofInt? _ _
  | _ => cases int

theorem arithmetic_null (type : TypeRef) (null : u = .null ∨ v = .null) :
    arithmetic type op u v = .null := by
  unfold arithmetic arithmeticAt?
  obtain rfl | rfl := null
  · split
    · split <;> rfl
    · rfl
  · split
    · split
      · cases u.double? <;> rfl
      · cases u.int? <;> rfl
    · rfl

/-! ## Expressions -/

variable {r : Record} {m : Model} {bindings : Bindings}

/-- Arithmetic and negation of integers are exact, or null where their type has no result. A null
operand gives null. -/
theorem value_integer (p : PrimitiveType) (left right : Expr) :
    (∀ op a b, op.isArithmetic → (value r m bindings left).IsInteger p a →
      (value r m bindings right).IsInteger p b →
      IsIntegerResult p op a b (value r m bindings (.binary (.primitive p) op left right))) ∧
    (∀ a, (value r m bindings left).IsInteger p a →
      (value r m bindings (.unary (.primitive p) .negate left)).IsExact p (-a)) ∧
    (∀ op, op.isArithmetic →
      value r m bindings left = .null ∨ value r m bindings right = .null →
      value r m bindings (.binary (.primitive p) op left right) = .null) ∧
    (value r m bindings left = .null →
      value r m bindings (.unary (.primitive p) .negate left) = .null) := by
  refine ⟨fun op a b computes hl hr => ?_, fun a h => ?_, fun op computes null => ?_, fun null => ?_⟩
  · rw [value_arithmetic computes]
    exact arithmetic_isIntegerResult computes hl hr
  · exact negation_isExact h
  · rw [value_arithmetic computes]
    exact arithmetic_null _ null
  · rw [value, null]
    rfl

/-- The least integer of 16 bits. -/
def least : Expr := .ofValue (.int16 Int16.minValue)

/-- Minus one, in 16 bits. -/
def minusOne : Expr := .ofValue (.int16 (-1))

/-- The least integer divided by minus one is out of range, like its negation, but leaves the
remainder zero. -/
theorem value_integer_least :
    value default default [] (.binary (.primitive .int16) .div least minusOne) = .null ∧
    (value default default [] (.binary (.primitive .int16) .mod least minusOne)).IsInteger .int16 0 ∧
    value default default [] (.unary (.primitive .int16) .negate least) = .null := by
  have above : ¬ PrimitiveType.int16.InRange (2 ^ 15) := by
    rintro ⟨low, high, range, -, below⟩
    cases range
    omega
  have dividend : (value default default [] least).IsInteger .int16 (-(2 ^ 15)) := ⟨rfl, rfl⟩
  have divisor : (value default default [] minusOne).IsInteger .int16 (-1) := ⟨rfl, rfl⟩
  obtain ⟨operation, negated, -⟩ := value_integer .int16 least minusOne
  have quotient := operation .div _ _ rfl dividend divisor
  have remainder := operation .mod _ _ rfl dividend divisor
  simp only [IsIntegerResult, towardZero_div] at quotient remainder
  exact ⟨quotient.2 above, remainder, (negated _ dividend).2 above⟩

end Evaluate

end RecordQuery
