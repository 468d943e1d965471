import RecordQuery.Proofs.Pipeline.StableSort
import RecordQuery.Proofs.Typing.Value
import RecordQuery.Value.Compare

/-!
# The order of values for sorting

Nulls and the values of one primitive type are ordered totally, with nulls first, as long as there
is no NaN among them. Each type has a lawful order to compare its values in: numbers go by their
place among all numbers, guids by their bits, and date-times by their instants.

## Main definitions

* `Value.Orderable`: whether a value is null or a value of a type and not NaN.

## Main statements

* `Value.sortOrder_ordersTotally`: orderable values are ordered totally.
-/

namespace RecordQuery

instance : Ord DateTime := ⟨DateTime.compare⟩

instance : Std.TransOrd DateTime :=
  inferInstanceAs (Std.TransCmp (compareLex (compareOn DateTime.seconds)
    (compareOn DateTime.nanosecond)))

namespace Value

/-- Whether a value is null or a value of a primitive type, but not NaN. -/
def Orderable (p : PrimitiveType) (v : Value) : Prop :=
  v.Fits (.primitive p) ∧ ∀ x, v = double x → x.isNaN = false

/-- Whether a value is the number that is none. -/
def isNaN : Value → Bool
  | double x => x.isNaN
  | _ => false

theorem orderable_iff {p : PrimitiveType} {v : Value} :
    v.Orderable p ↔ (v.isNull || v.primitiveType? == some p) && !v.isNaN := by
  unfold Orderable Fits HasType
  cases v <;> simp [isNull, primitiveType?, isNaN]

instance (p : PrimitiveType) (v : Value) : Decidable (v.Orderable p) :=
  decidable_of_iff _ orderable_iff.symm

theorem isNull_of_ne {v : Value} (h : v ≠ null) : v.isNull = false := by
  cases v <;> first | rfl | exact (h rfl).elim

theorem sortOrder_of_ne {a b : Value} (ha : a ≠ null) (hb : b ≠ null) :
    a.sortOrder b = (a.compare? b).getD .eq := by
  rw [sortOrder, isNull_of_ne ha, isNull_of_ne hb]

@[simp] theorem sortOrder_null_left (v : Value) :
    null.sortOrder v = if v.isNull then .eq else .lt := by
  cases v <;> rfl

@[simp] theorem sortOrder_null_right (v : Value) :
    v.sortOrder null = if v.isNull then .eq else .gt := by
  cases v <;> rfl

/-- If the values of a type compare like their places in a lawful order, then they are ordered
totally together with null. -/
theorem ordersTotally_of_compare? {κ : Type} [Ord κ] [Std.TransOrd κ] {p : PrimitiveType}
    (place : Value → κ)
    (h : ∀ a b, a.primitiveType? = some p → b.primitiveType? = some p →
      (∀ x, a = double x → x.isNaN = false) → (∀ x, b = double x → x.isNaN = false) →
      a.compare? b = some (compare (place a) (place b)))
    {values : List Value} (orderable : ∀ v ∈ values, v.Orderable p) :
    OrdersTotally sortOrder values := by
  refine .of_compare (fun v => if v.isNull then none else some (place v)) fun a ha b hb => ?_
  by_cases na : a = null
  · subst na
    by_cases nb : b = null
    · subst nb
      rfl
    · simp only [sortOrder_null_left, isNull_of_ne nb]
      rfl
  · by_cases nb : b = null
    · subst nb
      simp only [sortOrder_null_right, isNull_of_ne na]
      rfl
    · obtain ⟨fits, number⟩ := orderable a ha
      obtain ⟨fits', number'⟩ := orderable b hb
      rw [sortOrder_of_ne na nb, h a b (fits.kind na) (fits'.kind nb) number number']
      simp only [isNull_of_ne na, isNull_of_ne nb]
      rfl

/-- The guid that a value is. -/
def guid? : Value → Option Guid
  | guid g => some g
  | _ => none

/-- Orderable values of one type are ordered totally. -/
theorem sortOrder_ordersTotally {p : PrimitiveType} {values : List Value}
    (orderable : ∀ v ∈ values, v.Orderable p) : OrdersTotally sortOrder values := by
  cases p with
  | boolean =>
    refine ordersTotally_of_compare? (fun v => v.bool?.getD false) ?_ orderable
    intro a b ha hb _ _
    cases a <;> cases ha
    cases b <;> cases hb
    rfl
  | int16 | int32 | int64 =>
    refine ordersTotally_of_compare? (fun v => v.int?.getD 0) ?_ orderable
    intro a b ha hb _ _
    cases a <;> cases ha
    cases b <;> cases hb
    rfl
  | double =>
    refine ordersTotally_of_compare? (fun v => (v.double?.bind Binary64.orderKey?).getD 0) ?_
      orderable
    intro a b ha hb number number'
    cases a <;> cases ha
    cases b <;> cases hb
    simp [compare?, double?, Binary64.compare?, Binary64.orderKey?, number _ rfl, number' _ rfl]
  | string =>
    refine ordersTotally_of_compare? (fun v => v.string?.getD "") ?_ orderable
    intro a b ha hb _ _
    cases a <;> cases ha
    cases b <;> cases hb
    rfl
  | guid =>
    refine ordersTotally_of_compare? (fun v => (v.guid?.getD default).bits.toNat) ?_ orderable
    intro a b ha hb _ _
    cases a <;> cases ha
    cases b <;> cases hb
    rfl
  | dateTime =>
    refine ordersTotally_of_compare? (fun v => v.dateTime?.getD default) ?_ orderable
    intro a b ha hb _ _
    cases a <;> cases ha
    cases b <;> cases hb
    rfl

end Value

end RecordQuery
