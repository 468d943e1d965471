import RecordQuery.Proofs.Value.Transitivity

/-!
# Widened values

A value that is widened becomes the same number in a wider integer type, or the double nearest to
it. Nothing that reads a value as a double, as a text or as a date-time tells the two apart, and
neither does a comparison with a value of the wider type: integers of all types compare as numbers,
and an integer is rounded for a comparison with a double.

## Main definitions

* `Value.Widened`: whether one value is another one that may have been widened.

## Main statements

* `Value.castOrNull_widened`: a cast to a wider type widens.
* `Value.Widened.compare?_left`, `Value.Widened.looselyEquals_left`: comparisons of widened values.
-/

namespace RecordQuery.Value

variable {target p : PrimitiveType} {u v w : Value} {n : Int}

/-- `v.Widened target w`: the value `w` is `v`, or it is of the type `target` and stands for the
integer `v`, as a double for the nearest one. -/
inductive Widened (target : PrimitiveType) : Value → Value → Prop
  | same (v : Value) : Widened target v v
  | integer {v w : Value} {n : Int} (int : v.int? = some n) (kind : w.primitiveType? = some target)
      (wide : w.int? = some n) : Widened target v w
  | double {v : Value} {n : Int} (wide : target = .double) (int : v.int? = some n) :
      Widened target v (double (.ofInt n))

/-- A cast to a wider type widens. -/
theorem castOrNull_widened (fits : v.Fits (.primitive p)) (wider : p.Narrower target) :
    Widened target v (v.castOrNull target) := by
  obtain rfl | kind := fits
  · exact .same null
  · obtain ⟨n, _, _, int, -⟩ := exists_int?_of_narrower kind wider
    obtain ⟨w, cast, kind'⟩ := exists_castTo_of_narrower kind wider
    rw [castOrNull, cast]
    have ne : v.primitiveType? ≠ some target := fun same =>
      wider.ne (Option.some.inj (kind.symm.trans same))
    rw [castTo_of_int? int ne] at cast
    split at cast
    case isTrue wide =>
      cases cast
      exact .double wide int
    case isFalse =>
      rw [if_pos wider.numeric.2] at cast
      split at cast <;> cases cast
      exact .integer int kind' (ofInt?_eq_some_iff.1 ‹_›).2

/-! ## Views -/

theorem views_of_int? (int : v.int? = some n) : v.isNull = false ∧ v.string? = none ∧
    v.dateTime? = none ∧ v.double? = some (.ofInt n) := by
  refine ⟨?_, ?_, ?_, double?_of_int? int⟩ <;> cases v <;> first | rfl | cases int

/-- An integer type has only integers. -/
theorem exists_int?_of_kind (kind : v.primitiveType? = some p) (int : v.int? = some n)
    (kind' : u.primitiveType? = some p) : ∃ m, u.int? = some m := by
  cases v <;> cases int <;> cases kind <;> cases u <;> cases kind' <;> exact ⟨_, rfl⟩

namespace Widened

variable (h : v.Widened target w)

include h

theorem eq_or_number : w = v ∨ v.double?.isSome := by
  cases h with
  | same => exact .inl rfl
  | integer int | double _ int => exact .inr (by rw [double?_of_int? int]; rfl)

theorem isNull_eq : w.isNull = v.isNull := by
  cases h with
  | same => rfl
  | integer int _ wide => rw [(views_of_int? int).1, (views_of_int? wide).1]
  | double _ int => exact (views_of_int? int).1.symm

theorem string?_eq : w.string? = v.string? := by
  cases h with
  | same => rfl
  | integer int _ wide => rw [(views_of_int? int).2.1, (views_of_int? wide).2.1]
  | double _ int => exact (views_of_int? int).2.1.symm

theorem dateTime?_eq : w.dateTime? = v.dateTime? := by
  cases h with
  | same => rfl
  | integer int _ wide => rw [(views_of_int? int).2.2.1, (views_of_int? wide).2.2.1]
  | double _ int => exact (views_of_int? int).2.2.1.symm

theorem double?_eq : w.double? = v.double? := by
  cases h with
  | same => rfl
  | integer int _ wide => rw [double?_of_int? int, double?_of_int? wide]
  | double _ int => exact (double?_of_int? int).symm

/-- A value keeps its number in every type but that of doubles. -/
theorem int?_eq (ne : target ≠ .double) : w.int? = v.int? := by
  cases h with
  | same => rfl
  | integer int _ wide => rw [int, wide]
  | double wide => exact (ne wide).elim

/-! ## Comparisons -/

/-- A widened value compares with the values of its type as before. -/
theorem compare?_left (fits : u.Fits (.primitive target)) : w.compare? u = v.compare? u := by
  obtain rfl | kind := fits
  · rw [compare?_null_right, compare?_null_right]
  cases h with
  | same => rfl
  | integer int kind' wide =>
    obtain ⟨m, other⟩ := exists_int?_of_kind kind' wide kind
    rw [compare?_of_int? wide other, compare?_of_int? int other]
  | double wide int =>
    subst wide
    cases u with
    | double y =>
      rw [compare?_double_right, compare?_double_right v, compare?_double_left,
        compare?_double_left, double?_of_int? int, double?_double]
    | _ => cases kind

theorem compare?_right (fits : u.Fits (.primitive target)) : u.compare? w = u.compare? v := by
  rw [compare?_swap w u, compare?_swap v u, h.compare?_left fits]

end Widened

/-- A number that does not compare with a value is not the same. -/
theorem same_of_number {a b : Value} (number : a.double?.isSome ∨ b.double?.isSome)
    (apart : a.compare? b = none) : a.same b = false := by
  cases a with
  | double x =>
    cases b with
    | double y =>
      have apart : x.compare? y = none := apart
      rw [same, Binary64.same, apart]
      rfl
    | _ => rfl
  | int16 | int32 | int64 => cases b <;> first | rfl | cases apart
  | _ => cases b <;> first | rfl | cases number <;> contradiction

/-- Where a number is compared, values are equal if their order says so. -/
theorem looselyEquals_of_number {a b : Value} (number : a.double?.isSome ∨ b.double?.isSome) :
    a.looselyEquals b = (a.compare? b == some .eq) := by
  unfold looselyEquals
  split
  · cases number <;> contradiction
  · rw [compare?_null_left]
    rfl
  · rw [compare?_null_right]
    rfl
  · cases order : a.compare? b with
    | some o => rfl
    | none => exact same_of_number number order

end RecordQuery.Value
