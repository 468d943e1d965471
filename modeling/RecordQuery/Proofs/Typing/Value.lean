import RecordQuery.Proofs.Schema.Resolution
import RecordQuery.Proofs.Typing.Operand
import RecordQuery.Record
import RecordQuery.Value.Cast

/-!
# Types of values

A scalar has the primitive type of its kind, a complex value any structured type, and a collection
the type of a collection whose items are all null or of the element type. Values do not say which
structured type they are of, so a value conforms to a model if its members have the types of all
properties of their names, whichever type of the model declares those.

## Main definitions

* `Value.HasType`: whether a value has a type.
* `Value.Fits`: whether a value is null or has a type.
* `Value.Conforms`, `Record.Conforms`: whether all members have the types that a model declares.

## Main statements

* `Value.exists_castTo_of_narrower`: a scalar casts to any wider type.
-/

namespace RecordQuery

namespace Value

/-! ## Types -/

/-- Whether a value has a type. -/
def HasType : Value → TypeRef → Prop
  | _, .null => False
  | v, .primitive p => v.primitiveType? = some p
  | v, .structured _ => ∃ members, v = complex members
  | v, .collection element =>
    ∃ items, v = collection items ∧ ∀ item ∈ items, item = null ∨ HasType item element

/-- Whether a value is null or has a type. -/
def Fits (v : Value) (t : TypeRef) : Prop := v = null ∨ v.HasType t

@[simp] theorem null_fits (t : TypeRef) : null.Fits t := .inl rfl

theorem fits_primitive {v : Value} {p : PrimitiveType} (h : v.primitiveType? = some p) :
    v.Fits (.primitive p) := .inr h

@[simp] theorem bool_fits (b : Bool) : (bool b).Fits .boolean := fits_primitive rfl

theorem Fits.adopt {v : Value} {declared t : TypeRef} (h : v.Fits declared)
    (adopts : declared.Adopts t) : v.Fits t := by
  cases adopts with
  | same => exact h
  | null p =>
    obtain rfl | impossible := h
    · exact null_fits _
    · exact impossible.elim

theorem Fits.item {v item : Value} {element : TypeRef} (h : v.Fits (.collection element))
    (mem : item ∈ v.items) : item.Fits element := by
  obtain rfl | ⟨items, rfl, typed⟩ := h
  · cases mem
  · exact typed item mem

theorem Fits.kind {v : Value} {p : PrimitiveType} (h : v.Fits (.primitive p)) (ne : v ≠ null) :
    v.primitiveType? = some p := h.resolve_left ne

/-! ## Conformance -/

/-- `part.Within v`: a value occurs in another one, as an item or a member at any depth. -/
inductive Within : Value → Value → Prop
  | self (v : Value) : Within v v
  | item {part item : Value} {items : List Value} (mem : item ∈ items) (inner : Within part item) :
      Within part (collection items)
  | member {part v inside : Value} {name : String} (found : v.member? name = some inside)
      (inner : Within part inside) : Within part v

/-- Whether the members of all complex values in a value have the types that a model declares. -/
def Conforms (v : Value) (m : Model) : Prop :=
  ∀ part : Value, part.Within v → ∀ (p : Property) (inside : Value), m.Declares p →
    part.member? p.name = some inside → inside.Fits p.type

variable {m : Model}

/-- A value conforms if its items do, and its members do and are of the declared types. -/
theorem conforms_iff {v : Value} : v.Conforms m ↔ (∀ item ∈ v.items, item.Conforms m) ∧
    ∀ name inside, v.member? name = some inside → inside.Conforms m ∧
      ∀ p, m.Declares p → p.name = name → inside.Fits p.type := by
  constructor
  · intro h
    refine ⟨fun item mem part within => ?_, fun name inside found => ⟨fun part within => ?_, ?_⟩⟩
    · cases v with
      | collection items => exact h part (.item mem within)
      | _ => cases mem
    · exact h part (.member found within)
    · rintro p declared rfl
      exact h v (.self v) p inside declared found
  · rintro ⟨items, members⟩ part within p inside declared found
    cases within with
    | self => exact (members p.name inside found).2 p declared rfl
    | item mem within => exact items _ mem part within p inside declared found
    | member outer within =>
      exact (members _ _ outer).1 part within p inside declared found

theorem Conforms.item {v item : Value} (h : v.Conforms m) (mem : item ∈ v.items) :
    item.Conforms m := (conforms_iff.1 h).1 item mem

theorem Conforms.member {v inside : Value} {name : String} (h : v.Conforms m)
    (found : v.member? name = some inside) : inside.Conforms m :=
  ((conforms_iff.1 h).2 name inside found).1

@[simp] theorem null_conforms : null.Conforms m := by
  refine conforms_iff.2 ⟨fun _ mem => ?_, fun _ _ found => ?_⟩
  · cases mem
  · cases found

/-- A scalar has no members. -/
theorem conforms_of_kind {v : Value} {p : PrimitiveType} (kind : v.primitiveType? = some p) :
    v.Conforms m := by
  cases v with
  | null | collection | complex => cases kind
  | _ =>
    refine conforms_iff.2 ⟨fun _ mem => ?_, fun _ _ found => ?_⟩
    · cases mem
    · cases found

/-- Null and the scalars conform to every model. -/
theorem Fits.conforms {v : Value} {p : PrimitiveType} (h : v.Fits (.primitive p)) :
    v.Conforms m := by
  obtain rfl | kind := h
  · exact null_conforms
  · exact conforms_of_kind kind

/-! ## Scalars -/

/-- The value of an integer type for a number is the value of that type that stands for it. -/
theorem ofInt?_eq_some_iff {target : PrimitiveType} {n : Int} {v : Value} :
    ofInt? target n = some v ↔ v.primitiveType? = some target ∧ v.int? = some n := by
  constructor
  · intro h
    cases target with
    | int16 =>
      obtain ⟨bounds, value⟩ := Option.ite_none_right_eq_some.1 h
      cases value
      exact ⟨rfl, congrArg some (Int16.toInt_ofInt_of_le bounds.1 (by omega))⟩
    | int32 =>
      obtain ⟨bounds, value⟩ := Option.ite_none_right_eq_some.1 h
      cases value
      exact ⟨rfl, congrArg some (Int32.toInt_ofInt_of_le bounds.1 (by omega))⟩
    | int64 =>
      obtain ⟨bounds, value⟩ := Option.ite_none_right_eq_some.1 h
      cases value
      exact ⟨rfl, congrArg some (Int64.toInt_ofInt_of_le bounds.1 (by omega))⟩
    | _ => cases h
  · rintro ⟨kind, int⟩
    cases v with
    | int16 m =>
      cases kind
      cases int
      exact (if_pos ⟨m.le_toInt, m.toInt_le⟩).trans (by rw [ofInt, Int16.ofInt_toInt])
    | int32 m =>
      cases kind
      cases int
      exact (if_pos ⟨m.le_toInt, m.toInt_le⟩).trans (by rw [ofInt, Int32.ofInt_toInt])
    | int64 m =>
      cases kind
      cases int
      exact (if_pos ⟨m.le_toInt, m.toInt_le⟩).trans (by rw [ofInt, Int64.ofInt_toInt])
    | _ => cases int

theorem ofInt?_fits (target : PrimitiveType) (n : Int) :
    ((ofInt? target n).getD null).Fits (.primitive target) := by
  cases h : ofInt? target n with
  | none => exact null_fits _
  | some v => exact fits_primitive (ofInt?_eq_some_iff.1 h).1

/-- A scalar of a type that has a wider one is an integer in the range of its type. -/
theorem exists_int?_of_narrower {v : Value} {p target : PrimitiveType}
    (kind : v.primitiveType? = some p) (wider : p.Narrower target) :
    ∃ n low high, v.int? = some n ∧ p.intRange? = some (low, high) ∧ low ≤ n ∧ n ≤ high := by
  cases v with
  | int16 n =>
    cases kind
    exact ⟨_, _, _, rfl, rfl, n.le_toInt, n.toInt_le⟩
  | int32 n =>
    cases kind
    exact ⟨_, _, _, rfl, rfl, n.le_toInt, n.toInt_le⟩
  | int64 n =>
    cases kind
    exact ⟨_, _, _, rfl, rfl, n.le_toInt, n.toInt_le⟩
  | double =>
    cases kind
    obtain ⟨i, j, hi, hj, lt⟩ := wider
    cases hi
    cases target <;> cases hj <;> omega
  | _ =>
    cases kind <;> obtain ⟨i, j, hi, -⟩ := wider <;> cases hi

/-- The wider of two integer types has the greater range. -/
theorem range_of_narrower {p target : PrimitiveType} {low high : Int} (wider : p.Narrower target)
    (range : p.intRange? = some (low, high)) : target = .double ∨
      ∃ low' high', target.intRange? = some (low', high') ∧ low' ≤ low ∧ high ≤ high' := by
  obtain ⟨i, j, hi, hj, lt⟩ := wider
  cases target with
  | int16 | int32 | int64 =>
    right
    cases p <;> cases range <;> cases hi <;> cases hj <;>
      first | exact ⟨_, _, rfl, by decide, by decide⟩ | omega
  | double => exact .inl rfl
  | _ => cases hj

/-- How an integer casts to a type other than its own. -/
theorem castTo_of_int? {v : Value} {n : Int} {target : PrimitiveType} (int : v.int? = some n)
    (ne : v.primitiveType? ≠ some target) :
    v.castTo target = if target = .double then .ok (double (Binary64.ofInt n))
      else if target.isNumeric then
        match ofInt? target n with
        | some w => .ok w
        | none => .error (.numericOverflow (toString n) target)
      else .error (.incompatibleTypes v.literal target) := by
  have ne : (v.primitiveType? == some target) = false := beq_false_of_ne ne
  cases v with
  | int16 | int32 | int64 =>
    cases int
    unfold castTo
    rw [ne]
    rfl
  | _ => cases int

/-- A 64-bit integer is narrowed to an integer type that has it, and to null otherwise. -/
theorem castOrNull_int64 {target : PrimitiveType} (single : target ≠ .double) (c : Int64) :
    (int64 c).castOrNull target = (ofInt? target c.toInt).getD null := by
  unfold castOrNull
  by_cases own : target = .int64
  · subst own
    have made : ofInt? .int64 c.toInt = some (int64 c) := ofInt?_eq_some_iff.2 ⟨rfl, rfl⟩
    rw [castTo_self rfl, made]
    rfl
  · have ne : (int64 c).primitiveType? ≠ some target := fun same => own (Option.some.inj same).symm
    rw [castTo_of_int? rfl ne, if_neg single]
    cases target with
    | double => exact absurd rfl single
    | int16 | int32 | int64 => cases made : ofInt? _ c.toInt <;> rfl
    | _ => rfl

theorem castOrNull_int64_fits {target : PrimitiveType} (single : target ≠ .double) (c : Int64) :
    ((int64 c).castOrNull target).Fits (.primitive target) := by
  rw [castOrNull_int64 single]
  exact ofInt?_fits target _

/-- A scalar of a numeric type casts to every wider type. -/
theorem exists_castTo_of_narrower {v : Value} {p target : PrimitiveType}
    (kind : v.primitiveType? = some p) (wider : p.Narrower target) :
    ∃ w, v.castTo target = .ok w ∧ w.primitiveType? = some target := by
  obtain ⟨n, low, high, int, range, bounds⟩ := exists_int?_of_narrower kind wider
  have ne : v.primitiveType? ≠ some target := fun same =>
    wider.ne (Option.some.inj (kind.symm.trans same))
  rw [castTo_of_int? int ne]
  obtain rfl | ⟨low', high', range', le, ge⟩ := range_of_narrower wider range
  · exact ⟨_, rfl, rfl⟩
  · have fits : ofInt? target n = some (ofInt target n) := by
      rw [ofInt?, range']
      exact if_pos (by omega)
    have notDouble : target ≠ .double := by
      rintro rfl
      cases range'
    refine ⟨_, ?_, (ofInt?_eq_some_iff.1 fits).1⟩
    rw [if_neg notDouble, if_pos wider.numeric.2, fits]

end Value

/-! ## Records -/

/-- Whether what a record holds has the types that a model declares. -/
structure Record.Conforms (r : Record) (m : Model) : Prop where
  fits : ∀ p v, m.Declares p → r.value? p.name = some v → v.Fits p.type
  nested : ∀ name v, r.value? name = some v → v.Conforms m

namespace Record.Conforms

variable {r : Record} {m : Model}

theorem read_fits (h : r.Conforms m) {p : Property} (declared : m.Declares p) :
    (r.read p.name).Fits p.type := by
  unfold read
  cases found : r.value? p.name with
  | none => exact Value.null_fits _
  | some v => exact h.fits p v declared found

theorem read_conforms (h : r.Conforms m) (name : String) : (r.read name).Conforms m := by
  unfold read
  cases found : r.value? name with
  | none => exact Value.null_conforms
  | some v => exact h.nested name v found

end Record.Conforms

end RecordQuery
