import Mathlib.Data.Rat.Floor
import RecordQuery.Proofs.Binary64.Order
import RecordQuery.Proofs.Typing.Value

/-!
# Narrowing doubles

A finite double casts to an integer type if its exact value lies in the range of the type, and then
loses its fraction. The bounds of the range are compared as doubles. All of them are doubles but the
greatest integer of 64 bits, which is rounded up to `2 ^ 63`: this one double beyond the range is
accepted, and becomes the greatest integer.

## Main definitions

* `towardZero`: a number without its fraction.

## Main statements

* `towardZero_div`: the quotient of integers without its fraction.
* `Binary64.truncate_eq`: doubles are truncated toward zero.
* `Binary64.toIntWithin?_eq`: truncation to a range, on exact values.
* `Value.castTo_double`: which doubles cast to an integer type, and to which integer.
-/

namespace RecordQuery

/-! ## Truncation -/

/-- The integer that is left of a number without its fraction. -/
def towardZero (q : ℚ) : Int := if 0 ≤ q then ⌊q⌋ else ⌈q⌉

theorem le_towardZero {q : ℚ} {n : Int} (h : n ≤ q) : n ≤ towardZero q := by
  unfold towardZero
  split
  · exact Int.le_floor.2 h
  · exact Int.cast_le.1 (h.trans (Int.le_ceil q))

theorem towardZero_le {q : ℚ} {n : Int} (h : q ≤ n) : towardZero q ≤ n := by
  unfold towardZero
  split
  · exact Int.cast_le.1 ((Int.floor_le q).trans h)
  · exact Int.ceil_le.2 h

theorem towardZero_div_natCast (a : Int) (n : Nat) : towardZero (a / n : ℚ) = a.tdiv n := by
  obtain rfl | pos := n.eq_zero_or_pos
  · simp [towardZero]
  have sign : 0 ≤ (a / n : ℚ) ↔ 0 ≤ a := by
    rw [le_div_iff₀ (Nat.cast_pos.2 pos), zero_mul, Int.cast_nonneg_iff]
  unfold towardZero
  simp only [sign]
  split
  case isTrue nonneg => rw [Rat.floor_intCast_div_natCast, Int.tdiv_eq_ediv_of_nonneg nonneg]
  case isFalse neg =>
    have opposite : 0 ≤ -a := by omega
    rw [Rat.ceil_intCast_div_natCast, ← Int.tdiv_eq_ediv_of_nonneg opposite, Int.neg_tdiv, neg_neg]

/-- Division of integers leaves out the fraction of the quotient. -/
theorem towardZero_div (a b : Int) : towardZero (a / b : ℚ) = a.tdiv b := by
  obtain ⟨n, rfl | rfl⟩ := b.eq_nat_or_neg
  · exact_mod_cast towardZero_div_natCast a n
  · rw [Int.tdiv_neg, ← Int.neg_tdiv, ← towardZero_div_natCast]
    push_cast
    rw [neg_div, div_neg]

namespace Binary64

variable {x : Binary64} {low high : Int}

/-- A finite double is truncated toward zero. -/
theorem truncate_eq (x : Binary64) : x.truncate = towardZero x.exact :=
  (towardZero_div_natCast x.units unitsPerOne).symm

/-! ## Ranges -/

theorem toIntWithin?_eq (finite_low : (ofInt low).isFinite) (finite_high : (ofInt high).isFinite)
    (x : Binary64) : x.toIntWithin? low high =
      if x.isFinite ∧ (ofInt low).exact ≤ x.exact ∧ x.exact ≤ (ofInt high).exact then
        some (min high (max low (towardZero x.exact)))
      else none := by
  unfold toIntWithin?
  rw [truncate_eq]
  refine if_congr ?_ rfl rfl
  rw [Bool.and_eq_true, Bool.and_eq_true, and_assoc]
  exact and_congr_right fun finite =>
    and_congr (le_iff finite_low finite) (le_iff finite finite_high)

/-- The bounds of the integer types are doubles, but for the greatest integer of 64 bits. -/
theorem exact_bounds {target : PrimitiveType} (range : target.intRange? = some (low, high)) :
    ((ofInt low).isFinite ∧ (ofInt low).exact = low) ∧
    (ofInt high).isFinite ∧
      (ofInt high).exact = (if target = .int64 then high + 1 else high : Int) := by
  cases target with
  | int16 | int32 | int64 =>
    cases range
    exact ⟨⟨by decide +kernel, exact_eq_of_units (by decide +kernel)⟩, by decide +kernel,
      exact_eq_of_units (by decide +kernel)⟩
  | _ => cases range

/-- There is no double between `2 ^ 63 - 1` and `2 ^ 63`. -/
theorem exact_le_of_lt_two_pow (h : x.exact < (2 ^ 63 : Int)) : x.exact ≤ (2 ^ 63 - 1 : Int) := by
  let last : Binary64 := ⟨0x43DFFFFFFFFFFFFF⟩
  let next : Binary64 := ⟨0x43E0000000000000⟩
  have last_le : last.exact ≤ (2 ^ 63 - 1 : Int) := by
    rw [exact_eq_of_units (n := 2 ^ 63 - 2 ^ 10) (by decide +kernel)]
    exact Int.cast_le.2 (by decide)
  have next_eq : next.exact = (2 ^ 63 : Int) := exact_eq_of_units (by decide +kernel)
  have adjacent : last.place + 1 = next.place := by decide +kernel
  have below : x.place < next.place := by
    rw [← next_eq, ← not_le, exact_le_exact_iff, ← place_le_place_iff] at h
    exact not_le.1 h
  have le_last : x.exact ≤ last.exact := by
    rw [exact_le_exact_iff, ← place_le_place_iff]
    omega
  exact le_last.trans last_le

/-- Whether a double is finite and its exact value lies between two integers. -/
def InRange (x : Binary64) (low high : Int) : Prop :=
  x.isFinite ∧ low ≤ x.exact ∧ x.exact ≤ high

variable {target : PrimitiveType}

theorem toIntWithin?_of_inRange (range : target.intRange? = some (low, high))
    (h : x.InRange low high) : x.toIntWithin? low high = some (towardZero x.exact) := by
  obtain ⟨finite, above, below⟩ := h
  obtain ⟨⟨finite_low, exact_low⟩, finite_high, exact_high⟩ := exact_bounds range
  have le_bound : high ≤ if target = .int64 then high + 1 else high := by
    split <;> omega
  rw [toIntWithin?_eq finite_low finite_high, exact_low, exact_high,
    if_pos ⟨finite, above, below.trans (Int.cast_le.2 le_bound)⟩,
    max_eq_right (le_towardZero above), min_eq_right (towardZero_le below)]

/-- Beyond the range there is only the double of `2 ^ 63` that is moved into it. -/
theorem toIntWithin?_of_not_inRange (range : target.intRange? = some (low, high))
    (h : ¬ x.InRange low high) : x.toIntWithin? low high =
      if target = .int64 ∧ x.isFinite ∧ x.exact = (high + 1 : Int) then some high else none := by
  obtain ⟨⟨finite_low, exact_low⟩, finite_high, exact_high⟩ := exact_bounds range
  rw [toIntWithin?_eq finite_low finite_high, exact_low, exact_high]
  by_cases wide : target = .int64
  · subst wide
    cases range
    rw [if_pos rfl]
    split
    case isTrue within =>
      obtain ⟨finite, above, below⟩ := within
      have meets : x.exact = (2 ^ 63 : Int) := by
        refine below.antisymm (not_lt.1 fun less => ?_)
        exact h ⟨finite, above, exact_le_of_lt_two_pow less⟩
      have greatest : 2 ^ 63 ≤ towardZero x.exact := le_towardZero meets.ge
      rw [if_pos ⟨rfl, finite, meets⟩]
      exact congrArg some (by omega)
    case isFalse outside =>
      refine (if_neg ?_).symm
      rintro ⟨-, finite, meets⟩
      refine outside ⟨finite, ?_, meets.le⟩
      rw [meets]
      exact Int.cast_le.2 (by decide)
  · rw [if_neg wide]
    exact (if_neg h).trans (if_neg fun beyond => wide beyond.1).symm

end Binary64

namespace Value

open Binary64 (exact_le_intCast_iff intCast_le_exact_iff toIntWithin?_of_inRange
  toIntWithin?_of_not_inRange truncate_eq)

variable {x : Binary64} {target : PrimitiveType} {low high : Int}

/-! ## Casts -/

theorem castTo_of_intRange? (range : target.intRange? = some (low, high)) :
    (double x).castTo target =
      match x.toIntWithin? low high with
      | some n => .ok (ofInt target n)
      | none => .error (.numericOverflow x.toText target) := by
  cases target <;> cases range <;> rfl

/-- A double casts to an integer type if its exact value is in the range of the type, and loses its
fraction. Any other double is an overflow, but for `2 ^ 63`, which becomes the greatest integer. -/
theorem castTo_double (range : target.intRange? = some (low, high)) :
    (x.InRange low high → ∃ w, (double x).castTo target = .ok w ∧
      w.primitiveType? = some target ∧ w.int? = some (towardZero x.exact)) ∧
    (¬ x.InRange low high → (double x).castTo target =
      if target = .int64 ∧ x.isFinite ∧ x.exact = (high + 1 : Int) then .ok (int64 Int64.maxValue)
      else .error (.numericOverflow x.toText target)) := by
  refine ⟨fun inside => ?_, fun outside => ?_⟩
  · have fits : ofInt? target (towardZero x.exact) = some (ofInt target (towardZero x.exact)) := by
      rw [ofInt?, range]
      exact if_pos ⟨le_towardZero inside.2.1, towardZero_le inside.2.2⟩
    refine ⟨_, ?_, ofInt?_eq_some_iff.1 fits⟩
    rw [castTo_of_intRange? range, toIntWithin?_of_inRange range inside]
  · rw [castTo_of_intRange? range, toIntWithin?_of_not_inRange range outside]
    by_cases beyond : target = .int64 ∧ x.isFinite ∧ x.exact = (high + 1 : Int)
    · rw [if_pos beyond, if_pos beyond]
      obtain ⟨rfl, -⟩ := beyond
      cases range
      rfl
    · rw [if_neg beyond, if_neg beyond]

/-- The double `-2.5` becomes the 16-bit integer `-2`, and `32768` overflows. -/
theorem castTo_double_int16 :
    (∃ w, (double ⟨0xC004000000000000⟩).castTo .int16 = .ok w ∧ w.int? = some (-2)) ∧
    (double ⟨0x40E0000000000000⟩).castTo .int16 =
      .error (.numericOverflow (Binary64.toText ⟨0x40E0000000000000⟩) .int16) := by
  constructor
  · have inside : Binary64.InRange ⟨0xC004000000000000⟩ (-(2 ^ 15)) (2 ^ 15 - 1) :=
      ⟨by decide, intCast_le_exact_iff.2 (by decide +kernel),
        exact_le_intCast_iff.2 (by decide +kernel)⟩
    obtain ⟨w, cast, -, number⟩ := (@castTo_double _ .int16 _ _ rfl).1 inside
    refine ⟨w, cast, ?_⟩
    rw [number, ← truncate_eq]
    decide +kernel
  · have outside : ¬ Binary64.InRange ⟨0x40E0000000000000⟩ (-(2 ^ 15)) (2 ^ 15 - 1) :=
      fun inside => absurd (exact_le_intCast_iff.1 inside.2.2) (by decide +kernel)
    rw [(@castTo_double _ .int16 _ _ rfl).2 outside, if_neg (fun beyond => nomatch beyond.1)]

/-- The double `2 ^ 63` is cast to a 64-bit integer although it is not in the range. -/
theorem castTo_double_beyond_int64 :
    ¬ ∀ (x : Binary64) (target : PrimitiveType) (low high : Int),
      target.intRange? = some (low, high) →
        ((∃ w, (double x).castTo target = .ok w) ↔ x.InRange low high) := by
  intro ranged
  have moved : Binary64.toIntWithin? (-(2 ^ 63)) (2 ^ 63 - 1) ⟨0x43E0000000000000⟩ =
      some (2 ^ 63 - 1) := by decide +kernel
  have accepted : ∃ w, (double ⟨0x43E0000000000000⟩).castTo .int64 = .ok w := by
    rw [castTo_of_intRange? rfl, moved]
    exact ⟨_, rfl⟩
  have inside := (ranged ⟨0x43E0000000000000⟩ .int64 _ _ rfl).1 accepted
  exact absurd (exact_le_intCast_iff.1 inside.2.2) (by decide +kernel)

end Value

end RecordQuery
