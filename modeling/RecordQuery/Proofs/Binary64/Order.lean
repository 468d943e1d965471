import Mathlib.Algebra.Order.Field.Rat
import Mathlib.Order.Monotone.Basic
import RecordQuery.Binary64.Rounding

/-!
# The order of doubles

The magnitudes of doubles count them in the order of their exact values, so comparing two finite
doubles compares their exact values. Rounding an integer never turns the order of two integers around,
but different integers may become the same double.

## Main definitions

* `Binary64.place`: the place of a double in the order, with a sign.
* `Binary64.exact`: the exact value of a finite double.

## Main statements

* `Binary64.unitsOfMagnitude_strictMono`: greater magnitudes have greater values.
* `Binary64.le_iff`: finite doubles compare like their exact values.
* `Binary64.place_ofInt_mono`: rounding keeps the order of integers.
-/

namespace RecordQuery.Binary64

variable {x y : Binary64} {a a' b m n : Nat}

/-! ## Places -/

/-- The place of a double in the order. -/
def place (x : Binary64) : Int := if x.negative then -(x.magnitude : Int) else x.magnitude

theorem orderKey?_eq (number : x.isNaN = false) : x.orderKey? = some x.place := by
  simp [orderKey?, place, number]

theorem compare?_eq (hx : x.isNaN = false) (hy : y.isNaN = false) :
    x.compare? y = some (compare x.place y.place) := by
  rw [compare?, orderKey?_eq hx, orderKey?_eq hy]

theorem compare?_of_isNaN (h : x.isNaN ∨ y.isNaN) : x.compare? y = none := by
  unfold compare? orderKey?
  obtain h | h := h
  · simp [h]
  · cases x.isNaN <;> simp [h]

theorem isNaN_of_isFinite (h : x.isFinite) : x.isNaN = false := by
  simp only [isFinite, isNaN, decide_eq_true_eq, decide_eq_false_iff_not] at h ⊢
  omega

/-! ## Exact values -/

theorem unitsOfMagnitude_of_lt (h : m < 2 ^ 52) : unitsOfMagnitude m = m := by
  rw [unitsOfMagnitude, if_pos (Nat.div_eq_of_lt h), Nat.mod_eq_of_lt h]

theorem unitsOfMagnitude_block (k : Nat) {r : Nat} (h : r < 2 ^ 52) :
    unitsOfMagnitude (2 ^ 52 * (k + 1) + r) = (2 ^ 52 + r) * 2 ^ k := by
  have div : (2 ^ 52 * (k + 1) + r) / 2 ^ 52 = k + 1 := by omega
  have mod : (2 ^ 52 * (k + 1) + r) % 2 ^ 52 = r := by omega
  rw [unitsOfMagnitude, div, mod, if_neg (Nat.succ_ne_zero k), Nat.add_sub_cancel]

theorem unitsOfMagnitude_lt_succ (m : Nat) : unitsOfMagnitude m < unitsOfMagnitude (m + 1) := by
  by_cases small : m < 2 ^ 52
  · rw [unitsOfMagnitude_of_lt small]
    by_cases last : m + 1 < 2 ^ 52
    · rw [unitsOfMagnitude_of_lt last]
      exact Nat.lt_succ_self m
    · have first : m + 1 = 2 ^ 52 * (0 + 1) + 0 := by omega
      rw [first, unitsOfMagnitude_block 0 (by decide)]
      omega
  · obtain ⟨k, r, hr, rfl⟩ : ∃ k r, r < 2 ^ 52 ∧ m = 2 ^ 52 * (k + 1) + r :=
      ⟨m / 2 ^ 52 - 1, m % 2 ^ 52, Nat.mod_lt _ (by decide), by omega⟩
    have positive : 0 < (2 ^ k : Nat) := Nat.two_pow_pos k
    rw [unitsOfMagnitude_block k hr]
    by_cases last : r + 1 < 2 ^ 52
    · rw [Nat.add_assoc, unitsOfMagnitude_block k last]
      exact Nat.mul_lt_mul_of_pos_right (by omega) positive
    · -- the significand overflows into the exponent
      have first : 2 ^ 52 * (k + 1) + r + 1 = 2 ^ 52 * (k + 1 + 1) + 0 := by omega
      rw [first, unitsOfMagnitude_block (k + 1) (by decide), Nat.pow_succ]
      have full : 2 ^ 52 + r < 2 ^ 52 * 2 := by omega
      calc (2 ^ 52 + r) * 2 ^ k < 2 ^ 52 * 2 * 2 ^ k := Nat.mul_lt_mul_of_pos_right full positive
        _ = (2 ^ 52 + 0) * (2 ^ k * 2) := by rw [Nat.add_zero, Nat.mul_assoc, Nat.mul_comm 2]

/-- Greater magnitudes have greater values. -/
theorem unitsOfMagnitude_strictMono : StrictMono unitsOfMagnitude :=
  strictMono_nat_of_lt_succ unitsOfMagnitude_lt_succ

/-- Doubles have the order of their units. -/
theorem place_le_place_iff : x.place ≤ y.place ↔ x.units ≤ y.units := by
  have le : unitsOfMagnitude x.magnitude ≤ unitsOfMagnitude y.magnitude ↔
      x.magnitude ≤ y.magnitude := unitsOfMagnitude_strictMono.le_iff_le
  have ge : unitsOfMagnitude y.magnitude ≤ unitsOfMagnitude x.magnitude ↔
      y.magnitude ≤ x.magnitude := unitsOfMagnitude_strictMono.le_iff_le
  have zero : ∀ m, unitsOfMagnitude m = 0 ↔ m = 0 := fun m =>
    unitsOfMagnitude_strictMono.injective.eq_iff' rfl
  have x_zero := zero x.magnitude
  have y_zero := zero y.magnitude
  unfold place units
  cases x.negative <;> cases y.negative <;>
    simp only [Bool.false_eq_true, if_true, if_false] <;> omega

/-- The exact value of a finite double. -/
def exact (x : Binary64) : ℚ := x.units / unitsPerOne

theorem unitsPerOne_pos : 0 < unitsPerOne := by decide +kernel

theorem cast_unitsPerOne_pos : (0 : ℚ) < unitsPerOne := by exact_mod_cast unitsPerOne_pos

theorem exact_le_exact_iff : x.exact ≤ y.exact ↔ x.units ≤ y.units := by
  rw [exact, exact, div_le_div_iff_of_pos_right cast_unitsPerOne_pos]
  exact_mod_cast Iff.rfl

theorem intCast_le_exact_iff {n : Int} : (n : ℚ) ≤ x.exact ↔ n * unitsPerOne ≤ x.units := by
  rw [exact, le_div_iff₀ cast_unitsPerOne_pos]
  exact_mod_cast Iff.rfl

theorem exact_le_intCast_iff {n : Int} : x.exact ≤ n ↔ x.units ≤ n * unitsPerOne := by
  rw [exact, div_le_iff₀ cast_unitsPerOne_pos]
  exact_mod_cast Iff.rfl

theorem exact_eq_of_units {n : Int} (h : x.units = n * unitsPerOne) : x.exact = n :=
  (exact_le_intCast_iff.2 h.le).antisymm (intCast_le_exact_iff.2 h.ge)

/-- Finite doubles compare like their exact values. -/
theorem le_iff (hx : x.isFinite) (hy : y.isFinite) : x.le y ↔ x.exact ≤ y.exact := by
  rw [le, compare?_eq (isNaN_of_isFinite hx) (isNaN_of_isFinite hy), exact_le_exact_iff,
    ← place_le_place_iff]
  cases order : compare x.place y.place with
  | lt => simpa using (Int.compare_eq_lt.1 order).le
  | eq => simpa using (Int.compare_eq_eq.1 order).le
  | gt => simpa using Int.compare_eq_gt.1 order

/-! ## Rounding -/

theorem le_roundQuotient (a b : Nat) : a / b ≤ roundQuotient a b := by
  unfold roundQuotient
  dsimp only
  split
  · exact Nat.le_refl _
  · split <;> omega

theorem roundQuotient_le (a b : Nat) : roundQuotient a b ≤ a / b + 1 := by
  unfold roundQuotient
  dsimp only
  split
  · omega
  · split <;> omega

theorem roundQuotient_mono (le : a ≤ a') (b : Nat) : roundQuotient a b ≤ roundQuotient a' b := by
  have quotient : a / b ≤ a' / b := Nat.div_le_div_right le
  obtain same | less := quotient.eq_or_lt
  · have split := Nat.div_add_mod a b
    have split' := Nat.div_add_mod a' b
    have rest : a % b ≤ a' % b := by
      rw [← same] at split'
      omega
    unfold roundQuotient
    dsimp only
    rw [same]
    generalize a' / b = q
    grind
  · exact (roundQuotient_le a b).trans (less.trans_le (le_roundQuotient a' b))

theorem log2_mono {q q' : Nat} (le : q ≤ q') : Nat.log2 q ≤ Nat.log2 q' := by
  by_cases zero : q = 0
  · rw [zero]
    exact Nat.zero_le _
  · exact (Nat.le_log2 (by omega)).2 ((Nat.log2_self_le zero).trans le)

/-- The quotient that is rounded has at most 53 bits. -/
theorem roundQuotient_excessBits_le (a b : Nat) :
    roundQuotient a (b * 2 ^ excessBits a b) ≤ 2 ^ 53 := by
  refine (roundQuotient_le _ _).trans ?_
  rw [← Nat.div_div_eq_div_mul, excessBits]
  generalize a / b = q
  refine Nat.succ_le_of_lt ((Nat.div_lt_iff_lt_mul (Nat.two_pow_pos _)).2 ?_)
  rw [← Nat.pow_add]
  exact Nat.lt_log2_self.trans_le (Nat.pow_le_pow_right (by decide) (by omega))

/-- The quotient that is rounded has 53 bits if it was scaled down. -/
theorem le_roundQuotient_excessBits (h : 0 < excessBits a b) :
    2 ^ 52 ≤ roundQuotient a (b * 2 ^ excessBits a b) := by
  refine le_trans ?_ (le_roundQuotient _ _)
  rw [← Nat.div_div_eq_div_mul]
  unfold excessBits at h ⊢
  generalize a / b = q at h ⊢
  rw [Nat.le_div_iff_mul_le (Nat.two_pow_pos _), ← Nat.pow_add]
  have nonzero : q ≠ 0 := by
    rintro rfl
    simp at h
  have exponent : 52 + (Nat.log2 q - 52) = Nat.log2 q := by omega
  rw [exponent]
  exact Nat.log2_self_le nonzero

theorem nearestMagnitude_mono (le : a ≤ a') (b : Nat) :
    nearestMagnitude a b ≤ nearestMagnitude a' b := by
  refine min_le_min_left _ ?_
  have shifts : excessBits a b ≤ excessBits a' b :=
    Nat.sub_le_sub_right (log2_mono (Nat.div_le_div_right le)) 52
  obtain same | less := shifts.eq_or_lt
  · rw [same]
    exact Nat.add_le_add_left (roundQuotient_mono le _) _
  · have below := roundQuotient_excessBits_le a b
    have above : 2 ^ 52 ≤ roundQuotient a' (b * 2 ^ excessBits a' b) :=
      le_roundQuotient_excessBits (Nat.zero_lt_of_lt less)
    omega

/-! ## Integers -/

theorem magnitude_ofUnitRatio (negative : Bool) (a b : Nat) :
    (ofUnitRatio negative a b).magnitude = nearestMagnitude a b :=
  magnitude_ofParts negative ((nearestMagnitude_le a b).trans_lt (by decide))

theorem negative_ofUnitRatio (negative : Bool) (a b : Nat) :
    (ofUnitRatio negative a b).negative = negative :=
  negative_ofParts negative ((nearestMagnitude_le a b).trans_lt (by decide))

/-- An integer is never rounded to a NaN. -/
theorem isNaN_ofInt (n : Int) : (ofInt n).isNaN = false := by
  rw [isNaN, ofInt, magnitude_ofUnitRatio, decide_eq_false_iff_not, not_lt]
  exact nearestMagnitude_le _ _

/-- Rounding keeps the order of integers. -/
theorem place_ofInt_mono {i j : Int} (le : i ≤ j) : (ofInt i).place ≤ (ofInt j).place := by
  have grows : ∀ {k l : Nat}, k ≤ l →
      nearestMagnitude (k * unitsPerOne) 1 ≤ nearestMagnitude (l * unitsPerOne) 1 :=
    fun le => nearestMagnitude_mono (Nat.mul_le_mul_right _ le) 1
  simp only [place, ofInt, magnitude_ofUnitRatio, negative_ofUnitRatio, decide_eq_true_eq]
  by_cases hi : i < 0
  · by_cases hj : j < 0
    · have := grows (k := j.natAbs) (l := i.natAbs) (by omega)
      rw [if_pos hi, if_pos hj]
      omega
    · rw [if_pos hi, if_neg hj]
      omega
  · have hj : ¬ j < 0 := by omega
    have := grows (k := i.natAbs) (l := j.natAbs) (by omega)
    rw [if_neg hi, if_neg hj]
    omega

end RecordQuery.Binary64
