import Mathlib.Data.List.Nodup
import RecordQuery.Policy.AllowedSet
import RecordQuery.Proofs.Except

/-!
# Sets of tags as sets

The tags of each kind are few enough for the bits of a word, so a tag is known by its bit and a set by
its members, as long as the set has no bits that belong to no tag. No operation on sets sets such a
bit.

## Main definitions

* `PolicyTag.Lawful`: a list of all tags of a kind, which fit into a word and differ in their texts.
* `AllowedSet.Within`: whether a set has no bits but those of its tags.
* `AllowedSet.Plan`: how a set is built.

## Main statements

* `AllowedSet.contains_insert`, `AllowedSet.contains_only`: members after insertions.
* `AllowedSet.eq_of_contains`: a set is known by its members.
* `AllowedSet.Plan.build_within`: sets that are built have no other bits.
-/

namespace RecordQuery

namespace PolicyTag

/-! ## Kinds of tags -/

/-- A kind of tags whose list is complete and without repetition, with no more tags than a word has
bits, and whose tags are found by their texts. -/
class Lawful (τ : Type) [PolicyTag τ] : Prop where
  complete : ∀ t : τ, t ∈ (tags : List τ)
  nodup : (tags : List τ).Nodup
  room : (tags : List τ).length ≤ 64
  reads : ∀ t : τ, ofText? (text t) = some t

instance : Lawful ArithmeticOperator where
  complete t := by cases t <;> decide
  nodup := by decide
  room := by decide
  reads t := by cases t <;> decide

instance : Lawful LogicalOperator where
  complete t := by cases t <;> decide
  nodup := by decide
  room := by decide
  reads t := by cases t <;> decide

instance : Lawful Builtin where
  complete t := by cases t <;> decide
  nodup := by decide
  room := by decide
  reads t := by cases t <;> decide +kernel

instance : Lawful OptionKind where
  complete t := by cases t <;> decide
  nodup := by decide
  room := by decide
  reads t := by cases t <;> decide

end PolicyTag

/-! ## Bits -/

/-- Whether a word has a bit. -/
def hasBit (bits : UInt64) (i : Nat) : Bool := bits.toBitVec.getLsbD i

theorem eq_of_hasBit {a b : UInt64} (h : ∀ i, hasBit a i = hasBit b i) : a = b :=
  UInt64.toBitVec_inj.1 (BitVec.eq_of_getLsbD_eq fun i _ => h i)

@[simp] theorem hasBit_zero (i : Nat) : hasBit 0 i = false := by simp [hasBit]

@[simp] theorem hasBit_or (a b : UInt64) (i : Nat) :
    hasBit (a ||| b) i = (hasBit a i || hasBit b i) := by simp [hasBit]

@[simp] theorem hasBit_and (a b : UInt64) (i : Nat) :
    hasBit (a &&& b) i = (hasBit a i && hasBit b i) := by simp [hasBit]

theorem lt_of_hasBit {a : UInt64} {i : Nat} (h : hasBit a i = true) : i < 64 := BitVec.lt_of_getLsbD h

@[simp] theorem hasBit_and_not (a b : UInt64) (i : Nat) :
    hasBit (a &&& ~~~b) i = (hasBit a i && !hasBit b i) := by
  cases h : hasBit a i with
  | false => rw [hasBit_and, h, Bool.false_and, Bool.false_and]
  | true =>
    rw [hasBit_and, h, Bool.true_and, Bool.true_and, hasBit, UInt64.toBitVec_not,
      BitVec.getLsbD_not, decide_eq_true (lt_of_hasBit h), Bool.true_and]
    rfl

theorem hasBit_shiftLeft {n : Nat} (small : n < 64) (i : Nat) :
    hasBit (1 <<< UInt64.ofNat n) i = decide (i = n) := by
  have shift : ((UInt64.ofNat n).toBitVec % 64).toNat = n := by
    simp
    omega
  rw [hasBit, UInt64.toBitVec_shiftLeft, BitVec.shiftLeft_eq', shift, BitVec.getLsbD_shiftLeft,
    show UInt64.toBitVec 1 = 1#64 from rfl, BitVec.getLsbD_one, Bool.eq_iff_iff]
  simp
  omega

namespace PolicyTag

variable {τ : Type} [PolicyTag τ] [Lawful τ]

/-- The place of the bit of a tag. -/
def place (t : τ) : Nat := (tags : List τ).idxOf t

theorem place_lt_length (t : τ) : place t < (tags : List τ).length :=
  List.idxOf_lt_length_of_mem (Lawful.complete t)

theorem place_inj {t u : τ} : place t = place u ↔ t = u := List.idxOf_inj (Lawful.complete t)

theorem exists_place {i : Nat} (h : i < (tags : List τ).length) : ∃ t : τ, place t = i :=
  ⟨(tags : List τ)[i], Lawful.nodup.idxOf_getElem i h⟩

theorem hasBit_bit (t : τ) (i : Nat) : hasBit (bit t) i = decide (i = place t) :=
  hasBit_shiftLeft (Nat.lt_of_lt_of_le (place_lt_length t) Lawful.room) i

/-- The bits of some tags next to other bits. -/
theorem hasBit_foldl (list : List τ) (bits : UInt64) (i : Nat) :
    hasBit (list.foldl (fun bits t => bits ||| bit t) bits) i ↔
      hasBit bits i ∨ ∃ t ∈ list, place t = i := by
  induction list generalizing bits with
  | nil => simp
  | cons t rest ih =>
    rw [List.foldl_cons, ih, hasBit_or, hasBit_bit, List.exists_mem_cons_iff, Bool.or_eq_true,
      decide_eq_true_eq, or_assoc, @eq_comm _ (place t)]

theorem hasBit_allBits (i : Nat) : hasBit (allBits τ) i ↔ i < (tags : List τ).length := by
  rw [allBits, bitsOf, hasBit_foldl, hasBit_zero]
  constructor
  · rintro (none | ⟨t, -, rfl⟩)
    · cases none
    · exact place_lt_length t
  · intro lt
    obtain ⟨t, rfl⟩ := exists_place lt
    exact .inr ⟨t, Lawful.complete t, rfl⟩

end PolicyTag

/-! ## Members -/

namespace AllowedSet

open PolicyTag (Lawful hasBit_bit hasBit_allBits place place_inj place_lt_length)

/-- Whether a set has no bits but those of its tags. -/
def Within {τ : Type} [PolicyTag τ] (s : AllowedSet τ) : Prop := foreignBits τ s.bits = 0

variable {τ : Type} [PolicyTag τ] [Lawful τ] {s s' : AllowedSet τ} {t u : τ}

theorem within_iff : s.Within ↔ ∀ i, hasBit s.bits i → i < (PolicyTag.tags : List τ).length := by
  constructor
  · intro h i set
    have outside := congrArg (hasBit · i) h
    simp only [foreignBits, hasBit_and_not, set, Bool.true_and, hasBit_zero,
      Bool.not_eq_eq_eq_not, Bool.not_false] at outside
    exact (hasBit_allBits i).1 outside
  · intro h
    refine eq_of_hasBit fun i => ?_
    rw [hasBit_zero, foreignBits, hasBit_and_not]
    cases set : hasBit s.bits i with
    | false => rfl
    | true => rw [(hasBit_allBits i).2 (h i set)]; rfl

/-- A tag is a member when the set has its bit. -/
theorem contains_iff : s.contains t ↔ hasBit s.bits (place t) := by
  have common (i : Nat) : hasBit (s.bits &&& PolicyTag.bit t) i =
      (hasBit s.bits i && decide (i = place t)) := by rw [hasBit_and, hasBit_bit]
  rw [contains, bne_iff_ne]
  constructor
  · intro nonzero
    by_contra unset
    refine nonzero (eq_of_hasBit fun i => ?_)
    rw [common, hasBit_zero, Bool.and_eq_false_iff, decide_eq_false_iff_not]
    refine or_iff_not_imp_right.2 fun at_place => ?_
    rw [not_not.1 at_place]
    exact eq_false_of_ne_true unset
  · intro set zero
    have lost := congrArg (hasBit · (place t)) zero
    simp only [common, set, hasBit_zero] at lost
    simp at lost

/-- A set without other bits is known by its members. -/
theorem eq_of_contains (h : s.Within) (h' : s'.Within) (same : ∀ t, s.contains t = s'.contains t) :
    s = s' := by
  have bits : s.bits = s'.bits := by
    refine eq_of_hasBit fun i => ?_
    by_cases lt : i < (PolicyTag.tags : List τ).length
    · obtain ⟨t, rfl⟩ := PolicyTag.exists_place lt
      rw [Bool.eq_iff_iff, ← contains_iff, ← contains_iff, same]
    · rw [eq_false_of_ne_true fun set => lt (within_iff.1 h i set),
        eq_false_of_ne_true fun set => lt (within_iff.1 h' i set)]
  cases s
  exact congrArg _ bits

theorem contains_insert : (s.insert u).contains t ↔ t = u ∨ s.contains t := by
  rw [contains_iff, contains_iff, insert, hasBit_or, hasBit_bit, Bool.or_eq_true, decide_eq_true_eq,
    place_inj, or_comm]

theorem contains_foldl_insert (list : List τ) :
    (list.foldl insert s).contains t ↔ t ∈ list ∨ s.contains t := by
  induction list generalizing s with
  | nil => simp
  | cons u rest ih => rw [List.foldl_cons, ih, contains_insert, List.mem_cons, or_left_comm, or_assoc]

theorem contains_only {list : List τ} : (only list).contains t ↔ t ∈ list := by
  rw [only, contains_foldl_insert, contains_iff, none, hasBit_zero]
  simp

theorem mem_toList : t ∈ s.toList ↔ s.contains t := by
  rw [toList, List.mem_filter, and_iff_right (Lawful.complete t)]

/-! ## Sets without other bits -/

theorem within_none : (none : AllowedSet τ).Within := within_iff.2 fun i set => by
  rw [none, hasBit_zero] at set
  cases set

theorem within_all : (all : AllowedSet τ).Within := within_iff.2 fun i => (hasBit_allBits i).1

theorem Within.insert (h : s.Within) (t : τ) : (s.insert t).Within := within_iff.2 fun i set => by
  rw [AllowedSet.insert, hasBit_or, hasBit_bit, Bool.or_eq_true, decide_eq_true_eq] at set
  obtain set | rfl := set
  · exact within_iff.1 h i set
  · exact place_lt_length t

theorem Within.remove (h : s.Within) (t : τ) : (s.remove t).Within := within_iff.2 fun i set => by
  rw [AllowedSet.remove, hasBit_and_not, Bool.and_eq_true] at set
  exact within_iff.1 h i set.1

theorem within_only (list : List τ) : (only list).Within :=
  List.foldlRecOn list _ within_none fun _ h t _ => h.insert t

theorem within_except (list : List τ) : (except list).Within :=
  List.foldlRecOn list _ within_all fun _ h t _ => h.remove t

omit [Lawful τ] in
theorem within_of_ofBits {bits : UInt64} (h : ofBits bits = .ok s) : s.Within := by
  rw [ofBits] at h
  split at h
  next own => cases h; exact own
  next => cases h

/-- The members of a set make the set. -/
theorem only_toList (h : s.Within) : only s.toList = s :=
  eq_of_contains (within_only _) h fun t => by
    rw [Bool.eq_iff_iff, contains_only, mem_toList]

/-! ## Plans -/

/-- How a set is built: one of the constructions, and changes to it. -/
inductive Plan (τ : Type) where
  | all
  | none
  | only (tags : List τ)
  | except (tags : List τ)
  | ofBits (bits : UInt64)
  | insert (plan : Plan τ) (tag : τ)
  | remove (plan : Plan τ) (tag : τ)

namespace Plan

/-- The set that is built. -/
def build {τ : Type} [PolicyTag τ] : Plan τ → Except ConfigError (AllowedSet τ)
  | all => .ok .all
  | none => .ok .none
  | only tags => .ok (.only tags)
  | except tags => .ok (.except tags)
  | ofBits bits => AllowedSet.ofBits bits
  | insert plan tag => do return (← plan.build).insert tag
  | remove plan tag => do return (← plan.build).remove tag

theorem build_within {plan : Plan τ} (h : plan.build = .ok s) : s.Within := by
  induction plan generalizing s with
  | all => cases h; exact within_all
  | none => cases h; exact within_none
  | only tags => cases h; exact within_only tags
  | except tags => cases h; exact within_except tags
  | ofBits bits => exact within_of_ofBits h
  | insert plan tag ih =>
    obtain ⟨s', built, done⟩ := Except.bind_eq_ok.1 h
    cases done
    exact (ih built).insert tag
  | remove plan tag ih =>
    obtain ⟨s', built, done⟩ := Except.bind_eq_ok.1 h
    cases done
    exact (ih built).remove tag

end Plan

end AllowedSet

end RecordQuery
