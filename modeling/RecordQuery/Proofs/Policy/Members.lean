import Mathlib.Data.Set.Insert
import RecordQuery.Proofs.Policy.AllowedSet

/-!
# Sets of tags and their members

A set of tags is built by a plan, and the same plan read as operations on mathematical sets says which
tags are its members. Bits are the one place where a plan can fail: they must be the bits of tags.

## Main definitions

* `AllowedSet.Plan.members`: the tags that a plan puts into a set.
* `AllowedSet.Plan.bits?`: the bits that a plan starts from.
* `AllowedSet.Faithful`: sets of tags of a kind are the sets that they stand for.

## Main statements

* `AllowedSet.Plan.contains_iff_mem_members`: the members of a set that has been built.
* `AllowedSet.ofBits_eq_ok_iff`, `AllowedSet.hasBit_foreignBits`: which bits are accepted, and which
  are reported.
* `AllowedSet.faithful`: each of the four kinds of sets is faithful.
-/

namespace RecordQuery.AllowedSet

open PolicyTag (Lawful hasBit_bit hasBit_allBits place place_inj)

variable {τ : Type} [PolicyTag τ] [Lawful τ] {s s' : AllowedSet τ} {t u : τ} {bits : UInt64}

/-! ## Members after one operation -/

theorem contains_none : ¬(none : AllowedSet τ).contains t := by
  rw [contains_iff, none, hasBit_zero]
  simp

theorem contains_all : (all : AllowedSet τ).contains t :=
  contains_iff.2 ((hasBit_allBits _).2 (PolicyTag.place_lt_length t))

theorem contains_remove : (s.remove u).contains t ↔ s.contains t ∧ t ≠ u := by
  rw [contains_iff, contains_iff, remove, hasBit_and_not, hasBit_bit, Bool.and_eq_true,
    Bool.not_eq_true', decide_eq_false_iff_not, place_inj]

theorem contains_foldl_remove (list : List τ) :
    (list.foldl remove s).contains t ↔ s.contains t ∧ t ∉ list := by
  induction list generalizing s with
  | nil => simp
  | cons u rest ih =>
    rw [List.foldl_cons, ih, contains_remove, List.mem_cons, not_or, and_assoc]

theorem contains_except {list : List τ} : (except list).contains t ↔ t ∉ list := by
  rw [except, contains_foldl_remove, and_iff_right contains_all]

theorem isEmpty_iff (h : s.Within) : s.isEmpty ↔ ∀ t, ¬s.contains t := by
  rw [isEmpty, beq_iff_eq]
  constructor
  · intro zero t
    rw [contains_iff, zero, hasBit_zero]
    simp
  · intro empty
    refine congrArg AllowedSet.bits (eq_of_contains h within_none fun t => ?_ : s = none)
    rw [Bool.eq_false_of_not_eq_true (empty t), Bool.eq_false_of_not_eq_true contains_none]

theorem nodup_toList : s.toList.Nodup := Lawful.nodup.filter _

/-! ## Bits -/

/-- The bits that are reported are those that belong to no tag. -/
theorem hasBit_foreignBits {i : Nat} :
    hasBit (foreignBits τ bits) i ↔ hasBit bits i ∧ ∀ t : τ, ¬hasBit (PolicyTag.bit t) i := by
  have owned : hasBit (PolicyTag.allBits τ) i ↔ ∃ t : τ, hasBit (PolicyTag.bit t) i := by
    simp only [hasBit_allBits, hasBit_bit, decide_eq_true_eq]
    constructor
    · intro lt
      obtain ⟨t, rfl⟩ := PolicyTag.exists_place lt
      exact ⟨t, rfl⟩
    · rintro ⟨t, rfl⟩
      exact PolicyTag.place_lt_length t
  rw [foreignBits, hasBit_and_not, Bool.and_eq_true, Bool.not_eq_true', ← not_exists, ← owned,
    Bool.not_eq_true]

omit [Lawful τ] in
theorem ofBits_eq_ok_iff_within :
    ofBits bits = .ok s ↔ s.bits = bits ∧ s.Within := by
  unfold ofBits Within
  split
  next own =>
    rw [Except.ok.injEq]
    constructor
    · rintro rfl
      exact ⟨rfl, own⟩
    · rintro ⟨rfl, -⟩
      rfl
  next foreign =>
    refine iff_of_false (fun h => by cases h) ?_
    rintro ⟨rfl, own⟩
    exact foreign own

/-- The bits of some tags are accepted, and no other bits are. -/
theorem ofBits_eq_ok_iff :
    ofBits bits = .ok s ↔ s.bits = bits ∧ ∃ list : List τ, only list = s := by
  rw [ofBits_eq_ok_iff_within, and_congr_right_iff]
  intro _
  constructor
  · intro own
    exact ⟨s.toList, only_toList own⟩
  · rintro ⟨list, rfl⟩
    exact within_only list

theorem exists_ofBits_eq_ok_iff :
    (∃ s : AllowedSet τ, ofBits bits = .ok s) ↔ ∃ list : List τ, (only list).bits = bits := by
  simp only [ofBits_eq_ok_iff]
  constructor
  · rintro ⟨_, same, list, rfl⟩
    exact ⟨list, same⟩
  · rintro ⟨list, same⟩
    exact ⟨only list, same, list, rfl⟩

omit [Lawful τ] in
theorem eq_of_ofBits_eq_error {e : ConfigError}
    (h : (ofBits bits : Except ConfigError (AllowedSet τ)) = .error e) :
    e = .unknownFlags (PolicyTag.kind τ) (foreignBits τ bits) := by
  rw [ofBits] at h
  split at h
  · cases h
  · exact (Except.error.inj h).symm

example : (ofBits 0b110001 : Except ConfigError (AllowedSet OptionKind)) =
    .error (.unknownFlags "query option" 0b110000) := by decide

/-! ## Members of what is built -/

namespace Plan

/-- The tags that a plan puts into a set, by operations on sets of tags. Bits stand for the tags whose
place in the declaration they have. -/
def members : Plan τ → Set τ
  | all => Set.univ
  | none => ∅
  | only tags => { t | t ∈ tags }
  | except tags => { t | t ∉ tags }
  | ofBits bits => { t | hasBit bits (place t) }
  | insert plan tag => Insert.insert tag plan.members
  | remove plan tag => plan.members \ {tag}

/-- The bits that a plan starts from, if any. -/
def bits? {τ : Type} : Plan τ → Option UInt64
  | all => Option.none
  | none => Option.none
  | only _ => Option.none
  | except _ => Option.none
  | ofBits bits => some bits
  | insert plan _ => plan.bits?
  | remove plan _ => plan.bits?

variable {plan plan' : Plan τ}

/-- The set that is built has the members of its plan. -/
theorem contains_iff_mem_members (h : plan.build = .ok s) : s.contains t ↔ t ∈ plan.members := by
  induction plan generalizing s with
  | all => cases h; exact iff_of_true contains_all trivial
  | none => cases h; exact iff_of_false contains_none (Set.notMem_empty t)
  | only tags => cases h; exact contains_only
  | except tags => cases h; exact contains_except
  | ofBits bits =>
    obtain ⟨rfl, -⟩ := ofBits_eq_ok_iff_within.1 h
    exact contains_iff
  | insert plan tag ih =>
    obtain ⟨s', built, done⟩ := Except.bind_eq_ok.1 h
    cases done
    rw [contains_insert, ih built, members, Set.mem_insert_iff]
  | remove plan tag ih =>
    obtain ⟨s', built, done⟩ := Except.bind_eq_ok.1 h
    cases done
    rw [contains_remove, ih built, members, Set.mem_sdiff, Set.mem_singleton_iff]

/-- Sets are built alike just if their plans have the same members. -/
theorem build_eq_iff (h : plan.build = .ok s) (h' : plan'.build = .ok s') :
    s = s' ↔ plan.members = plan'.members := by
  constructor
  · rintro rfl
    ext t
    rw [← contains_iff_mem_members h, ← contains_iff_mem_members h']
  · intro same
    refine eq_of_contains (build_within h) (build_within h') fun t => ?_
    rw [Bool.eq_iff_iff, contains_iff_mem_members h, contains_iff_mem_members h', same]

omit [Lawful τ] in
/-- A plan fails where its bits do. -/
theorem exists_build_eq_ok_iff :
    (∃ s, plan.build = .ok s) ↔
      ∀ bits, plan.bits? = some bits → ∃ s : AllowedSet τ, AllowedSet.ofBits bits = .ok s := by
  have changed {p : Plan τ} (change : AllowedSet τ → AllowedSet τ) :
      (∃ s, (do return change (← p.build) : Except ConfigError _) = .ok s) ↔
        ∃ s, p.build = .ok s := by
    cases p.build with
    | error e => exact ⟨fun ⟨_, h⟩ => (by cases h), fun ⟨_, h⟩ => (by cases h)⟩
    | ok s => exact ⟨fun _ => ⟨s, rfl⟩, fun _ => ⟨change s, rfl⟩⟩
  induction plan with
  | all => simp [build, bits?]
  | none => simp [build, bits?]
  | only tags => simp [build, bits?]
  | except tags => simp [build, bits?]
  | ofBits bits => simp [build, bits?]
  | insert plan tag ih => exact (changed (·.insert tag)).trans ih
  | remove plan tag ih => exact (changed (·.remove tag)).trans ih

end Plan

/-! ## Sets as they are meant -/

/-- Sets of tags of a kind are the sets that they stand for, where the tags are declared in the order
of `declared`. A set collected from tags is `only` of them. -/
structure Faithful (declared : τ → Nat) : Prop where
  /-- A plan fails just if it starts from bits that are not those of some tags. -/
  builds : ∀ plan : Plan τ, (∃ s, plan.build = .ok s) ↔
    ∀ bits, plan.bits? = some bits → ∃ list : List τ, (only list).bits = bits
  /-- The members of a set are those of its plan. -/
  contains : ∀ (plan : Plan τ) s, plan.build = .ok s → ∀ t, s.contains t ↔ t ∈ plan.members
  /-- The members are listed once each, in the order in which the tags are declared. -/
  lists : ∀ (plan : Plan τ) s, plan.build = .ok s →
    (∀ t, t ∈ s.toList ↔ t ∈ plan.members) ∧ s.toList.Nodup ∧
      s.toList.Pairwise fun t u => declared t < declared u
  /-- Two sets are equal just if they have the same members. -/
  equal : ∀ (plan plan' : Plan τ) s s', plan.build = .ok s → plan'.build = .ok s' →
    (s = s' ↔ plan.members = plan'.members)
  /-- A set is found empty just if it has no members. -/
  empty : ∀ (plan : Plan τ) s, plan.build = .ok s → (s.isEmpty ↔ plan.members = ∅)
  /-- Bits are accepted just if they are the bits of some tags. -/
  accepts : ∀ bits, (∃ s : AllowedSet τ, ofBits bits = .ok s) ↔
    ∃ list : List τ, (only list).bits = bits
  /-- Accepted bits are kept. -/
  keeps : ∀ bits (s : AllowedSet τ), ofBits bits = .ok s → s.bits = bits
  /-- Other bits are refused with those of them that belong to no tag. -/
  reports : ∀ bits e, (ofBits bits : Except ConfigError (AllowedSet τ)) = .error e →
    ∃ foreign, e = .unknownFlags (PolicyTag.kind τ) foreign ∧
      ∀ i, hasBit foreign i ↔ hasBit bits i ∧ ∀ t : τ, ¬hasBit (PolicyTag.bit t) i

/-- A kind of tags has faithful sets when its list is in the order of the declaration. -/
theorem faithful_of_pairwise {declared : τ → Nat}
    (sorted : (PolicyTag.tags : List τ).Pairwise fun t u => declared t < declared u) :
    Faithful declared where
  builds plan := by
    rw [Plan.exists_build_eq_ok_iff]
    exact forall_congr' fun bits => imp_congr_right fun _ => exists_ofBits_eq_ok_iff
  contains _ _ h _ := Plan.contains_iff_mem_members h
  lists _ _ h :=
    ⟨fun _ => mem_toList.trans (Plan.contains_iff_mem_members h), nodup_toList, sorted.filter _⟩
  equal _ _ _ _ h h' := Plan.build_eq_iff h h'
  empty _ _ h := by
    rw [isEmpty_iff (Plan.build_within h), Set.eq_empty_iff_forall_notMem]
    exact forall_congr' fun t => not_congr (Plan.contains_iff_mem_members h)
  accepts _ := exists_ofBits_eq_ok_iff
  keeps _ _ h := (ofBits_eq_ok_iff_within.1 h).1
  reports _ _ h := ⟨_, eq_of_ofBits_eq_error h, fun _ => hasBit_foreignBits⟩

/-- Sets of operators, of functions and of query options are the sets that they stand for. -/
theorem faithful :
    Faithful ArithmeticOperator.ctorIdx ∧ Faithful LogicalOperator.ctorIdx ∧
      Faithful Builtin.ctorIdx ∧ Faithful OptionKind.ctorIdx :=
  ⟨faithful_of_pairwise (by decide), faithful_of_pairwise (by decide),
    faithful_of_pairwise (by decide), faithful_of_pairwise (by decide)⟩

end RecordQuery.AllowedSet
