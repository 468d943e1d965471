import Mathlib.Data.List.Nodup
import Mathlib.Data.List.Perm.Subperm
import Mathlib.Logic.Relation
import RecordQuery.Proofs.Schema.Resolution

/-!
# Chains of base types

A chain follows the base types of a type for as long as there are any. Nothing in a list of types
keeps it from coming back to where it was, so a chain that ends is a derivation. Where the names of
types differ, the types on a chain are those that its first type derives from.

## Main definitions

* `Extends`: whether a type names another one as its base.
* `Model.Lineage`: the chains that end.

## Main statements

* `Model.Lineage.mem_iff`: the types on a chain.
* `Model.Lineage.chain_eq`: a chain that ends is found with a bound on its length.
-/

namespace RecordQuery

open Relation (ReflTransGen TransGen)

variable {types : List StructuredType} {m : Model} {name : String} {t u : StructuredType}

/-! ## Base types -/

/-- Whether there is a type with a name among some types. -/
def Declared (types : List StructuredType) (name : String) : Prop := ∃ t ∈ types, t.name = name

/-- Whether a type among some types names another one as its base. -/
def Extends (types : List StructuredType) (derived base : String) : Prop :=
  ∃ t ∈ types, t.name = derived ∧ t.base = some base

/-- The order of types does not matter for what is declared. -/
theorem declared_perm {types' : List StructuredType} (perm : types.Perm types') :
    Declared types' = Declared types := by
  funext name
  exact propext (exists_congr fun t => and_congr_left fun _ => perm.mem_iff.symm)

theorem extends_perm {types' : List StructuredType} (perm : types.Perm types') :
    Extends types' = Extends types := by
  funext derived base
  exact propext (exists_congr fun t => and_congr_left fun _ => perm.mem_iff.symm)

theorem Extends.declared {derived base : String} (h : Extends types derived base) :
    Declared types derived := by
  obtain ⟨t, ht, name, -⟩ := h
  exact ⟨t, ht, name⟩

theorem declared_of_transGen {derived base : String} (h : TransGen (Extends types) derived base) :
    Declared types derived := by
  obtain ⟨_, first, -⟩ := TransGen.head'_iff.1 h
  exact first.declared

theorem eq_of_name_eq (names : (types.map (·.name)).Nodup) (ht : t ∈ types) (hu : u ∈ types)
    (same : t.name = u.name) : t = u := List.inj_on_of_nodup_map names ht hu same

/-- A type has one base at most. -/
theorem Extends.base (names : (types.map (·.name)).Nodup) (ht : t ∈ types) {base : String}
    (h : Extends types t.name base) : t.base = some base := by
  obtain ⟨u, hu, same, named⟩ := h
  rwa [eq_of_name_eq names ht hu same.symm]

namespace Model

theorem mem_of_find? (h : m.find? name = some t) : t ∈ m.types := List.mem_of_find?_eq_some h

theorem find?_eq_none_iff : m.find? name = none ↔ ¬ Declared m.types name := by
  simp [find?, Declared]

theorem find?_isSome_iff : (m.find? name).isSome ↔ Declared m.types name := by
  rw [← Option.ne_none_iff_isSome, ne_eq, find?_eq_none_iff, not_not]

/-! ## Chains that end -/

/-- The chain from a name on: the type of the name, if it is declared, and the chain of its base. -/
inductive Lineage (m : Model) : Option String → List StructuredType → Prop
  | root : m.Lineage none []
  | missing {name : String} (missing : m.find? name = none) : m.Lineage (some name) []
  | derived {name : String} {t : StructuredType} {rest : List StructuredType}
      (found : m.find? name = some t) (more : m.Lineage t.base rest) :
      m.Lineage (some name) (t :: rest)

namespace Lineage

variable {start : Option String} {chain : List StructuredType}

theorem subset (h : m.Lineage start chain) : ∀ t ∈ chain, t ∈ m.types := by
  induction h with
  | root => exact nofun
  | missing => exact nofun
  | derived found _ ih => exact List.forall_mem_cons.2 ⟨mem_of_find? found, ih⟩

/-- What stands on the chain of the base of a type is what the type derives from. -/
theorem mem_iff_transGen (names : (m.types.map (·.name)).Nodup) (h : m.Lineage start chain)
    (ht : t ∈ m.types) (hstart : t.base = start) :
    u ∈ chain ↔ u ∈ m.types ∧ TransGen (Extends m.types) t.name u.name := by
  induction h generalizing t with
  | root =>
    refine iff_of_false nofun fun derives => ?_
    obtain ⟨base, first, -⟩ := TransGen.head'_iff.1 derives.2
    cases hstart.symm.trans (first.base names ht)
  | @missing base missing =>
    refine iff_of_false nofun fun derives => ?_
    obtain ⟨base', first, more⟩ := TransGen.head'_iff.1 derives.2
    cases hstart.symm.trans (first.base names ht)
    refine find?_eq_none_iff.1 missing ?_
    obtain same | more := Relation.reflTransGen_iff_eq_or_transGen.1 more
    · exact ⟨u, derives.1, same⟩
    · exact declared_of_transGen more
  | @derived base next rest found more ih =>
    have hnext := mem_of_find? found
    obtain rfl : next.name = base := name_of_find? found
    have first : Extends m.types t.name next.name := ⟨t, ht, rfl, hstart⟩
    rw [List.mem_cons, ih hnext rfl]
    constructor
    · rintro (rfl | ⟨hu, derives⟩)
      · exact ⟨hnext, .single first⟩
      · exact ⟨hu, .head first derives⟩
    · rintro ⟨hu, derives⟩
      obtain ⟨base', first', derives⟩ := TransGen.head'_iff.1 derives
      cases hstart.symm.trans (first'.base names ht)
      obtain same | derives := Relation.reflTransGen_iff_eq_or_transGen.1 derives
      · exact .inl (eq_of_name_eq names hu hnext same)
      · exact .inr ⟨hu, derives⟩

/-- The types on a chain are the one that it starts with and those that this one derives from. -/
theorem mem_iff (names : (m.types.map (·.name)).Nodup) (h : m.Lineage (some name) chain) :
    u ∈ chain ↔ u ∈ m.types ∧ ReflTransGen (Extends m.types) name u.name := by
  cases h with
  | missing missing =>
    refine iff_of_false nofun fun derives => find?_eq_none_iff.1 missing ?_
    obtain same | derives' := Relation.reflTransGen_iff_eq_or_transGen.1 derives.2
    · exact ⟨u, derives.1, same⟩
    · exact declared_of_transGen derives'
  | @derived _ t rest found more =>
    have ht := mem_of_find? found
    obtain rfl : t.name = name := name_of_find? found
    rw [List.mem_cons, more.mem_iff_transGen names ht rfl,
      Relation.reflTransGen_iff_eq_or_transGen, and_or_left]
    refine or_congr_left ⟨?_, fun same => eq_of_name_eq names same.1 ht same.2⟩
    rintro rfl
    exact ⟨ht, rfl⟩

/-- A bound that a chain does not exceed cuts nothing off. -/
theorem chain_eq (h : m.Lineage (some name) chain) {fuel : Nat} (short : chain.length ≤ fuel) :
    m.chain fuel name = chain := by
  induction fuel generalizing name chain with
  | zero =>
    rw [List.length_eq_zero_iff.1 (Nat.le_zero.1 short)]
    rfl
  | succ fuel ih =>
    unfold Model.chain
    cases h with
    | missing missing => rw [missing]
    | @derived _ t rest found more =>
      rw [found]
      dsimp only
      cases base : t.base with
      | none =>
        rw [base] at more
        cases more
        rfl
      | some base' =>
        rw [base] at more
        dsimp only
        rw [ih more (Nat.le_of_succ_le_succ short)]

/-- A chain without repetition is no longer than the list of types. -/
theorem length_le (h : m.Lineage start chain) (distinct : (chain.map (·.name)).Nodup) :
    chain.length ≤ m.types.length :=
  (List.subperm_of_subset (.of_map _ distinct) h.subset).length_le

end Lineage

end Model

end RecordQuery
