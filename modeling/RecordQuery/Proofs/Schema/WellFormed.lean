import Mathlib.Data.List.Duplicate
import RecordQuery.Proofs.Except
import RecordQuery.Proofs.Schema.Build
import RecordQuery.Proofs.Schema.Lineage

/-!
# Well-formed schemas

Types make a model if their names differ, their bases and the types of their properties are
declared, no type derives from itself, and no type has a property that it inherits as well. This is
found out chain by chain: a check walks from a type to its bases and keeps the names that it has
met. It comes to an end because it never passes a type twice, and all checks together leave no fault
undiscovered.

## Main definitions

* `WellFormed`: what types have to be like to make a model.
* `Model.Checks`: the check of a chain, without a bound on its length.
* `Defect`: what an error says about some types.

## Main statements

* `Model.Checks.lineage`: what a check has found out when it passes.
* `Model.Checks.defect`: errors have a reason.
* `Model.build_accepts`: which declarations make a model.
-/

namespace RecordQuery

open Relation (ReflTransGen TransGen)

/-- Types that make a model. -/
structure WellFormed (types : List StructuredType) : Prop where
  names : (types.map (·.name)).Nodup
  bases : ∀ t ∈ types, ∀ base, t.base = some base → Declared types base
  acyclic : ∀ t ∈ types, ¬ TransGen (Extends types) t.name t.name
  own : ∀ t ∈ types, (t.properties.map (·.name)).Nodup
  inherited : ∀ t ∈ types, ∀ u ∈ types, TransGen (Extends types) t.name u.name →
    ∀ p ∈ t.properties, ∀ q ∈ u.properties, p.name ≠ q.name
  mentioned : ∀ t ∈ types, ∀ p ∈ t.properties, ∀ name,
    p.type = .structured name ∨ p.type = .collection (.structured name) → Declared types name

/-- What an error says about some types. The type that a cycle is reported for leads to the cycle
and need not be on it. An unknown type is no error of declarations. -/
def Defect (types : List StructuredType) : SchemaError → Prop
  | .duplicateType name => (types.map (·.name)).Duplicate name
  | .unknownType _ => False
  | .unknownBaseType derived base => Extends types derived base ∧ ¬ Declared types base
  | .unknownPropertyType owner property type => ∃ t ∈ types, t.name = owner ∧
      ∃ p ∈ t.properties, p.name = property ∧ p.type.structuredName? = some type ∧
        ¬ Declared types type
  | .duplicateProperty owner property => ∃ t ∈ types,
      ReflTransGen (Extends types) owner t.name ∧
        ((t.properties.map (·.name)).Duplicate property ∨
          ∃ u ∈ types, u.name ≠ t.name ∧ ReflTransGen (Extends types) owner u.name ∧
            TransGen (Extends types) u.name t.name ∧
            property ∈ u.properties.map (·.name) ∧ property ∈ t.properties.map (·.name))
  | .inheritanceCycle name => ∃ member, ReflTransGen (Extends types) name member ∧
      TransGen (Extends types) member member

namespace WellFormed

variable {types types' : List StructuredType}

/-- The order of types does not matter. -/
theorem perm (h : WellFormed types) (perm : types.Perm types') : WellFormed types' := by
  have extends_eq := extends_perm perm
  have declared_eq := declared_perm perm
  obtain ⟨names, bases, acyclic, own, inherited, mentioned⟩ := h
  simp only [perm.mem_iff] at bases acyclic own inherited mentioned
  exact ⟨(perm.map _).nodup_iff.1 names, declared_eq ▸ bases, extends_eq ▸ acyclic, own,
    extends_eq ▸ inherited, declared_eq ▸ mentioned⟩

theorem no_defect (h : WellFormed types) (e : SchemaError) : ¬ Defect types e := by
  cases e with
  | duplicateType name => exact List.nodup_iff_forall_not_duplicate.1 h.names name
  | unknownType name => exact id
  | unknownBaseType derived base =>
    rintro ⟨⟨t, ht, -, named⟩, missing⟩
    exact missing (h.bases t ht base named)
  | unknownPropertyType owner property type =>
    rintro ⟨t, ht, -, p, hp, -, mentions, missing⟩
    exact missing (h.mentioned t ht p hp type (TypeRef.structuredName?_eq_some_iff.1 mentions))
  | duplicateProperty owner property =>
    rintro ⟨t, ht, -, twice | ⟨u, hu, -, -, derives, here, there⟩⟩
    · exact List.nodup_iff_forall_not_duplicate.1 (h.own t ht) property twice
    · obtain ⟨p, hp, rfl⟩ := List.mem_map.1 here
      obtain ⟨q, hq, same⟩ := List.mem_map.1 there
      exact h.inherited u hu t ht derives p hp q hq same.symm
  | inheritanceCycle name =>
    rintro ⟨member, -, cycle⟩
    obtain ⟨t, ht, rfl⟩ := declared_of_transGen cycle
    exact h.acyclic t ht cycle

end WellFormed

namespace Model

variable {m : Model} {owner holder : String} {seen seen' seenTypes seenProperties : List String}
  {ps : List Property} {t : StructuredType} {e : SchemaError}

/-! ## The properties of a type -/

theorem checkProperties_cons_eq_ok {p : Property} :
    m.checkProperties owner holder seen (p :: ps) = .ok seen' ↔
      p.name ∉ seen ∧ (∀ type, p.type.structuredName? = some type → Declared m.types type) ∧
        m.checkProperties owner holder (p.name :: seen) ps = .ok seen' := by
  rw [checkProperties]
  simp only [List.contains_iff_mem]
  by_cases old : p.name ∈ seen
  · simp [old]
  · rw [if_neg old]
    cases mentions : p.type.structuredName? with
    | none => simp [old]
    | some type =>
      dsimp only
      by_cases declared : Declared m.types type
      · simp [if_pos (find?_isSome_iff.2 declared), old, declared]
      · simp [if_neg (mt find?_isSome_iff.1 declared), declared]

theorem checkProperties_cons_eq_error {p : Property} :
    m.checkProperties owner holder seen (p :: ps) = .error e ↔
      (p.name ∈ seen ∧ e = .duplicateProperty owner p.name) ∨
      (p.name ∉ seen ∧ ∃ type, p.type.structuredName? = some type ∧ ¬ Declared m.types type ∧
        e = .unknownPropertyType holder p.name type) ∨
      (p.name ∉ seen ∧ (∀ type, p.type.structuredName? = some type → Declared m.types type) ∧
        m.checkProperties owner holder (p.name :: seen) ps = .error e) := by
  rw [checkProperties]
  simp only [List.contains_iff_mem]
  by_cases old : p.name ∈ seen
  · simp [old, eq_comm]
  · rw [if_neg old]
    cases mentions : p.type.structuredName? with
    | none => simp [old]
    | some type =>
      dsimp only
      by_cases declared : Declared m.types type
      · simp [if_pos (find?_isSome_iff.2 declared), old, declared]
      · simp [if_neg (mt find?_isSome_iff.1 declared), old, declared, eq_comm (a := e)]

/-- Properties that pass have new names, which are added to those seen, and declared types. -/
theorem checkProperties_passed (h : m.checkProperties owner holder seen ps = .ok seen') :
    seen' = (ps.map (·.name)).reverse ++ seen ∧ (seen.Nodup → seen'.Nodup) ∧
      ∀ p ∈ ps, ∀ type, p.type.structuredName? = some type → Declared m.types type := by
  induction ps generalizing seen with
  | nil =>
    cases h
    exact ⟨rfl, id, nofun⟩
  | cons p rest ih =>
    obtain ⟨new, declared, h⟩ := checkProperties_cons_eq_ok.1 h
    obtain ⟨names, distinct, others⟩ := ih h
    refine ⟨?_, fun old => distinct (List.nodup_cons.2 ⟨new, old⟩),
      List.forall_mem_cons.2 ⟨declared, others⟩⟩
    simp [names]

/-- Of properties that do not pass, one has an old name or an undeclared type. -/
theorem checkProperties_failed (h : m.checkProperties owner holder seen ps = .error e) :
    (∃ name ∈ ps.map (·.name), e = .duplicateProperty owner name ∧
      (name ∈ seen ∨ (ps.map (·.name)).Duplicate name)) ∨
    ∃ p ∈ ps, ∃ type, e = .unknownPropertyType holder p.name type ∧
      p.type.structuredName? = some type ∧ ¬ Declared m.types type := by
  induction ps generalizing seen with
  | nil => cases h
  | cons p rest ih =>
    rw [List.map_cons]
    obtain ⟨old, rfl⟩ | ⟨-, type, mentions, missing, rfl⟩ | ⟨-, -, h⟩ :=
      checkProperties_cons_eq_error.1 h
    · exact .inl ⟨p.name, List.mem_cons_self, rfl, .inl old⟩
    · exact .inr ⟨p, List.mem_cons_self, type, rfl, mentions, missing⟩
    · obtain ⟨name, mem, rfl, old⟩ | ⟨q, hq, fault⟩ := ih h
      · refine .inl ⟨name, List.mem_cons_of_mem _ mem, rfl, ?_⟩
        rcases old with old | twice
        · obtain rfl | old := List.mem_cons.1 old
          · exact .inr (.cons_mem mem)
          · exact .inl old
        · exact .inr (.cons_duplicate twice)
      · exact .inr ⟨q, List.mem_cons_of_mem p hq, fault⟩

/-! ## The check of a chain -/

/-- What the check of the chain of `owner` comes to from one of its types on, with no bound on the
length of the chain: the check is over at the first fault, and at a type without a base. -/
inductive Checks (m : Model) (owner : String) :
    List String → List String → StructuredType → Except SchemaError Unit → Prop
  | cycle {seenTypes seenProperties : List String} {t : StructuredType}
      (old : t.name ∈ seenTypes) :
      m.Checks owner seenTypes seenProperties t (.error (.inheritanceCycle owner))
  | fault {seenTypes seenProperties : List String} {t : StructuredType} {e : SchemaError}
      (new : t.name ∉ seenTypes)
      (failed : m.checkProperties owner t.name seenProperties t.properties = .error e) :
      m.Checks owner seenTypes seenProperties t (.error e)
  | root {seenTypes seenProperties seen' : List String} {t : StructuredType}
      (new : t.name ∉ seenTypes)
      (passed : m.checkProperties owner t.name seenProperties t.properties = .ok seen')
      (last : t.base = none) : m.Checks owner seenTypes seenProperties t (.ok ())
  | missing {seenTypes seenProperties seen' : List String} {t : StructuredType} {base : String}
      (new : t.name ∉ seenTypes)
      (passed : m.checkProperties owner t.name seenProperties t.properties = .ok seen')
      (named : t.base = some base) (missing : m.find? base = none) :
      m.Checks owner seenTypes seenProperties t (.error (.unknownBaseType t.name base))
  | derived {seenTypes seenProperties seen' : List String} {t next : StructuredType}
      {base : String} {result : Except SchemaError Unit} (new : t.name ∉ seenTypes)
      (passed : m.checkProperties owner t.name seenProperties t.properties = .ok seen')
      (named : t.base = some base) (found : m.find? base = some next)
      (more : m.Checks owner (t.name :: seenTypes) seen' next result) :
      m.Checks owner seenTypes seenProperties t result

/-- A check with enough fuel for the types that it has not seen does not run out of it. -/
theorem checks_checkChain {fuel : Nat} (distinct : seenTypes.Nodup)
    (known : ∀ name ∈ seenTypes, Declared m.types name) (ht : t ∈ m.types)
    (enough : m.types.length < seenTypes.length + fuel) :
    m.Checks owner seenTypes seenProperties t
      (m.checkChain owner fuel seenTypes seenProperties t) := by
  induction fuel generalizing seenTypes seenProperties t with
  | zero =>
    have sub : ∀ name ∈ seenTypes, name ∈ m.types.map (·.name) := fun name mem =>
      List.mem_map.2 (known name mem)
    have bounded := (List.subperm_of_subset distinct sub).length_le
    rw [List.length_map] at bounded
    omega
  | succ fuel ih =>
    unfold checkChain
    simp only [List.contains_iff_mem]
    split
    case isTrue old => exact .cycle old
    case isFalse new =>
      cases properties : m.checkProperties owner t.name seenProperties t.properties with
      | error e => exact .fault new properties
      | ok seen' =>
        rw [Except.ok_bind]
        split
        case h_1 last => exact .root new properties last
        case h_2 base named =>
          split
          case h_1 missing => exact .missing new properties named missing
          case h_2 next found =>
            refine .derived new properties named found (ih (List.nodup_cons.2 ⟨new, distinct⟩)
              (List.forall_mem_cons.2 ⟨⟨t, ht, rfl⟩, known⟩) (mem_of_find? found) ?_)
            simp only [List.length_cons]
            omega

/-- The check of a type comes to an end. -/
theorem checks_checkType (ht : t ∈ m.types) : m.Checks t.name [] [] t (m.checkType t) :=
  checks_checkChain .nil nofun ht (by simp)

/-- A check that passes has walked the whole chain, on which no type and no property occurs twice,
and neither does one of those seen before. -/
theorem Checks.lineage (h : m.Checks owner seenTypes seenProperties t (.ok ()))
    (types : seenTypes.Nodup) (properties : seenProperties.Nodup) :
    ∃ rest, m.Lineage t.base rest ∧ ((t :: rest).map (·.name) ++ seenTypes).Nodup ∧
      (((t :: rest).flatMap (·.properties)).map (·.name) ++ seenProperties).Nodup ∧
      (∀ base, t.base = some base → Declared m.types base) ∧
      ∀ p ∈ t.properties, ∀ type, p.type.structuredName? = some type → Declared m.types type := by
  generalize passes : Except.ok () = result at h
  induction h with
  | cycle | fault | missing => cases passes
  | @root seenTypes seenProperties seen' t new passed last =>
    obtain ⟨rfl, distinct, declared⟩ := checkProperties_passed passed
    refine ⟨[], last ▸ .root, List.nodup_cons.2 ⟨new, types⟩, ?_, ?_, declared⟩
    · refine (List.Perm.nodup_iff ?_).1 (distinct properties)
      simpa using (List.reverse_perm _).append_right _
    · simp [last]
  | @derived seenTypes seenProperties seen' t next base result new passed named found more ih =>
    obtain ⟨rfl, distinct, declared⟩ := checkProperties_passed passed
    obtain ⟨rest, lineage, types', properties', -, -⟩ :=
      ih (List.nodup_cons.2 ⟨new, types⟩) (distinct properties) passes
    refine ⟨next :: rest, named ▸ .derived found lineage, ?_, ?_, fun base' named' => ?_, declared⟩
    · exact List.perm_middle.nodup_iff.1 types'
    · refine (List.Perm.nodup_iff ?_).1 properties'
      rw [List.flatMap_cons (x := t), List.map_append, List.append_assoc]
      exact (((List.reverse_perm _).append_right _).append_left _).trans
        (List.perm_append_comm_assoc _ _ _)
    · cases named.symm.trans named'
      exact find?_isSome_iff.1 (by simp [found])

/-! ## Faults -/

/-- What is known of the types and properties that the check of the chain of `owner` has met when it
comes to a type. -/
structure Visited (m : Model) (owner : String) (seenTypes seenProperties : List String)
    (t : StructuredType) : Prop where
  here : t ∈ m.types
  reached : ReflTransGen (Extends m.types) owner t.name
  types : ∀ name ∈ seenTypes, TransGen (Extends m.types) name t.name
  properties : ∀ name ∈ seenProperties, ∃ u ∈ m.types, u.name ∈ seenTypes ∧
    ReflTransGen (Extends m.types) owner u.name ∧ TransGen (Extends m.types) u.name t.name ∧
      name ∈ u.properties.map (·.name)

theorem Visited.next {next : StructuredType} {base : String}
    (h : m.Visited owner seenTypes seenProperties t) (named : t.base = some base)
    (found : m.find? base = some next) :
    m.Visited owner (t.name :: seenTypes) ((t.properties.map (·.name)).reverse ++ seenProperties)
      next := by
  obtain rfl : next.name = base := name_of_find? found
  have step : Extends m.types t.name next.name := ⟨t, h.here, rfl, named⟩
  refine ⟨mem_of_find? found, h.reached.tail step, ?_, fun name mem => ?_⟩
  · exact List.forall_mem_cons.2 ⟨.single step, fun name mem => (h.types name mem).tail step⟩
  · obtain mem | mem := List.mem_append.1 mem
    · exact ⟨t, h.here, List.mem_cons_self, h.reached, .single step, List.mem_reverse.1 mem⟩
    · obtain ⟨u, hu, seen, reached, derives, declares⟩ := h.properties name mem
      exact ⟨u, hu, List.mem_cons_of_mem _ seen, reached, derives.tail step, declares⟩

/-- An error of a check has a reason. -/
theorem Checks.defect (h : m.Checks owner seenTypes seenProperties t (.error e))
    (visited : m.Visited owner seenTypes seenProperties t) : Defect m.types e := by
  generalize fails : Except.error e = result at h
  induction h with
  | root => cases fails
  | cycle old =>
    cases fails
    exact ⟨_, visited.reached, visited.types _ old⟩
  | @fault seenTypes seenProperties t e new failed =>
    cases fails
    obtain ⟨name, mem, rfl, old⟩ | ⟨p, hp, type, rfl, mentions, missing⟩ :=
      checkProperties_failed failed
    · obtain old | twice := old
      · obtain ⟨u, hu, seen, reached, derives, declares⟩ := visited.properties name old
        have other : u.name ≠ t.name := fun same => new (same ▸ seen)
        exact ⟨t, visited.here, visited.reached,
          .inr ⟨u, hu, other, reached, derives, declares, mem⟩⟩
      · exact ⟨t, visited.here, visited.reached, .inl twice⟩
    · exact ⟨t, visited.here, rfl, p, hp, rfl, mentions, missing⟩
  | @missing seenTypes seenProperties seen' t base new passed named missing =>
    cases fails
    exact ⟨⟨t, visited.here, rfl, named⟩, find?_eq_none_iff.1 missing⟩
  | derived new passed named found more ih =>
    obtain ⟨rfl, -, -⟩ := checkProperties_passed passed
    exact ih (visited.next named found) fails

/-! ## All types -/

/-- A type whose check passes does not derive from itself. -/
theorem acyclic_of_checkType (names : (m.types.map (·.name)).Nodup) (ht : t ∈ m.types)
    (passes : m.checkType t = .ok ()) : ¬ TransGen (Extends m.types) t.name t.name := by
  intro cycle
  obtain ⟨rest, lineage, types, -⟩ := (passes ▸ checks_checkType ht).lineage .nil .nil
  rw [List.append_nil, List.map_cons] at types
  have again : t ∈ rest := (lineage.mem_iff_transGen names ht rfl).2 ⟨ht, cycle⟩
  exact (List.nodup_cons.1 types).1 (List.mem_map_of_mem again)

/-- The check of every type passes if and only if the types are well-formed. -/
theorem checkType_eq_ok_iff (names : (m.types.map (·.name)).Nodup) :
    (∀ t ∈ m.types, m.checkType t = .ok ()) ↔ WellFormed m.types := by
  constructor
  · intro passes
    have chains : ∀ t ∈ m.types, _ := fun t ht =>
      (passes t ht ▸ checks_checkType ht).lineage .nil .nil
    simp only [List.append_nil, List.map_cons, List.flatMap_cons, List.map_append] at chains
    refine ⟨names, fun t ht => ?_, fun t ht => acyclic_of_checkType names ht (passes t ht),
      fun t ht => ?_, fun t ht u hu derives p hp q hq same => ?_, fun t ht p hp name mentions => ?_⟩
    · obtain ⟨-, -, -, -, bases, -⟩ := chains t ht
      exact bases
    · obtain ⟨rest, -, -, properties, -⟩ := chains t ht
      exact (List.nodup_append.1 properties).1
    · obtain ⟨rest, lineage, -, properties, -⟩ := chains t ht
      have above : u ∈ rest := (lineage.mem_iff_transGen names ht rfl).2 ⟨hu, derives⟩
      have inherits : q ∈ rest.flatMap (·.properties) := List.mem_flatMap.2 ⟨u, above, hq⟩
      exact (List.nodup_append.1 properties).2.2 _ (List.mem_map_of_mem hp) _
        (List.mem_map_of_mem inherits) same
    · obtain ⟨-, -, -, -, -, declared⟩ := chains t ht
      exact declared p hp name (TypeRef.structuredName?_eq_some_iff.2 mentions)
  · intro wellFormed t ht
    have checks := checks_checkType ht
    cases result : m.checkType t with
    | ok => rfl
    | error e =>
      rw [result] at checks
      exact (wellFormed.no_defect e (checks.defect ⟨ht, .refl, nofun, nofun⟩)).elim

/-- In a well-formed model the types above a name are a chain that ends, on which neither a type nor
the name of a property occurs twice. -/
theorem hierarchy_spec (wellFormed : WellFormed m.types) (name : String) :
    m.Lineage (some name) (m.hierarchy name) ∧ ((m.hierarchy name).map (·.name)).Nodup ∧
      (((m.hierarchy name).flatMap (·.properties)).map (·.name)).Nodup := by
  have known : ∃ chain, m.Lineage (some name) chain ∧ (chain.map (·.name)).Nodup ∧
      ((chain.flatMap (·.properties)).map (·.name)).Nodup := by
    cases found : m.find? name with
    | none => exact ⟨[], .missing found, .nil, .nil⟩
    | some t =>
      have ht := mem_of_find? found
      have checks := checks_checkType ht
      rw [(checkType_eq_ok_iff wellFormed.names).2 wellFormed t ht] at checks
      obtain ⟨rest, lineage, types, properties, -⟩ := checks.lineage .nil .nil
      rw [List.append_nil] at types properties
      exact ⟨t :: rest, .derived found lineage, types, properties⟩
  obtain ⟨chain, lineage, types, properties⟩ := known
  rw [hierarchy, lineage.chain_eq (lineage.length_le types)]
  exact ⟨lineage, types, properties⟩

theorem ofDeclarations_perm (declarations : List TypeDeclaration) :
    (ofDeclarations declarations).types.Perm (declarations.map TypeDeclaration.toType) :=
  List.mergeSort_perm _ _

theorem build_eq_ok_iff {declarations : List TypeDeclaration} :
    build declarations = .ok m ↔ m = ofDeclarations declarations ∧ WellFormed m.types := by
  have same_names : ((ofDeclarations declarations).types.map (·.name)).Perm
      (declarations.map (·.name)) := by
    have perm := (ofDeclarations_perm declarations).map (·.name)
    rwa [List.map_map] at perm
  unfold build
  cases repeated : firstRepeat? [] (declarations.map (·.name)) with
  | some name =>
    refine iff_of_false nofun ?_
    rintro ⟨rfl, wellFormed⟩
    have distinct := same_names.nodup_iff.1 wellFormed.names
    cases repeated.symm.trans (firstRepeat?_eq_none_iff.2 ⟨distinct, fun _ _ => List.not_mem_nil⟩)
  | none =>
    have names := same_names.nodup_iff.2 (firstRepeat?_eq_none_iff.1 repeated).1
    simp only [Except.bind_eq_ok, Except.forM_eq_ok, Except.pure_eq, Except.ok.injEq,
      exists_const, checkType_eq_ok_iff names]
    constructor
    · rintro ⟨wellFormed, rfl⟩
      exact ⟨rfl, wellFormed⟩
    · rintro ⟨rfl, wellFormed⟩
      exact ⟨wellFormed, rfl⟩

/-- Declarations make a model if and only if their types are well-formed. The check of every type
comes to an end, and so does the chain of every name in the model, without repetition. -/
theorem build_accepts (declarations : List TypeDeclaration) :
    ((∃ m, build declarations = .ok m) ↔
      WellFormed (declarations.map TypeDeclaration.toType)) ∧
    (∀ t ∈ (ofDeclarations declarations).types, (ofDeclarations declarations).Checks t.name [] [] t
      ((ofDeclarations declarations).checkType t)) ∧
    ∀ m, build declarations = .ok m → ∀ name,
      m.Lineage (some name) (m.hierarchy name) ∧ ((m.hierarchy name).map (·.name)).Nodup := by
  refine ⟨?_, fun t ht => checks_checkType ht, fun m built name => ?_⟩
  · have perm := ofDeclarations_perm declarations
    simp only [build_eq_ok_iff, exists_eq_left]
    exact ⟨fun wellFormed => wellFormed.perm perm, fun wellFormed => wellFormed.perm perm.symm⟩
  · obtain ⟨lineage, types, -⟩ := hierarchy_spec (build_eq_ok_iff.1 built).2 name
    exact ⟨lineage, types⟩

end Model

/-- Managers, who are employees and have employees, and employees, who are persons. -/
def staffTypes : List TypeDeclaration :=
  [⟨"Staff.Employee", .entity, some "Staff.Person", [("Mentor", .structured "Staff.Person")]⟩,
    ⟨"Staff.Manager", .entity, some "Staff.Employee",
      [("Reports", .collection (.structured "Staff.Employee"))]⟩,
    ⟨"Staff.Person", .entity, none, [("Name", .primitive .string)]⟩]

/-- The model of the staff. -/
def staffModel : Model := ⟨staffTypes.map TypeDeclaration.toType⟩

theorem build_staffTypes : Model.build staffTypes = .ok staffModel := by
  rw [Model.build, Model.ofDeclarations_of_sorted (by decide)]
  rfl

theorem build_accepts_staff : WellFormed (staffTypes.map TypeDeclaration.toType) ∧
    staffModel.Lineage (some "Staff.Manager") (staffModel.hierarchy "Staff.Manager") ∧
    (staffModel.hierarchy "Staff.Manager").map (·.name) =
      ["Staff.Manager", "Staff.Employee", "Staff.Person"] := by
  obtain ⟨accepts, -, chains⟩ := Model.build_accepts staffTypes
  exact ⟨accepts.1 ⟨_, build_staffTypes⟩, (chains _ build_staffTypes "Staff.Manager").1, by decide⟩

end RecordQuery
