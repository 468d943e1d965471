import Mathlib.Data.String.Basic
import RecordQuery.Policy.Codec
import RecordQuery.Proofs.Policy.AllowedSet

/-!
# Policies that are stored and read again

The stored form of a policy lists the members of its sets and the names of its properties, and holds
its bounds as signed integers. So the policy that is read from it is the same one if its sets have no
other bits, its names are in order, and its bounds are small enough. Each policy that is read from a
configuration is of this sort.

## Main definitions

* `Policy.Sound`: the policies of this sort.

## Main statements

* `Policy.foldl_insertName`: names in order are inserted one after the other.
* `Policy.setOfJson_tagsToJson`, `Policy.boundOfJson_boundToJson`: one field that is read again.
* `Policy.Sound.ofJson_toJson`: a policy that is read again.
* `Policy.sound_of_ofJson`: what is read from any configuration.
-/

namespace RecordQuery

/-! ## Strings and tags -/

theorem Json.toStrings?_strings (names : List String) :
    (Json.strings names).toStrings? = some names := by
  rw [strings, toStrings?]
  induction names with
  | nil => rfl
  | cons name rest ih => rw [List.map_cons, List.mapM_cons, ih]; rfl

namespace Policy

theorem tagsOfTexts_map_text {τ : Type} [PolicyTag τ] [PolicyTag.Lawful τ] (tags : List τ) :
    tagsOfTexts (tags.map PolicyTag.text) = .ok tags := by
  induction tags with
  | nil => rfl
  | cons t rest ih => rw [List.map_cons, tagsOfTexts, PolicyTag.Lawful.reads, ih]; rfl

/-- A set is read from the texts of its members. -/
theorem setOfJson_tagsToJson {τ : Type} [PolicyTag τ] [PolicyTag.Lawful τ] {s : AllowedSet τ}
    (h : s.Within) : setOfJson (tagsToJson s) = .ok s := by
  simp only [setOfJson, tagsToJson, Json.toStrings?_strings, tagsOfTexts_map_text, Except.ok_bind,
    Except.pure_eq, AllowedSet.only_toList h]

theorem within_of_setOfJson {τ : Type} [PolicyTag τ] [PolicyTag.Lawful τ] {j : Json}
    {s : AllowedSet τ} (h : setOfJson j = .ok s) : s.Within := by
  rw [setOfJson] at h
  split at h
  next => cases h
  next =>
    obtain ⟨tags, -, read⟩ := Except.bind_eq_ok.1 h
    cases read
    exact AllowedSet.within_only tags

/-! ## Names in order -/

section

variable {name other : String} {names : List String}

theorem mem_insertName : other ∈ insertName name names ↔ other = name ∨ other ∈ names := by
  induction names with
  | nil => simp [insertName]
  | cons first rest ih => rw [insertName]; split_ifs <;> grind

theorem pairwise_insertName (h : names.Pairwise (· < ·)) (name : String) :
    (insertName name names).Pairwise (· < ·) := by
  induction names with
  | nil => exact List.pairwise_singleton _ _
  | cons first rest ih =>
    have ⟨least, sorted⟩ := List.pairwise_cons.1 h
    rw [insertName]
    split_ifs with same before
    · exact h
    · refine List.pairwise_cons.2 ⟨fun other mem => ?_, h⟩
      obtain rfl | later := List.mem_cons.1 mem
      · exact before
      · exact before.trans (least other later)
    · refine List.pairwise_cons.2 ⟨fun other mem => ?_, ih sorted⟩
      obtain rfl | later := mem_insertName.1 mem
      · exact lt_of_le_of_ne (not_lt.1 before) (Ne.symm same)
      · exact least other later

theorem insertName_of_forall_lt (h : ∀ other ∈ names, other < name) :
    insertName name names = names ++ [name] := by
  induction names with
  | nil => rfl
  | cons first rest ih =>
    have ⟨before, later⟩ := List.forall_mem_cons.1 h
    rw [insertName, if_neg before.ne', if_neg before.not_gt, ih later, List.cons_append]

/-- Names in order are inserted one after the other. -/
theorem foldl_insertName (front : List String) (h : (front ++ names).Pairwise (· < ·)) :
    names.foldl (fun l n => insertName n l) front = front ++ names := by
  induction names generalizing front with
  | nil => rw [List.foldl_nil, List.append_nil]
  | cons name rest ih =>
    have last := insertName_of_forall_lt fun other mem =>
      (List.pairwise_append.1 h).2.2 other mem name List.mem_cons_self
    rw [List.foldl_cons, last, ih (front ++ [name]) (by rwa [List.append_cons] at h),
      List.append_cons front name rest]

theorem pairwise_foldl_insertName (names : List String) :
    (names.foldl (fun l n => insertName n l) []).Pairwise (· < ·) :=
  List.foldlRecOn names _ List.Pairwise.nil fun _ h name _ => pairwise_insertName h name

end

/-! ## Bounds -/

theorem boundOfJson_boundToJson {n : Option Nat} (h : ∀ k ∈ n, k ≤ 2 ^ 63 - 1) :
    boundOfJson (boundToJson n) = .ok (n.map Int.ofNat) := by
  cases n with
  | none => rfl
  | some k =>
    have small := h k rfl
    rw [boundToJson, boundOfJson, if_pos (by omega)]
    rfl

theorem lt_of_boundOfJson {j : Json} {n : Option Int} (h : boundOfJson j = .ok n) :
    ∀ k ∈ n, k < 2 ^ 63 := by
  cases j with
  | null => cases h; nofun
  | int k =>
    rw [boundOfJson] at h
    split_ifs at h with fits
    cases h
    rintro _ ⟨⟩
    exact fits.2
  | _ => cases h

theorem boundOfField_ofNat (kind : PagingKind) (n : Option Nat) :
    boundOfField kind (n.map Int.ofNat) = .ok n := by
  cases n with
  | none => rfl
  | some k => rfl

theorem le_of_checkBound {kind : PagingKind} {n : Option Int} {m : Option Nat}
    (h : checkBound kind n = .ok m) (small : ∀ k ∈ n, k < 2 ^ 63) : ∀ k ∈ m, k ≤ 2 ^ 63 - 1 := by
  cases n with
  | none => cases h; nofun
  | some n =>
    rw [checkBound] at h
    split_ifs at h
    cases h
    rintro _ ⟨⟩
    have := small n rfl
    omega

theorem checkBound_of_boundOfField {kind : PagingKind} {n : Option Int} {m : Option Nat}
    (h : boundOfField kind n = .ok m) : checkBound kind n = .ok m := by
  rw [boundOfField] at h
  split at h
  next read => cases h; exact read
  next => cases h

/-! ## Policies -/

/-- Policies whose sets have no other bits, whose names are in order, and whose bounds are signed
integers. -/
structure Sound (p : Policy) : Prop where
  arithmetic : p.arithmetic.Within
  logical : p.logical.Within
  functions : p.functions.Within
  options : p.options.Within
  names : p.orderByProperties.Pairwise (· < ·)
  maxSkip : ∀ n ∈ p.maxSkip, n ≤ 2 ^ 63 - 1
  maxTop : ∀ n ∈ p.maxTop, n ≤ 2 ^ 63 - 1

theorem sound_permissive : permissive.Sound where
  arithmetic := AllowedSet.within_all
  logical := AllowedSet.within_all
  functions := AllowedSet.within_all
  options := AllowedSet.within_all
  names := List.Pairwise.nil
  maxSkip := nofun
  maxTop := nofun

/-! ## Reading the stored form -/

/-- The members of the stored form in the order of their names. -/
def sortedMembers (p : Policy) : List (String × Json) :=
  [("allowed_arithmetic_operators", tagsToJson p.arithmetic),
   ("allowed_functions", tagsToJson p.functions),
   ("allowed_logical_operators", tagsToJson p.logical),
   ("allowed_order_by_properties", Json.strings p.orderByProperties),
   ("allowed_query_options", tagsToJson p.options),
   ("max_skip", boundToJson p.maxSkip),
   ("max_top", boundToJson p.maxTop)]

theorem Sound.readFields_sortedMembers {p : Policy} (h : p.Sound) (fields : PolicyFields) :
    readFields fields p.sortedMembers =
      .ok ⟨{ p with maxSkip := fields.policy.maxSkip, maxTop := fields.policy.maxTop },
        p.maxSkip.map Int.ofNat, p.maxTop.map Int.ofNat⟩ := by
  simp only [sortedMembers, readFields, readField, setOfJson_tagsToJson h.arithmetic,
    setOfJson_tagsToJson h.functions, setOfJson_tagsToJson h.logical, setOfJson_tagsToJson h.options,
    Json.toStrings?_strings, foldl_insertName [] h.names, boundOfJson_boundToJson h.maxSkip,
    boundOfJson_boundToJson h.maxTop, Except.ok_bind, Except.pure_eq, List.nil_append]

theorem pairwise_sortedMembers (p : Policy) :
    (p.sortedMembers.map Prod.fst).Pairwise (· < ·) := by
  simp only [sortedMembers, List.map_cons, List.map_nil]
  decide

theorem perm_sortedMembers {p : Policy} {members : List (String × Json)}
    (written : p.toJson = .object members) : members.Perm p.sortedMembers := by
  cases written
  exact .cons _ ((List.Perm.swap _ _ _).trans (.cons _ (.cons _ (.swap _ _ _))))

theorem mergeSort_toJson {p : Policy} {members : List (String × Json)}
    (written : p.toJson = .object members) :
    members.mergeSort (fun a b => decide (a.1 ≤ b.1)) = p.sortedMembers := by
  have perm := (List.mergeSort_perm members fun a b => decide (a.1 ≤ b.1)).trans
    (perm_sortedMembers written)
  have inOrder : (members.mergeSort fun a b => decide (a.1 ≤ b.1)).Pairwise
      fun a b => decide (a.1 ≤ b.1) := List.pairwise_mergeSort
    (fun a b c => by simpa using le_trans) (fun a b => by simpa using le_total a.1 b.1) members
  have sorted := p.pairwise_sortedMembers
  refine perm.eq_of_pairwise (fun a b ha hb before after => ?_) inOrder
    ((List.pairwise_map.1 sorted).imp fun before => decide_eq_true before.le)
  -- Members with one name are the same one, since no name comes twice.
  have same := le_antisymm (of_decide_eq_true before) (of_decide_eq_true after)
  exact List.inj_on_of_nodup_map (sorted.imp ne_of_lt) (perm.subset ha) hb same

/-- A policy is read from its stored form. -/
theorem Sound.ofJson_toJson {p : Policy} (h : p.Sound) : ofJson p.toJson = .ok p := by
  rw [toJson, ofJson, mergeSort_toJson rfl, h.readFields_sortedMembers]
  simp only [Except.ok_bind, Except.pure_eq, ofFields, boundOfField_ofNat]

end Policy

/-! ## Reading any configuration -/

/-- Fields that have been read so far: a policy of the sort above, and bounds that are signed
integers. -/
structure PolicyFields.Sound (fields : PolicyFields) : Prop where
  policy : fields.policy.Sound
  maxSkip : ∀ n ∈ fields.maxSkip, n < 2 ^ 63
  maxTop : ∀ n ∈ fields.maxTop, n < 2 ^ 63

namespace Policy

variable {fields fields' : PolicyFields} {p : Policy}

theorem sound_of_readField (h : fields.Sound) {name : String} {j : Json}
    (read : readField fields name j = .ok fields') : fields'.Sound := by
  unfold readField at read
  split at read
  case h_1 =>
    obtain ⟨s, set, ⟨⟩⟩ := Except.bind_eq_ok.1 read
    exact { h with policy := { h.policy with arithmetic := within_of_setOfJson set } }
  case h_2 =>
    obtain ⟨s, set, ⟨⟩⟩ := Except.bind_eq_ok.1 read
    exact { h with policy := { h.policy with logical := within_of_setOfJson set } }
  case h_3 =>
    obtain ⟨s, set, ⟨⟩⟩ := Except.bind_eq_ok.1 read
    exact { h with policy := { h.policy with functions := within_of_setOfJson set } }
  case h_4 =>
    obtain ⟨s, set, ⟨⟩⟩ := Except.bind_eq_ok.1 read
    exact { h with policy := { h.policy with options := within_of_setOfJson set } }
  case h_5 =>
    split at read
    next => cases read
    next names _ =>
      cases read
      exact { h with policy := { h.policy with names := pairwise_foldl_insertName names } }
  case h_6 =>
    obtain ⟨n, bound, ⟨⟩⟩ := Except.bind_eq_ok.1 read
    exact { h with maxSkip := lt_of_boundOfJson bound }
  case h_7 =>
    obtain ⟨n, bound, ⟨⟩⟩ := Except.bind_eq_ok.1 read
    exact { h with maxTop := lt_of_boundOfJson bound }
  case h_8 => cases read

theorem sound_of_readFields (h : fields.Sound) {members : List (String × Json)}
    (read : readFields fields members = .ok fields') : fields'.Sound := by
  induction members generalizing fields with
  | nil => cases read; exact h
  | cons member rest ih =>
    obtain ⟨next, first, later⟩ := Except.bind_eq_ok.1 read
    exact ih (sound_of_readField h first) later

theorem sound_of_ofFields (h : fields.Sound) (read : ofFields fields = .ok p) : p.Sound := by
  obtain ⟨skip, readSkip, read⟩ := Except.bind_eq_ok.1 read
  obtain ⟨top, readTop, done⟩ := Except.bind_eq_ok.1 read
  cases done
  exact { h.policy with
    maxSkip := le_of_checkBound (checkBound_of_boundOfField readSkip) h.maxSkip
    maxTop := le_of_checkBound (checkBound_of_boundOfField readTop) h.maxTop }

/-- What is read from any configuration can be stored and read again. -/
theorem sound_of_ofJson {j : Json} (read : ofJson j = .ok p) : p.Sound := by
  have start : PolicyFields.Sound ⟨permissive, none, none⟩ := ⟨sound_permissive, nofun, nofun⟩
  cases j with
  | object members =>
    obtain ⟨fields, readAll, checked⟩ := Except.bind_eq_ok.1 read
    exact sound_of_ofFields (sound_of_readFields start readAll) checked
  | array items =>
    obtain ⟨fields, readAll, checked⟩ := Except.bind_eq_ok.1 read
    split at checked
    next => cases checked
    next => exact sound_of_ofFields (sound_of_readFields start readAll) checked
  | _ => cases read

end Policy

end RecordQuery
