/-!
# Computations that can fail

A computation in sequence succeeds if and only if each of its steps does, and fails with the first
step that fails.

## Main statements

* `Except.bind_eq_ok`, `Except.bind_eq_error`: what a computation gives when it succeeds or fails.
* `Except.forM_eq_ok`, `Except.forM_eq_error`: checks in turn, which end at the first failure.
-/

namespace RecordQuery

variable {ε α β : Type}

@[simp] theorem Except.ok_bind (a : α) (next : α → Except ε β) :
    (Except.ok a >>= next) = next a := rfl

@[simp] theorem Except.error_bind (e : ε) (next : α → Except ε β) :
    (Except.error e >>= next) = Except.error e := rfl

@[simp] theorem Except.pure_eq (a : α) : (pure a : Except ε α) = Except.ok a := rfl

@[simp] theorem Except.bind_unit (x : Except ε PUnit) :
    (x >>= fun _ => Except.ok PUnit.unit) = x := by
  cases x <;> rfl

theorem Except.bind_eq_ok {x : Except ε α} {next : α → Except ε β} {b : β} :
    (x >>= next) = Except.ok b ↔ ∃ a, x = Except.ok a ∧ next a = Except.ok b := by
  cases x <;> simp

theorem Except.bind_eq_error {x : Except ε α} {next : α → Except ε β} {e : ε} :
    (x >>= next) = Except.error e ↔
      x = Except.error e ∨ ∃ a, x = Except.ok a ∧ next a = Except.error e := by
  cases x <;> simp

/-- Whether a computation fails with an error can be told without comparing what it might give. -/
instance Except.decidableEqError [DecidableEq ε] (x : Except ε α) (e : ε) :
    Decidable (x = Except.error e) :=
  match x with
  | .ok _ => isFalse nofun
  | .error e' => decidable_of_iff (e' = e) ⟨congrArg Except.error, Except.error.inj⟩

theorem Except.isOk_iff {x : Except ε α} : x.isOk ↔ ∃ a, x = Except.ok a := by
  cases x <;> simp [Except.isOk, Except.toBool]

theorem Except.toOption_eq_some {x : Except ε α} {a : α} :
    x.toOption = some a ↔ x = Except.ok a := by
  cases x <;> simp [Except.toOption]

theorem Except.any_toOption {x : Except ε α} {p : α → Bool} :
    x.toOption.any p = true ↔ ∃ a, x = Except.ok a ∧ p a = true := by
  cases x <;> simp [Except.toOption]

@[simp] theorem Except.mapError_ok {δ : Type} (f : ε → δ) (a : α) :
    (Except.ok a : Except ε α).mapError f = Except.ok a := rfl

@[simp] theorem Except.mapError_error {δ : Type} (f : ε → δ) (e : ε) :
    (Except.error e : Except ε α).mapError f = Except.error (f e) := rfl

theorem Except.mapError_eq_ok {δ : Type} {f : ε → δ} {x : Except ε α} {a : α} :
    x.mapError f = Except.ok a ↔ x = Except.ok a := by
  cases x <;> simp

theorem Except.mapError_eq_error {δ : Type} {f : ε → δ} {x : Except ε α} {d : δ} :
    x.mapError f = Except.error d ↔ ∃ e, x = Except.error e ∧ d = f e := by
  cases x <;> simp [eq_comm]

/-! ## Checks in turn -/

theorem Except.forM_cons (f : α → Except ε Unit) (a : α) (rest : List α) :
    (a :: rest).forM f = f a >>= fun _ => rest.forM f := rfl

theorem Except.forM_eq_ok {f : α → Except ε Unit} {as : List α} {u : Unit} :
    as.forM f = Except.ok u ↔ ∀ a ∈ as, f a = Except.ok u := by
  induction as with
  | nil => exact iff_of_true rfl nofun
  | cons a rest ih =>
    rw [forM_cons, bind_eq_ok, List.forall_mem_cons, ← ih]
    exact ⟨fun ⟨_, first, others⟩ => ⟨first, others⟩, fun ⟨first, others⟩ => ⟨_, first, others⟩⟩

/-- Checks in turn end at the first one that fails. -/
theorem Except.forM_eq_error {f : α → Except ε Unit} {as : List α} {e : ε} :
    as.forM f = Except.error e ↔ ∃ before a after, as = before ++ a :: after ∧
      f a = Except.error e ∧ ∀ b ∈ before, f b = Except.ok () := by
  induction as with
  | nil =>
    refine iff_of_false nofun ?_
    rintro ⟨before, a, after, split, _⟩
    simp at split
  | cons a rest ih =>
    rw [forM_cons]
    cases first : f a with
    | error e' =>
      rw [error_bind]
      constructor
      · intro h
        cases h
        exact ⟨[], a, rest, rfl, first, nofun⟩
      · rintro ⟨before, a', after, split, fails, passed⟩
        cases before with
        | nil =>
          cases split
          exact first.symm.trans fails
        | cons b before =>
          cases split
          cases first.symm.trans (passed _ List.mem_cons_self)
    | ok u =>
      rw [ok_bind, ih]
      constructor
      · rintro ⟨before, a', after, rfl, fails, passed⟩
        exact ⟨a :: before, a', after, rfl, fails, List.forall_mem_cons.2 ⟨first, passed⟩⟩
      · rintro ⟨before, a', after, split, fails, passed⟩
        cases before with
        | nil =>
          cases split
          cases first.symm.trans fails
        | cons b before =>
          cases split
          exact ⟨before, a', after, rfl, fails, (List.forall_mem_cons.1 passed).2⟩

end RecordQuery
