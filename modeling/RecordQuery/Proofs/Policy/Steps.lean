import RecordQuery.Proofs.Policy.RoundTrip

/-!
# Policies that are reached

A policy is changed step by step: a configuration is loaded, a bound is set, a property is allowed,
or a set that has been built is installed. A step can fail, and then the policy stays as it was. From
the default policy these steps reach only policies that are read again from their stored form.

## Main definitions

* `Policy.Step`, `Policy.perform`: the steps, and the answer and the policy that a step leaves.
* `Policy.next`, `Policy.reach`: policies after one step and after some.

## Main statements

* `Policy.Sound.next`: what a step leaves as it should be.
* `Policy.ofJson_toJson_reach`: policies that are reached.
-/

namespace RecordQuery.Policy

/-- The changes to a policy, with bounds that are signed integers. -/
inductive Step where
  | load (config : Json)
  | setMaxSkip (max : Option Int64)
  | setMaxTop (max : Option Int64)
  | allowOrderBy (name : String)
  | arithmetic (plan : AllowedSet.Plan ArithmeticOperator)
  | logical (plan : AllowedSet.Plan LogicalOperator)
  | functions (plan : AllowedSet.Plan Builtin)
  | options (plan : AllowedSet.Plan OptionKind)

/-- Install what has been read or built: the answer, and the policy that there is afterwards. -/
def install {α : Type} (p : Policy) (made : Except PolicyError α) (put : α → Policy) :
    Except PolicyError Unit × Policy :=
  match made with
  | .ok a => (.ok (), put a)
  | .error e => (.error e, p)

/-- The answer of a step, and the policy that there is afterwards. -/
def perform (p : Policy) : Step → Except PolicyError Unit × Policy
  | .load config => p.install (ofJson config) id
  | .setMaxSkip max => (p.setMaxSkip (max.map Int64.toInt)).map (·.mapError .config) id
  | .setMaxTop max => (p.setMaxTop (max.map Int64.toInt)).map (·.mapError .config) id
  | .allowOrderBy name => (.ok (), p.allowOrderBy name)
  | .arithmetic plan => p.install (plan.build.mapError .config) fun s => { p with arithmetic := s }
  | .logical plan => p.install (plan.build.mapError .config) fun s => { p with logical := s }
  | .functions plan => p.install (plan.build.mapError .config) fun s => { p with functions := s }
  | .options plan => p.install (plan.build.mapError .config) fun s => { p with options := s }

/-- The policy after a step, which may have failed. -/
def next (p : Policy) (step : Step) : Policy := (p.perform step).2

/-- The policy after some steps from the default. -/
def reach (steps : List Step) : Policy := steps.foldl next permissive

variable {p : Policy} {kind : PagingKind}

/-! ## Steps that fail -/

theorem setBound_of_error {max : Option Int} {e : ConfigError}
    (fails : (p.setBound kind max).1 = .error e) : (p.setBound kind max).2 = p := by
  unfold setBound at fails ⊢
  split
  case h_1 checked =>
    rw [checked] at fails
    cases fails
  case h_2 => rfl

theorem install_of_error {α : Type} {made : Except PolicyError α} {put : α → Policy}
    {e : PolicyError} (fails : (p.install made put).1 = .error e) :
    (p.install made put).2 = p := by
  cases made with
  | ok a => cases fails
  | error => rfl

/-- A step that fails leaves the policy as it is. -/
theorem next_of_error {step : Step} {e : PolicyError} (fails : (p.perform step).1 = .error e) :
    p.next step = p := by
  cases step with
  | setMaxSkip max | setMaxTop max =>
    obtain ⟨cause, fails, -⟩ := Except.mapError_eq_error.1 fails
    exact setBound_of_error fails
  | allowOrderBy name => cases fails
  | load | arithmetic | logical | functions | options => exact install_of_error fails

/-! ## Steps that keep a policy sound -/

theorem lt_of_mem_map_toInt (max : Option Int64) : ∀ k ∈ max.map Int64.toInt, k < 2 ^ 63 := by
  rintro k mem
  obtain ⟨m, -, rfl⟩ := Option.map_eq_some_iff.1 mem
  exact Int64.toInt_lt m

theorem Sound.withBound (h : p.Sound) {max : Option Nat} (small : ∀ n ∈ max, n ≤ 2 ^ 63 - 1) :
    (p.withBound max kind).Sound := by
  cases kind with
  | skip => exact { h with maxSkip := small }
  | top => exact { h with maxTop := small }

theorem Sound.setBound (h : p.Sound) (max : Option Int64) :
    (p.setBound kind (max.map Int64.toInt)).2.Sound := by
  unfold Policy.setBound
  split
  case h_1 checked => exact h.withBound (le_of_checkBound checked (lt_of_mem_map_toInt max))
  case h_2 => exact h

theorem Sound.install {α : Type} (h : p.Sound) {made : Except PolicyError α} {put : α → Policy}
    (keeps : ∀ a, made = .ok a → (put a).Sound) : (p.install made put).2.Sound := by
  cases made with
  | ok a => exact keeps a rfl
  | error => exact h

theorem within_of_build {τ : Type} [PolicyTag τ] [PolicyTag.Lawful τ] {plan : AllowedSet.Plan τ}
    {s : AllowedSet τ} (built : plan.build.mapError PolicyError.config = .ok s) : s.Within :=
  AllowedSet.Plan.build_within (Except.mapError_eq_ok.1 built)

theorem Sound.next (h : p.Sound) (step : Step) : (p.next step).Sound := by
  cases step with
  | load config => exact h.install fun _ read => sound_of_ofJson read
  | setMaxSkip max | setMaxTop max => exact h.setBound max
  | allowOrderBy name => exact { h with names := pairwise_insertName h.names name }
  | arithmetic => exact h.install fun _ built => { h with arithmetic := within_of_build built }
  | logical => exact h.install fun _ built => { h with logical := within_of_build built }
  | functions => exact h.install fun _ built => { h with functions := within_of_build built }
  | options => exact h.install fun _ built => { h with options := within_of_build built }

theorem sound_reach (steps : List Step) : (reach steps).Sound :=
  List.foldlRecOn steps next sound_permissive fun _ h step _ => h.next step

/-- Every policy that is reached is read again from its stored form, its sets have no bits that
belong to no tag, its bounds are signed integers, and a step that fails leaves it as it is. -/
theorem ofJson_toJson_reach (steps : List Step) :
    ofJson (reach steps).toJson = .ok (reach steps) ∧
      ((reach steps).arithmetic.Within ∧ (reach steps).logical.Within ∧
        (reach steps).functions.Within ∧ (reach steps).options.Within) ∧
      (∀ kind, ∀ n ∈ (reach steps).bound kind, n ≤ 2 ^ 63 - 1) ∧
      ∀ step e, ((reach steps).perform step).1 = .error e →
        reach (steps ++ [step]) = reach steps := by
  have h := sound_reach steps
  refine ⟨h.ofJson_toJson, ⟨h.arithmetic, h.logical, h.functions, h.options⟩, fun kind => ?_,
    fun step e fails => ?_⟩
  · cases kind with
    | skip => exact h.maxSkip
    | top => exact h.maxTop
  · rw [reach, List.foldl_append, ← reach]
    exact next_of_error fails

end RecordQuery.Policy
