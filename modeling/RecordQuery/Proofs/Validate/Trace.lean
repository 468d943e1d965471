import RecordQuery.Proofs.Validate.Gate

/-!
# What recording hooks see

Hooks that record what they enter, and that may refuse it, see the hooks of an expression in the
order of a visit. A visit that lets the expression through has called all of them. It ends where the
first hook refuses, with the error of that hook, unless the policy has refused an earlier node.

## Main definitions

* `Walk.outcome`: what a walk gives from a state.
* `Hooks.Records`: whether hooks record what they enter.

## Main statements

* `Expr.visit_trace`: what hooks that record have seen at the end of a visit.
-/

namespace RecordQuery

/-! ## Walks -/

namespace Walk

variable {σ α β : Type} {w : Walk σ α} {next : α → Walk σ β} {s t : σ}

/-- What a walk gives from a state, and the state it ends in. -/
def outcome (w : Walk σ α) (s : σ) : Except ValidationError α × σ := w.run.run s

theorem outcome_bind_of_ok {a : α} (h : w.outcome s = (.ok a, t)) :
    (w >>= next).outcome s = (next a).outcome t := by
  unfold outcome at *
  rw [ExceptT.run_bind, StateT.run_bind, h]
  rfl

theorem outcome_bind_of_error {error : ValidationError} (h : w.outcome s = (.error error, t)) :
    (w >>= next).outcome s = (.error error, t) := by
  unfold outcome at *
  rw [ExceptT.run_bind, StateT.run_bind, h]
  rfl

end Walk

/-! ## Recording -/

namespace Hooks

variable {σ : Type} {h : Hooks σ} {trace : σ → List Entry}

/-- Whether hooks record what they enter: each of them puts its entry at the end of the trace in
their state, and then passes it or refuses it. -/
def Records (h : Hooks σ) (trace : σ → List Entry) : Prop :=
  ∀ entry s, trace ((h.enter entry).outcome s).2 = trace s ++ [entry]

/-- The hooks that record what they enter, and refuse some of it. -/
def recording (refusal? : Entry → Option ValidationError) : Hooks (List Entry) :=
  ⟨fun entry trace => (refuse (refusal? entry), trace ++ [entry])⟩

theorem recording_records (refusal? : Entry → Option ValidationError) :
    (recording refusal?).Records id := fun _ _ => rfl

theorem Records.trace_enter (records : h.Records trace) {entry : Entry} {s t : σ}
    {result : Except ValidationError Unit} (enters : (h.enter entry).outcome s = (result, t)) :
    trace t = trace s ++ [entry] := by
  rw [← records entry s, enters]

/-- Hooks in turn pass all entries, or have seen the first of them up to one that is refused. -/
theorem Records.outcome_enterAll (records : h.Records trace) (entries : List Entry) (s : σ) :
    (∃ t, (h.enterAll entries).outcome s = (.ok (), t) ∧ trace t = trace s ++ entries) ∨
    ∃ error t, (h.enterAll entries).outcome s = (.error error, t) ∧
      ∃ seen, seen <+: entries ∧ trace t = trace s ++ seen := by
  induction entries generalizing s with
  | nil => exact .inl ⟨s, rfl, (List.append_nil _).symm⟩
  | cons entry rest ih =>
    rw [enterAll_cons]
    rcases enters : (h.enter entry).outcome s with ⟨result, t⟩
    have recorded := records.trace_enter enters
    cases result with
    | error error =>
      exact .inr ⟨error, t, Walk.outcome_bind_of_error enters, [entry], ⟨rest, rfl⟩, recorded⟩
    | ok =>
      rw [Walk.outcome_bind_of_ok enters]
      obtain ⟨u, passed, seen⟩ | ⟨error, u, refused, seen, early, recorded'⟩ := ih t
      · exact .inl ⟨u, passed, by rw [seen, recorded, List.append_assoc]; rfl⟩
      · exact .inr ⟨error, u, refused, entry :: seen, List.cons_prefix_cons.2 ⟨rfl, early⟩,
          by rw [recorded', recorded, List.append_assoc]; rfl⟩

theorem Records.trace_enterAll (records : h.Records trace) {entries : List Entry} {s t : σ}
    (passed : (h.enterAll entries).outcome s = (.ok (), t)) : trace t = trace s ++ entries := by
  obtain ⟨u, again, seen⟩ | ⟨error, u, refused, _⟩ := records.outcome_enterAll entries s
  · cases passed.symm.trans again
    exact seen
  · cases passed.symm.trans refused

/-- Hooks that pass some entries pass the first of them. -/
theorem outcome_of_prefix {front entries : List Entry} {s t : σ} (early : front <+: entries)
    (passed : (h.enterAll entries).outcome s = (.ok (), t)) :
    ∃ u, (h.enterAll front).outcome s = (.ok (), u) := by
  obtain ⟨back, rfl⟩ := early
  rw [enterAll_append] at passed
  rcases enters : (h.enterAll front).outcome s with ⟨result, u⟩
  cases result with
  | error => cases passed.symm.trans (Walk.outcome_bind_of_error enters)
  | ok => exact ⟨u, rfl⟩

end Hooks

/-! ## Visits -/

/-- The refusal of the hook for a constant. -/
def Entry.constantRefusal? : Entry → Option ValidationError
  | constant _ => some (.custom "a constant")
  | _ => none

/-- The node of an entry for a node. -/
def Entry.node? : Entry → Option Expr
  | node n => some n
  | _ => none

namespace Expr

variable {σ : Type} {h : Hooks σ} {trace : σ → List Entry} {p : Policy} {e n : Expr}
  {nodes rest : List Expr} {s t u : σ} {error : ValidationError}

theorem filterMap_node?_entries (n : Expr) : n.entries.filterMap Entry.node? = [n] := by
  cases n with
  | property _ _ q =>
    cases kind : q.isCollection <;> simp [entries, propertyEntry, kind, Entry.node?]
  | binary _ op =>
    cases kind : op.isArithmetic <;> simp [entries, classEntry, kind, Entry.node?]
  | _ => rfl

/-- The listing has one entry for each node, in the order of a visit. -/
theorem filterMap_node?_listing (e : Expr) : e.listing.filterMap Entry.node? = e.preorder := by
  unfold listing
  induction e.preorder with
  | nil => rfl
  | cons n rest ih =>
    rw [List.flatMap_cons, List.filterMap_append, filterMap_node?_entries, ih, List.singleton_append]

theorem reached_entries_prefix (p : Policy) (e : Expr) :
    (reached p e.preorder).flatMap entries <+: e.listing := by
  obtain ⟨back, split⟩ := reached_prefix p e.preorder
  exact ⟨back.flatMap entries, by rw [← List.flatMap_append, split, listing]⟩

/-- Hooks that record have seen the first hooks of an expression at the end of a visit. -/
theorem trace_visit (records : h.Records trace) (p : Policy) (e : Expr) (s : σ) :
    ∃ seen, seen <+: e.listing ∧
      trace ((e.validateWith h p).outcome s).2 = trace s ++ seen := by
  have early := reached_entries_prefix p e
  rw [validateWith_eq_enterAll]
  obtain ⟨t, passed, recorded⟩ | ⟨error, t, refused, seen, first, recorded⟩ :=
    records.outcome_enterAll ((reached p e.preorder).flatMap entries) s
  · refine ⟨_, early, ?_⟩
    rw [Walk.outcome_bind_of_ok passed, ← recorded]
    cases firstRefusal? p e.preorder <;> rfl
  · exact ⟨seen, first.trans early, by rw [Walk.outcome_bind_of_error refused, recorded]⟩

/-- A visit that lets an expression through has called all hooks. -/
theorem enterAll_of_visit (visit : (e.validateWith h p).outcome s = (.ok (), t)) :
    (h.enterAll e.listing).outcome s = (.ok (), t) := by
  rw [validateWith_eq_enterAll] at visit
  rcases enters : (h.enterAll ((reached p e.preorder).flatMap entries)).outcome s with ⟨result, u⟩
  cases result with
  | error => cases (Walk.outcome_bind_of_error enters).symm.trans visit
  | ok =>
    rw [Walk.outcome_bind_of_ok enters] at visit
    cases refusal : firstRefusal? p e.preorder with
    | some => rw [refusal] at visit; cases visit
    | none =>
      rw [refusal] at visit
      cases visit
      rwa [reached_of_firstRefusal? refusal] at enters

/-- A visit ends with the refusal of a hook if the hooks before it pass and the policy has nothing
against the nodes before. -/
theorem visit_of_hook {seen unseen : List Entry} {entry : Entry}
    (visit : e.preorder = nodes ++ n :: rest) (split : n.entries = seen ++ entry :: unseen)
    (permits : ∀ m ∈ nodes, p.refusal? m = none)
    (passed : (h.enterAll (nodes.flatMap entries ++ seen)).outcome s = (.ok (), t))
    (refused : (h.enter entry).outcome t = (.error error, u)) :
    (e.validateWith h p).outcome s = (.error error, u) := by
  obtain ⟨more, begins⟩ := reached_cons p n rest
  have order : (reached p e.preorder).flatMap entries =
      (nodes.flatMap entries ++ seen) ++ entry :: (unseen ++ more.flatMap entries) := by
    rw [visit, reached_append permits, begins, List.flatMap_append, List.flatMap_cons, split]
    simp
  have stops : (h.enterAll ((reached p e.preorder).flatMap entries)).outcome s =
      (.error error, u) := by
    rw [order, Hooks.enterAll_append, Walk.outcome_bind_of_ok passed, Hooks.enterAll_cons,
      Walk.outcome_bind_of_error refused]
  rw [validateWith_eq_enterAll, Walk.outcome_bind_of_error stops]

/-- A visit ends with the refusal of the policy if the hooks of the node and those before it pass and
the policy has nothing against the nodes before. -/
theorem visit_of_policy (visit : e.preorder = nodes ++ n :: rest)
    (permits : ∀ m ∈ nodes, p.refusal? m = none) (refuses : p.refusal? n = some error)
    (passed : (h.enterAll ((nodes ++ [n]).flatMap entries)).outcome s = (.ok (), t)) :
    (e.validateWith h p).outcome s = (.error error, t) := by
  have order : reached p e.preorder = nodes ++ [n] := by
    rw [visit, reached_append permits, reached_cons_of_refusal refuses]
  have refusal : firstRefusal? p e.preorder = some error := by
    rw [visit, firstRefusal?, List.findSome?_append, List.findSome?_eq_none_iff.2 permits,
      Option.none_or, List.findSome?_cons, refuses]
  rw [validateWith_eq_enterAll, order, refusal, Walk.outcome_bind_of_ok passed]
  rfl

/-- Hooks that record see the listing of an expression from its start, and all of it, each node once,
if the visit lets the expression through. Where one of them refuses, the visit ends with its error,
unless the policy refuses an earlier node: then the visit ends there with the error of the policy. -/
theorem visit_trace {result : Except ValidationError Unit} (records : h.Records trace)
    (fresh : trace s = []) (visit : (e.validateWith h p).outcome s = (result, t)) :
    trace t <+: e.listing ∧
    (result = .ok () → trace t = e.listing ∧ (trace t).filterMap Entry.node? = e.preorder) ∧
    ∀ nodes n rest seen entry unseen u error v,
      e.preorder = nodes ++ n :: rest → n.entries = seen ++ entry :: unseen →
      (h.enterAll (nodes.flatMap entries ++ seen)).outcome s = (.ok (), u) →
      (h.enter entry).outcome u = (.error error, v) →
      ((∀ m ∈ nodes, p.Permits m) ∧
        result = .error error ∧ trace t = nodes.flatMap entries ++ seen ++ [entry]) ∨
      ∃ before m after refusal, nodes = before ++ m :: after ∧
        (∀ k ∈ before, p.Permits k) ∧ p.Refuses m refusal ∧
        result = .error refusal ∧ trace t = (before ++ [m]).flatMap entries := by
  refine ⟨?early, ?whole, ?refused⟩
  case early =>
    obtain ⟨seen, early, recorded⟩ := trace_visit records p e s
    rw [visit, fresh, List.nil_append] at recorded
    rwa [recorded]
  case whole =>
    rintro rfl
    have recorded := records.trace_enterAll (enterAll_of_visit visit)
    rw [fresh, List.nil_append] at recorded
    exact ⟨recorded, by rw [recorded, filterMap_node?_listing]⟩
  case refused =>
    intro nodes n rest seen entry unseen u error v order split passed refused
    cases first : firstRefusal? p nodes with
    | none =>
      have permits := List.findSome?_eq_none_iff.1 first
      cases visit.symm.trans (visit_of_hook order split permits passed refused)
      refine .inl ⟨fun m hm => (p.refusal?_eq_none_iff m).1 (permits m hm), rfl, ?_⟩
      rw [records.trace_enter refused, records.trace_enterAll passed, fresh, List.nil_append]
    | some refusal =>
      obtain ⟨before, m, after, rfl, refuses, permits⟩ := List.findSome?_eq_some_iff.1 first
      have early : (before ++ [m]).flatMap entries <+:
          (before ++ m :: after).flatMap entries ++ seen :=
        ⟨after.flatMap entries ++ seen, by simp⟩
      obtain ⟨w, reached⟩ := Hooks.outcome_of_prefix early passed
      cases visit.symm.trans (visit_of_policy (by simpa using order) permits refuses reached)
      refine .inr ⟨before, m, after, refusal, rfl,
        fun k hk => (p.refusal?_eq_none_iff k).1 (permits k hk),
        (p.refusal?_eq_some_iff m refusal).1 refuses, rfl, ?_⟩
      rw [records.trace_enterAll reached, fresh, List.nil_append]

/-- A constant under a negation, which recording hooks refuse at their last entry. -/
theorem visit_trace_constant :
    let e := unary (.primitive .boolean) .not (constant (.primitive .boolean) (.bool true))
    let h := Hooks.recording Entry.constantRefusal?
    h.Records id ∧
      (e.validateWith h .permissive).outcome [] = (.error (.custom "a constant"), e.listing) := by
  intro e h
  have records : h.Records id := Hooks.recording_records _
  rcases visit : (e.validateWith h .permissive).outcome [] with ⟨result, t⟩
  obtain ⟨_, rfl, recorded⟩ | ⟨before, m, after, refusal, split, _, refuses, _⟩ :=
    (visit_trace records rfl visit).2.2 [e] (constant (.primitive .boolean) (.bool true)) []
      [.node (constant (.primitive .boolean) (.bool true))] (.constant (.bool true)) [] _ _ _
      rfl rfl rfl rfl
  · exact ⟨records, Prod.ext rfl recorded⟩
  · have same : m = e := List.mem_singleton.1 (split ▸ List.mem_append_right _ List.mem_cons_self)
    have permitted : Policy.permissive.refusal? m = none := by rw [same]; decide
    cases permitted.symm.trans ((Policy.permissive.refusal?_eq_some_iff m refusal).2 refuses)

end Expr

end RecordQuery
