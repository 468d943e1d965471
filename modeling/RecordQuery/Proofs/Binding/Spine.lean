import RecordQuery.Proofs.Binding.Depth
import RecordQuery.Proofs.Grammar.Offset

/-!
# Paths through a schema and paths in expressions

A path can be looked up in a schema as a text between slashes, and bound as the segments of a term.
Both go from type to type in step: at each segment both find the same property or the same type to
cast to, or both fail there. They may word a failure differently, since one of them knows the text
of the last segment and the other one the last property.

What they have in common is the type reached so far and the properties on the way to it. The type is
a collection just when the last property is one, because a cast keeps collections.

## Main definitions

* `Binding.Agrees`: whether two computations give related results, or fail at the same position.
* `Expr.spine`: the properties that are accessed on the way to an expression.
* `Expr.FollowsSpine`: whether the type of an expression is a collection like its last property.
* `Model.resolveSegment`: one step of a path through a schema.

## Main statements

* `Binding.addSegment_agrees`: both look-ups agree on a segment.
* `Binding.addSegments_agrees`: both agree on a path.
-/

namespace RecordQuery

/-! ## Agreement -/

namespace Binding

variable {α β γ δ : Type}

/-- Two computations give related results, or both fail at the same position. -/
inductive Agrees (related : α → β → Prop) : Result α → Result β → Prop where
  | ok {a : α} {b : β} (h : related a b) : Agrees related (.ok a) (.ok b)
  | error {e e' : ParseError} {position : Nat} (here : e.position? = some position)
      (here' : e'.position? = some position) : Agrees related (.error e) (.error e')

theorem Agrees.bind {related : α → β → Prop} {related' : γ → δ → Prop} {x : Result α} {y : Result β}
    {next : α → Result γ} {next' : β → Result δ} (first : Agrees related x y)
    (second : ∀ a b, related a b → Agrees related' (next a) (next' b)) :
    Agrees related' (x >>= next) (y >>= next') := by
  cases first with
  | ok h => exact second _ _ h
  | error here here' => exact .error here here'

/-- A last step on one side. -/
theorem Agrees.map {related : α → β → Prop} {related' : γ → β → Prop} {x : Result α} {y : Result β}
    {f : α → γ} (h : Agrees related x y) (imp : ∀ a b, related a b → related' (f a) b) :
    Agrees related' (x >>= fun a => pure (f a)) y := by
  cases h with
  | ok h => exact .ok (imp _ _ h)
  | error here here' => exact .error here here'

end Binding

/-! ## Properties on the way -/

/-- The properties that are accessed on the way to an expression, the first one first. -/
def Expr.spine : Expr → List Property
  | property _ source p => source.spine ++ [p]
  | cast _ source _ => source.spine
  | _ => []

/-- Whether the type of an expression is a collection if and only if the last property on the way to
it is one. -/
def Expr.FollowsSpine (e : Expr) : Prop :=
  e.type.isCollection = e.spine.getLast?.any Property.isCollection

theorem Expr.followsSpine_property (source : Expr) (p : Property) :
    (Expr.property p.type source p).FollowsSpine := by
  simp [FollowsSpine, spine, type, Property.isCollection]

theorem TypeRef.isCollection_castTo (t : TypeRef) (target : String) :
    (t.castTo target).isCollection = t.isCollection := by
  cases t <;> rfl

theorem Expr.FollowsSpine.cast {source : Expr} (h : source.FollowsSpine) (target : String) :
    (Expr.cast (source.type.castTo target) source target).FollowsSpine :=
  (TypeRef.isCollection_castTo source.type target).trans h

/-! ## One step of a path -/

namespace Model

variable {m : Model} {current : TypeRef} {last : Option Property} {position : Nat}

/-- One step of a path: the type that a segment leads to, and the property that it accesses. -/
def resolveSegment (m : Model) (current : TypeRef) (last : Option Property) (position : Nat)
    (segment : List Char) : Except ParseError (TypeRef × List Property) :=
  let name := String.ofList segment
  if segment.contains '.' then
    match current.structuredName? with
    | none => .error (.unknownProperty name current.text position)
    | some owner => do
      let target ← m.resolveCast owner name position
      return (current.castTo target.name, [])
  else
    match last, current.isCollection with
    | some p, true => .error (.collectionNotQuantified p.name position)
    | _, _ =>
      match current.structuredName? with
      | none => .error (.unknownProperty name current.text position)
      | some owner =>
        match m.resolveProperty? owner name with
        | none => .error (.unknownProperty name owner position)
        | some p => .ok (p.type, [p])

/-- A path is resolved step by step. -/
theorem resolveSegments_cons (m : Model) (current : TypeRef) (last : Option Property)
    (position : Nat) (segment : List Char) (rest : List (List Char)) :
    m.resolveSegments current last position (segment :: rest) = (do
      let (next, found) ← m.resolveSegment current last position segment
      let more ← m.resolveSegments next (found.getLast?.or last)
        (position + Text.byteLength segment + 1) rest
      return found ++ more) := by
  conv => lhs; unfold resolveSegments
  unfold resolveSegment
  dsimp only
  generalize current.isCollection = collection
  cases segment.contains '.' with
  | true =>
    cases current.structuredName? with
    | none => cases last <;> cases collection <;> rfl
    | some owner =>
      cases found : m.resolveCast owner (String.ofList segment) position with
      | error => cases last <;> cases collection <;> simp [found]
      | ok => cases last <;> cases collection <;> simp [found, -Except.pure_eq]
  | false =>
    cases current.structuredName? with
    | none => cases last <;> cases collection <;> rfl
    | some owner =>
      cases found : m.resolveProperty? owner (String.ofList segment) <;>
        cases last <;> cases collection <;> simp [found]

theorem position_of_resolveCast {source target : String} {e : ParseError}
    (h : m.resolveCast source target position = .error e) : e.position? = some position := by
  unfold resolveCast at h
  split at h
  case h_1 =>
    cases h
    rfl
  case h_2 =>
    split at h <;> cases h
    rfl

end Model

namespace Binding

open Grammar (Segment placed)

variable {m : Model} {n : Nat} {state : PathState}

/-- A segment leads from an expression to another one: by the properties that it accesses to their
type, one level deeper. -/
structure LeadsTo (e : Expr) (step : TypeRef × List Property) (next : Expr) : Prop where
  type : next.type = step.1
  spine : next.spine = e.spine ++ step.2
  follows : next.FollowsSpine
  depth : next.depth = e.depth + 1

/-- A segment is resolved in a schema and added to a path alike. -/
theorem addSegment_agrees (follows : state.expr.FollowsSpine) (position : Nat) (text : List Char) :
    Agrees (LeadsTo state.expr)
      (m.resolveSegment state.expr.type state.expr.spine.getLast? position text)
      (addSegment m state (.ofText position text)) := by
  obtain ⟨e, lastText, lastPosition⟩ := state
  dsimp only at follows ⊢
  unfold Model.resolveSegment Segment.ofText addSegment
  cases text.contains '.' with
  | true =>
    simp only [if_true]
    cases e.type.structuredName? with
    | none => exact .error rfl rfl
    | some owner =>
      cases found : m.resolveCast owner (String.ofList text) position with
      | error err =>
        simp only [found, Except.error_bind]
        exact .error (Model.position_of_resolveCast found) (Model.position_of_resolveCast found)
      | ok target =>
        simp only [found, Except.ok_bind]
        exact .ok ⟨rfl, (List.append_nil _).symm, follows.cast target.name, Nat.add_comm ..⟩
  | false =>
    simp only [Bool.false_eq_true, if_false]
    cases type : e.type with
    | collection element =>
      -- only a property leads to a collection
      obtain ⟨p, last⟩ : ∃ p, e.spine.getLast? = some p := by
        rw [Expr.FollowsSpine, type] at follows
        exact Option.isSome_iff_exists.1 (Option.isSome_of_any follows.symm)
      rw [last]
      exact .error rfl rfl
    | structured owner =>
      cases found : m.resolveProperty? owner (String.ofList text) with
      | none =>
        cases e.spine.getLast? <;> simp only [TypeRef.structuredName?, found] <;>
          exact .error rfl rfl
      | some p =>
        cases e.spine.getLast? <;> simp only [TypeRef.structuredName?, found] <;>
          exact .ok ⟨rfl, rfl, Expr.followsSpine_property e p, Nat.add_comm ..⟩
    | null | primitive => cases e.spine.getLast? <;> exact .error rfl rfl

/-- A path is resolved in a schema and bound alike, if there is room for its segments. -/
theorem addSegments_agrees {texts : List (List Char)} (follows : state.expr.FollowsSpine)
    (room : state.expr.depth + texts.length ≤ n) (position : Nat) :
    Agrees (fun chain result => result.expr.spine = state.expr.spine ++ chain ∧
        result.expr.FollowsSpine)
      (m.resolveSegments state.expr.type state.expr.spine.getLast? position texts)
      (addSegments m (some n) state (placed position texts)) := by
  induction texts generalizing state position with
  | nil => exact .ok ⟨(List.append_nil _).symm, follows⟩
  | cons text rest ih =>
    rw [Model.resolveSegments_cons]
    refine (addSegment_agrees follows position text).bind fun (next, found) e leads => ?_
    obtain ⟨type, spine, follows, depth⟩ := leads
    have room : e.depth + rest.length ≤ n := by
      rw [List.length_cons] at room
      omega
    have bounded := (limitDepth_guards e (Segment.ofText position text).position).complete e rfl
      (Nat.le_of_add_right_le room)
    have last : found.getLast?.or state.expr.spine.getLast? = e.spine.getLast? := by
      rw [spine, List.getLast?_append]
    dsimp only at type spine ⊢
    rw [bounded, Except.ok_bind, Segment.position_ofText, Segment.text_ofText, last, ← type]
    refine (@ih ⟨e, text, position⟩ follows room _).map fun more result h => ?_
    exact ⟨by rw [h.1, spine, List.append_assoc], h.2⟩

end Binding

end RecordQuery
