import RecordQuery.Proofs.Binding.Unquantified
import RecordQuery.Proofs.Parse.Recognition
import RecordQuery.Proofs.Typing.Binding

/-!
# Texts with a collection and no quantifier

A text that is rejected because a collection is not quantified has a path in it that comes to a
collection, and its segments stand in the text where their positions say. The report names this
collection, at its own place or that of the next name, just if it is a property that no cast
follows.

## Main definitions

* `Explains`: how a path of a text comes to be reported.

## Main statements

* `parse_collectionNotQuantified`: every such rejection is explained by a path of the text.
-/

namespace RecordQuery

open Binding (Accurate Quiet ReportAt Scope Visits)
open Grammar (OrderTerm Segment StandIn Term)

variable {context : QueryContext} {limit : Binding.Bounds} {text name : String} {position : Nat}

/-! ## Recognized texts -/

namespace Grammar

open Recognizer

theorem filterText_gives (fuel : Nat) : (filterText fuel).Gives Term.IsLexical :=
  (expression_gives fuel).bind fun _ lexical => Gives.andThen fun _ => Gives.pure lexical

theorem orderByText_gives (fuel : Nat) :
    (orderByText fuel).Gives fun ts => ∀ t ∈ ts, t.term.IsLexical := by
  have term : (orderTerm (expression fuel)).Gives fun t => t.term.IsLexical :=
    Gives.rule <| (expression_gives fuel).bind fun _ lexical => Gives.andThen fun _ =>
      Gives.pure lexical
  have terms : (separated (orderTerm (expression fuel))).Gives fun ts =>
      ∀ t ∈ ts, t.term.IsLexical :=
    term.bind fun first first_lexical => (Gives.andThen fun _ => term).many.bind fun more others =>
      Gives.pure (List.forall_mem_cons.2 ⟨first_lexical, others⟩)
  exact terms.bind fun _ lexical => Gives.andThen fun _ => Gives.pure lexical

theorem gives_of_recognize {α : Type} {p : Nat → Recognizer α} {P : α → Prop}
    (gives : ∀ fuel, (p fuel).Gives P) {text : List Char} {a : α} (h : recognize p text = .ok a) :
    P a := by
  unfold recognize at h
  dsimp only at h
  split at h <;> cases h
  exact gives _ _ _ _ ‹_›

end Grammar

theorem recognizeWithin_quiet {α : Type} (limit : Binding.Bounds)
    (p : Nat → Grammar.Recognizer α) (text : String) : Quiet (recognizeWithin limit p text) := by
  unfold recognizeWithin
  split
  · exact nofun
  · split
    · exact nofun
    · split <;> exact nofun

/-! ## Reports -/

/-- A path of a text comes to a collection at `s`, with `casts` behind that and then the segments
`after`, and what is reported of it is accurate if it is a property and there are no casts. -/
structure Explains (context : QueryContext) (limit : Binding.Bounds) (text : String) (t : Term)
    (scope : Scope) (before : List Segment) (s : Segment) (casts after : List Segment)
    (name : String) (position : Nat) : Prop where
  visited : Visits context limit (.top context) t scope (before ++ s :: (casts ++ after))
  placed : StandIn text.toList (before ++ s :: (casts ++ after))
  reported : ReportAt context limit scope before s casts after name position
  accurate : Accurate context limit scope (before ++ s :: (casts ++ after)) name position ↔
    casts = [] ∧ (before ≠ [] ∨ scope.lookup (String.ofList s.text) = none)

/-- A term whose segments stand in a text explains what is reported of it. -/
theorem exists_explains {t : Term} {all : List Segment}
    (placed : StandIn text.toList all) (part : t.segments <:+: all) (lexical : t.IsLexical)
    (failed : Binding.term context limit (.top context) t =
      .error (.collectionNotQuantified name position)) :
    ∃ scope before s casts after,
      Explains context limit text t scope before s casts after name position := by
  obtain ⟨scope, segments, visited, before, s, casts, after, rfl, reported⟩ :=
    Binding.visits_of_term_eq_error _ t failed
  refine ⟨scope, before, s, casts, after, visited, placed.of_infix (visited.isInfix.trans part),
    reported, reported.accurate_iff fun segment mem => ?_⟩
  exact lexical.segments t segment (visited.isInfix.subset mem)

theorem exists_explains_of_parseFilterWithin
    (failed : parseFilterWithin limit text context =
      .error (.collectionNotQuantified name position)) :
    ∃ t, recognizeWithin limit Grammar.filterText text = .ok t ∧
      ∃ scope before s casts after,
        Explains context limit text t scope before s casts after name position := by
  obtain ⟨t, recognized, failed⟩ := (recognizeWithin_quiet limit _ text).exists_of_bind failed
  have failed := Quiet.error_of_bind (fun e => by split <;> exact nofun) failed
  obtain ⟨-, -, found⟩ := recognizeWithin_eq_ok_iff.1 recognized
  exact ⟨t, recognized, exists_explains
    (Grammar.standIn_of_recognize Grammar.filterText_spells found) List.infix_rfl
    (Grammar.gives_of_recognize Grammar.filterText_gives found) failed⟩

/-- A clause is reported if one of its terms is. -/
theorem exists_term_of_bindOrderTerms_eq_error {ts : List OrderTerm}
    (failed : bindOrderTerms limit context ts = .error (.collectionNotQuantified name position)) :
    ∃ t ∈ ts, Binding.term context limit (.top context) t.term =
      .error (.collectionNotQuantified name position) := by
  induction ts with
  | nil => cases failed
  | cons t rest ih =>
    obtain failed | ⟨e, -, failed⟩ := Except.bind_eq_error.1 failed
    · exact ⟨t, List.mem_cons_self, failed⟩
    · obtain ⟨other, mem, failed⟩ := ih (Quiet.error_of_bind (fun _ => .ok _) failed)
      exact ⟨other, List.mem_cons_of_mem t mem, failed⟩

theorem exists_explains_of_parseOrderByWithin
    (failed : parseOrderByWithin limit text context =
      .error (.collectionNotQuantified name position)) :
    ∃ ts, recognizeWithin limit Grammar.orderByText text = .ok ts ∧ ∃ t ∈ ts,
      ∃ scope before s casts after,
        Explains context limit text t.term scope before s casts after name position := by
  obtain ⟨ts, recognized, failed⟩ := (recognizeWithin_quiet limit _ text).exists_of_bind failed
  have failed := Quiet.error_of_bind (fun _ => .ok _) failed
  obtain ⟨t, mem, failed⟩ := exists_term_of_bindOrderTerms_eq_error failed
  obtain ⟨-, -, found⟩ := recognizeWithin_eq_ok_iff.1 recognized
  have part : t.term.segments <:+: ts.flatMap fun t => t.term.segments := by
    obtain ⟨before, after, rfl⟩ := List.append_of_mem mem
    refine ⟨before.flatMap fun t => t.term.segments, after.flatMap fun t => t.term.segments, ?_⟩
    simp
  exact ⟨ts, recognized, t, mem, exists_explains
    (Grammar.standIn_of_recognize Grammar.orderByText_spells found) part
    (Grammar.gives_of_recognize Grammar.orderByText_gives found t mem) failed⟩

/-- A rejected text explains what is reported of it: a path of a term comes to a collection, and the
report is accurate just if this is a property that no cast follows. -/
theorem parse_collectionNotQuantified (context : QueryContext) (text name : String)
    (position : Nat) :
    (parseFilter text context = .error (.collectionNotQuantified name position) →
      ∃ t, recognizeWithin (some maxDepth) Grammar.filterText text = .ok t ∧
        ∃ scope before s casts after, Explains context (some maxDepth) text t scope before s casts
          after name position) ∧
    (parseOrderBy text context = .error (.collectionNotQuantified name position) →
      ∃ ts, recognizeWithin (some maxDepth) Grammar.orderByText text = .ok ts ∧ ∃ t ∈ ts,
        ∃ scope before s casts after, Explains context (some maxDepth) text t.term scope before s
          casts after name position) :=
  ⟨exists_explains_of_parseFilterWithin, exists_explains_of_parseOrderByWithin⟩

/-- Lines are named at the place of the note that follows them. -/
theorem parse_collectionNotQuantified_lines :
    parseFilter "Lines/Note eq null" orderContext = .error (.collectionNotQuantified "Lines" 6) ∧
    ∃ t, recognizeWithin (some maxDepth) Grammar.filterText "Lines/Note eq null" = .ok t ∧
      ∃ scope before s casts after, Explains orderContext (some maxDepth) "Lines/Note eq null" t
        scope before s casts after "Lines" 6 := by
  have failed : parseFilter "Lines/Note eq null" orderContext =
      .error (.collectionNotQuantified "Lines" 6) := by decide +kernel
  exact ⟨failed, (parse_collectionNotQuantified orderContext _ "Lines" 6).1 failed⟩

/-- Persons with a matrix of numbers, of whom some have a list of others. -/
def matrixTypes : List TypeDeclaration :=
  [⟨"Pay.Person", .entity, none,
      [("Matrix", .collection (.collection (.primitive .int32))),
        ("Friends", .collection (.structured "Pay.Person"))]⟩]

/-- Queries about persons with a matrix. -/
def matrixContext : QueryContext where
  model := ⟨matrixTypes.map TypeDeclaration.toType⟩
  element := ⟨"Pay.Person", .entity, none,
    [⟨"Pay.Person", "Matrix", .collection (.collection (.primitive .int32))⟩,
      ⟨"Pay.Person", "Friends", .collection (.structured "Pay.Person")⟩]⟩

theorem build_matrixTypes : Model.build matrixTypes = .ok matrixContext.model := by
  rw [Model.build, Model.ofDeclarations_of_sorted (by decide)]
  rfl

/-- A row of a matrix is reported under no name of the text, and friends under that of a cast. -/
theorem parse_collectionNotQuantified_row :
    Model.build matrixTypes = .ok matrixContext.model ∧
    parseFilter "Matrix/any(m: m eq null)" matrixContext =
      .error (.collectionNotQuantified "" 0) ∧
    (∀ t, recognizeWithin (some maxDepth) Grammar.filterText "Matrix/any(m: m eq null)" = .ok t →
      ∀ s ∈ t.segments, String.ofList s.text ≠ "") ∧
    parseFilter "Friends/Pay.Person eq null" matrixContext =
      .error (.collectionNotQuantified "Pay.Person" 8) := by
  refine ⟨build_matrixTypes, by decide +kernel, fun t recognized s mem empty => ?_,
    by decide +kernel⟩
  obtain ⟨-, -, found⟩ := recognizeWithin_eq_ok_iff.1 recognized
  have lexical := Grammar.gives_of_recognize Grammar.filterText_gives found
  exact (lexical.segments t s mem).ne_nil (String.ofList_inj.1 (empty.trans String.ofList_nil.symm))

end RecordQuery
