import RecordQuery.Proofs.Binding.Spine
import RecordQuery.Proofs.Parse.Wrapping
import RecordQuery.Proofs.Schema.Inheritance

/-!
# Ordering by a path

A path of names is a text to order by. It is accepted if the schema has the path and the path ends
in no collection, and it is bound to the properties that the schema finds. Where the schema does not
have the path, the text is refused at the position at which the schema fails.

## Main definitions

* `PropertyPath`: whether a text is a path of names that is short enough to be bound.

## Main statements

* `PropertyPath.parseOrderBy_eq`: a path is bound as it is written.
* `parseOrderBy_resolvePath`: the clause of a path agrees with the schema.
-/

namespace RecordQuery

open Grammar (Segment SpellsPath pathTerm placed slashed)

variable {context : QueryContext} {path : String} {first : List Char} {more : List (List Char)}

/-! ## Recognition -/

theorem Text.eq_of_segments {s first : List Char} {more : List (List Char)}
    (h : Text.segments '/' s = first :: more) : s = first ++ slashed more := by
  induction s generalizing first more with
  | nil =>
    cases h
    rfl
  | cons c rest ih =>
    unfold Text.segments at h
    split at h
    case isTrue slash =>
      obtain ⟨next, others, split⟩ := List.exists_cons_of_ne_nil (Text.segments_ne_nil '/' rest)
      rw [split] at h
      cases h
      rw [eq_of_beq slash, ih split]
      rfl
    case isFalse =>
      split at h
      case h_1 next others split =>
        cases h
        rw [ih split, List.cons_append]
      case h_2 none_left => exact (Text.segments_ne_nil '/' rest none_left).elim

theorem recognizeWithin_of_spellsPath (spells : SpellsPath first more)
    (shape : path.toList = first ++ slashed more) (limit : Binding.Bounds) :
    recognizeWithin limit Grammar.orderByText path = .ok [⟨pathTerm 0 first more, .ascending⟩] := by
  have visible : Text.blank path = false := by
    obtain ⟨name, -⟩ := List.forall_mem_cons.1 spells.names
    obtain ⟨c, rest, start, starts⟩ := (Segment.isLexical_ofText name 0).starts
    rw [Segment.text_ofText] at start
    have mem : c ∈ path.toList := by simp [shape, start]
    have operand : Grammar.startsOperand c = true := by
      obtain starts | rfl := starts
      · simp [Grammar.startsOperand, starts]
      · decide
    exact Text.blank_eq_false_iff.2 ⟨_, mem, Grammar.isBlank_eq_false operand⟩
  have shallow : ∀ n ∈ limit, Grammar.nestingOverflow? n path.toList = none := by
    intro n _
    have balanced := Grammar.balanced_of_plain (Grammar.inPath_plain (shape ▸ spells.inPath))
    exact (Grammar.nestingOverflow?_eq_none_iff balanced.closed).2
      (balanced.shallow.trans (Nat.zero_le n))
  refine recognizeWithin_eq_ok_iff.2 ⟨visible, shallow, ?_⟩
  rw [shape]
  refine Grammar.recognize_whole_eq_ok_iff.2 ⟨_, spells.outcome_separated _, ?_⟩
  have ended : ((Grammar.Cursor.start (first ++ slashed more)).after (first ++ slashed more)).rest =
      [] := Grammar.Cursor.rest_after_all rfl
  rw [ended]
  rfl

/-! ## Binding -/

/-- The element of a query, where every path of names starts. -/
def Binding.PathState.element (context : QueryContext) : Binding.PathState :=
  ⟨.element (.structured context.element.name), [], 0⟩

/-- No name is that of the element, so a path of names starts behind the element. -/
theorem path_top (name : Grammar.IsName first ∨ Grammar.IsQualified first)
    (limit : Binding.Bounds) (rest : List Segment) :
    Binding.path context limit (.top context) (.ofText 0 first) rest =
      Binding.addSegments context.model limit (.element context) (.ofText 0 first :: rest) := by
  have start : Binding.pathStart context (.top context) (.ofText 0 first) rest =
      (.element (.structured context.element.name), .ofText 0 first :: rest) := by
    unfold Segment.ofText
    obtain name | name := name
    · have other : (String.ofList first == elementName) = false := by
        refine beq_eq_false_iff_ne.2 fun same => ?_
        obtain ⟨c, letters, rfl, starts, -⟩ := name
        have chars : c :: letters = "$it".toList := by
          rw [← String.toList_ofList (l := c :: letters), same]
          rfl
        cases chars
        exact absurd starts (by decide)
      rw [name.contains_point]
      simp [Binding.pathStart, Binding.Scope.top, List.lookup_cons, other]
    · rw [name.contains_point]
      rfl
  unfold Binding.path
  rw [start]
  rfl

/-- A path is bound as it is written, from the element on. -/
theorem parseOrderBy_of_spellsPath (spells : SpellsPath first more)
    (shape : path.toList = first ++ slashed more) (context : QueryContext) :
    parseOrderBy path context = (do
      let found ← Binding.addSegments context.model (some maxDepth) (.element context)
        (placed 0 (first :: more))
      let e ← Binding.requireSingle found
      return .single e) := by
  unfold parseOrderBy parseOrderByWithin
  rw [recognizeWithin_of_spellsPath spells shape]
  simp [bindOrderTerms, pathTerm, Binding.term, OrderByClause.single, placed,
    path_top (List.forall_mem_cons.1 spells.names).1]

/-! ## Agreement -/

theorem requireSingle_eq {found : Binding.PathState} (follows : found.expr.FollowsSpine) :
    Binding.requireSingle found =
      if found.expr.spine.getLast?.any Property.isCollection then
        .error (.collectionNotQuantified (String.ofList found.lastText) found.lastPosition)
      else .ok found.expr := by
  rw [Binding.requireSingle, follows]

/-- Whether a text is a path of at most 99 names, of which the first one does not start with the
word of a constant or an operator. -/
structure PropertyPath (path : String) : Prop where
  names : ∀ name ∈ Text.segments '/' path.toList, Grammar.IsName name ∨ Grammar.IsQualified name
  length : (Text.segments '/' path.toList).length ≤ 99
  free : Grammar.isReserved (Grammar.leadingWord path.toList) = false

/-- A path is resolved in the schema and bound alike: to the same properties, or to none with errors
at the same position. -/
theorem resolvePath_agrees (context : QueryContext) {n : Nat}
    (room : (Text.segments '/' path.toList).length < n) :
    Binding.Agrees (fun chain found => found.expr.spine = chain ∧ found.expr.FollowsSpine)
      (context.model.resolvePath context.element.name path)
      (Binding.addSegments context.model (some n) (.element context)
        (placed 0 (Text.segments '/' path.toList))) := by
  have follows : (Binding.PathState.element context).expr.FollowsSpine := rfl
  have depth : (Binding.PathState.element context).expr.depth = 1 := rfl
  exact Binding.addSegments_agrees follows (by omega) 0

/-- A path is bound segment by segment, and must not be a collection in the end. -/
theorem PropertyPath.parseOrderBy_eq (h : PropertyPath path) (context : QueryContext) :
    parseOrderBy path context = (do
      let found ← Binding.addSegments context.model (some maxDepth) (.element context)
        (placed 0 (Text.segments '/' path.toList))
      let e ← Binding.requireSingle found
      return .single e) := by
  obtain ⟨first, more, split⟩ :=
    List.exists_cons_of_ne_nil (Text.segments_ne_nil '/' path.toList)
  have shape := Text.eq_of_segments split
  have spells : SpellsPath first more := ⟨split ▸ h.names, shape ▸ h.free⟩
  rw [split]
  exact parseOrderBy_of_spellsPath spells shape context

/-- A path is accepted as a text to order by if and only if the schema has the path and it ends in
no collection. It is bound to the properties that the schema finds. Otherwise it is refused where
the schema fails, or as a collection that no quantifier follows. -/
theorem parseOrderBy_resolvePath (context : QueryContext) (h : PropertyPath path) :
    ((∃ clause, parseOrderBy path context = .ok clause) ↔
      ∃ chain, context.model.resolvePath context.element.name path = .ok chain ∧
        ∀ p ∈ chain.getLast?, p.isCollection = false) ∧
    (∀ chain clause, context.model.resolvePath context.element.name path = .ok chain →
      parseOrderBy path context = .ok clause → ∃ e, clause = .single e ∧ e.spine = chain) ∧
    (∀ err, context.model.resolvePath context.element.name path = .error err →
      ∃ err' position, parseOrderBy path context = .error err' ∧
        err.position? = some position ∧ err'.position? = some position) ∧
    ∀ chain p, context.model.resolvePath context.element.name path = .ok chain →
      chain.getLast? = some p → p.isCollection = true →
        ∃ name position, parseOrderBy path context =
          .error (.collectionNotQuantified name position) := by
  have room : (Text.segments '/' path.toList).length < maxDepth :=
    Nat.lt_of_le_of_lt h.length (by decide)
  have agrees := resolvePath_agrees context room
  rw [h.parseOrderBy_eq context]
  generalize context.model.resolvePath context.element.name path = resolved at agrees ⊢
  generalize Binding.addSegments context.model (some maxDepth) _ _ = bound at agrees ⊢
  cases agrees with
  | error here here' =>
    refine ⟨⟨nofun, nofun⟩, nofun, ?_, nofun⟩
    rintro _ ⟨⟩
    exact ⟨_, _, rfl, here, here'⟩
  | @ok _ found related =>
    obtain ⟨rfl, follows⟩ := related
    have ends : found.expr.spine.getLast?.any Property.isCollection = true ↔
        ∃ p, found.expr.spine.getLast? = some p ∧ p.isCollection = true := by
      cases found.expr.spine.getLast? <;> simp
    rw [Except.ok_bind, requireSingle_eq follows]
    cases collection : found.expr.spine.getLast?.any Property.isCollection with
    | true =>
      obtain ⟨p, last, is_collection⟩ := ends.1 collection
      refine ⟨⟨nofun, ?_⟩, nofun, nofun, fun _ _ _ _ _ => ⟨_, _, rfl⟩⟩
      rintro ⟨_, ⟨⟩, single⟩
      exact absurd is_collection (Bool.eq_false_iff.1 (single p last))
    | false =>
      have single : ∀ p, found.expr.spine.getLast? = some p → p.isCollection ≠ true :=
        fun p last is_collection => Bool.eq_false_iff.1 collection (ends.2 ⟨p, last, is_collection⟩)
      refine ⟨⟨fun _ => ⟨_, rfl, fun p last => Bool.eq_false_iff.2 (single p last)⟩,
        fun _ => ⟨_, rfl⟩⟩, ?_, nofun, ?_⟩
      · rintro _ _ ⟨⟩ ⟨⟩
        exact ⟨_, rfl, rfl⟩
      · rintro _ p ⟨⟩ last is_collection
        exact (single p last is_collection).elim

/-- Queries about the staff. -/
def staffContext : QueryContext where
  model := staffModel
  element := ⟨"Staff.Person", .entity, none, [⟨"Staff.Person", "Name", .primitive .string⟩]⟩

/-- The name of the mentor of an employee, who is a manager. -/
def mentorName : String := "Staff.Employee/Mentor/Staff.Manager/Name"

theorem propertyPath_mentorName : PropertyPath mentorName := by
  have name : ∀ {c : Char} {more : List Char}, Grammar.startsName c = true →
      more.all Grammar.continuesName = true → Grammar.IsName (c :: more) :=
    fun starts continues => ⟨_, _, rfl, starts, continues⟩
  have parts : Text.segments '/' mentorName.toList =
      ["Staff.Employee".toList, "Mentor".toList, "Staff.Manager".toList, "Name".toList] := by
    decide
  refine ⟨?_, by decide, by decide⟩
  rw [parts]
  refine List.forall_mem_cons.2 ⟨.inr ?_, List.forall_mem_cons.2 ⟨.inl ?_,
    List.forall_mem_cons.2 ⟨.inr ?_, List.forall_mem_singleton.2 (.inl ?_)⟩⟩⟩
  · exact ⟨"Staff".toList, "Employee".toList, [], name rfl rfl, name rfl rfl, nofun, rfl⟩
  · exact name rfl rfl
  · exact ⟨"Staff".toList, "Manager".toList, [], name rfl rfl, name rfl rfl, nofun, rfl⟩
  · exact name rfl rfl

theorem parseOrderBy_resolvePath_mentorName : PropertyPath mentorName ∧ ∃ e,
    parseOrderBy mentorName staffContext = .ok (.single e) ∧
    e.spine = [⟨"Staff.Employee", "Mentor", .structured "Staff.Person"⟩,
      ⟨"Staff.Person", "Name", .primitive .string⟩] := by
  obtain ⟨accepts, same, -⟩ := parseOrderBy_resolvePath staffContext propertyPath_mentorName
  have resolved : staffContext.model.resolvePath staffContext.element.name mentorName =
      .ok [⟨"Staff.Employee", "Mentor", .structured "Staff.Person"⟩,
        ⟨"Staff.Person", "Name", .primitive .string⟩] := by decide +kernel
  obtain ⟨clause, parsed⟩ := accepts.2 ⟨_, resolved, by decide⟩
  obtain ⟨e, rfl, spine⟩ := same _ _ resolved parsed
  exact ⟨propertyPath_mentorName, e, parsed, spine⟩

end RecordQuery
