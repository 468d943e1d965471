import RecordQuery.Proofs.Binding.Spine
import RecordQuery.Proofs.Grammar.Placement

/-!
# Collections without a quantifier

A path that comes to a collection has to end in a quantifier, and only casts may stand between them.
If it ends otherwise, an error is reported in the name of the segment that was read last. This is
the collection itself if it is a property with no cast behind it. Casts keep a collection, so behind
casts the last one of them is named in its place; and the range variable that starts a path is
nothing that was read of it, so it is given no name, and no position either.

## Main definitions

* `Binding.Visits`: the paths that binding a term comes to, each in its scope.
* `Binding.CollectionAt`: whether a segment leads a path to a collection.
* `Binding.Report`: what is reported of a collection without a quantifier.

## Main statements

* `Binding.path_report`: what is reported of a path.
* `Binding.visits_of_term_eq_error`: only paths are reported.
-/

namespace RecordQuery

/-- Whether a segment is a cast, and no name of a property or a range variable. -/
def Grammar.Segment.IsCast : Segment → Prop
  | .cast .. => True
  | .member .. => False

namespace Binding

open Grammar (Quantifier Segment Term)

variable {α β : Type} {context : QueryContext} {limit : Bounds} {scope inner : Scope}
  {name : String} {position : Nat}

/-! ## Steps that report something else -/

/-- A step that does not report a collection, whatever else it reports. -/
def Quiet (x : Result α) : Prop :=
  ∀ name position, x ≠ .error (.collectionNotQuantified name position)

namespace Quiet

variable {x : Result α} {next : α → Result β}

theorem ok (a : α) : Quiet (.ok a) := nofun

theorem bind (first : Quiet x) (second : ∀ a, Quiet (next a)) : Quiet (x >>= next) := by
  intro name position failed
  obtain failed | ⟨a, -, failed⟩ := Except.bind_eq_error.1 failed
  · exact first name position failed
  · exact second a name position failed

/-- Behind a quiet step, a report comes from what follows. -/
theorem exists_of_bind (first : Quiet x)
    (failed : (x >>= next) = .error (.collectionNotQuantified name position)) :
    ∃ a, x = .ok a ∧ next a = .error (.collectionNotQuantified name position) :=
  (Except.bind_eq_error.1 failed).resolve_left (first name position)

/-- Before quiet steps, a report comes from the first step. -/
theorem error_of_bind (second : ∀ a, Quiet (next a))
    (failed : (x >>= next) = .error (.collectionNotQuantified name position)) :
    x = .error (.collectionNotQuantified name position) := by
  obtain failed | ⟨a, -, failed⟩ := Except.bind_eq_error.1 failed
  · exact failed
  · exact (second a name position failed).elim

end Quiet

theorem limitDepth_quiet (limit : Bounds) (e : Expr) (position : Nat) :
    Quiet (limitDepth limit e position) := by
  unfold limitDepth
  split
  · split <;> exact nofun
  · exact nofun

theorem constantOr_quiet (kind : LiteralKind) (text : List Char) (position : Nat)
    (value : Option Value) : Quiet (constantOr kind text position value) := by
  cases value <;> exact nofun

theorem expectBoolean_quiet (e : Expr) (position : Nat) : Quiet (expectBoolean e position) := by
  unfold expectBoolean
  split <;> exact nofun

theorem coerce_quiet (e : Expr) (param : PrimitiveType) (position : Nat) :
    Quiet (coerce e param position) := by
  unfold coerce
  split
  · exact nofun
  · split
    · exact nofun
    · split <;> exact nofun
  · exact nofun

theorem unify_quiet (left right : Expr) (position : Nat) : Quiet (unify left right position) := by
  unfold unify
  split
  case h_4 =>
    split
    · exact nofun
    · split <;> exact nofun
  all_goals exact nofun

theorem unary_quiet (op : UnaryOperator) (operand : Expr) (position : Nat) :
    Quiet (unary op operand position) := by
  cases op with
  | not => exact (expectBoolean_quiet operand position).bind fun _ => .ok _
  | negate =>
    unfold unary
    dsimp only
    split
    · split <;> exact nofun
    · exact nofun

theorem binary_quiet (op : BinaryOperator) (left right : Expr) (position : Nat) :
    Quiet (binary op left right position) := by
  unfold binary
  split
  · exact (expectBoolean_quiet left position).bind fun _ =>
      (expectBoolean_quiet right position).bind fun _ => .ok _
  · refine (unify_quiet left right position).bind fun fitted => ?_
    dsimp only
    split
    · exact nofun
    · split
      · split <;> exact nofun
      · exact nofun

theorem itemType_quiet (source : Expr) (position : Nat) : Quiet (itemType source position) := by
  unfold itemType
  split <;> exact nofun

theorem emptyQuantifier_quiet (q : Quantifier) (source : Expr) (position : Nat) :
    Quiet (emptyQuantifier q source position) := by
  cases q <;> exact nofun

theorem requireFresh_quiet (scope : Scope) (bound : String) (position : Nat) :
    Quiet (requireFresh scope bound position) := by
  unfold requireFresh
  split <;> exact nofun

theorem callee_quiet (function : List Char) (count position : Nat) :
    Quiet (callee function count position) := by
  unfold callee
  dsimp only
  split
  · exact nofun
  · split
    · exact nofun
    · split <;> exact nofun

theorem resolveCast_quiet (m : Model) (source target : String) (position : Nat) :
    Quiet (m.resolveCast source target position) := by
  unfold Model.resolveCast
  split
  · exact nofun
  · split <;> exact nofun

/-! ## Segments -/

variable {m : Model} {state : PathState} {segment : Segment} {segments rest : List Segment}

theorem addSegment_eq_error
    (failed : addSegment m state segment = .error (.collectionNotQuantified name position)) :
    state.expr.type.isCollection ∧ ¬ segment.IsCast ∧ name = String.ofList state.lastText ∧
      position = segment.position := by
  unfold addSegment at failed
  split at failed
  case h_1 =>
    split at failed
    case h_1 => cases failed
    case h_2 =>
      obtain ⟨_, -, failed⟩ := (resolveCast_quiet m _ _ _).exists_of_bind failed
      cases failed
  case h_2 =>
    split at failed
    case h_1 collection =>
      cases failed
      exact ⟨by rw [collection]; rfl, id, rfl, rfl⟩
    case h_2 => split at failed <;> cases failed
    case h_3 => cases failed

/-- A name does not follow a collection. -/
theorem isCast_of_addSegment {e : Expr} (added : addSegment m state segment = .ok e)
    (collection : state.expr.type.isCollection) : segment.IsCast := by
  cases segment with
  | cast => exact True.intro
  | member =>
    unfold addSegment at added
    dsimp only at added
    split at added
    · cases added
    case h_2 single =>
      rw [single] at collection
      cases collection
    · cases added

/-- A cast leads to a collection just from a collection. -/
theorem isCollection_of_cast {e : Expr} (added : addSegment m state segment = .ok e)
    (cast : segment.IsCast) : e.type.isCollection = state.expr.type.isCollection := by
  cases segment with
  | member => cases cast
  | cast =>
    unfold addSegment at added
    dsimp only at added
    split at added
    · cases added
    · obtain ⟨target, -, added⟩ := Except.bind_eq_ok.1 added
      cases added
      exact TypeRef.isCollection_castTo ..

/-- What a path comes to that has to be no collection at its end. -/
def finish (m : Model) (limit : Bounds) (state : PathState) (segments : List Segment) :
    Result Expr :=
  addSegments m limit state segments >>= requireSingle

theorem finish_nil_eq_error
    (failed : finish m limit state [] = .error (.collectionNotQuantified name position)) :
    state.expr.type.isCollection ∧ name = String.ofList state.lastText ∧
      position = state.lastPosition := by
  unfold finish addSegments at failed
  rw [Except.ok_bind, requireSingle] at failed
  split at failed
  · cases failed
    exact ⟨‹_›, rfl, rfl⟩
  · cases failed

theorem addSegments_step {e : Expr} (added : addSegment m state segment = .ok e)
    (admitted : Admits limit segment.position e) (rest : List Segment) :
    addSegments m limit state (segment :: rest) =
      addSegments m limit ⟨e, segment.text, segment.position⟩ rest := by
  rw [addSegments, added, Except.ok_bind, admitted, Except.ok_bind]

/-- A report is about the first segment of the rest of a path, or about what follows it. -/
theorem finish_cons_eq_error
    (failed : finish m limit state (segment :: rest) =
      .error (.collectionNotQuantified name position)) :
    addSegment m state segment = .error (.collectionNotQuantified name position) ∨
      ∃ e, addSegment m state segment = .ok e ∧ Admits limit segment.position e ∧
        finish m limit ⟨e, segment.text, segment.position⟩ rest =
          .error (.collectionNotQuantified name position) := by
  cases added : addSegment m state segment with
  | error =>
    unfold finish addSegments at failed
    rw [added] at failed
    exact .inl failed
  | ok e =>
    cases admitted : limitDepth limit e segment.position with
    | error report =>
      unfold finish addSegments at failed
      rw [added, Except.ok_bind, admitted] at failed
      cases failed
      exact (limitDepth_quiet limit e segment.position _ _ admitted).elim
    | ok bounded =>
      cases eq_of_limitDepth admitted
      unfold finish at failed
      rw [addSegments_step added admitted] at failed
      exact .inr ⟨e, rfl, admitted, failed⟩

/-- The position of what follows, or another one if nothing does. -/
def positionOr (after : List Segment) (position : Nat) : Nat :=
  (after.head?.map Segment.position).getD position

/-- Behind a collection there are casts, and the last one of them is reported, or else what was read
last before. -/
theorem finish_of_collection (collection : state.expr.type.isCollection)
    (failed : finish m limit state segments = .error (.collectionNotQuantified name position)) :
    ∃ casts after, segments = casts ++ after ∧ (∀ c ∈ casts, c.IsCast) ∧
      (∀ next ∈ after.head?, ¬ next.IsCast) ∧
      ((casts = [] ∧ name = String.ofList state.lastText ∧
          position = positionOr after state.lastPosition) ∨
        ∃ others c, casts = others ++ [c] ∧ name = String.ofList c.text ∧
          position = positionOr after c.position) := by
  induction segments generalizing state with
  | nil =>
    obtain ⟨-, rfl, rfl⟩ := finish_nil_eq_error failed
    exact ⟨[], [], rfl, nofun, nofun, .inl ⟨rfl, rfl, rfl⟩⟩
  | cons segment rest ih =>
    obtain failed | ⟨e, added, -, failed⟩ := finish_cons_eq_error failed
    · obtain ⟨-, member, rfl, rfl⟩ := addSegment_eq_error failed
      refine ⟨[], segment :: rest, rfl, nofun, ?_, .inl ⟨rfl, rfl, rfl⟩⟩
      rintro next ⟨⟩
      exact member
    · have cast := isCast_of_addSegment added collection
      have still : e.type.isCollection := (isCollection_of_cast added cast).trans collection
      obtain ⟨casts, after, rfl, all, ends, report⟩ := ih still failed
      refine ⟨segment :: casts, after, rfl, List.forall_mem_cons.2 ⟨cast, all⟩, ends, .inr ?_⟩
      obtain ⟨rfl, rfl, rfl⟩ | ⟨others, c, rfl, rfl, rfl⟩ := report
      · exact ⟨[], segment, rfl, rfl, rfl⟩
      · exact ⟨segment :: others, c, rfl, rfl, rfl⟩

/-- A path that is no collection yet comes to one by a property. -/
theorem finish_of_single
    (failed : finish m limit state segments = .error (.collectionNotQuantified name position))
    (single : ¬ state.expr.type.isCollection) :
    ∃ before s rest source, segments = before ++ s :: rest ∧ ¬ s.IsCast ∧
      addSegments m limit state (before ++ [s]) = .ok ⟨source, s.text, s.position⟩ ∧
      source.type.isCollection ∧ finish m limit ⟨source, s.text, s.position⟩ rest =
        .error (.collectionNotQuantified name position) := by
  induction segments generalizing state with
  | nil => exact (single (finish_nil_eq_error failed).1).elim
  | cons segment rest ih =>
    obtain failed | ⟨e, added, admitted, failed⟩ := finish_cons_eq_error failed
    · exact (single (addSegment_eq_error failed).1).elim
    · by_cases collection : e.type.isCollection
      · refine ⟨[], segment, rest, e, rfl, fun cast => single ?_, ?_, collection, failed⟩
        · exact (isCollection_of_cast added cast).symm.trans collection
        · exact addSegments_step added admitted []
      · obtain ⟨before, s, more, source, rfl, member, reached, rest⟩ := ih failed collection
        refine ⟨segment :: before, s, more, source, rfl, member, ?_, rest⟩
        exact (addSegments_step added admitted _).trans reached

/-! ## Paths -/

/-- Whether segments lead to what a path has come to. -/
def Leads (context : QueryContext) (limit : Bounds) (scope : Scope) :
    List Segment → PathState → Prop
  | [], _ => False
  | first :: rest, source => path context limit scope first rest = .ok source

/-- Whether the segment `s` behind those before it is the name of a collection: of a property, or of
a range variable if it is the first one. -/
def CollectionAt (context : QueryContext) (limit : Bounds) (scope : Scope) (before : List Segment)
    (s : Segment) : Prop :=
  ¬ s.IsCast ∧ ∃ source, Leads context limit scope (before ++ [s]) source ∧
    source.expr.type.isCollection

/-- What is reported of a path that comes to a collection at `s`, with casts and further segments
behind it. -/
inductive Report (scope : Scope) (before : List Segment) (s : Segment) :
    List Segment → List Segment → String → Nat → Prop
  /-- A property is named. -/
  | property {after : List Segment}
      (property : before ≠ [] ∨ scope.lookup (String.ofList s.text) = none) :
      Report scope before s [] after (String.ofList s.text) (positionOr after s.position)
  /-- In the place of a collection, the last cast of it is named. -/
  | cast {others after : List Segment} {c : Segment} :
      Report scope before s (others ++ [c]) after (String.ofList c.text)
        (positionOr after c.position)
  /-- A range variable is not named, and it has no position. -/
  | rangeVariable {after : List Segment} (start : before = [])
      (bound : (scope.lookup (String.ofList s.text)).isSome) :
      Report scope before s [] after "" (positionOr after 0)

/-- A path comes to a collection at `s`, behind which no quantifier follows but casts and perhaps a
name, and this is reported. -/
structure ReportAt (context : QueryContext) (limit : Bounds) (scope : Scope) (before : List Segment)
    (s : Segment) (casts after : List Segment) (name : String) (position : Nat) : Prop where
  collection : CollectionAt context limit scope before s
  kept : ∀ c ∈ casts, c.IsCast
  ends : ∀ next ∈ after.head?, ¬ next.IsCast
  report : Report scope before s casts after name position

/-- Whether a path is reported at one of its segments. -/
def Reported (context : QueryContext) (limit : Bounds) (scope : Scope) (segments : List Segment)
    (name : String) (position : Nat) : Prop :=
  ∃ before s casts after, segments = before ++ s :: (casts ++ after) ∧
    ReportAt context limit scope before s casts after name position

/-- Whether a path starts at a range variable is up to its first segment. -/
theorem pathStart_eq (context : QueryContext) (scope : Scope) (first : Segment) :
    (∃ t, ¬ first.IsCast ∧ scope.lookup (String.ofList first.text) = some t ∧ ∀ rest,
      pathStart context scope first rest = (.range t (String.ofList first.text), rest)) ∨
    (¬ first.IsCast → scope.lookup (String.ofList first.text) = none) ∧ ∀ rest,
      pathStart context scope first rest =
        (.element (.structured context.element.name), first :: rest) := by
  cases first with
  | cast => exact .inr ⟨fun member => (member True.intro).elim, fun _ => rfl⟩
  | member at_ name =>
    cases found : scope.lookup (String.ofList name) with
    | some t =>
      refine .inl ⟨t, id, found, fun rest => ?_⟩
      simp only [pathStart, found]
      rfl
    | none =>
      refine .inr ⟨fun _ => found, fun rest => ?_⟩
      simp only [pathStart, found]

/-- A report behind a property. -/
theorem Reported.of_property (before : List Segment) {s : Segment} {source : Expr}
    (member : ¬ s.IsCast)
    (leads : Leads context limit scope (before ++ [s]) ⟨source, s.text, s.position⟩)
    (collection : source.type.isCollection)
    (property : before ≠ [] ∨ scope.lookup (String.ofList s.text) = none)
    (failed : finish context.model limit ⟨source, s.text, s.position⟩ rest =
      .error (.collectionNotQuantified name position)) :
    Reported context limit scope (before ++ s :: rest) name position := by
  obtain ⟨casts, after, rfl, all, ends, report⟩ := finish_of_collection collection failed
  refine ⟨before, s, casts, after, rfl, ⟨member, _, leads, collection⟩, all, ends, ?_⟩
  obtain ⟨rfl, rfl, rfl⟩ | ⟨others, c, rfl, rfl, rfl⟩ := report
  · exact .property property
  · exact .cast

/-- A report behind a range variable. -/
theorem Reported.of_variable {s : Segment} {source : Expr} (member : ¬ s.IsCast)
    (leads : Leads context limit scope [s] ⟨source, [], 0⟩) (collection : source.type.isCollection)
    (bound : (scope.lookup (String.ofList s.text)).isSome)
    (failed : finish context.model limit ⟨source, [], 0⟩ rest =
      .error (.collectionNotQuantified name position)) :
    Reported context limit scope (s :: rest) name position := by
  obtain ⟨casts, after, rfl, all, ends, report⟩ := finish_of_collection collection failed
  refine ⟨[], s, casts, after, rfl, ⟨member, _, leads, collection⟩, all, ends, ?_⟩
  obtain ⟨rfl, rfl, rfl⟩ | ⟨others, c, rfl, rfl, rfl⟩ := report
  · exact .rangeVariable rfl bound
  · exact .cast

/-- What is reported of a path. -/
theorem path_report {first : Segment}
    (failed : (path context limit scope first rest >>= requireSingle) =
      .error (.collectionNotQuantified name position)) :
    Reported context limit scope (first :: rest) name position := by
  obtain ⟨t, member, bound, start⟩ | ⟨unbound, start⟩ := pathStart_eq context scope first
  · have leads {segments : List Segment} {source : PathState}
        (reached : addSegments context.model limit ⟨.range t (String.ofList first.text), [], 0⟩
          segments = .ok source) : Leads context limit scope (first :: segments) source := by
      rw [Leads, path, start]
      exact reached
    rw [path, start] at failed
    by_cases collection : t.isCollection
    · exact .of_variable member (leads rfl) collection (by rw [bound]; rfl) failed
    · obtain ⟨before, s, more, source, rfl, named, reached, collection, behind⟩ :=
        finish_of_single failed collection
      exact .of_property (first :: before) named (leads reached) collection
        (.inl (List.cons_ne_nil _ _)) behind
  · rw [path, start] at failed
    obtain ⟨before, s, more, source, split, named, reached, collection, behind⟩ :=
      finish_of_single failed Bool.false_ne_true
    have leads : Leads context limit scope (before ++ [s]) ⟨source, s.text, s.position⟩ := by
      cases before with
      | nil =>
        obtain ⟨rfl, -⟩ := List.cons.inj split
        rw [List.nil_append, Leads, path, start]
        exact reached
      | cons _ before =>
        obtain ⟨rfl, -⟩ := List.cons.inj split
        rw [List.cons_append, Leads, path, start]
        exact reached
    have property : before ≠ [] ∨ scope.lookup (String.ofList s.text) = none := by
      cases before with
      | nil =>
        obtain ⟨rfl, -⟩ := List.cons.inj split
        exact .inr (unbound named)
      | cons => exact .inl (List.cons_ne_nil _ _)
    rw [split]
    exact .of_property before named leads collection property behind

/-- Whether a report names a collection of a path and stands at the place of that or of a later
segment. -/
def Accurate (context : QueryContext) (limit : Bounds) (scope : Scope) (segments : List Segment)
    (name : String) (position : Nat) : Prop :=
  ∃ before s after, segments = before ++ s :: after ∧ CollectionAt context limit scope before s ∧
    name = String.ofList s.text ∧ ∃ next ∈ s :: after, position = next.position

theorem contains_point_iff {s : Segment} (lexical : s.IsLexical) :
    s.text.contains '.' = true ↔ s.IsCast := by
  cases s with
  | cast => exact iff_of_true (Grammar.IsQualified.contains_point lexical) True.intro
  | member =>
    refine iff_of_false (fun point => ?_) id
    obtain rfl | name := lexical
    · exact absurd point (show ¬ "$it".toList.contains '.' = true by decide)
    · exact Bool.false_ne_true (name.contains_point.symm.trans point)

theorem exists_positionOr (s : Segment) (after : List Segment) :
    ∃ next ∈ s :: after, positionOr after s.position = next.position := by
  cases after with
  | nil => exact ⟨s, List.mem_cons_self, rfl⟩
  | cons next after => exact ⟨next, List.mem_cons_of_mem s List.mem_cons_self, rfl⟩

/-- Just properties with no cast behind them are reported accurately. -/
theorem ReportAt.accurate_iff {before casts after : List Segment} {s : Segment}
    (h : ReportAt context limit scope before s casts after name position)
    (lexical : ∀ segment ∈ before ++ s :: (casts ++ after), segment.IsLexical) :
    Accurate context limit scope (before ++ s :: (casts ++ after)) name position ↔
      casts = [] ∧ (before ≠ [] ∨ scope.lookup (String.ofList s.text) = none) := by
  obtain ⟨collection, kept, -, report⟩ := h
  cases report with
  | property property =>
    exact iff_of_true ⟨before, s, after, rfl, collection, rfl, exists_positionOr s after⟩
      ⟨rfl, property⟩
  | @cast others after c =>
    refine iff_of_false ?_ fun none_left => List.concat_ne_nil c others none_left.1
    rintro ⟨before', s', after', split, ⟨member, -⟩, same, -⟩
    have mem : s' ∈ before ++ s :: (others ++ [c] ++ after) := split ▸ by simp
    have cast := kept c (by simp)
    rw [← contains_point_iff (lexical c (by simp)), String.ofList_inj.1 same,
      contains_point_iff (lexical s' mem)] at cast
    exact member cast
  | rangeVariable start bound =>
    refine iff_of_false ?_ fun property => ?_
    · rintro ⟨before', s', after', split, -, same, -⟩
      have mem := lexical s' (split ▸ by simp)
      exact mem.ne_nil (String.ofList_inj.1 (same.symm.trans String.ofList_nil.symm))
    · rw [property.2.resolve_left (not_not_intro start)] at bound
      cases bound

/-! ## Terms -/

/-- `Visits context limit scope t inner segments`: to bind the term `t` in `scope`, a path of these
segments is bound in the scope `inner`, unless an error comes first. -/
inductive Visits (context : QueryContext) (limit : Bounds) :
    Scope → Term → Scope → List Segment → Prop
  | path {scope : Scope} {first : Segment} {rest : List Segment} :
      Visits context limit scope (.path first rest) scope (first :: rest)
  | quantified {scope : Scope} {first : Segment} {rest : List Segment} {q : Quantifier}
      {position : Nat} :
      Visits context limit scope (.quantified first rest q position) scope (first :: rest)
  | source {scope : Scope} {first : Segment} {rest : List Segment} {q : Quantifier}
      {position boundAt : Nat} {bound : List Char} {body : Term} :
      Visits context limit scope (.lambda first rest q position boundAt bound body) scope
        (first :: rest)
  | body {scope inner : Scope} {first : Segment} {rest segments : List Segment} {q : Quantifier}
      {position boundAt : Nat} {bound : List Char} {body : Term} {source : PathState}
      {item : TypeRef} (spine : Binding.path context limit scope first rest = .ok source)
      (items : itemType source.expr position = .ok item)
      (inside : Visits context limit ((String.ofList bound, item) :: scope) body inner segments) :
      Visits context limit scope (.lambda first rest q position boundAt bound body) inner segments
  | argument {scope inner : Scope} {segments : List Segment} {start : Nat} {function : List Char}
      {arg : Term} {args : List Term} (mem : arg ∈ args)
      (inside : Visits context limit scope arg inner segments) :
      Visits context limit scope (.call start function args) inner segments
  | operand {scope inner : Scope} {segments : List Segment} {position : Nat} {op : UnaryOperator}
      {operand : Term} (inside : Visits context limit scope operand inner segments) :
      Visits context limit scope (.unary position op operand) inner segments
  | left {scope inner : Scope} {segments : List Segment} {position : Nat} {op : BinaryOperator}
      {left right : Term} (inside : Visits context limit scope left inner segments) :
      Visits context limit scope (.binary position op left right) inner segments
  | right {scope inner : Scope} {segments : List Segment} {position : Nat} {op : BinaryOperator}
      {left right : Term} (inside : Visits context limit scope right inner segments) :
      Visits context limit scope (.binary position op left right) inner segments
  | group {scope inner : Scope} {segments : List Segment} {start : Nat} {t : Term}
      (inside : Visits context limit scope t inner segments) :
      Visits context limit scope (.group start t) inner segments

/-- The paths of a term are among its segments, each in one piece. -/
theorem Visits.isInfix {t : Term} (h : Visits context limit scope t inner segments) :
    segments <:+: t.segments := by
  induction h with
  | path | quantified => exact List.infix_rfl
  | source => exact (List.prefix_append _ _).isInfix
  | body _ _ _ ih => exact ih.trans (List.suffix_append _ _).isInfix
  | argument mem _ ih =>
    obtain ⟨before, after, rfl⟩ := List.append_of_mem mem
    refine ih.trans ⟨Term.segmentsAll before, Term.segmentsAll after, ?_⟩
    simp [Term.segments, Term.segmentsAll_eq_flatMap]
  | operand _ ih | group _ ih => exact ih
  | left _ ih => exact ih.trans (List.prefix_append _ _).isInfix
  | right _ ih => exact ih.trans (List.suffix_append _ _).isInfix

/-- Arguments are reported if one of them is. -/
theorem arguments_eq_error {args : List Term} {params : List PrimitiveType}
    (failed : arguments context limit scope args params =
      .error (.collectionNotQuantified name position)) :
    ∃ arg ∈ args, term context limit scope arg =
      .error (.collectionNotQuantified name position) := by
  induction args generalizing params with
  | nil => cases failed
  | cons arg args ih =>
    cases params with
    | nil => cases failed
    | cons param params =>
      obtain failed | ⟨e, -, failed⟩ := Except.bind_eq_error.1 failed
      · exact ⟨arg, List.mem_cons_self, failed⟩
      · obtain ⟨fitted, -, failed⟩ := (coerce_quiet e param arg.start).exists_of_bind failed
        obtain ⟨other, mem, failed⟩ := ih (Quiet.error_of_bind (fun _ => .ok _) failed)
        exact ⟨other, List.mem_cons_of_mem arg mem, failed⟩

/-- Only paths are reported. -/
theorem visits_of_term_eq_error (scope : Scope) (t : Term)
    (failed : term context limit scope t = .error (.collectionNotQuantified name position)) :
    ∃ inner segments, Visits context limit scope t inner segments ∧
      Reported context limit inner segments name position := by
  cases t with
  | null | bool | string => cases failed
  | guid | dateTime | number =>
    exact ((constantOr_quiet _ _ _ _).bind fun _ => .ok _) _ _ failed |>.elim
  | path first rest => exact ⟨scope, _, .path, path_report failed⟩
  | quantified first rest q position =>
    obtain failed | ⟨source, -, failed⟩ := Except.bind_eq_error.1 failed
    · exact ⟨scope, _, .quantified, path_report (Except.bind_eq_error.2 (.inl failed))⟩
    · have quiet := (itemType_quiet source.expr position).bind fun _ =>
        (emptyQuantifier_quiet q source.expr position).bind fun e =>
          limitDepth_quiet limit e position
      exact (quiet _ _ failed).elim
  | lambda first rest q position boundAt bound body =>
    obtain failed | ⟨source, spine, failed⟩ := Except.bind_eq_error.1 failed
    · exact ⟨scope, _, .source, path_report (Except.bind_eq_error.2 (.inl failed))⟩
    · obtain ⟨item, items, failed⟩ := (itemType_quiet source.expr position).exists_of_bind failed
      obtain ⟨_, -, failed⟩ := (requireFresh_quiet scope _ boundAt).exists_of_bind failed
      have failed := Quiet.error_of_bind (fun e => (expectBoolean_quiet e body.start).bind fun e =>
        limitDepth_quiet limit _ position) failed
      obtain ⟨inner, segments, inside, report⟩ := visits_of_term_eq_error _ body failed
      exact ⟨inner, segments, .body spine items inside, report⟩
  | call start function args =>
    obtain ⟨⟨f, s⟩, -, failed⟩ := (callee_quiet function args.length start).exists_of_bind failed
    have failed := Quiet.error_of_bind (fun _ => limitDepth_quiet limit _ start) failed
    obtain ⟨arg, mem, failed⟩ := arguments_eq_error failed
    obtain ⟨inner, segments, inside, report⟩ := visits_of_term_eq_error scope arg failed
    exact ⟨inner, segments, .argument mem inside, report⟩
  | unary position op operand =>
    have failed := Quiet.error_of_bind (fun e => (unary_quiet op e position).bind fun e =>
      limitDepth_quiet limit e position) failed
    obtain ⟨inner, segments, inside, report⟩ := visits_of_term_eq_error scope operand failed
    exact ⟨inner, segments, .operand inside, report⟩
  | binary position op left right =>
    obtain failed | ⟨l, -, failed⟩ := Except.bind_eq_error.1 failed
    · obtain ⟨inner, segments, inside, report⟩ := visits_of_term_eq_error scope left failed
      exact ⟨inner, segments, .left inside, report⟩
    · have failed := Quiet.error_of_bind (fun e => (binary_quiet op l e position).bind fun e =>
        limitDepth_quiet limit e position) failed
      obtain ⟨inner, segments, inside, report⟩ := visits_of_term_eq_error scope right failed
      exact ⟨inner, segments, .right inside, report⟩
  | group start t =>
    obtain ⟨inner, segments, inside, report⟩ := visits_of_term_eq_error scope t failed
    exact ⟨inner, segments, .group inside, report⟩

end Binding

end RecordQuery
