import RecordQuery.Proofs.Schema.WellFormed
import RecordQuery.Proofs.Typing.Binding
import RecordQuery.Proofs.Typing.Occurrence

/-!
# Structured types that are mentioned

The types of a model mention structured types by their names, below any number of collections. When
a model is built, a name is only looked up if at most one collection is around it, so names below
more of them need not be declared. Expressions get at such names by accessing the properties of
these types, and by the quantifiers that peel off one collection each, but in no other way.

## Main definitions

* `TypeRef.Mentions`: whether a type mentions a name, below how many collections.
* `Expr.Accesses`: whether an expression accesses a property.

## Main statements

* `TypeRef.structuredName?_eq_some_iff_mentions`: the names that are looked up.
* `WellTyped.hasOrigin`: the names in the types of nodes come from accessed properties.
* `Model.build_mentions`: which undeclared names there are in a model that was built, and in the
  filters about it.
-/

namespace RecordQuery

open Binding (Scope)

variable {name : String} {depth : Nat} {t declared : TypeRef}

namespace TypeRef

/-- Whether a type mentions the name of a structured type, below a number of collections. -/
inductive Mentions (name : String) : Nat → TypeRef → Prop
  | structured : Mentions name 0 (structured name)
  | collection {depth : Nat} {element : TypeRef} (mentions : Mentions name depth element) :
      Mentions name (depth + 1) (collection element)

theorem mentions_structured_iff {other : String} :
    (structured other).Mentions name depth ↔ other = name ∧ depth = 0 := by
  constructor
  · rintro ⟨⟩
    exact ⟨rfl, rfl⟩
  · rintro ⟨rfl, rfl⟩
    exact .structured

theorem mentions_collection_iff : (collection t).Mentions name depth ↔
    ∃ outer, depth = outer + 1 ∧ t.Mentions name outer := by
  constructor
  · rintro (_ | inner)
    exact ⟨_, rfl, inner⟩
  · rintro ⟨outer, rfl, inner⟩
    exact .collection inner

/-- The one name that is looked up is mentioned below one collection at most. -/
theorem structuredName?_eq_some_iff_mentions :
    t.structuredName? = some name ↔ ∃ depth ≤ 1, t.Mentions name depth := by
  rw [structuredName?_eq_some_iff]
  constructor
  · rintro (rfl | rfl)
    · exact ⟨0, by decide, .structured⟩
    · exact ⟨1, by decide, .collection .structured⟩
  · rintro ⟨depth, shallow, mentions⟩
    cases mentions with
    | structured => exact .inl rfl
    | collection inner =>
      cases inner with
      | structured => exact .inr rfl
      | collection => omega

/-- Neither what adopts a primitive type nor that type mentions anything. -/
theorem Adopts.mentions_iff (h : declared.Adopts t) :
    t.Mentions name depth ↔ declared.Mentions name depth := by
  cases h with
  | same => exact Iff.rfl
  | null => exact iff_of_false nofun nofun

end TypeRef

/-- In a model that was built, undeclared names stand below two collections at least. -/
theorem WellFormed.mentions {m : Model} (wellFormed : WellFormed m.types) {p : Property}
    (declares : m.Declares p) (mentions : p.type.Mentions name depth) :
    Declared m.types name ∨ 2 ≤ depth := by
  obtain ⟨t, ht, hp⟩ := declares
  by_cases shallow : depth ≤ 1
  · have found := TypeRef.structuredName?_eq_some_iff_mentions.2 ⟨depth, shallow, mentions⟩
    exact .inl (wellFormed.mentioned t ht p hp name (TypeRef.structuredName?_eq_some_iff.1 found))
  · exact .inr (by omega)

/-! ## Nodes -/

/-- Whether an expression accesses a property anywhere. -/
def Expr.Accesses (e : Expr) (p : Property) : Prop :=
  ∃ type source, (Expr.property type source p).Part e

variable {context : QueryContext} {scope inner : Scope} {e c n : Expr} {p : Property}

theorem Expr.Accesses.of_child (mem : c ∈ e.children) (h : c.Accesses p) : e.Accesses p := by
  obtain ⟨type, source, part⟩ := h
  exact ⟨type, source, .child mem part⟩

theorem WellTyped.declares (h : WellTyped context scope e) (accesses : e.Accesses p) :
    context.model.Declares p := by
  obtain ⟨type, source, part⟩ := accesses
  obtain ⟨inner, occurs⟩ := (Expr.exists_occursIn_iff_part scope).2 part
  cases h.node occurs with
  | property _ _ resolved => exact (Model.resolveProperty?_spec resolved).2

/-- A child stands in the scope of its parent, or in one that a source next to it extends. -/
theorem Expr.scope_of_mem_childrenIn {middle : Scope} (mem : (middle, c) ∈ e.childrenIn scope) :
    middle = scope ∨ ∃ source bound, (scope, source) ∈ e.childrenIn scope ∧
      middle = bodyScope scope source bound := by
  unfold childrenIn at mem ⊢
  split at mem
  case h_3 =>
    obtain ⟨_, _, eq⟩ := List.mem_map.1 mem
    exact .inl (Prod.mk.inj eq).1.symm
  all_goals
    obtain eq | mem := List.mem_cons.1 mem
    · exact .inl (Prod.mk.inj eq).1
    · exact .inr ⟨_, _, List.mem_cons_self, (Prod.mk.inj (List.mem_singleton.1 mem)).1⟩

/-- A name in the type of a node is declared, or was brought into scope, or the node accesses a
property of that type. -/
theorem WellTyped.mentions (h : WellTyped context scope e)
    (mentions : e.type.Mentions name depth) :
    Declared context.model.types name ∨ (∃ entry ∈ scope, entry.2.Mentions name depth) ∨
      ∃ p, e.Accesses p ∧ p.type.Mentions name depth := by
  cases h with
  | constant | connective | comparison | arithmetic | not | negate | call | convert | anyItem | any
  | all => cases mentions
  | null adopts => cases adopts.mentions_iff.1 mentions
  | range bound adopts =>
    obtain ⟨before, after, rfl, -⟩ := List.lookup_eq_some_iff.1 bound
    exact .inr (.inl ⟨_, List.mem_append_right before List.mem_cons_self,
      adopts.mentions_iff.1 mentions⟩)
  | @property _ source _ p _ _ _ _ adopts =>
    exact .inr (.inr ⟨p, ⟨_, source, .self _⟩, adopts.mentions_iff.1 mentions⟩)
  | cast _ _ found =>
    obtain ⟨rfl, -⟩ := TypeRef.mentions_structured_iff.1 mentions
    exact .inl (Model.find?_isSome_iff.1 found)
  | castItems _ _ found =>
    obtain ⟨_, -, inner⟩ := TypeRef.mentions_collection_iff.1 mentions
    obtain ⟨rfl, -⟩ := TypeRef.mentions_structured_iff.1 inner
    exact .inl (Model.find?_isSome_iff.1 found)

/-- Whether a name that is mentioned below some collections is declared or comes from one of the
properties accessed, where it is mentioned below as many collections or more. -/
def HasOrigin (types : List StructuredType) (accessed : Property → Prop) (name : String)
    (depth : Nat) : Prop :=
  Declared types name ∨ ∃ p, accessed p ∧ ∃ deeper ≥ depth, p.type.Mentions name deeper

/-- Whether a name has an origin wherever the types in scope mention it. -/
def Binding.Scope.HasOrigins (types : List StructuredType) (accessed : Property → Prop)
    (name : String) (scope : Scope) : Prop :=
  ∀ entry ∈ scope, ∀ depth, entry.2.Mentions name depth → HasOrigin types accessed name depth

variable {types : List StructuredType} {accessed : Property → Prop}

theorem HasOrigin.of_deeper {deeper : Nat} (le : depth ≤ deeper)
    (h : HasOrigin types accessed name deeper) : HasOrigin types accessed name depth := by
  obtain declared | ⟨p, hp, deepest, le', mentions⟩ := h
  · exact .inl declared
  · exact .inr ⟨p, hp, deepest, Nat.le_trans le le', mentions⟩

theorem WellTyped.hasOrigin_self (h : WellTyped context scope e)
    (accesses : ∀ p, e.Accesses p → accessed p)
    (origins : Scope.HasOrigins context.model.types accessed name scope)
    (mentions : e.type.Mentions name depth) :
    HasOrigin context.model.types accessed name depth := by
  obtain declared | ⟨entry, mem, mentions⟩ | ⟨p, hp, mentions⟩ := h.mentions mentions
  · exact .inl declared
  · exact origins entry mem depth mentions
  · exact .inr ⟨p, accesses p hp, depth, Nat.le_refl _, mentions⟩

/-- What a quantifier brings into scope is mentioned by its source. -/
theorem Binding.Scope.HasOrigins.bodyScope {source : Expr} (bound : String)
    (h : WellTyped context scope source) (accesses : ∀ p, source.Accesses p → accessed p)
    (origins : Scope.HasOrigins context.model.types accessed name scope) :
    Scope.HasOrigins context.model.types accessed name (Expr.bodyScope scope source bound) := by
  refine List.forall_mem_cons.2 ⟨fun depth mentions => ?_, origins⟩
  cases type : source.type with
  | collection item =>
    rw [type] at mentions
    have outer : source.type.Mentions name (depth + 1) := type ▸ .collection mentions
    exact (h.hasOrigin_self accesses origins outer).of_deeper (Nat.le_succ depth)
  | _ =>
    rw [type] at mentions
    cases mentions

/-- The names in the type of a node have an origin if those in the scope of the expression have. -/
theorem WellTyped.hasOrigin (h : WellTyped context scope e)
    (accesses : ∀ p, e.Accesses p → accessed p)
    (origins : Scope.HasOrigins context.model.types accessed name scope)
    (occurs : e.OccursIn scope inner n) (mentions : n.type.Mentions name depth) :
    HasOrigin context.model.types accessed name depth := by
  induction occurs with
  | self => exact h.hasOrigin_self accesses origins mentions
  | @child e c n scope middle inner mem _ ih =>
    have below {middle : Scope} {c : Expr} (mem : (middle, c) ∈ e.childrenIn scope) :
        ∀ p, c.Accesses p → accessed p := by
      intro p access
      refine accesses p (access.of_child ?_)
      rw [← Expr.map_snd_childrenIn scope]
      exact List.mem_map_of_mem mem
    refine ih (h.child mem) (below mem) ?_ mentions
    obtain rfl | ⟨source, bound, beside, rfl⟩ := Expr.scope_of_mem_childrenIn mem
    · exact origins
    · exact origins.bodyScope bound (h.child beside) (below beside)

/-! ## Models that were built -/

/-- The element of a query is declared, so the outermost scope needs no property for it. -/
theorem Binding.Scope.hasOrigins_top {m : Model} {element : String}
    (queried : m.context element = .ok context) (accessed : Property → Prop) (name : String) :
    Scope.HasOrigins context.model.types accessed name (.top context) := by
  unfold Model.context at queried
  split at queried
  case h_1 t found =>
    cases queried
    refine List.forall_mem_singleton.2 fun depth mentions => .inl ?_
    obtain ⟨named, -⟩ := TypeRef.mentions_structured_iff.1 mentions
    exact ⟨t, Model.mem_of_find? found, named⟩
  case h_2 => cases queried

theorem Model.context_model {m : Model} {element : String}
    (queried : m.context element = .ok context) : context.model = m := by
  unfold Model.context at queried
  split at queried
  · cases queried
    rfl
  · cases queried

/-- In a model that was built, a name is declared if a property mentions it below one collection at
most. The types of the nodes of a filter mention any other name just if the filter accesses a
property that mentions it, which is below two collections at least. -/
theorem Model.build_mentions {declarations : List TypeDeclaration} {m : Model}
    (built : Model.build declarations = .ok m) :
    (∀ p, m.Declares p → ∀ name depth, p.type.Mentions name depth →
      Declared m.types name ∨ 2 ≤ depth) ∧
    ∀ element context text e, m.context element = .ok context →
      parseFilter text context = .ok e → ∀ name, ¬ Declared m.types name →
        ((∃ (n : Expr) (depth : Nat), n.Part e ∧ n.type.Mentions name depth) ↔
          ∃ p depth, e.Accesses p ∧ 2 ≤ depth ∧ p.type.Mentions name depth) := by
  have wellFormed := (build_eq_ok_iff.1 built).2
  refine ⟨fun p declares name depth mentions => wellFormed.mentions declares mentions, ?_⟩
  intro element context text e queried parsed name undeclared
  obtain rfl := Model.context_model queried
  have typed := (parseFilter_wellTyped parsed).2
  constructor
  · rintro ⟨n, depth, part, mentions⟩
    obtain ⟨inner, occurs⟩ := (Expr.exists_occursIn_iff_part (.top context)).2 part
    obtain declared | ⟨p, access, deeper, -, mentions⟩ :=
      typed.hasOrigin (fun _ => id) (Scope.hasOrigins_top queried _ name) occurs mentions
    · exact (undeclared declared).elim
    · obtain declared | deep := wellFormed.mentions (typed.declares access) mentions
      · exact (undeclared declared).elim
      · exact ⟨p, deeper, access, deep, mentions⟩
  · rintro ⟨p, depth, ⟨type, source, part⟩, -, mentions⟩
    obtain ⟨inner, occurs⟩ := (Expr.exists_occursIn_iff_part (.top context)).2 part
    cases typed.node occurs with
    | property _ _ _ adopts => exact ⟨_, depth, part, adopts.mentions_iff.2 mentions⟩

/-- Persons with a name and a grid of something that is not declared. -/
def gridTypes : List TypeDeclaration :=
  [⟨"Pay.Person", .entity, none, [("Name", .primitive .string),
    ("Grid", .collection (.collection (.structured "Pay.Nope")))]⟩]

/-- The model of persons with grids. -/
def gridModel : Model := ⟨gridTypes.map TypeDeclaration.toType⟩

theorem build_gridTypes : Model.build gridTypes = .ok gridModel := by
  rw [Model.build, Model.ofDeclarations_of_sorted (by decide)]
  rfl

/-- Queries about persons with grids. -/
def gridContext : QueryContext where
  model := gridModel
  element := ⟨"Pay.Person", .entity, none, [⟨"Pay.Person", "Name", .primitive .string⟩,
    ⟨"Pay.Person", "Grid", .collection (.collection (.structured "Pay.Nope"))⟩]⟩

theorem nope_undeclared : ¬ Declared gridModel.types "Pay.Nope" := by
  rw [← Model.find?_eq_none_iff]
  decide

/-- A filter that leaves the grid alone has no node of a type that is not declared. -/
theorem Model.build_mentions_name : ∃ e, parseFilter "Name eq null" gridContext = .ok e ∧
    ∀ n : Expr, n.Part e → ∀ depth, ¬ n.type.Mentions "Pay.Nope" depth := by
  have known : (parseFilter "Name eq null" gridContext).toOption.any
      (fun e => e.preorder.all fun n => n.accessed?.all fun p =>
        p.type == .primitive .string) = true := by decide +kernel
  obtain ⟨e, parsed, known⟩ := Except.any_toOption.1 known
  have origin := (build_mentions build_gridTypes).2 "Pay.Person" gridContext _ e (by decide) parsed
    "Pay.Nope" nope_undeclared
  refine ⟨e, parsed, fun n part depth mentions => ?_⟩
  obtain ⟨p, deeper, ⟨type, source, access⟩, -, mentions⟩ := origin.1 ⟨n, depth, part, mentions⟩
  have text := List.all_eq_true.1 known _ (Expr.mem_preorder.2 access)
  rw [eq_of_beq text] at mentions
  cases mentions

/-- A model is built although a type in it is not declared, and a filter can get at it. -/
theorem Model.build_mentions_grid : Model.build gridTypes = .ok gridModel ∧
    gridModel.context "Pay.Person" = .ok gridContext ∧ ¬ Declared gridModel.types "Pay.Nope" ∧
    (∃ p, gridModel.Declares p ∧ p.type.Mentions "Pay.Nope" 2) ∧
    ∃ e, parseFilter "Grid/any(g: g/any())" gridContext = .ok e ∧
      ∃ n : Expr, n.Part e ∧ n.type.Mentions "Pay.Nope" 2 := by
  have mentions : TypeRef.Mentions "Pay.Nope" 2
      (.collection (.collection (.structured "Pay.Nope"))) := .collection (.collection .structured)
  have known : (parseFilter "Grid/any(g: g/any())" gridContext).toOption.any
      (fun e => e.preorder.any fun n =>
        n.type == .collection (.collection (.structured "Pay.Nope"))) = true := by decide +kernel
  obtain ⟨e, parsed, known⟩ := Except.any_toOption.1 known
  obtain ⟨n, part, type⟩ := List.any_eq_true.1 known
  refine ⟨build_gridTypes, by decide, nope_undeclared, ?_, e, parsed, n, Expr.mem_preorder.1 part,
    ?_⟩
  · exact ⟨⟨"Pay.Person", "Grid", .collection (.collection (.structured "Pay.Nope"))⟩,
      ⟨_, List.mem_cons_self, List.mem_cons_of_mem _ List.mem_cons_self⟩, mentions⟩
  · rw [eq_of_beq type]
    exact mentions

end RecordQuery
