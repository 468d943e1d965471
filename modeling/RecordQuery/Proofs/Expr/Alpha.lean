import Mathlib.Data.List.Forall2
import RecordQuery.Proofs.Expr.Part

/-!
# Names of range variables

Two expressions are alpha-equivalent if they differ in the names of their range variables only.
They have the same nodes with the same types, and a variable stands for the item of the same
quantifier in both, or it is free and has the same name. Quantifiers may bind a name again that is
bound around them.

## Main definitions

* `SameVariable`: whether two names stand for the same variable.
* `Expr.AlphaEquiv`: alpha-equivalence inside some quantifiers.
* `Expr.Binds`: whether a quantifier anywhere in an expression binds a name.

## Main statements

* `Expr.alphaEquiv_equivalence`: alpha-equivalence is an equivalence.
-/

namespace RecordQuery

/-- The variables of corresponding quantifiers around two expressions, the innermost first. -/
abbrev Renaming := List (String × String)

/-- Whether two names stand for the same variable. Either they are bound by corresponding
quantifiers and nothing inside of these binds them again, or they are equal and free. -/
inductive SameVariable : Renaming → String → String → Prop
  | free (name : String) : SameVariable [] name name
  | bound (name name' : String) (outer : Renaming) :
      SameVariable ((name, name') :: outer) name name'
  | around {outer : Renaming} {name name' other other' : String} (ne : name ≠ other)
      (ne' : name' ≠ other') (h : SameVariable outer name name') :
      SameVariable ((other, other') :: outer) name name'

namespace SameVariable

variable {scope : Renaming} {name name' name'' : String}

theorem refl (names : List String) (name : String) :
    SameVariable (names.map fun bound => (bound, bound)) name name := by
  induction names with
  | nil => exact .free name
  | cons other names ih =>
    by_cases same : name = other
    · subst same
      exact .bound name name _
    · exact .around same same ih

theorem symm (h : SameVariable scope name name') :
    SameVariable (scope.map Prod.swap) name' name := by
  induction h with
  | free name => exact .free name
  | bound name name' outer => exact .bound name' name _
  | around ne ne' _ ih => exact .around ne' ne ih

/-- Renamings one after the other, given with the names in between. -/
theorem trans {scopes : List (String × String × String)}
    (h : SameVariable (scopes.map fun bound => (bound.1, bound.2.1)) name name')
    (h' : SameVariable (scopes.map fun bound => (bound.2.1, bound.2.2)) name' name'') :
    SameVariable (scopes.map fun bound => (bound.1, bound.2.2)) name name'' := by
  induction scopes with
  | nil =>
    cases h
    exact h'
  | cons bound scopes ih =>
    obtain ⟨other, other', other''⟩ := bound
    cases h with
    | bound =>
      cases h' with
      | bound => exact .bound _ _ _
      | around ne => exact (ne rfl).elim
    | around ne ne' inner =>
      cases h' with
      | bound => exact (ne' rfl).elim
      | around _ ne'' inner' => exact .around ne ne'' (ih inner inner')

end SameVariable

/-- Related lists can be put together where their elements can. -/
theorem forall₂_comp {α : Type} {R S T : α → α → Prop} {as bs cs : List α}
    (h : List.Forall₂ R as bs) (h' : List.Forall₂ S bs cs)
    (comp : ∀ b ∈ bs, ∀ {a c}, R a b → S b c → T a c) : List.Forall₂ T as cs := by
  induction h generalizing cs with
  | nil =>
    cases h'
    exact .nil
  | cons here _ ih =>
    cases h' with
    | cons here' others' =>
      obtain ⟨first, others⟩ := List.forall_mem_cons.1 comp
      exact .cons (first here here') (ih others' others)

namespace Expr

/-! ## Alpha-equivalence -/

/-- Whether two expressions differ in the names of their bound variables only, inside of quantifiers
that bind the variables of a renaming. A quantifier with a body may lack a variable, and one with a
variable may lack a body, in trees that were not parsed. -/
inductive AlphaEquiv : Renaming → Expr → Expr → Prop
  | constant {scope : Renaming} (type : TypeRef) (v : Value) :
      AlphaEquiv scope (.constant type v) (.constant type v)
  | range {scope : Renaming} {name name' : String} (type : TypeRef)
      (same : SameVariable scope name name') :
      AlphaEquiv scope (.range type name) (.range type name')
  | property {scope : Renaming} {source source' : Expr} (type : TypeRef) (p : Property)
      (sources : AlphaEquiv scope source source') :
      AlphaEquiv scope (.property type source p) (.property type source' p)
  | cast {scope : Renaming} {source source' : Expr} (type : TypeRef) (target : String)
      (sources : AlphaEquiv scope source source') :
      AlphaEquiv scope (.cast type source target) (.cast type source' target)
  | binary {scope : Renaming} {left left' right right' : Expr} (type : TypeRef)
      (op : BinaryOperator) (lefts : AlphaEquiv scope left left')
      (rights : AlphaEquiv scope right right') :
      AlphaEquiv scope (.binary type op left right) (.binary type op left' right')
  | unary {scope : Renaming} {operand operand' : Expr} (type : TypeRef) (op : UnaryOperator)
      (operands : AlphaEquiv scope operand operand') :
      AlphaEquiv scope (.unary type op operand) (.unary type op operand')
  | call {scope : Renaming} {args args' : List Expr} (type : TypeRef) (f : Builtin)
      (length : args.length = args'.length)
      (each : ∀ {a a' : Expr}, (a, a') ∈ args.zip args' → AlphaEquiv scope a a') :
      AlphaEquiv scope (.call type f args) (.call type f args')
  | convert {scope : Renaming} {operand operand' : Expr} (target : PrimitiveType)
      (operands : AlphaEquiv scope operand operand') :
      AlphaEquiv scope (.convert target operand) (.convert target operand')
  | any {scope : Renaming} {source source' body body' : Expr} {bound bound' : String}
      (type : TypeRef) (sources : AlphaEquiv scope source source')
      (bodies : AlphaEquiv ((bound, bound') :: scope) body body') :
      AlphaEquiv scope (.any type source (some bound) (some body))
        (.any type source' (some bound') (some body'))
  | anyUnbound {scope : Renaming} {source source' body body' : Expr} (type : TypeRef)
      (sources : AlphaEquiv scope source source') (bodies : AlphaEquiv scope body body') :
      AlphaEquiv scope (.any type source none (some body)) (.any type source' none (some body'))
  | nonempty {scope : Renaming} {source source' : Expr} {bound bound' : Option String}
      (type : TypeRef) (named : bound.isSome = bound'.isSome)
      (sources : AlphaEquiv scope source source') :
      AlphaEquiv scope (.any type source bound none) (.any type source' bound' none)
  | all {scope : Renaming} {source source' body body' : Expr} {bound bound' : String}
      (type : TypeRef) (sources : AlphaEquiv scope source source')
      (bodies : AlphaEquiv ((bound, bound') :: scope) body body') :
      AlphaEquiv scope (.all type source bound body) (.all type source' bound' body')

namespace AlphaEquiv

variable {scope : Renaming} {e e' e'' : Expr} {args args' : List Expr}

theorem call_of_forall₂ (type : TypeRef) (f : Builtin)
    (each : List.Forall₂ (AlphaEquiv scope) args args') :
    AlphaEquiv scope (.call type f args) (.call type f args') :=
  .call type f each.length_eq (List.forall₂_zip each)

theorem refl (names : List String) (e : Expr) :
    AlphaEquiv (names.map fun bound => (bound, bound)) e e := by
  induction e using childInduction generalizing names with
  | step e ih =>
    have child {c : Expr} (mem : c ∈ e.children) :
        AlphaEquiv (names.map fun bound => (bound, bound)) c c := ih c mem names
    cases e with
    | constant type v => exact .constant type v
    | range type name => exact .range type (.refl names name)
    | property type source p => exact .property type p (child List.mem_cons_self)
    | cast type source target => exact .cast type target (child List.mem_cons_self)
    | binary type op left right =>
      exact .binary type op (child (by simp [children])) (child (by simp [children]))
    | unary type op operand => exact .unary type op (child List.mem_cons_self)
    | call type f args =>
      exact call_of_forall₂ type f (List.forall₂_same.2 fun a (mem : a ∈ args) => child mem)
    | convert target operand => exact .convert target (child List.mem_cons_self)
    | any type source bound body =>
      have sources := child (c := source) (by cases body <;> simp [children])
      cases body with
      | none => exact .nonempty type rfl sources
      | some body =>
        cases bound with
        | none => exact .anyUnbound type sources (child (by simp [children]))
        | some bound => exact .any type sources (ih body (by simp [children]) (bound :: names))
    | all type source bound body =>
      exact .all type (child (by simp [children])) (ih body (by simp [children]) (bound :: names))

theorem symm (h : AlphaEquiv scope e e') : AlphaEquiv (scope.map Prod.swap) e' e := by
  induction h with
  | constant type v => exact .constant type v
  | range type same => exact .range type same.symm
  | property type p _ ih => exact .property type p ih
  | cast type target _ ih => exact .cast type target ih
  | binary type op _ _ left right => exact .binary type op left right
  | unary type op _ ih => exact .unary type op ih
  | call type f length _ ih =>
    exact call_of_forall₂ type f (List.forall₂_iff_zip.2 ⟨length, ih⟩).flip
  | convert target _ ih => exact .convert target ih
  | any type _ _ source body => exact .any type source body
  | anyUnbound type _ _ source body => exact .anyUnbound type source body
  | nonempty type named _ ih => exact .nonempty type named.symm ih
  | all type _ _ source body => exact .all type source body

/-- Expressions that differ in names from the same one differ in names. -/
theorem trans (scopes : List (String × String × String))
    (h : AlphaEquiv (scopes.map fun bound => (bound.1, bound.2.1)) e e')
    (h' : AlphaEquiv (scopes.map fun bound => (bound.2.1, bound.2.2)) e' e'') :
    AlphaEquiv (scopes.map fun bound => (bound.1, bound.2.2)) e e'' := by
  induction e' using childInduction generalizing scopes e e'' with
  | step e' ih =>
    have inner {c d f : Expr} (mem : d ∈ e'.children)
        (h : AlphaEquiv (scopes.map fun bound => (bound.1, bound.2.1)) c d)
        (h' : AlphaEquiv (scopes.map fun bound => (bound.2.1, bound.2.2)) d f) :
        AlphaEquiv (scopes.map fun bound => (bound.1, bound.2.2)) c f := ih d mem scopes h h'
    cases h with
    | constant type v =>
      cases h'
      exact .constant type v
    | range type same =>
      cases h' with
      | range _ same' => exact .range type (same.trans same')
    | property type p sources =>
      cases h' with
      | property _ _ sources' =>
        exact .property type p (inner (by simp [children]) sources sources')
    | cast type target sources =>
      cases h' with
      | cast _ _ sources' => exact .cast type target (inner (by simp [children]) sources sources')
    | binary type op lefts rights =>
      cases h' with
      | binary _ _ lefts' rights' =>
        exact .binary type op (inner (by simp [children]) lefts lefts')
          (inner (by simp [children]) rights rights')
    | unary type op operands =>
      cases h' with
      | unary _ _ operands' => exact .unary type op (inner (by simp [children]) operands operands')
    | call type f length each =>
      cases h' with
      | call _ _ length' each' =>
        have all := List.forall₂_iff_zip.2 ⟨length, each⟩
        have all' := List.forall₂_iff_zip.2 ⟨length', each'⟩
        exact call_of_forall₂ type f (forall₂_comp all all' fun a mem => inner mem)
    | convert target operands =>
      cases h' with
      | convert _ operands' => exact .convert target (inner (by simp [children]) operands operands')
    | any type sources bodies =>
      cases h' with
      | any _ sources' bodies' =>
        refine .any type (inner (by simp [children]) sources sources') ?_
        exact ih _ (by simp [children]) ((_, _, _) :: scopes) bodies bodies'
    | anyUnbound type sources bodies =>
      cases h' with
      | anyUnbound _ sources' bodies' =>
        exact .anyUnbound type (inner (by simp [children]) sources sources')
          (inner (by simp [children]) bodies bodies')
    | nonempty type named sources =>
      cases h' with
      | nonempty _ named' sources' =>
        exact .nonempty type (named.trans named') (inner (by simp [children]) sources sources')
    | all type sources bodies =>
      cases h' with
      | all _ sources' bodies' =>
        refine .all type (inner (by simp [children]) sources sources') ?_
        exact ih _ (by simp [children]) ((_, _, _) :: scopes) bodies bodies'

end AlphaEquiv

theorem alphaEquiv_equivalence : Equivalence (AlphaEquiv []) where
  refl := AlphaEquiv.refl []
  symm := AlphaEquiv.symm
  trans := AlphaEquiv.trans []

/-! ## Bound names -/

variable {e : Expr} {name : String}

/-- The variable that a node binds in its body, if it has both. -/
def bound? : Expr → Option String
  | any _ _ bound (some _) => bound
  | all _ _ bound _ => some bound
  | _ => none

/-- Whether a quantifier anywhere in an expression binds a name. -/
def Binds (e : Expr) (name : String) : Prop := ∃ n, Part n e ∧ n.bound? = some name

instance : Decidable (e.Binds name) :=
  decidable_of_iff (∃ n ∈ e.preorder, n.bound? = some name) (by simp only [Binds, mem_preorder])

theorem not_binds_iff : ¬ e.Binds name ↔
    e.bound? ≠ some name ∧ ∀ c ∈ e.children, ¬ c.Binds name := by
  constructor
  · intro free
    exact ⟨fun bound => free ⟨e, .self e, bound⟩,
      fun c mem ⟨n, part, bound⟩ => free ⟨n, .child mem part, bound⟩⟩
  · rintro ⟨other, inner⟩ ⟨n, part, bound⟩
    cases part with
    | self => exact other bound
    | child mem part => exact inner _ mem ⟨n, part, bound⟩

end Expr

end RecordQuery
