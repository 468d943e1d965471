import RecordQuery.Proofs.Display.Constants
import RecordQuery.Proofs.Typing.Operand
import RecordQuery.Proofs.Typing.Occurrence

/-!
# Legible expressions

Not every expression is displayed as a text that can be read back. A double is displayed without the
letter of its type, the minus sign in front of a number is taken for the sign of the number, and
where the element is left out, the name behind it is taken for a constant, an operator or a range
variable if it looks like one. An expression is legible if none of its nodes is displayed so.

## Main definitions

* `Expr.IsLegible`: whether a node is displayed as it can be read back.
* `Expr.IsLexical`: whether the names in a node are names of the grammar.
* `Expr.Throughout`: a property of all nodes of an expression, each in its scope.
* `Displayable`: a well-typed expression whose nodes are lexical and legible.
-/

namespace RecordQuery

open Binding (Scope)

/-- Whether a constant is read back from its text. -/
def Value.IsLegible : Value → Prop
  | .double _ => False
  | .dateTime d => DateTime.ofText? d.toText.toList = some d
  | _ => True

instance : (v : Value) → Decidable v.IsLegible
  | .double _ => .isFalse id
  | .dateTime d => inferInstanceAs (Decidable (DateTime.ofText? d.toText.toList = some d))
  | .null | .int16 _ | .int32 _ | .int64 _ | .bool _ | .string _ | .guid _ | .collection _
  | .complex _ => .isTrue True.intro

/-- A legible scalar that is no short integer is a literal. -/
theorem Value.isLiteral_of_isLegible {v : Value} {p : PrimitiveType}
    (kind : v.primitiveType? = some p) (long : p ≠ .int16) (legible : v.IsLegible) :
    v.IsLiteral := by
  cases v with
  | int16 =>
    cases kind
    exact absurd rfl long
  | null | collection | complex => cases kind
  | double => exact legible.elim
  | dateTime => exact legible
  | _ => exact True.intro

namespace Expr

/-- The integer that a constant stands for. -/
def number? : Expr → Option Int
  | constant _ v => v.int?
  | _ => none

/-- Whether a node is displayed as it can be read back: its constant is read back, a minus sign does
not stand in front of a number without one, and the name behind an element that is left out is
neither a reserved word nor in scope. The first name of a cast there is no reserved word either. -/
def IsLegible (scope : Scope) : Expr → Prop
  | constant _ v => v.IsLegible
  | unary _ op operand => op = .negate → ∀ n ∈ operand.number?, n < 0
  | property _ source p => source.isElementVariable = true →
    Grammar.isReserved p.name.toList = false ∧ scope.Fresh p.name
  | cast _ source target => source.isElementVariable = true →
    Grammar.isReserved (target.toList.takeWhile (· != '.')) = false
  | _ => True

instance (scope : Scope) : (e : Expr) → Decidable (e.IsLegible scope)
  | constant _ v => inferInstanceAs (Decidable v.IsLegible)
  | unary _ op operand =>
    inferInstanceAs (Decidable (op = .negate → ∀ n ∈ operand.number?, n < 0))
  | property _ source p => inferInstanceAs (Decidable (source.isElementVariable = true →
    Grammar.isReserved p.name.toList = false ∧ ∀ entry ∈ scope, entry.1 ≠ p.name))
  | cast _ source target => inferInstanceAs (Decidable (source.isElementVariable = true →
    Grammar.isReserved (target.toList.takeWhile (· != '.')) = false))
  | range .. | binary .. | call .. | convert .. | any .. | all .. => .isTrue True.intro

/-- Whether a node is a conversion. -/
def isConversion : Expr → Bool
  | convert .. => true
  | _ => false

/-- Whether the names in a node are names of the grammar, its constant is one that a text can stand
for, and no operator is applied to a conversion. -/
def IsLexical : Expr → Prop
  | constant _ v => v.primitiveType? ≠ some .int16
  | range _ name => Grammar.IsIdentifier name.toList ∧ Grammar.isReserved name.toList = false
  | property _ _ p => Grammar.IsIdentifier p.name.toList
  | cast _ _ target => Grammar.IsQualified target.toList
  | unary _ _ operand => operand.isConversion = false
  | any _ _ (some v) _ | all _ _ v _ => Grammar.IsIdentifier v.toList
  | _ => True

/-! ## All nodes of an expression -/

/-- A property of all nodes of an expression, each in its scope. -/
def Throughout (P : Scope → Expr → Prop) (scope : Scope) (e : Expr) : Prop :=
  ∀ inner n, e.OccursIn scope inner n → P inner n

variable {P : Scope → Expr → Prop} {scope : Scope} {e : Expr} {t : TypeRef}

theorem throughout_iff : Throughout P scope e ↔
    P scope e ∧ ∀ child ∈ e.childrenIn scope, Throughout P child.1 child.2 := by
  constructor
  · intro h
    exact ⟨h _ _ (.self e scope), fun child mem inner n occurs => h inner n (.child mem occurs)⟩
  · rintro ⟨here, below⟩ inner n occurs
    cases occurs with
    | self => exact here
    | child mem occurs => exact below _ mem inner n occurs

theorem throughout_constant {v : Value} :
    Throughout P scope (constant t v) ↔ P scope (constant t v) := by
  rw [throughout_iff]
  exact and_iff_left nofun

theorem throughout_range {name : String} :
    Throughout P scope (range t name) ↔ P scope (range t name) := by
  rw [throughout_iff]
  exact and_iff_left nofun

theorem throughout_property {source : Expr} {p : Property} :
    Throughout P scope (property t source p) ↔
      P scope (property t source p) ∧ Throughout P scope source := by
  rw [throughout_iff]
  exact and_congr_right fun _ => List.forall_mem_singleton

theorem throughout_cast {source : Expr} {target : String} :
    Throughout P scope (cast t source target) ↔
      P scope (cast t source target) ∧ Throughout P scope source := by
  rw [throughout_iff]
  exact and_congr_right fun _ => List.forall_mem_singleton

theorem throughout_unary {op : UnaryOperator} {operand : Expr} :
    Throughout P scope (unary t op operand) ↔
      P scope (unary t op operand) ∧ Throughout P scope operand := by
  rw [throughout_iff]
  exact and_congr_right fun _ => List.forall_mem_singleton

theorem throughout_binary {op : BinaryOperator} {left right : Expr} :
    Throughout P scope (binary t op left right) ↔ P scope (binary t op left right) ∧
      Throughout P scope left ∧ Throughout P scope right := by
  rw [throughout_iff]
  exact and_congr_right fun _ => List.forall_mem_cons.trans
    (and_congr_right fun _ => List.forall_mem_singleton)

theorem throughout_call {f : Builtin} {args : List Expr} : Throughout P scope (call t f args) ↔
    P scope (call t f args) ∧ ∀ arg ∈ args, Throughout P scope arg := by
  rw [throughout_iff]
  exact and_congr_right fun _ => List.forall_mem_map

theorem throughout_anyItem {source : Expr} : Throughout P scope (any t source none none) ↔
    P scope (any t source none none) ∧ Throughout P scope source := by
  rw [throughout_iff]
  exact and_congr_right fun _ => List.forall_mem_singleton

/-- All nodes of a quantifier over items of a type, the body in the scope of its range variable. -/
theorem throughout_quantify {q : Grammar.Quantifier} {source body : Expr} {bound : String}
    {item : TypeRef} (collection : source.type = .collection item) :
    Throughout P scope (Binding.quantify q source bound body) ↔
      P scope (Binding.quantify q source bound body) ∧ Throughout P scope source ∧
        Throughout P ((bound, item) :: scope) body := by
  have inner : bodyScope scope source bound = (bound, item) :: scope := by
    rw [bodyScope, collection]
    rfl
  rw [throughout_iff, ← inner]
  cases q <;> exact and_congr_right fun _ => List.forall_mem_cons.trans
    (and_congr_right fun _ => List.forall_mem_singleton)

instance [∀ scope e, Decidable (P scope e)] : Decidable (e.Throughout P scope) :=
  decidable_of_iff (∀ node ∈ e.nodesIn scope, P node.1 node.2)
    ⟨fun h _ _ occurs => h _ (mem_nodesIn.2 occurs), fun h _ mem => h _ _ (mem_nodesIn.1 mem)⟩

theorem childrenIn_withType (t : TypeRef) : (e.withType t).childrenIn scope = e.childrenIn scope := by
  cases e with
  | any _ source bound body => cases bound <;> cases body <;> rfl
  | _ => rfl

/-- What does not depend on the type of a node holds throughout an expression of another type. -/
theorem throughout_withType (same : ∀ scope t e, P scope (e.withType t) ↔ P scope e) (t : TypeRef) :
    Throughout P scope (e.withType t) ↔ Throughout P scope e := by
  rw [throughout_iff, throughout_iff, same, childrenIn_withType]

theorem isLegible_withType (scope : Scope) (t : TypeRef) (e : Expr) :
    (e.withType t).IsLegible scope ↔ e.IsLegible scope := by
  cases e <;> exact Iff.rfl

theorem isLexical_withType (t : TypeRef) (e : Expr) : (e.withType t).IsLexical ↔ e.IsLexical := by
  cases e with
  | any _ source bound body => cases bound <;> exact Iff.rfl
  | _ => exact Iff.rfl

end Expr

/-- An expression that obeys the rules and whose nodes are lexical and legible. -/
structure Displayable (context : QueryContext) (scope : Scope) (e : Expr) : Prop where
  typed : WellTyped context scope e
  lexical : e.Throughout (fun _ => Expr.IsLexical) scope
  legible : e.Throughout Expr.IsLegible scope

namespace Displayable

variable {context : QueryContext} {scope : Scope} {e : Expr}

theorem child {inner : Scope} {c : Expr} (h : Displayable context scope e)
    (mem : (inner, c) ∈ e.childrenIn scope) : Displayable context inner c :=
  ⟨h.typed.child mem, (Expr.throughout_iff.1 h.lexical).2 _ mem,
    (Expr.throughout_iff.1 h.legible).2 _ mem⟩

theorem lexical_here (h : Displayable context scope e) : e.IsLexical :=
  (Expr.throughout_iff.1 h.lexical).1

theorem legible_here (h : Displayable context scope e) : e.IsLegible scope :=
  (Expr.throughout_iff.1 h.legible).1

theorem isLiteral {t : TypeRef} {v : Value} (h : Displayable context scope (.constant t v)) :
    v.IsLiteral := by
  cases h.typed with
  | null => exact True.intro
  | constant kind =>
    exact Value.isLiteral_of_isLegible kind (fun short => h.lexical_here (short ▸ kind))
      h.legible_here

end Displayable

end RecordQuery
