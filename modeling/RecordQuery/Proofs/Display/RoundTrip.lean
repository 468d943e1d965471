import RecordQuery.Proofs.Binding.Depth
import RecordQuery.Proofs.Display.Reading
import RecordQuery.Proofs.Display.Rebinding
import RecordQuery.Proofs.Schema.Build

/-!
# Parsing undoes display

A filter that was accepted is displayed as a text, and if it is legible, then that text is accepted
as the same filter. The text reads as the term that the filter is displayed as, this term is bound to
the filter, and the parentheses of the text nest less deep than the nodes of the filter.

The names of types have to be legible too, and so does a property named like the element: both can
be written behind the element, and both are misread without it.

## Main definitions

* `Expr.IsAlmostLegible`: whether a node is legible but for such names.

## Main statements

* `Displayable.balanced`: the parentheses of a displayed expression.
* `parseFilter_text`: parsing undoes display.
* `parseFilter_text_almost_legible`: filters that are almost legible need not be read back.
-/

namespace RecordQuery

open Binding (Scope)
open Grammar (Balanced Segment Term segmentsText)

variable {context : QueryContext} {scope : Scope} {e : Expr}

/-! ## Nesting -/

theorem Expr.HasRoute.plain (h : e.HasRoute) : '(' ∉ e.chars ∧ ')' ∉ e.chars ∧ '\'' ∉ e.chars := by
  refine Grammar.inPath_plain ?_
  rw [h.chars, List.all_append, h.names.starts.inPath,
    Grammar.inPath_segmentsText h.names.others]
  rfl

namespace Expr

variable {t : TypeRef} {left right operand source body : Expr} {k : Nat}

theorem balanced_binary (op : BinaryOperator) (hl : Balanced left.chars k)
    (hr : Balanced right.chars k) : Balanced (binary t op left right).chars (k + 1) := by
  have operator : '(' ∉ Grammar.operatorText op ∧ ')' ∉ Grammar.operatorText op ∧
      '\'' ∉ Grammar.operatorText op := by cases op <;> decide
  have shape : (binary t op left right).chars =
      Grammar.wrapped (left.chars ++ (Grammar.operatorText op ++ right.chars)) := by
    simp [chars_binary, Grammar.wrapped]
  rw [shape]
  exact (hl.append (hr.behind operator)).wrapped

theorem balanced_unary (op : UnaryOperator) (h : Balanced operand.chars k) :
    Balanced (unary t op operand).chars k := by
  cases op with
  | not =>
    rw [chars_not, ← List.singleton_append, ← List.append_assoc]
    exact h.behind (by decide)
  | negate =>
    rw [chars_negate, ← List.singleton_append]
    exact h.behind (by decide)

theorem balanced_further {args : List Expr} (h : ∀ arg ∈ args, Balanced arg.chars k) :
    Balanced (furtherChars args) k := by
  induction args with
  | nil => exact Grammar.balanced_nil.mono (Nat.zero_le k)
  | cons arg args ih =>
    obtain ⟨first, others⟩ := List.forall_mem_cons.1 h
    have comma : Balanced ([',', ' '] ++ arg.chars) k := first.behind (by decide)
    exact comma.append (ih others)

theorem balanced_call {f : Builtin} {arg : Expr} {args : List Expr}
    (h : ∀ a ∈ arg :: args, Balanced a.chars k) :
    Balanced (call t f (arg :: args)).chars (k + 1) := by
  obtain ⟨first, others⟩ := List.forall_mem_cons.1 h
  have name : '(' ∉ f.text.toList ∧ ')' ∉ f.text.toList ∧ '\'' ∉ f.text.toList := by
    cases f <;> decide
  have shape : (call t f (arg :: args)).chars =
      f.text.toList ++ Grammar.wrapped (arg.chars ++ furtherChars args) := by
    simp [chars_call, Grammar.wrapped]
  rw [shape]
  exact (first.append (balanced_further others)).wrapped.behind name

theorem depth_le_depthOfAll {arg : Expr} {args : List Expr} (mem : arg ∈ args) :
    arg.depth ≤ depthOfAll args := by
  induction args with
  | nil => cases mem
  | cons first args ih =>
    rw [depthOfAll]
    rcases List.mem_cons.1 mem with rfl | mem
    · exact Nat.le_max_left ..
    · exact (ih mem).trans (Nat.le_max_right ..)

/-- A quantifier behind a path, with something between its parentheses. -/
theorem balanced_quantified {q : Grammar.Quantifier} {inside : List Char} (h : source.HasRoute)
    (inner : Balanced inside k) (chars : e.chars =
      source.chars ++ '/' :: (Grammar.quantifierText q ++ '(' :: (inside ++ [')']))) :
    Balanced e.chars (k + 1) := by
  have word : '(' ∉ '/' :: Grammar.quantifierText q ∧ ')' ∉ '/' :: Grammar.quantifierText q ∧
      '\'' ∉ '/' :: Grammar.quantifierText q := by cases q <;> decide
  rw [chars]
  exact (inner.wrapped.behind word).behind h.plain

/-- A quantifier with a range variable and a body. -/
theorem HasRoute.balanced_body {q : Grammar.Quantifier} {bound : String} (h : source.HasRoute)
    (inner : Balanced body.chars k) (name : Grammar.IsIdentifier bound.toList)
    (chars : e.chars = source.chars ++ '/' :: (Grammar.quantifierText q ++
      '(' :: (bound.toList ++ ':' :: ' ' :: (body.chars ++ [')'])))) :
    Balanced e.chars (k + 1) := by
  have body_behind : Balanced (bound.toList ++ ([':', ' '] ++ body.chars)) k :=
    (inner.behind (by decide)).behind (Grammar.inPath_plain name.inPath)
  exact balanced_quantified (q := q) h body_behind (chars.trans (by simp))

end Expr

namespace Displayable

/-- The parentheses of a displayed expression nest less deep than its nodes. -/
theorem balanced (h : Displayable context scope e) : Balanced e.chars (e.depth - 1) := by
  induction e using Expr.childInduction generalizing scope with
  | step e ih =>
    cases e with
    | constant t v =>
      have chars : (Expr.constant t v).chars = v.literal.toList := by rw [Expr.chars, Expr.text]
      rw [chars]
      exact h.isLiteral.balanced
    | range | property | cast =>
      exact (Grammar.balanced_of_plain (h.route rfl).plain).mono (Nat.zero_le _)
    | binary t op left right =>
      have hl := ih left List.mem_cons_self (h.child List.mem_cons_self)
      have hr := ih right (List.mem_cons_of_mem _ List.mem_cons_self)
        (h.child (List.mem_cons_of_mem _ List.mem_cons_self))
      have left_pos := left.depth_pos
      have right_pos := right.depth_pos
      refine (Expr.balanced_binary op (hl.mono (Nat.le_max_left _ (right.depth - 1)))
        (hr.mono (Nat.le_max_right _ _))).mono ?_
      rw [Expr.depth]
      omega
    | unary t op operand =>
      have inner := ih operand List.mem_cons_self (h.child List.mem_cons_self)
      refine (Expr.balanced_unary op inner).mono ?_
      rw [Expr.depth]
      omega
    | call t f args =>
      cases args with
      | nil =>
        cases h.typed with
        | call signature arity => cases arity.symm.trans (accepts_zero signature)
      | cons arg args =>
        have all : ∀ a ∈ arg :: args, Balanced a.chars (Expr.depthOfAll (arg :: args) - 1) :=
          fun a mem => (ih a mem (h.child (List.mem_map_of_mem mem))).mono
            (Nat.sub_le_sub_right (Expr.depth_le_depthOfAll mem) 1)
        have arg_pos := arg.depth_pos
        have deepest := Expr.depth_le_depthOfAll (List.mem_cons_self (a := arg) (l := args))
        refine (Expr.balanced_call all).mono ?_
        rw [Expr.depth]
        omega
    | convert target operand =>
      have inner := ih operand List.mem_cons_self (h.child List.mem_cons_self)
      have chars : (Expr.convert target operand).chars = operand.chars := by
        rw [Expr.chars, Expr.text, Expr.chars]
      rw [chars, Expr.depth]
      exact inner.mono (by omega)
    | any t source bound body =>
      have source_pos := source.depth_pos
      cases h.typed with
      | anyItem typed collection =>
        have source_route :=
          (h.child List.mem_cons_self).route (typed.isPath_of_collection collection)
        refine (Expr.balanced_quantified source_route Grammar.balanced_nil
          (Expr.chars_quantified _ source)).mono ?_
        rw [Expr.depth]
        omega
      | any typed collection =>
        have source_route :=
          (h.child List.mem_cons_self).route (typed.isPath_of_collection collection)
        have body_balanced := ih _ (List.mem_cons_of_mem _ List.mem_cons_self)
          (h.child (List.mem_cons_of_mem _ List.mem_cons_self))
        refine (source_route.balanced_body body_balanced h.lexical_here (Expr.chars_any _ _ _ _)).mono
          ?_
        rw [Expr.depth]
        omega
    | all t source bound body =>
      cases h.typed with
      | all typed collection =>
        have source_route :=
          (h.child List.mem_cons_self).route (typed.isPath_of_collection collection)
        have body_balanced := ih _ (List.mem_cons_of_mem _ List.mem_cons_self)
          (h.child (List.mem_cons_of_mem _ List.mem_cons_self))
        have body_pos := body.depth_pos
        refine (source_route.balanced_body body_balanced h.lexical_here (Expr.chars_all _ _ _ _)).mono
          ?_
        rw [Expr.depth]
        omega

end Displayable

/-! ## Parsing -/

/-- Parsing undoes display. -/
theorem parseFilter_text {text : String} (h : parseFilter text context = .ok e)
    (legible : e.Throughout Expr.IsLegible (.top context)) :
    parseFilter e.text context = .ok e := by
  obtain ⟨-, -, t, found, bound, boolean⟩ := parseFilter_eq_ok_iff.1 h
  obtain ⟨d, outcome, -⟩ := Grammar.recognize_filterText_eq_ok_iff.1 found
  have names := Grammar.expression_gives _ _ _ _ outcome
  have displayable : Displayable context (.top context) e :=
    ⟨(parseFilterWithin_wellTyped h).2, (Binding.term_binds _ t bound).lexical names, legible⟩
  have reads : (Grammar.expression (e.chars.length + 1)).Reads Term.erase e.chars e.shown [] :=
    displayable.readsBack.expression (Nat.lt_succ_self _) Grammar.boundary_nil nofun
      (by simpa using displayable.readsBack.dropWhile [])
  have shallow : Grammar.nestingOverflow? maxDepth e.text.toList = none := by
    obtain ⟨closed, peak⟩ := displayable.balanced
    have depth : e.depth ≤ maxDepth := (Binding.term_binds _ t bound).depth_le (by decide)
    exact (Grammar.nestingOverflow?_eq_none_iff closed).2 (by omega)
  have visible : Text.blank e.text = false := by
    obtain ⟨c, more, shape, starts, -⟩ := displayable.readsBack.starts
    have first : c ∈ e.chars := by rw [shape]; exact List.mem_cons_self
    exact Text.blank_eq_false_iff.2 ⟨_, first, Grammar.isBlank_eq_false starts⟩
  obtain ⟨t', found', same⟩ := Grammar.recognize_of_reads reads rfl
  have bound' : Binding.term context (some maxDepth) (.top context) t' = .ok e := by
    refine Except.eq_ok_of_toOption ?_
      ((Binding.term_binds _ t bound).shown (Scope.hasElement_top context) legible)
    rw [← same, ← Binding.term_erase]
  exact parseFilter_eq_ok_iff.2 ⟨visible, shallow, t', found', bound', boolean⟩

/-- A range variable, conversions, the type of a null, a quote in a string and two minus signs. -/
theorem parseFilter_text_quantified : ∃ e,
    parseFilter "Lines/any(l: not (l/Quantity ge 2L) and l/Note ne 'it''s') or -Total lt -5"
      orderContext = .ok e ∧ e.Throughout Expr.IsLegible (.top orderContext) ∧
    parseFilter e.text orderContext = .ok e := by
  have accepted : (parseFilter
      "Lines/any(l: not (l/Quantity ge 2L) and l/Note ne 'it''s') or -Total lt -5"
      orderContext).toOption.any
        (fun e => decide (e.Throughout Expr.IsLegible (.top orderContext))) = true := by
    decide +kernel
  obtain ⟨e, found, legible⟩ := Except.any_toOption.1 accepted
  have legible := of_decide_eq_true legible
  exact ⟨e, found, legible, parseFilter_text found legible⟩

/-! ## Names of types, and the name of the element -/

/-- Whether a node is legible, but for the names of types and for properties named like the
element. -/
def Expr.IsAlmostLegible (scope : Scope) : Expr → Prop
  | constant _ v => v.IsLegible
  | unary _ op operand => op = .negate → ∀ n ∈ operand.number?, n < 0
  | property _ source p => source.isElementVariable = true →
    Grammar.isReserved p.name.toList = false ∧
      ∀ entry ∈ scope, entry.1 = p.name → entry.1 = elementName
  | _ => True

instance (scope : Scope) : (e : Expr) → Decidable (e.IsAlmostLegible scope)
  | .constant _ v => inferInstanceAs (Decidable v.IsLegible)
  | .unary _ op operand =>
    inferInstanceAs (Decidable (op = .negate → ∀ n ∈ operand.number?, n < 0))
  | .property _ source p => inferInstanceAs (Decidable (source.isElementVariable = true →
    Grammar.isReserved p.name.toList = false ∧
      ∀ entry ∈ scope, entry.1 = p.name → entry.1 = elementName))
  | .range .. | .cast .. | .binary .. | .call .. | .convert .. | .any .. | .all .. =>
    .isTrue True.intro

/-- Items of a type that is named after a constant, with a property named like the element. -/
def nullTypes : List TypeDeclaration :=
  [⟨"null.Item", .entity, none, [("$it", .primitive .boolean), ("Open", .primitive .boolean)]⟩]

/-- Queries about such items. -/
def nullContext : QueryContext where
  model := ⟨nullTypes.map TypeDeclaration.toType⟩
  element := TypeDeclaration.toType
    ⟨"null.Item", .entity, none, [("$it", .primitive .boolean), ("Open", .primitive .boolean)]⟩

theorem build_nullTypes : Model.build nullTypes = .ok nullContext.model := by
  rw [Model.build, Model.ofDeclarations_of_sorted (by decide)]
  rfl

/-- Without the element in front, the type is read as a constant and the property as the element. -/
theorem parseFilter_text_almost_legible :
    Model.build nullTypes = .ok nullContext.model ∧
    (∃ e, parseFilter "$it/null.Item/Open" nullContext = .ok e ∧
      e.Throughout Expr.IsAlmostLegible (.top nullContext) ∧
      parseFilter e.text nullContext ≠ .ok e) ∧
    ∃ e, parseFilter "$it/$it" nullContext = .ok e ∧
      e.Throughout Expr.IsAlmostLegible (.top nullContext) ∧
      parseFilter e.text nullContext ≠ .ok e := by
  have unread : ∀ text, (parseFilter text nullContext).toOption.any (fun e =>
      decide (e.Throughout Expr.IsAlmostLegible (.top nullContext)) &&
        !(parseFilter e.text nullContext).isOk) = true →
      ∃ e, parseFilter text nullContext = .ok e ∧
        e.Throughout Expr.IsAlmostLegible (.top nullContext) ∧
        parseFilter e.text nullContext ≠ .ok e := by
    intro text h
    obtain ⟨e, found, h⟩ := Except.any_toOption.1 h
    obtain ⟨legible, refused⟩ := Bool.and_eq_true_iff.1 h
    refine ⟨e, found, of_decide_eq_true legible, fun again => ?_⟩
    rw [again] at refused
    cases refused
  exact ⟨build_nullTypes, unread _ (by decide +kernel), unread _ (by decide +kernel)⟩

end RecordQuery
