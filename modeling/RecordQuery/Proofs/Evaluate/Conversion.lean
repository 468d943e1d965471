import RecordQuery.Proofs.Binding.Conversion
import RecordQuery.Proofs.Evaluate.Preservation
import RecordQuery.Proofs.Evaluate.RuntimeType
import RecordQuery.Proofs.Value.Widening

/-!
# Evaluation without conversions

Evaluation widens numbers where it reads them, so the conversions in a bound expression can be left
out: a node that is no conversion evaluates alike with and without those below it. This needs that
values are of their types, and that a node with two operands has at most one of them converted. Two
integers that are both converted to doubles could be rounded to the same one.

## Main definitions

* `Expr.unconverted`: an expression with every conversion replaced by its operand.

## Main statements

* `Evaluate.comparison_left`, `Evaluate.arithmetic_widened`, `Evaluate.function_widened`: operations
  do not tell widened operands apart.
* `Expr.isConversion_of_part_unconverted`: no conversion is left.
* `WellTyped.value_unconverted`: a node evaluates alike without the conversions below it.
* `evaluatePredicate_unconverted`: a filter accepts the same records without its conversions.
-/

namespace RecordQuery

open Binding (Scope)
open Evaluate (Bindings elementCast? function functionOf value values)
open Value (Widened)

theorem List.any_congr_mem {α : Type} {items : List α} {p q : α → Bool}
    (same : ∀ a ∈ items, p a = q a) : items.any p = items.any q := by
  rw [Bool.eq_iff_iff, List.any_eq_true, List.any_eq_true]
  exact exists_congr fun a => and_congr_right fun mem => by rw [same a mem]

theorem List.all_congr_mem {α : Type} {items : List α} {p q : α → Bool}
    (same : ∀ a ∈ items, p a = q a) : items.all p = items.all q := by
  rw [Bool.eq_iff_iff, List.all_eq_true, List.all_eq_true]
  exact forall₂_congr fun a mem => by rw [same a mem]

/-! ## Operations on widened values -/

namespace Evaluate

variable {target p : PrimitiveType} {u v w v' w' : Value} {op : BinaryOperator}

/-- A comparison of numbers depends on their order only. -/
theorem comparison_congr {a b a' b' : Value} (number : a.double?.isSome ∨ b.double?.isSome)
    (number' : a'.double?.isSome ∨ b'.double?.isSome) (order : a.compare? b = a'.compare? b') :
    comparison op a b = comparison op a' b' := by
  unfold comparison
  rw [Value.looselyEquals_of_number number, Value.looselyEquals_of_number number', order]

theorem comparison_left (h : Widened target v w) (fits : u.Fits (.primitive target)) :
    comparison op w u = comparison op v u := by
  obtain rfl | number := h.eq_or_number
  · rfl
  · exact comparison_congr (.inl (h.double?_eq ▸ number)) (.inl number) (h.compare?_left fits)

theorem comparison_right (h : Widened target v w) (fits : u.Fits (.primitive target)) :
    comparison op u w = comparison op u v := by
  obtain rfl | number := h.eq_or_number
  · rfl
  · exact comparison_congr (.inr (h.double?_eq ▸ number)) (.inr number) (h.compare?_right fits)

/-- Arithmetic at a type reads its operands in that type. -/
theorem arithmetic_widened (left : Widened p v w) (right : Widened p v' w') :
    arithmetic (.primitive p) op w w' = arithmetic (.primitive p) op v v' := by
  have same : arithmeticAt? p op w w' = arithmeticAt? p op v v' := by
    unfold arithmeticAt?
    split
    case isTrue => rw [left.double?_eq, right.double?_eq]
    case isFalse ne => rw [left.int?_eq ne, right.int?_eq ne]
  exact congrArg (Option.getD · .null) same

/-! ## Calls -/

section Calls

variable {α β : Type} {args : List α} {read read' : α → Value} {f : Builtin} {s : Signature}

theorem getElem?_bind_congr {view : Value → Option β}
    (same : ∀ a ∈ args, view (read' a) = view (read a)) (i : Nat) :
    ((args.map read')[i]?).bind view = ((args.map read)[i]?).bind view := by
  rw [List.getElem?_map, List.getElem?_map]
  cases found : args[i]? with
  | none => rfl
  | some a => exact same a (List.mem_of_getElem? found)

/-- A function does not tell arguments apart that are widened to the types of its parameters. -/
theorem function_widened (signature : f.signature? = some s)
    (h : ∀ a ∈ args, ∃ p ∈ s.params, Widened p (read a) (read' a)) :
    function f (args.map read') = function f (args.map read) := by
  have nulls : (args.map read').any Value.isNull = (args.map read).any Value.isNull := by
    rw [List.any_map, List.any_map]
    exact List.any_congr_mem fun a mem => (h a mem).choose_spec.2.isNull_eq
  have texts : textArg (args.map read') = textArg (args.map read) := by
    funext i
    unfold textArg
    rw [getElem?_bind_congr fun a mem => (h a mem).choose_spec.2.string?_eq]
  have dates : ∀ part, datePart (args.map read') part = datePart (args.map read) part := by
    intro part
    unfold datePart
    rw [getElem?_bind_congr fun a mem => (h a mem).choose_spec.2.dateTime?_eq]
  have doubles : ∀ round, rounding (args.map read') round = rounding (args.map read) round := by
    intro round
    unfold rounding
    rw [getElem?_bind_congr fun a mem => (h a mem).choose_spec.2.double?_eq]
  have same : functionOf f (args.map read') = functionOf f (args.map read) := by
    cases f with
    | substring =>
      cases signature
      have ints : ∀ a ∈ args, (read' a).int? = (read a).int? := by
        intro a mem
        obtain ⟨p, param, widened⟩ := h a mem
        refine widened.int?_eq ?_
        rintro rfl
        exact absurd param (by decide)
      simp only [functionOf, texts, getElem?_bind_congr ints]
    | _ => simp only [functionOf, texts, dates, doubles]
  unfold function
  rw [nulls, same]

end Calls

end Evaluate

/-! ## Expressions without conversions -/

namespace Expr

mutual

/-- An expression with every conversion replaced by its operand. -/
def unconverted : Expr → Expr
  | constant t v => constant t v
  | range t name => range t name
  | property t source p => property t source.unconverted p
  | cast t source target => cast t source.unconverted target
  | binary t op left right => binary t op left.unconverted right.unconverted
  | unary t op operand => unary t op operand.unconverted
  | call t f args => call t f (unconvertedAll args)
  | convert _ operand => operand.unconverted
  | any t source bound none => any t source.unconverted bound none
  | any t source bound (some body) => any t source.unconverted bound (some body.unconverted)
  | all t source bound body => all t source.unconverted bound body.unconverted

/-- Some expressions with every conversion replaced by its operand. -/
def unconvertedAll : List Expr → List Expr
  | [] => []
  | e :: rest => e.unconverted :: unconvertedAll rest

end

theorem unconvertedAll_eq_map (es : List Expr) : unconvertedAll es = es.map unconverted := by
  induction es with
  | nil => rfl
  | cons e rest ih => rw [unconvertedAll, ih, List.map_cons]

theorem children_unconverted {e : Expr} (plain : e.isConversion = false) :
    e.unconverted.isConversion = false ∧ e.unconverted.children = e.children.map unconverted := by
  cases e with
  | convert => cases plain
  | call _ _ args => exact ⟨rfl, unconvertedAll_eq_map args⟩
  | any _ _ _ body => cases body <;> exact ⟨rfl, rfl⟩
  | _ => exact ⟨rfl, rfl⟩

/-- No node of an expression without conversions is a conversion. -/
theorem isConversion_of_part_unconverted {e n : Expr} (part : n.Part e.unconverted) :
    n.isConversion = false := by
  induction e using childInduction with
  | step e ih =>
    cases conversion : e.isConversion with
    | true =>
      cases e with
      | convert _ operand => exact ih operand List.mem_cons_self part
      | _ => cases conversion
    | false =>
      obtain ⟨plain, children⟩ := children_unconverted conversion
      cases part with
      | self => exact plain
      | child mem part =>
        rw [children] at mem
        obtain ⟨c, below, rfl⟩ := List.mem_map.1 mem
        exact ih c below part

/-- The operand of a conversion; any other expression itself. -/
def stripped : Expr → Expr
  | convert _ operand => operand
  | e => e

theorem stripped_cases (e : Expr) : e.stripped = e ∨ ∃ target, e.type = .primitive target := by
  cases e with
  | convert target => exact .inr ⟨target, rfl⟩
  | _ => exact .inl rfl

theorem stripped_of_plain {e : Expr} (plain : e.isConversion = false) : e.stripped = e := by
  cases e with
  | convert => cases plain
  | _ => rfl

end Expr

variable {context : QueryContext} {scope : Scope} {bindings : Bindings} {r : Record} {m : Model}
  {e : Expr}

namespace WellTyped

/-- What has no numeric type is no conversion. -/
theorem plain (typed : WellTyped context scope e)
    (other : ∀ p, e.type = .primitive p → p.isNumeric = false) : e.isConversion = false := by
  cases typed with
  | convert _ _ wider => exact absurd wider.numeric.2 (by simp [other _ rfl])
  | _ => rfl

theorem elementCast?_unconverted (typed : WellTyped context scope e)
    (plain : e.isConversion = false) : elementCast? r m e.unconverted = elementCast? r m e := by
  induction typed with
  | convert => cases plain
  | cast typed single _ _ ih =>
    have source_plain := typed.plain fun p eq => by cases single.symm.trans eq
    rw [Expr.unconverted, elementCast?, elementCast?, ih source_plain]
  | castItems typed items _ _ ih =>
    have source_plain := typed.plain fun p eq => by cases items.symm.trans eq
    rw [Expr.unconverted, elementCast?, elementCast?, ih source_plain]
  | _ => rfl

/-- An expression of a primitive type widens what it converts, if it is a conversion. -/
theorem stripped_widened {p : PrimitiveType} (typed : WellTyped context scope e)
    (scalar : e.type = .primitive p) (bound : bindings.Fit scope)
    (reads : e.ReadsAsDeclared r m bindings) :
    Widened p (value r m bindings e.stripped) (value r m bindings e) := by
  cases typed with
  | convert typed same wider =>
    cases scalar
    have fits := typed.value_fits bound (reads.step List.mem_cons_self)
    rw [same] at fits
    exact Value.castOrNull_widened fits wider
  | _ => exact .same _

/-- A comparison of operands of one type does not need the conversion of one of them. -/
theorem comparison_stripped {op : BinaryOperator} {left right : Expr}
    (left_typed : WellTyped context scope left) (right_typed : WellTyped context scope right)
    (same : left.type = right.type)
    (sparing : left.isConversion = false ∨ right.isConversion = false)
    (bound : bindings.Fit scope) (left_reads : left.ReadsAsDeclared r m bindings)
    (right_reads : right.ReadsAsDeclared r m bindings) :
    Evaluate.comparison op (value r m bindings left.stripped) (value r m bindings right.stripped) =
      Evaluate.comparison op (value r m bindings left) (value r m bindings right) := by
  obtain plain | plain := sparing
  · rw [Expr.stripped_of_plain plain]
    obtain same_right | ⟨target, scalar⟩ := right.stripped_cases
    · rw [same_right]
    · have fits := left_typed.value_fits bound left_reads
      rw [same.trans scalar] at fits
      exact (Evaluate.comparison_right (right_typed.stripped_widened scalar bound right_reads)
        fits).symm
  · rw [Expr.stripped_of_plain plain]
    obtain same_left | ⟨target, scalar⟩ := left.stripped_cases
    · rw [same_left]
    · have fits := right_typed.value_fits bound right_reads
      rw [same.symm.trans scalar] at fits
      exact (Evaluate.comparison_left (left_typed.stripped_widened scalar bound left_reads)
        fits).symm

/-- A node evaluates alike without the conversions below it. For a conversion that is the value of
its operand. -/
theorem value_unconverted (typed : WellTyped context scope e) (sparing : e.AllSparing scope)
    (bound : bindings.Fit scope) (reads : e.ReadsAsDeclared r m bindings) :
    value r m bindings e.unconverted = value r m bindings e.stripped := by
  induction typed generalizing bindings with
  | constant | null | range => rfl
  | property typed structured _ _ ih | cast typed structured _ _ ih
  | castItems typed structured _ _ ih =>
    have plain := typed.plain fun p eq => by cases structured.symm.trans eq
    have source_sparing := (Expr.throughout_iff.1 sparing).2 _ List.mem_cons_self
    have same := ih source_sparing bound (reads.step List.mem_cons_self)
    rw [Expr.unconverted, value, same, typed.elementCast?_unconverted plain,
      Expr.stripped_of_plain plain]
    rfl
  | connective _ left_typed right_typed left_boolean right_boolean ihl ihr =>
    obtain ⟨-, left_sparing, right_sparing⟩ := Expr.throughout_binary.1 sparing
    obtain ⟨left_reads, right_reads⟩ := reads.operands
    have left_plain := left_typed.plain fun p eq => by cases left_boolean.symm.trans eq; rfl
    have right_plain := right_typed.plain fun p eq => by cases right_boolean.symm.trans eq; rfl
    rw [Expr.unconverted, value, ihl left_sparing bound left_reads,
      ihr right_sparing bound right_reads, Expr.stripped_of_plain left_plain,
      Expr.stripped_of_plain right_plain]
    rfl
  | comparison compares left_typed right_typed same _ ihl ihr =>
    obtain ⟨one, left_sparing, right_sparing⟩ := Expr.throughout_binary.1 sparing
    obtain ⟨left_reads, right_reads⟩ := reads.operands
    rw [Expr.unconverted, Evaluate.value_comparison compares, ihl left_sparing bound left_reads,
      ihr right_sparing bound right_reads,
      left_typed.comparison_stripped right_typed same one bound left_reads right_reads]
    exact (Evaluate.value_comparison compares).symm
  | arithmetic computes _ left_typed right_typed left_numeric right_numeric ihl ihr =>
    obtain ⟨-, left_sparing, right_sparing⟩ := Expr.throughout_binary.1 sparing
    obtain ⟨left_reads, right_reads⟩ := reads.operands
    rw [Expr.unconverted, Evaluate.value_arithmetic computes, ihl left_sparing bound left_reads,
      ihr right_sparing bound right_reads, ← Evaluate.arithmetic_widened
        (left_typed.stripped_widened left_numeric bound left_reads)
        (right_typed.stripped_widened right_numeric bound right_reads)]
    exact (Evaluate.value_arithmetic computes).symm
  | not _ _ ih | negate _ _ _ ih =>
    obtain ⟨plain, operand_sparing⟩ := Expr.throughout_unary.1 sparing
    rw [Expr.unconverted, value, ih operand_sparing bound (reads.step List.mem_cons_self),
      Expr.stripped_of_plain plain]
    rfl
  | @call scope f s args signature _ typed fits ih =>
    obtain ⟨-, args_sparing⟩ := Expr.throughout_call.1 sparing
    have args_reads : ∀ a ∈ args, a.ReadsAsDeclared r m bindings := fun a mem =>
      reads.step (List.mem_map_of_mem mem)
    have bare : args.map (value r m bindings ∘ Expr.unconverted) =
        args.map (value r m bindings ∘ Expr.stripped) :=
      List.map_congr_left fun a mem => ih a mem (args_sparing a mem) bound (args_reads a mem)
    have widened : ∀ a ∈ args, ∃ p ∈ s.params,
        Widened p ((value r m bindings ∘ Expr.stripped) a) (value r m bindings a) := by
      intro a mem
      have param := List.mem_map_of_mem (f := Expr.type) mem
      rw [fits] at param
      obtain ⟨p, taken, scalar⟩ := List.mem_map.1 param
      exact ⟨p, List.mem_of_mem_take taken,
        (typed a mem).stripped_widened scalar.symm bound (args_reads a mem)⟩
    rw [Expr.unconverted, value, Evaluate.values_eq_map, Expr.unconvertedAll_eq_map, List.map_map,
      bare, ← Evaluate.function_widened signature widened, ← Evaluate.values_eq_map]
    rfl
  | convert _ _ _ ih =>
    have plain := (Expr.throughout_iff.1 sparing).1
    rw [Expr.unconverted, ih ((Expr.throughout_convert plain).1 sparing) bound
      (reads.step List.mem_cons_self), Expr.stripped_of_plain plain]
    rfl
  | anyItem typed collection ih =>
    have plain := typed.plain fun p eq => by cases collection.symm.trans eq
    have same := ih (Expr.throughout_anyItem.1 sparing).2 bound (reads.step List.mem_cons_self)
    rw [Expr.unconverted, value, same, Expr.stripped_of_plain plain]
    · rfl
    · rintro _ _ ⟨⟩
  | any typed collection _ body_typed boolean ih ih_body =>
    obtain ⟨-, source_sparing, body_sparing⟩ :=
      (Expr.throughout_quantify (q := .any) collection).1 sparing
    have source_reads := reads.step List.mem_cons_self
    have plain := typed.plain fun p eq => by cases collection.symm.trans eq
    have body_plain := body_typed.plain fun p eq => by cases boolean.symm.trans eq; rfl
    rw [Expr.unconverted, value, ih source_sparing bound source_reads,
      Expr.stripped_of_plain plain]
    refine congrArg Value.bool (List.any_congr_mem fun v mem => ?_)
    have body_reads := reads.step (List.mem_cons_of_mem _ (List.mem_map_of_mem mem))
    rw [ih_body body_sparing (bound.item (typed.value_fits bound source_reads) collection mem)
      body_reads, Expr.stripped_of_plain body_plain]
  | all typed collection _ body_typed boolean ih ih_body =>
    obtain ⟨-, source_sparing, body_sparing⟩ :=
      (Expr.throughout_quantify (q := .all) collection).1 sparing
    have source_reads := reads.step List.mem_cons_self
    have plain := typed.plain fun p eq => by cases collection.symm.trans eq
    have body_plain := body_typed.plain fun p eq => by cases boolean.symm.trans eq; rfl
    rw [Expr.unconverted, value, ih source_sparing bound source_reads,
      Expr.stripped_of_plain plain]
    refine congrArg Value.bool (List.all_congr_mem fun v mem => ?_)
    have body_reads := reads.step (List.mem_cons_of_mem _ (List.mem_map_of_mem mem))
    rw [ih_body body_sparing (bound.item (typed.value_fits bound source_reads) collection mem)
      body_reads, Expr.stripped_of_plain body_plain]

end WellTyped

/-- So does every node that the evaluation of an expression comes to. -/
theorem WellTyped.value_unconverted_of_reaches {inner : Bindings} {n : Expr}
    (reached : Evaluate.Reaches r m bindings e inner n) (typed : WellTyped context scope e)
    (sparing : e.AllSparing scope) (bound : bindings.Fit scope)
    (reads : e.ReadsAsDeclared r m bindings) :
    value r m inner n.unconverted = value r m inner n.stripped := by
  induction reached generalizing scope with
  | self => exact typed.value_unconverted sparing bound reads
  | step mem _ ih =>
    obtain ⟨middle, child, bound⟩ := typed.exists_childrenIn_of_steps bound reads mem
    exact ih (typed.child child) ((Expr.throughout_iff.1 sparing).2 _ child) bound (reads.step mem)

/-! ## Accepted filters -/

theorem Accepted.allSparing (h : Accepted context e) : e.AllSparing (.top context) := by
  obtain ⟨t, bound⟩ := h.exists_term
  exact (Binding.term_binds _ t bound).sparing

/-- A filter accepts the same records with every conversion replaced by its operand, as long as the
values that are read have the declared types. No conversion matters at any node. -/
theorem evaluatePredicate_unconverted {text : String} (h : parseFilter text context = .ok e)
    (reads : e.ReadsAsDeclared r context.model []) :
    evaluatePredicate r e.unconverted context.model = evaluatePredicate r e context.model ∧
    ∀ inner n, Evaluate.Reaches r context.model [] e inner n → n.isConversion = false →
      value r context.model inner n.unconverted = value r context.model inner n := by
  have accepted : Accepted context e := .inl ⟨text, h⟩
  have fit := Bindings.fit_nil (.top context)
  have same : ∀ inner n, Evaluate.Reaches r context.model [] e inner n → n.isConversion = false →
      value r context.model inner n.unconverted = value r context.model inner n := by
    intro inner n reached plain
    rw [accepted.wellTyped.value_unconverted_of_reaches reached accepted.allSparing fit reads,
      Expr.stripped_of_plain plain]
  obtain ⟨t, bound⟩ := accepted.exists_term
  have plain := (Binding.term_binds _ t bound).plain
  exact ⟨congrArg Value.isTrue (same [] e (.self [] e) plain), same⟩

/-- The quantity of a line, a 32-bit integer, is converted for a comparison with a 64-bit one. -/
theorem evaluatePredicate_unconverted_quantity : ∃ e,
    parseFilter "Lines/any(l: l/Quantity gt 2L)" orderContext = .ok e ∧
      e.ReadsAsDeclared oneLine orderContext.model [] ∧ e.unconverted.depth < e.depth ∧
      evaluatePredicate oneLine e.unconverted orderContext.model = true := by
  have found : (parseFilter "Lines/any(l: l/Quantity gt 2L)" orderContext).toOption.map
      (fun e => (decide (e.unconverted.depth < e.depth),
        evaluatePredicate oneLine e orderContext.model)) = some (true, true) := by
    decide +kernel
  obtain ⟨e, parsed, eq⟩ := Option.map_eq_some_iff.1 found
  obtain ⟨smaller, accepts⟩ := Prod.mk.inj eq
  have parsed := Except.toOption_eq_some.1 parsed
  have reads := ((parseFilterWithin_wellTyped parsed).2.reads_conform .top oneLine_conforms).1
  exact ⟨e, parsed, reads, of_decide_eq_true smaller,
    (evaluatePredicate_unconverted parsed reads).1.trans accepts⟩

end RecordQuery
