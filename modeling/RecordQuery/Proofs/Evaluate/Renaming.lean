import RecordQuery.Proofs.Evaluate.RuntimeType
import RecordQuery.Proofs.Expr.Alpha

/-!
# Evaluation and the names of range variables

The names of range variables do not matter: alpha-equivalent expressions have the same value. What
carries the proof is that the bindings on both sides give the same item to names of the same
variable, which holds at the start and inside of every quantifier. The element of the query must not
be bound, since it is known by its name wherever it stands.

## Main definitions

* `Evaluate.Agree`: whether bindings agree on the variables of corresponding quantifiers.

## Main statements

* `Evaluate.Agree.bind`: what the items of corresponding quantifiers keep.
* `Evaluate.value_of_alphaEquiv`: the values under bindings that agree.
* `evaluate_of_alphaEquiv`: alpha-equivalent expressions evaluate alike.
-/

namespace RecordQuery

open Evaluate (Bindings elementCast? value)

variable {r : Record} {m : Model} {scope : Renaming} {bindings bindings' : Bindings} {e e' : Expr}

namespace Evaluate

/-- Whether two names of one variable always stand for the same item, and the name of the element
for the element only. -/
structure Agree (scope : Renaming) (bindings bindings' : Bindings) : Prop where
  lookup_eq : ∀ {name name'}, SameVariable scope name name' →
    bindings.lookup name = bindings'.lookup name'
  element_iff : ∀ {name name'}, SameVariable scope name name' →
    (name = elementName ↔ name' = elementName)

theorem Agree.refl (bindings : Bindings) : Agree [] bindings bindings where
  lookup_eq same := by
    cases same
    rfl
  element_iff same := by
    cases same
    rfl

/-- Corresponding quantifiers give the same item to their variables. -/
theorem Agree.bind (h : Agree scope bindings bindings') {bound bound' : String}
    (other : bound ≠ elementName) (other' : bound' ≠ elementName) (item : Value) :
    Agree ((bound, bound') :: scope) ((bound, item) :: bindings) ((bound', item) :: bindings') where
  lookup_eq same := by
    cases same with
    | bound => simp
    | around ne ne' inner =>
      rw [List.lookup_cons, List.lookup_cons, beq_false_of_ne ne, beq_false_of_ne ne']
      exact h.lookup_eq inner
  element_iff same := by
    cases same with
    | bound => exact iff_of_false other other'
    | around _ _ inner => exact h.element_iff inner

/-- The element stands at the same places on both sides. -/
theorem elementCast?_of_alphaEquiv (h : e.AlphaEquiv scope e')
    (agree : Agree scope bindings bindings') : elementCast? r m e = elementCast? r m e' := by
  induction h with
  | range type same => simp only [elementCast?, agree.element_iff same]
  | cast type target _ ih => simp only [elementCast?, ih agree]
  | _ => rfl

/-- Alpha-equivalent expressions have the same value under bindings that agree. -/
theorem value_of_alphaEquiv (h : e.AlphaEquiv scope e') (free : ¬ e.Binds elementName)
    (free' : ¬ e'.Binds elementName) (agree : Agree scope bindings bindings') :
    value r m bindings e = value r m bindings' e' := by
  induction e using Expr.childInduction generalizing e' scope bindings bindings' with
  | step e ih =>
    obtain ⟨other, inner⟩ := Expr.not_binds_iff.1 free
    obtain ⟨other', inner'⟩ := Expr.not_binds_iff.1 free'
    -- A child may stand inside one more quantifier, so the renaming and the bindings are its own.
    have same {c c' : Expr} (mem : c ∈ e.children) (mem' : c' ∈ e'.children) {scope : Renaming}
        {bindings bindings' : Bindings} (h : c.AlphaEquiv scope c')
        (agree : Agree scope bindings bindings') :
        value r m bindings c = value r m bindings' c' :=
      ih c mem h (inner c mem) (inner' c' mem') agree
    cases h with
    | constant => rfl
    | range type name => rw [value, value, agree.lookup_eq name]
    | property type p sources | cast type target sources =>
      rw [value, value, elementCast?_of_alphaEquiv sources agree,
        same List.mem_cons_self List.mem_cons_self sources agree]
    | binary type op lefts rights =>
      have left_same := same (by simp [Expr.children]) (by simp [Expr.children]) lefts agree
      have right_same := same (by simp [Expr.children]) (by simp [Expr.children]) rights agree
      simp only [value, left_same, right_same]
    | unary type op operands | convert target operands =>
      rw [value, value, same List.mem_cons_self List.mem_cons_self operands agree]
    | @call _ args args' type f length each =>
      have each_same : List.Forall₂ (fun a a' => value r m bindings a = value r m bindings' a')
          args args' := List.forall₂_iff_zip.2 ⟨length, fun mem =>
        same (List.of_mem_zip mem).1 (List.of_mem_zip mem).2 (each mem) agree⟩
      have args_same : args.map (value r m bindings) = args'.map (value r m bindings') := by
        rw [← List.forall₂_eq_eq_eq, List.forall₂_map_left_iff, List.forall₂_map_right_iff]
        exact each_same
      rw [value, value, values_eq_map, values_eq_map, args_same]
    | any type sources bodies =>
      have source_same := same (by simp [Expr.children]) (by simp [Expr.children]) sources agree
      have body_same (item : Value) := same (by simp [Expr.children]) (by simp [Expr.children])
        bodies (agree.bind (mt (congrArg some) other) (mt (congrArg some) other') item)
      simp only [value, source_same, body_same]
    | anyUnbound type sources bodies =>
      have source_same := same (by simp [Expr.children]) (by simp [Expr.children]) sources agree
      simp only [value, source_same]
    | nonempty type named sources =>
      have source_same := same (by simp [Expr.children]) (by simp [Expr.children]) sources agree
      simp [value, source_same]
    | all type sources bodies =>
      have source_same := same (by simp [Expr.children]) (by simp [Expr.children]) sources agree
      have body_same (item : Value) := same (by simp [Expr.children]) (by simp [Expr.children])
        bodies (agree.bind (mt (congrArg some) other) (mt (congrArg some) other') item)
      simp only [value, source_same, body_same]

end Evaluate

/-- Alpha-equivalent expressions evaluate alike for every record, where no quantifier binds the name
of the element. -/
theorem evaluate_of_alphaEquiv (h : e.AlphaEquiv [] e') (free : ¬ e.Binds elementName)
    (free' : ¬ e'.Binds elementName) (r : Record) (m : Model) :
    evaluate r e m = evaluate r e' m ∧ evaluatePredicate r e m = evaluatePredicate r e' m := by
  have same : evaluate r e m = evaluate r e' m :=
    Evaluate.value_of_alphaEquiv h free free' (.refl [])
  exact ⟨same, congrArg Value.isTrue same⟩

/-- Whether an order has a line with a note that says late and with more than its total, with names
for a line and for a note. -/
def lateLine (line note : String) : Expr :=
  .any .boolean
    (.property (.collection (.structured "Line")) (.element (.structured "Order"))
      ⟨"Order", "Lines", .collection (.structured "Line")⟩) (some line) (some
    (.binary .boolean .and
      (.any .boolean
        (.property (.collection (.primitive .string)) (.range (.structured "Line") line)
          ⟨"Line", "Notes", .collection (.primitive .string)⟩) (some note) (some
        (.binary .boolean .eq (.range (.primitive .string) note)
          (.constant (.primitive .string) (.string "late")))))
      (.binary .boolean .gt
        (.property (.primitive .int32) (.range (.structured "Line") line)
          ⟨"Line", "Quantity", .primitive .int32⟩)
        (.property (.primitive .int32) (.element (.structured "Order"))
          ⟨"Order", "Total", .primitive .int32⟩))))

theorem alphaEquiv_lateLine {line line' note note' : String} (other : line ≠ elementName)
    (other' : line' ≠ elementName) :
    (lateLine line note).AlphaEquiv [] (lateLine line' note') := by
  have lines : SameVariable [(line, line')] line line' := .bound line line' []
  have notes : SameVariable [(note, note'), (line, line')] note note' := .bound note note' _
  refine .any _ (.property _ _ (.range _ (.free _))) (.binary _ _ ?_ ?_)
  · exact .any _ (.property _ _ (.range _ lines)) (.binary _ _ (.range _ notes) (.constant _ _))
  · exact .binary _ _ (.property _ _ (.range _ lines))
      (.property _ _ (.range _ (.around other.symm other'.symm (.free _))))

/-- An order with such a line. -/
def lateOrder : Record :=
  .ofMembers none [("Total", .int32 1), ("Lines", .collection [
    .complex [("Notes", .collection [.string "late"]), ("Quantity", .int32 2)]])]

/-- A variable with the name of the element would stand for the record. -/
example : evaluatePredicate lateOrder (lateLine "l" "l") default = true ∧
    evaluatePredicate lateOrder (lateLine elementName "l") default = false := by decide

/-- The names of a line and of its notes may be the same. -/
theorem evaluate_of_alphaEquiv_lateLine :
    (lateLine "l" "l").AlphaEquiv [] (lateLine "line" "note") ∧
    ¬ (lateLine "l" "l").Binds elementName ∧ ¬ (lateLine "line" "note").Binds elementName ∧
    ∀ r m, evaluate r (lateLine "l" "l") m = evaluate r (lateLine "line" "note") m := by
  have alike : (lateLine "l" "l").AlphaEquiv [] (lateLine "line" "note") :=
    alphaEquiv_lateLine (by decide) (by decide)
  have free : ¬ (lateLine "l" "l").Binds elementName := by decide
  have free' : ¬ (lateLine "line" "note").Binds elementName := by decide
  exact ⟨alike, free, free', fun r m => (evaluate_of_alphaEquiv alike free free' r m).1⟩

end RecordQuery
