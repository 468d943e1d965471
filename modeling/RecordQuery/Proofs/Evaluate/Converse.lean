import RecordQuery.Proofs.Binding.Positions
import RecordQuery.Proofs.Evaluate.Reads
import RecordQuery.Proofs.Value.Transitivity

/-!
# Exchanged operands

A comparison says the same as its converse with the operands exchanged. Fitting two operands together
does not depend on which of them is the left one, so both are accepted or none is, with the same
operands. That they then have one value is a property of the comparisons of values: an order is
reversed, and an equality holds in both directions.

## Main statements

* `Value.looselyEquals_comm`: equality of values is symmetric.
* `Evaluate.comparison_converse`: a comparison of values and its converse.
* `Binding.toOption_unify_swap`: operands that are fitted the other way round.
* `Binding.binary_converse`: a comparison of expressions and its converse.
-/

namespace RecordQuery

/-! ## Equality of values -/

theorem Binary64.same_comm (x y : Binary64) : x.same y = y.same x := by
  rw [same, same, compare?_swap y x]
  cases y.compare? x with
  | none => rfl
  | some order => cases order <;> rfl

namespace Value

variable {a b : Value}

mutual

/-- Equality of values of one kind holds in both directions. -/
theorem same_comm (a b : Value) : a.same b = b.same a := by
  cases a with
  | double x => cases b <;> first | rfl | exact Binary64.same_comm _ _
  | dateTime d => cases b <;> first | rfl | exact DateTime.sameInstant_comm _ _
  | collection xs => cases b <;> first | rfl | exact sameItems_comm _ _
  | complex xs => cases b <;> first | rfl | exact sameMembers_comm _ _
  | _ => cases b <;> first | rfl | exact BEq.comm

theorem sameItems_comm (xs ys : List Value) : sameItems xs ys = sameItems ys xs := by
  match xs, ys with
  | [], [] | [], _ :: _ | _ :: _, [] => rfl
  | x :: xs, y :: ys => rw [sameItems, sameItems, same_comm x y, sameItems_comm xs ys]

theorem sameMembers_comm (xs ys : List (String × Value)) :
    sameMembers xs ys = sameMembers ys xs := by
  match xs, ys with
  | [], [] | [], _ :: _ | _ :: _, [] => rfl
  | (n, x) :: xs, (k, y) :: ys =>
    rw [sameMembers, sameMembers, same_comm x y, sameMembers_comm xs ys, BEq.comm (a := n)]

end

/-- Values that are not null are equal by their order, if they have one. -/
theorem looselyEquals_of_ne (ha : a ≠ null) (hb : b ≠ null) :
    a.looselyEquals b = ((a.compare? b).map (· == .eq)).getD (a.same b) := by
  unfold looselyEquals
  split
  · exact (ha rfl).elim
  · exact (ha rfl).elim
  · exact (hb rfl).elim
  · split <;> simp [*]

theorem looselyEquals_comm (a b : Value) : b.looselyEquals a = a.looselyEquals b := by
  by_cases ha : a = null
  · rw [ha, looselyEquals_null_left, looselyEquals_null_right]
  by_cases hb : b = null
  · rw [hb, looselyEquals_null_left, looselyEquals_null_right]
  rw [looselyEquals_of_ne hb ha, looselyEquals_of_ne ha hb, compare?_swap a b, same_comm b a]
  cases a.compare? b with
  | none => rfl
  | some order => cases order <;> rfl

end Value

/-! ## Comparisons -/

theorem BinaryOperator.isComparison_converse (op : BinaryOperator) :
    op.converse.isComparison = op.isComparison := by
  cases op <;> rfl

/-- A comparison of two values and its converse. -/
theorem Evaluate.comparison_converse {op : BinaryOperator} (compares : op.isComparison)
    (a b : Value) : comparison op.converse b a = comparison op a b := by
  cases op with
  | eq => exact a.looselyEquals_comm b
  | ne => exact congrArg Bool.not (a.looselyEquals_comm b)
  | gt | ge | lt | le =>
    simp only [comparison, BinaryOperator.converse]
    rw [Value.compare?_swap a b]
    cases a.compare? b with
    | none => rfl
    | some order => cases order <;> rfl
  | _ => cases compares

namespace Binding

variable {op : BinaryOperator} {left right e e' l r : Expr} {position : Nat}

/-! ## Operands -/

/-- Operands are fitted together alike from both sides. -/
theorem toOption_unify_swap (left right : Expr) (position position' : Nat) :
    (unify right left position').toOption =
      (unify left right position).toOption.map Prod.swap := by
  unfold unify
  cases left.type with
  | null => cases right.type <;> rfl
  | primitive p =>
    cases right.type with
    | primitive q =>
      dsimp only
      by_cases same : p = q
      · rw [if_pos same, if_pos same.symm]
        rfl
      · rw [if_neg same, if_neg (Ne.symm same), PrimitiveType.promote?_comm q p]
        cases PrimitiveType.promote? p q <;> rfl
    | _ => rfl
  | structured | collection => cases right.type <;> rfl

theorem unify_swap (position' : Nat) (h : unify left right position = .ok (l, r)) :
    unify right left position' = .ok (r, l) := by
  refine Except.toOption_eq_some.1 ?_
  rw [toOption_unify_swap left right position, h]
  rfl

/-- A comparison is made of fitted operands. -/
theorem binary_comparison_eq_ok_iff (compares : op.isComparison) :
    binary op left right position = .ok e ↔
      ∃ l r, unify left right position = .ok (l, r) ∧ e = .binary .boolean op l r := by
  have other : ¬ (op = .and ∨ op = .or) := by
    rintro (rfl | rfl) <;> cases compares
  unfold binary
  rw [if_neg other, Except.bind_eq_ok, Prod.exists]
  refine exists₂_congr fun l r => and_congr_right fun _ => ?_
  dsimp only
  rw [if_pos compares, Except.pure_eq, Except.ok.injEq, eq_comm]

/-- The converse of a comparison is made of the same operands. -/
theorem exists_binary_converse (compares : op.isComparison) (position' : Nat)
    (h : binary op left right position = .ok e) :
    ∃ l r, e = .binary .boolean op l r ∧
      binary op.converse right left position' = .ok (.binary .boolean op.converse r l) := by
  obtain ⟨l, r, fitted, rfl⟩ := (binary_comparison_eq_ok_iff compares).1 h
  have compares' := (op.isComparison_converse).trans compares
  exact ⟨l, r, rfl, (binary_comparison_eq_ok_iff compares').2 ⟨r, l, unify_swap _ fitted, rfl⟩⟩

/-! ## The converse of a comparison -/

/-- A comparison of any two operands and its converse on the exchanged operands are accepted
together, and then they have the same truth value for every record and under all bindings. For values
this means that orders are reversed and equality is symmetric. -/
theorem binary_converse {op : BinaryOperator} (compares : op.isComparison) (left right : Expr)
    (position position' : Nat) :
    ((∃ e, binary op left right position = .ok e) ↔
      ∃ e', binary op.converse right left position' = .ok e') ∧
    (∀ e e', binary op left right position = .ok e →
      binary op.converse right left position' = .ok e' →
        ∀ r m bindings, ∃ b, Evaluate.value r m bindings e = .bool b ∧
          Evaluate.value r m bindings e' = .bool b) ∧
    ∀ a b : Value, b.compare? a = (a.compare? b).map Ordering.swap ∧
      b.sortOrder a = (a.sortOrder b).swap ∧ b.looselyEquals a = a.looselyEquals b := by
  have compares' := (op.isComparison_converse).trans compares
  refine ⟨⟨?_, ?_⟩, ?_, fun a b =>
    ⟨Value.compare?_swap a b, Value.sortOrder_swap a b, Value.looselyEquals_comm a b⟩⟩
  · rintro ⟨e, accepted⟩
    obtain ⟨l, r, -, converse⟩ := exists_binary_converse compares position' accepted
    exact ⟨_, converse⟩
  · rintro ⟨e', accepted⟩
    obtain ⟨l, r, -, converse⟩ := exists_binary_converse compares' position accepted
    rw [BinaryOperator.converse_converse] at converse
    exact ⟨_, converse⟩
  · intro e e' accepted accepted' record m bindings
    obtain ⟨l, r, rfl, converse⟩ := exists_binary_converse compares position' accepted
    cases accepted'.symm.trans converse
    refine ⟨_, Evaluate.value_comparison compares, ?_⟩
    rw [Evaluate.value_comparison compares', Evaluate.comparison_converse compares]

/-- A number that is too narrow is converted on either side, and NaN is in no order. -/
theorem binary_converse_nan :
    let rank := Expr.property (.primitive .int16) (.element (.structured "Pay.Person"))
      ⟨"Pay.Person", "Rank", .primitive .int16⟩
    let less := Expr.binary .boolean .lt (.convert .double rank) (.ofValue (.double .nan))
    let greater := Expr.binary .boolean .gt (.ofValue (.double .nan)) (.convert .double rank)
    binary .lt rank (.ofValue (.double .nan)) 5 = .ok less ∧
    binary .gt (.ofValue (.double .nan)) rank 4 = .ok greater ∧
    ∀ r m bindings, ∃ b, Evaluate.value r m bindings less = .bool b ∧
      Evaluate.value r m bindings greater = .bool b := by
  intro rank less greater
  obtain ⟨-, agree, -⟩ := @binary_converse .lt rfl rank (.ofValue (.double .nan)) 5 4
  exact ⟨rfl, rfl, agree less greater rfl rfl⟩

end Binding

end RecordQuery
