import RecordQuery.Proofs.Parse.Recognition
import RecordQuery.Proofs.Text.Basic
import RecordQuery.Proofs.Typing.Binding

/-!
# Wrapping filters

Accepted filter texts can be put in parentheses and joined by connectives. No text takes anything
from the text around it, so the result is the connective of what the texts stand for alone. The one
condition is that there is room for one more level of depth and of parentheses.

## Main definitions

* `Grammar.wrapped`: a text in parentheses.

## Main statements

* `Grammar.reads_wrapped`: a recognized text in parentheses is an operand.
* `parseFilter_wrapped`: the conjunction, the disjunction and the negation of accepted texts.
-/

namespace RecordQuery

namespace Grammar

open Recognizer

variable {s : List Char} {t : Term}

/-- A text in parentheses. -/
def wrapped (s : List Char) : List Char := '(' :: (s ++ [')'])

theorem after?_wrapped (h : Nesting.ground.after? s = some .ground) :
    Nesting.ground.after? (wrapped s) = some .ground := by
  have inside : Nesting.inside.after? s = some .inside := Nesting.after?_under 1 h
  change Nesting.inside.after? (s ++ [')']) = _
  rw [Nesting.after?_append, inside]
  rfl

theorem peak_wrapped (h : Nesting.ground.after? s = some .ground) :
    Nesting.ground.peak (wrapped s) = 1 + Nesting.ground.peak s := by
  have inside : Nesting.inside.after? s = some .inside := Nesting.after?_under 1 h
  have deeper : Nesting.inside.peak s = 1 + Nesting.ground.peak s := Nesting.peak_under 1 h
  change max 0 (Nesting.inside.peak (s ++ [')'])) = _
  rw [Nesting.peak_append inside, deeper]
  change max 0 (max (1 + Nesting.ground.peak s) (max 1 0)) = _
  omega

theorem refuses_unaryOperator_wrapped {text u : List Char}
    (start : text.dropWhile isSpace = wrapped s ++ u) : unaryOperator.Refuses text := by
  refine refuses_unaryOperator (List.nil_append _).symm rfl ?_ (by decide) ?_
  · intro c head
    rw [start] at head
    cases head
    decide
  · rw [start]
    simp [wrapped]

/-- A recognized text in parentheses is an operand, whatever follows. -/
theorem reads_wrapped (h : recognize filterText s = .ok t) {fuel : Nat} (enough : s.length < fuel)
    {text u : List Char} (start : text.dropWhile isSpace = wrapped s ++ u) :
    (primary (expression fuel)).Reads Term.erase text (.group 0 t.erase) u := by
  have opens : text.dropWhile isSpace = '(' :: (s ++ ')' :: u) := by simp [start, wrapped]
  have stops : Stops (')' :: u) := by
    intro c head
    cases head
    exact .inl rfl
  obtain ⟨-, blanks, blank, reads⟩ := reads_of_recognize h
  have closes : (blanks ++ ')' :: u).dropWhile isSpace = ')' :: u := by
    rw [List.dropWhile_append, if_pos (by simp [blank])]
    rfl
  exact reads_primary_group opens (reads stops enough) closes

/-- Two recognized texts in parentheses with an operator between them. -/
theorem reads_joined {s' : List Char} {t' : Term} (h : recognize filterText s = .ok t)
    (h' : recognize filterText s' = .ok t') (op : BinaryOperator) {fuel : Nat}
    (enough : s.length < fuel) (enough' : s'.length < fuel) :
    (expression (fuel + 1)).Reads Term.erase (wrapped s ++ (operatorText op ++ wrapped s'))
      (Term.binary 0 op (.group 0 t) (.group 0 t')).erase [] := by
  have start : ∀ u, (wrapped s ++ u).dropWhile isSpace = wrapped s ++ u := fun _ => rfl
  have start' : (' ' :: wrapped s').dropWhile isSpace = wrapped s' ++ [] :=
    (List.append_nil _).symm
  have left := reads_unary (refuses_unaryOperator_wrapped (start _)).readsMany
    (reads_wrapped h enough (start (operatorText op ++ wrapped s')))
  have right := reads_unary (refuses_unaryOperator_wrapped start').readsMany
    (reads_wrapped h' enough' start')
  exact reads_operation left right (Nat.zero_le _) nofun

theorem reads_negated (h : recognize filterText s = .ok t) {fuel : Nat} (enough : s.length < fuel) :
    (expression (fuel + 1)).Reads Term.erase ("not".toList ++ ' ' :: wrapped s)
      (Term.unary 0 .not (.group 0 t)).erase [] := by
  have start : (' ' :: wrapped s).dropWhile isSpace = wrapped s ++ [] := (List.append_nil _).symm
  have negation : unaryOperator.ReadsMany Prod.snd ("not".toList ++ ' ' :: wrapped s) [.not]
      (' ' :: wrapped s) :=
    (reads_not rfl (ends_blank _)).readsMany (by simp)
      (refuses_unaryOperator_wrapped start).readsMany
  exact reads_operand (reads_unary negation (reads_wrapped h enough start)) nofun

end Grammar

/-! ## Acceptance -/

namespace Binding

open Grammar (Term)

variable {context : QueryContext} {limit : Bounds} {scope : Scope} {left right : Expr}

theorem expectBoolean_of_type {e : Expr} (h : e.type = .boolean) (position : Nat) :
    expectBoolean e position = .ok e := by
  unfold expectBoolean
  rw [h]

theorem limitDepth_of_le {n : Nat} {e : Expr} (h : e.depth ≤ n) (position : Nat) :
    limitDepth (some n) e position = .ok e := if_neg (Nat.not_lt.2 h)

theorem binary_of_boolean {op : BinaryOperator} (connective : op = .and ∨ op = .or)
    (hl : left.type = .boolean) (hr : right.type = .boolean) (position : Nat) :
    binary op left right position = .ok (.binary .boolean op left right) := by
  unfold binary
  rw [if_pos connective, expectBoolean_of_type hl, expectBoolean_of_type hr]
  rfl

theorem unary_of_boolean (h : left.type = .boolean) (position : Nat) :
    unary .not left position = .ok (.unary .boolean .not left) := by
  unfold unary
  dsimp only
  rw [expectBoolean_of_type h]
  rfl

end Binding

open Grammar (Nesting Term wrapped)

variable {context : QueryContext} {a b : String} {e e' : Expr}

/-- What is known of an accepted text with room for one more level. -/
theorem recognized_of_parseFilter (h : parseFilter a context = .ok e)
    (shallow : Grammar.nestingOverflow? (maxDepth - 1) a.toList = none) :
    e.type = .boolean ∧ Nesting.ground.after? a.toList = some .ground ∧
      Nesting.ground.peak a.toList ≤ maxDepth - 1 ∧
      ∃ t, Grammar.recognize Grammar.filterText a.toList = .ok t ∧
        Binding.term context (some maxDepth) (.top context) t = .ok e := by
  obtain ⟨-, -, t, found, bound, boolean⟩ := parseFilter_eq_ok_iff.1 h
  have closed := (Grammar.reads_of_recognize found).1
  exact ⟨eq_of_beq boolean, closed, (Grammar.nestingOverflow?_eq_none_iff closed).1 shallow, t,
    found, bound⟩

/-- Accepted texts in parentheses may be joined by a connective. -/
theorem parseFilter_joined (ha : parseFilter a context = .ok e) (hb : parseFilter b context = .ok e')
    (shallow : Grammar.nestingOverflow? (maxDepth - 1) a.toList = none)
    (shallow' : Grammar.nestingOverflow? (maxDepth - 1) b.toList = none)
    (flat : e.depth ≤ maxDepth - 1) (flat' : e'.depth ≤ maxDepth - 1) {op : BinaryOperator}
    (connective : op = .and ∨ op = .or) {text : String}
    (shape : text.toList = wrapped a.toList ++ (Grammar.operatorText op ++ wrapped b.toList)) :
    parseFilter text context = .ok (.binary .boolean op e e') := by
  obtain ⟨boolean, closed, peak, t, found, bound⟩ := recognized_of_parseFilter ha shallow
  obtain ⟨boolean', closed', peak', t', found', bound'⟩ := recognized_of_parseFilter hb shallow'
  have blank : Text.blank text = false :=
    Text.blank_eq_false_iff.2 ⟨'(', by rw [shape]; exact List.mem_cons_self, by decide⟩
  have operator : Nesting.ground.after? (Grammar.operatorText op) = some .ground ∧
      Nesting.ground.peak (Grammar.operatorText op) = 0 := by
    obtain rfl | rfl := connective <;> exact ⟨rfl, rfl⟩
  have nested : Grammar.nestingOverflow? maxDepth text.toList = none := by
    have rest_closed : Nesting.ground.after? (Grammar.operatorText op ++ wrapped b.toList) =
        some .ground := by
      rw [Nesting.after?_append, operator.1]
      exact Grammar.after?_wrapped closed'
    have all_closed : Nesting.ground.after? text.toList = some .ground := by
      rw [shape, Nesting.after?_append, Grammar.after?_wrapped closed]
      exact rest_closed
    rw [Grammar.nestingOverflow?_eq_none_iff all_closed, shape,
      Nesting.peak_append (Grammar.after?_wrapped closed), Nesting.peak_append operator.1,
      operator.2, Grammar.peak_wrapped closed, Grammar.peak_wrapped closed']
    simp only [maxDepth] at peak peak' ⊢
    omega
  have long : a.toList.length < text.toList.length ∧ b.toList.length < text.toList.length := by
    rw [shape]
    simp only [wrapped, List.length_append, List.length_cons, List.length_nil]
    omega
  have reads := Grammar.reads_joined found found' op long.1 long.2
  rw [← shape] at reads
  refine parseFilter_of_reads blank nested reads rfl ?_ rfl
  have bounded : (Expr.binary .boolean op e e').depth ≤ maxDepth := by
    simp only [Expr.depth, maxDepth] at flat flat' ⊢
    omega
  refine Except.bind_eq_ok.2 ⟨e, bound, Except.bind_eq_ok.2 ⟨e', bound', ?_⟩⟩
  exact Except.bind_eq_ok.2 ⟨_, Binding.binary_of_boolean connective boolean boolean' 0,
    Binding.limitDepth_of_le bounded 0⟩

/-- An accepted text in parentheses may be negated. -/
theorem parseFilter_negated (ha : parseFilter a context = .ok e)
    (shallow : Grammar.nestingOverflow? (maxDepth - 1) a.toList = none)
    (flat : e.depth ≤ maxDepth - 1) {text : String}
    (shape : text.toList = "not".toList ++ ' ' :: wrapped a.toList) :
    parseFilter text context = .ok (.unary .boolean .not e) := by
  obtain ⟨boolean, closed, peak, t, found, bound⟩ := recognized_of_parseFilter ha shallow
  have blank : Text.blank text = false :=
    Text.blank_eq_false_iff.2 ⟨'n', by rw [shape]; exact List.mem_cons_self, by decide⟩
  have operator : Nesting.ground.after? "not ".toList = some .ground := rfl
  have nested : Grammar.nestingOverflow? maxDepth text.toList = none := by
    have shape : text.toList = "not ".toList ++ wrapped a.toList := shape
    have all_closed : Nesting.ground.after? text.toList = some .ground := by
      rw [shape, Nesting.after?_append, operator]
      exact Grammar.after?_wrapped closed
    have plain : Nesting.ground.peak "not ".toList = 0 := rfl
    rw [Grammar.nestingOverflow?_eq_none_iff all_closed, shape, Nesting.peak_append operator, plain,
      Grammar.peak_wrapped closed]
    simp only [maxDepth] at peak ⊢
    omega
  have long : a.toList.length < text.toList.length := by
    rw [shape]
    simp only [wrapped, List.length_append, List.length_cons, List.length_nil]
    omega
  have reads := Grammar.reads_negated found long
  rw [← shape] at reads
  refine parseFilter_of_reads blank nested reads rfl ?_ rfl
  have bounded : (Expr.unary .boolean .not e).depth ≤ maxDepth := by
    simp only [Expr.depth, maxDepth] at flat ⊢
    omega
  refine Except.bind_eq_ok.2 ⟨e, bound, ?_⟩
  exact Except.bind_eq_ok.2 ⟨_, Binding.unary_of_boolean boolean 0,
    Binding.limitDepth_of_le bounded 0⟩

/-- Accepted texts with room for one more level of depth and of parentheses can be joined by the
connectives and negated, and they keep their meaning. -/
theorem parseFilter_wrapped (ha : parseFilter a context = .ok e)
    (hb : parseFilter b context = .ok e') (flat : e.depth ≤ maxDepth - 1)
    (flat' : e'.depth ≤ maxDepth - 1)
    (shallow : Grammar.nestingOverflow? (maxDepth - 1) a.toList = none)
    (shallow' : Grammar.nestingOverflow? (maxDepth - 1) b.toList = none) :
    parseFilter ("(" ++ a ++ ") and (" ++ b ++ ")") context = .ok (.binary .boolean .and e e') ∧
    parseFilter ("(" ++ a ++ ") or (" ++ b ++ ")") context = .ok (.binary .boolean .or e e') ∧
    parseFilter ("not (" ++ a ++ ")") context = .ok (.unary .boolean .not e) := by
  refine ⟨?_, ?_, ?_⟩
  · refine parseFilter_joined ha hb shallow shallow' flat flat' (.inl rfl) ?_
    simp [wrapped, Grammar.operatorText, BinaryOperator.text, String.toList_append]
  · refine parseFilter_joined ha hb shallow shallow' flat flat' (.inr rfl) ?_
    simp [wrapped, Grammar.operatorText, BinaryOperator.text, String.toList_append]
  · refine parseFilter_negated ha shallow flat ?_
    simp [wrapped, String.toList_append]

/-- Quotes and parentheses of one text are not taken for those of the other, and a word in a string
is no operator. -/
theorem parseFilter_wrapped_orders : ∃ e e',
    parseFilter "Lines/any(l: l/Note eq 'it''s (') " orderContext = .ok e ∧
    parseFilter "(Total add 1) gt 2 or ') and (' eq ''" orderContext = .ok e' ∧
    parseFilter ("(" ++ "Lines/any(l: l/Note eq 'it''s (') " ++ ") and (" ++
      "(Total add 1) gt 2 or ') and (' eq ''" ++ ")") orderContext =
        .ok (.binary .boolean .and e e') := by
  have accepted : (parseFilter "Lines/any(l: l/Note eq 'it''s (') " orderContext).toOption.map
      Expr.depth = some 4 := by decide +kernel
  have accepted' : (parseFilter "(Total add 1) gt 2 or ') and (' eq ''"
      orderContext).toOption.map Expr.depth = some 5 := by decide +kernel
  obtain ⟨e, h, depth⟩ := Option.map_eq_some_iff.1 accepted
  obtain ⟨e', h', depth'⟩ := Option.map_eq_some_iff.1 accepted'
  have h := Except.toOption_eq_some.1 h
  have h' := Except.toOption_eq_some.1 h'
  exact ⟨e, e', h, h', (parseFilter_wrapped h h' (by rw [depth]; decide) (by rw [depth']; decide)
    (by decide +kernel) (by decide +kernel)).1⟩

end RecordQuery
