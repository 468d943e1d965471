import RecordQuery.Grammar.Expression
import RecordQuery.Proofs.Grammar.Locality
import RecordQuery.Proofs.Grammar.Position

/-!
# The grammar is local

Every recognizer of the grammar is local, from the tokens to whole expressions. Of the places that a
literal or a rule in parentheses leads through, only its own quotes and parentheses matter.

The recognizers of expressions carry fuel for their nesting. They find the same whatever the fuel is,
provided that it exceeds the length of the text.

## Main definitions

* `operation`: an operator and the operand on its right.

## Main statements

* `Local.literal`, `Local.path`, `Local.primary`: operands are local.
* `Local.expression`: expressions are local.
* `Local.orderTerm`: so are the terms of order clauses.
-/

namespace RecordQuery.Grammar

/-- An operator of a level and the operand on its right. -/
def operation (ops : List BinaryOperator) (operand : Recognizer Term) :
    Recognizer (Nat × BinaryOperator × Term) := do
  let (position, op) ← binaryOperator ops
  let right ← operand
  return (position, op, right)

/-- An operator and an operand without positions. -/
def eraseOperation (item : Nat × BinaryOperator × Term) : BinaryOperator × Term :=
  (item.2.1, item.2.2.erase)

namespace Local

open Recognizer

variable {t : List Char} {n w : Nat} {here : Nesting} (stops : Stops t)

include stops

/-! ## Names -/

theorem nameChars : Local t n 1 here here id nameChars Grammar.nameChars := by
  refine atLeast (1 + (0 + 0)) (by decide) ((one stops (by decide)).andThen fun first => ?_)
  exact (run stops (by decide)).andThen fun rest => pure rfl

/-- A text of letters, digits and underscores. -/
theorem exactly_name {text : List Char} (letters : text.all continuesName = true) :
    Local t n text.length here here id (Recognizer.exactly text) (Recognizer.exactly text) := by
  have inert : Inert continuesName := by decide
  have plain := inert.plain letters
  refine exactly stops ⟨plain.2.1, fun mem => ?_⟩ (Nesting.after?_of_plain _ plain)
  exact absurd (List.all_eq_true.1 letters _ mem) (by decide)

theorem word {text : String} (letters : text.toList.all continuesName = true) :
    Local t n text.toList.length here here (fun _ => ()) (word text) (Grammar.word text) := by
  have ending : Local t n (text.toList.length + 0) here here id (wordEnd text) (wordEnd text) :=
    (exactly_name stops letters).andThen fun _ => notBefore stops (by decide)
  refine token stops (atLeast (0 + (text.toList.length + 0 + 0)) (by omega) ?_)
  exact position.bind fun start start' _ => ending.andThen fun _ => pure rfl

theorem identifier : Local t n 1 here here Prod.snd identifier Grammar.identifier := by
  have element : Local t n ("$it".toList.length + 0) here here id
      (do Recognizer.exactly "$it".toList; return "$it".toList)
      (do Recognizer.exactly "$it".toList; return "$it".toList) :=
    (exactly stops (by decide) (Nesting.after?_of_plain _ (by decide))).andThen fun _ => pure rfl
  have name := (element.weaken (Nat.le_refl n) (by decide)).orElse (nameChars stops)
  refine token stops (atLeast (0 + (1 + 0)) (by decide) ?_)
  exact position.bind fun start start' _ => name.andThen fun a => pure rfl

theorem qualifiedName : Local t n 1 here here Prod.snd qualifiedName Grammar.qualifiedName := by
  have dotted : ∀ m, Local t m (0 + 1) here here id
      (do Recognizer.exactly ['.']; let name ← Grammar.nameChars; return '.' :: name)
      (do Recognizer.exactly ['.']; let name ← Grammar.nameChars; return '.' :: name) := fun m => by
    refine atLeast (['.'].length + (1 + 0)) (by decide) ?_
    refine (exactly stops (by decide) (Nesting.after?_of_plain _ (by decide))).andThen fun _ => ?_
    exact (nameChars stops).andThen fun a => pure rfl
  refine token stops (atLeast (0 + (1 + (0 + 1 + (0 + 0)))) (by decide) ?_)
  refine position.bind fun start start' _ => (nameChars stops).andThen fun first => ?_
  refine (dotted _).andThen fun second => (dotted _).many.bind fun more more' same => ?_
  rw [List.map_id, List.map_id] at same
  exact pure (by rw [same])

/-! ## Numbers -/

omit stops in
theorem optionally {p p' : Recognizer (List Char)} (h : Local t n w here here id p p') :
    Local t n 0 here here id (optionally p) (Grammar.optionally p') := by
  refine atLeast (0 + 0) (by decide) (h.attempt.bind fun a a' same => pure ?_)
  rw [Option.map_id, id_eq, id_eq] at same
  rw [same]

theorem oneOf {chars : List Char} (h : Inert chars.contains) :
    Local t n 1 here here id (oneOf chars) (Grammar.oneOf chars) :=
  atLeast (1 + 0) (by decide) ((one stops h).andThen fun c => pure rfl)

theorem numberChars : Local t n 1 here here id numberChars Grammar.numberChars := by
  have digits : ∀ m, Local t m 1 here here id (Recognizer.run1 Char.isDigit)
      (Recognizer.run1 Char.isDigit) := fun m => run1 stops (by decide)
  have point : Inert ['.'].contains := by decide
  have marks : Inert ['e', 'E'].contains := by decide
  have signs : Inert ['+', '-'].contains := by decide
  have letters : Inert ['L', 'l', 'd', 'D'].contains := by decide
  refine atLeast (0 + (1 + (0 + (0 + (0 + (0 + 0)))))) (by decide) ?_
  refine (optionally (oneOf stops (by decide))).andThen fun sign => ?_
  refine (digits _).andThen fun whole => ?_
  refine (optionally ((oneOf stops point).andThen fun point => (digits _).andThen fun d =>
    pure rfl)).andThen fun fraction => ?_
  refine (optionally ((oneOf stops marks).andThen fun mark =>
    (optionally (oneOf stops signs)).andThen fun sign => (digits _).andThen fun d =>
      pure rfl)).andThen fun exponent => ?_
  refine (optionally (oneOf stops letters)).andThen fun letter => ?_
  exact (notBefore stops (by decide)).andThen fun _ => pure rfl

theorem number : Local t n 1 here here Term.erase number Grammar.number := by
  refine token stops (atLeast (0 + (1 + 0)) (by decide) ?_)
  exact position.bind fun start start' _ => (numberChars stops).andThen fun text => pure rfl

/-! ## Quoted literals -/

omit stops in
/-- The body of a string is at the start of the text and stays between its quotes. -/
theorem reads_stringBodyChars (s : List Char) : ∃ rest, s = stringBodyChars s ++ rest ∧
    Nesting.betweenQuotes.after? (stringBodyChars s) = some .betweenQuotes := by
  fun_induction stringBodyChars s with
  | case1 => exact ⟨[], rfl, rfl⟩
  | case2 rest ih =>
    obtain ⟨behind, split, leads⟩ := ih
    exact ⟨behind, by simp [← split], leads⟩
  | case3 tail => exact ⟨_, rfl, rfl⟩
  | case4 c rest _ other ih =>
    obtain ⟨behind, split, leads⟩ := ih
    have other : c ≠ '\'' := other
    have step : Nesting.betweenQuotes.next? c = some .betweenQuotes := by
      simp [Nesting.next?, Nesting.betweenQuotes, other]
    exact ⟨behind, by simp [← split], by rw [Nesting.after?_cons, step]; exact leads⟩

/-- A string ends at the quote that the text must have. -/
theorem stringBodyChars_append {s : List Char} {k : Nat}
    (closed : (Nesting.betweenQuotes.under k).after? s = some .ground) :
    stringBodyChars (s ++ t) = stringBodyChars s := by
  fun_induction stringBodyChars s with
  | case1 => cases closed
  | case2 rest ih => rw [List.cons_append, List.cons_append, stringBodyChars, ih closed]
  | case3 tail alone =>
    have alone' : ∀ rest, tail ++ t = '\'' :: rest → False := by
      intro rest same
      cases tail with
      | cons c tail =>
        cases same
        exact alone tail rfl
      | nil =>
        rw [List.nil_append] at same
        obtain quote | quote := stops '\'' (by rw [same]; rfl) <;> cases quote
    rw [List.cons_append, stringBodyChars]
    exact alone'
  | case4 c rest _ other ih =>
    have other : c ≠ '\'' := other
    have step : (Nesting.betweenQuotes.under k).next? c = some (.under k .betweenQuotes) := by
      simp [Nesting.next?, Nesting.betweenQuotes, Nesting.under, other]
    rw [Nesting.after?_cons, step] at closed
    rw [List.cons_append, stringBodyChars, ih closed]
    · exact fun _ quote => absurd quote other
    · exact other

theorem stringBody : Local t n 0 .betweenQuotes .betweenQuotes id stringBody
    Grammar.stringBody where
  reads {c a d} _ found := by
    cases found
    obtain ⟨rest, split, leads⟩ := reads_stringBodyChars c.rest
    exact ⟨_, by rw [rest_after split, ← split], Nat.zero_le _, leads⟩
  follows {c c'} k _ closed more := by
    obtain ⟨rest, split, -⟩ := reads_stringBodyChars c.rest
    have split' : c'.rest = stringBodyChars c.rest ++ (rest ++ t) := by
      rw [more, ← List.append_assoc, ← split]
    unfold Recognizer.found Grammar.stringBody
    rw [more, stringBodyChars_append stops closed]
    simp [rest_after split, rest_after split']

/-- The quote that starts a literal. -/
theorem quoteStart : Local t n 1 .ground .betweenQuotes id (Recognizer.exactly ['\''])
    (Recognizer.exactly ['\'']) := by
  have opening : Local t n ['\''].length .ground .betweenQuotes id (Recognizer.exactly ['\''])
      (Recognizer.exactly ['\'']) := exactly stops (by decide) rfl
  exact opening

omit stops in
/-- The quote that ends a literal. -/
theorem quoteEnd : Local t n 1 .betweenQuotes .ground id (Recognizer.exactly ['\''])
    (Recognizer.exactly ['\'']) := exactly_open (by decide) rfl

theorem string : Local t n 1 .ground .ground Term.erase string Grammar.string := by
  refine rule stops (atLeast (0 + (1 + (0 + (1 + 0)))) (by decide) ?_)
  refine position.bind fun start start' _ => (quoteStart stops).andThen fun _ => ?_
  exact (stringBody stops).andThen fun body => quoteEnd.andThen fun _ => pure rfl

theorem guid : Local t n 1 .ground .ground Term.erase guid Grammar.guid := by
  have opening : ∀ m, Local t m "guid'".toList.length .ground .betweenQuotes id
      (Recognizer.exactly "guid'".toList) (Recognizer.exactly "guid'".toList) := fun m =>
    exactly stops (by decide) rfl
  refine rule stops (atLeast (0 + ("guid'".toList.length + (1 + (1 + 0)))) (by decide) ?_)
  refine position.bind fun start start' _ => (opening _).andThen fun _ => ?_
  exact (run1 stops (by decide)).whole.andThen fun body => quoteEnd.andThen fun _ => pure rfl

theorem dateTime : Local t n 1 .ground .ground Term.erase dateTime Grammar.dateTime := by
  refine rule stops ?_
  refine atLeast (0 + ("datetime".toList.length + (0 + (1 + (1 + (1 + 0)))))) (by decide) ?_
  refine position.bind fun start start' _ => (exactly_name stops (by decide)).andThen fun _ => ?_
  refine (exactly_name stops (by decide)).attempt.bind fun _ _ _ => ?_
  refine (quoteStart stops).andThen fun _ => ?_
  exact (run1_quoted rfl (by decide)).whole.andThen fun body => quoteEnd.andThen fun _ => pure rfl

/-! ## Literals -/

/-- A word that stands for a constant. -/
theorem reserved {text : String} {constant : Nat → Term}
    (letters : text.toList.all continuesName = true) (long : 0 < text.toList.length)
    (same : ∀ i j, (constant i).erase = (constant j).erase) :
    Local t n 1 here here Term.erase (do return constant (← Grammar.word text))
      (do return constant (← Grammar.word text)) :=
  atLeast (text.toList.length + 0) long ((word stops letters).bind fun i j _ => pure (same i j))

theorem literal : Local t n 1 .ground .ground Term.erase literal Grammar.literal :=
  (reserved stops (by decide) (by decide) fun _ _ => rfl).orElse <|
    (reserved stops (by decide) (by decide) fun _ _ => rfl).orElse <|
      (reserved stops (by decide) (by decide) fun _ _ => rfl).orElse <|
        (guid stops).orElse <| (dateTime stops).orElse <| (string stops).orElse <|
          (number stops).orElse fail

/-! ## Operators -/

theorem binaryOperator (ops : List BinaryOperator) :
    Local t n 1 here here Prod.snd (binaryOperator ops) (Grammar.binaryOperator ops) := by
  induction ops with
  | nil => exact fail
  | cons op rest ih =>
    have letters : op.text.toList.all continuesName = true := by cases op <;> decide
    have long : 1 ≤ op.text.toList.length + 0 := by cases op <;> decide
    have operator : Local t n 1 here here Prod.snd
        (do let position ← Grammar.word op.text; return (position, op))
        (do let position ← Grammar.word op.text; return (position, op)) :=
      atLeast (op.text.toList.length + 0) long ((word stops letters).bind fun i j _ => pure rfl)
    exact operator.orElse ih

theorem minus : Local t n 1 here here (fun _ => ()) minus Grammar.minus := by
  refine token stops (atLeast (0 + (['-'].length + (0 + 0))) (by decide) ?_)
  refine position.bind fun start start' _ => ?_
  refine (exactly stops (by decide) (Nesting.after?_of_plain _ (by decide))).andThen fun _ => ?_
  exact (notBefore stops (by decide)).andThen fun _ => pure rfl

theorem unaryOperator :
    Local t n 1 here here Prod.snd unaryOperator Grammar.unaryOperator := by
  have negation : Local t n 1 here here Prod.snd
      (do return ((← Grammar.word "not"), UnaryOperator.not))
      (do return ((← Grammar.word "not"), UnaryOperator.not)) :=
    atLeast ("not".toList.length + 0) (by decide)
      ((word stops (by decide)).bind fun i j _ => pure rfl)
  have negative : Local t n 1 here here Prod.snd
      (do return ((← Grammar.minus), UnaryOperator.negate))
      (do return ((← Grammar.minus), UnaryOperator.negate)) :=
    atLeast (1 + 0) (by decide) ((minus stops).bind fun i j _ => pure rfl)
  exact negation.orElse (negative.orElse fail)

omit stops in
theorem erase_foldl_binary {more more' : List (Nat × BinaryOperator × Term)} {first first' : Term}
    (same : first.erase = first'.erase)
    (others : more.map eraseOperation = more'.map eraseOperation) :
    (more.foldl (fun left item => .binary item.1 item.2.1 left item.2.2) first).erase =
      (more'.foldl (fun left item => .binary item.1 item.2.1 left item.2.2) first').erase := by
  induction more generalizing more' first first' with
  | nil =>
    cases more' with
    | nil => exact same
    | cons => cases others
  | cons item more ih =>
    cases more' with
    | nil => cases others
    | cons item' more' =>
      obtain ⟨here, others⟩ := List.cons.inj others
      obtain ⟨op, right⟩ : item.2.1 = item'.2.1 ∧ item.2.2.erase = item'.2.2.erase :=
        Prod.mk.inj here
      rw [List.foldl_cons, List.foldl_cons]
      exact ih (by simp only [Term.erase, same, op, right]) others

omit stops in
theorem erase_foldr_unary {ops ops' : List (Nat × UnaryOperator)} {operand operand' : Term}
    (same : operand.erase = operand'.erase) (others : ops.map Prod.snd = ops'.map Prod.snd) :
    (ops.foldr (fun item operand => .unary item.1 item.2 operand) operand).erase =
      (ops'.foldr (fun item operand => .unary item.1 item.2 operand) operand').erase := by
  induction ops generalizing ops' with
  | nil =>
    cases ops' with
    | nil => exact same
    | cons => cases others
  | cons item ops ih =>
    cases ops' with
    | nil => cases others
    | cons item' ops' =>
      obtain ⟨here, others⟩ := List.cons.inj others
      simp only [List.foldr_cons, Term.erase, ih others, here]

theorem level {ops : List BinaryOperator} {operand operand' : Recognizer Term}
    (h : Local t n 1 here here Term.erase operand operand') :
    Local t n 1 here here Term.erase (level ops operand) (Grammar.level ops operand') := by
  have step : Local t (n - 1) (0 + 1) here here eraseOperation (operation ops operand)
      (operation ops operand') := by
    refine atLeast (1 + (1 + 0)) (by decide) ((binaryOperator stops ops).bind fun op op' same => ?_)
    refine (h.weaken (by omega) (Nat.le_refl 1)).bind fun right right' same' => pure ?_
    exact Prod.ext same same'
  refine atLeast (1 + (0 + 0)) (by decide) (h.bind fun first first' same => ?_)
  exact step.many.bind fun more more' others => pure (erase_foldl_binary same others)

theorem unary {operand operand' : Recognizer Term}
    (h : Local t n 1 here here Term.erase operand operand') :
    Local t n 1 here here Term.erase (unary operand) (Grammar.unary operand') := by
  have ops : Local t n 0 here here (List.map Prod.snd) (Recognizer.many Grammar.unaryOperator)
      (Recognizer.many Grammar.unaryOperator) := many (w := 0) (unaryOperator stops)
  refine atLeast (0 + (1 + 0)) (by decide) (ops.bind fun ops ops' others => ?_)
  refine h.bind fun operand operand' same => ?_
  exact pure (erase_foldr_unary same others)

/-! ## Operands -/

section Operands

variable {nested nested' : Recognizer Term}
  (h : Local t (n - 1) 1 .ground .ground Term.erase nested nested')

theorem openParenthesis : Local t n 1 .ground .inside id (Recognizer.mark "(")
    (Recognizer.mark "(") := by
  have opening : Local t n "(".toList.length .ground .inside id (Recognizer.mark "(")
      (Recognizer.mark "(") := mark stops (by decide) rfl
  exact opening

theorem closeParenthesis : Local t n 1 .inside .ground id (Recognizer.mark ")")
    (Recognizer.mark ")") := mark_open stops rfl (by decide) rfl

/-- A mark that opens and closes nothing. -/
theorem plainMark {text : String}
    (plain : '(' ∉ text.toList ∧ ')' ∉ text.toList ∧ '\'' ∉ text.toList)
    (inert : ')' ∉ text.toList ∧ ',' ∉ text.toList) :
    Local t n text.toList.length here here id (Recognizer.mark text) (Recognizer.mark text) :=
  mark stops inert (Nesting.after?_of_plain _ plain)

include h in
theorem group : Local t n 1 .ground .ground Term.erase (group nested) (Grammar.group nested') := by
  refine rule stops (atLeast (0 + (1 + (1 + (1 + 0)))) (by decide) ?_)
  refine position.bind fun start start' _ => (openParenthesis stops).andThen fun _ => ?_
  refine (h.under 1).bind fun inner inner' same => (closeParenthesis stops).andThen fun _ => ?_
  exact pure (congrArg (Term.group 0) same)

omit stops in
/-- A list is local where a comma is, which is inside parentheses and at the end of all text. -/
theorem separated {α γ : Type} {f : α → γ} {p p' : Recognizer α}
    (comma : ∀ m, Local t m 1 here here id (Recognizer.mark ",") (Recognizer.mark ","))
    (h : Local t n 1 here here f p p') :
    Local t n 1 here here (List.map f) (separated p) (Grammar.separated p') := by
  have item : Local t (n - 1) (0 + 1) here here f (do Recognizer.mark ","; p)
      (do Recognizer.mark ","; p') :=
    atLeast (1 + 1) (by decide) ((comma _).andThen fun _ => h.weaken (by omega) (Nat.le_refl 1))
  refine atLeast (1 + (0 + 0)) (by decide) (h.bind fun first first' same => ?_)
  refine item.many.bind fun more more' others => pure ?_
  rw [List.map_cons, List.map_cons, same, others]

include h in
theorem call : Local t n 1 .ground .ground Term.erase (call nested) (Grammar.call nested') := by
  refine rule stops (atLeast (1 + (1 + (0 + (1 + 0)))) (by decide) ?_)
  refine (identifier stops).bind fun named named' same => ?_
  obtain ⟨start, function⟩ := named
  obtain ⟨start', function'⟩ := named'
  obtain rfl : function = function' := same
  refine (openParenthesis stops).andThen fun _ => ?_
  have args : Local t (n - 1 - 1) 1 .inside .inside (List.map Term.erase)
      (Grammar.separated nested) (Grammar.separated nested') :=
    separated (fun _ => mark_open stops rfl (by decide) rfl)
      ((h.under 1).weaken (by omega) (Nat.le_refl 1))
  refine args.attempt.bind fun args args' same => ?_
  have same : (args.getD []).map Term.erase = (args'.getD []).map Term.erase := by
    have values := congrArg (fun o => o.getD ([] : List Term)) same
    cases args <;> cases args' <;> simp_all
  refine (closeParenthesis stops).andThen fun _ => pure ?_
  simp only [Term.erase, Term.eraseAll_eq_map, same]

theorem lambdaStart : Local t n 1 .ground .inside id lambdaStart Grammar.lambdaStart := by
  have any : Local t n 1 .ground .ground id (Recognizer.exactly "any".toList)
      (Recognizer.exactly "any".toList) := (exactly_name stops (by decide)).atLeast _ (by decide)
  have all : Local t n 1 .ground .ground id (Recognizer.exactly "all".toList)
      (Recognizer.exactly "all".toList) := (exactly_name stops (by decide)).atLeast _ (by decide)
  refine atLeast (0 + (1 + 1)) (by decide) ((blanks stops).andThen fun _ => ?_)
  refine (any.orElse all).andThen fun _ => ?_
  exact openParenthesis stops

theorem segment : Local t n 1 .ground .ground Segment.erase segment Grammar.segment := by
  have cast : Local t n 1 .ground .ground Segment.erase
      (do let named ← Grammar.qualifiedName; return .cast named.1 named.2)
      (do let named ← Grammar.qualifiedName; return .cast named.1 named.2) :=
    atLeast (1 + 0) (by decide) ((qualifiedName stops).bind fun named named' same =>
      pure (congrArg (Segment.cast 0) same))
  have member : Local t n 1 .ground .ground Segment.erase
      (do let named ← Grammar.identifier; return .member named.1 named.2)
      (do let named ← Grammar.identifier; return .member named.1 named.2) :=
    atLeast (1 + 0) (by decide) ((identifier stops).bind fun named named' same =>
      pure (congrArg (Segment.member 0) same))
  exact atLeast (0 + 1) (by decide) ((lambdaStart stops).absent.andThen fun _ => cast.orElse member)

theorem quantifier : Local t n 1 here here id quantifier Grammar.quantifier := by
  have any : Local t n 1 here here id
      (do Recognizer.token (Recognizer.exactly "any".toList); return Quantifier.any)
      (do Recognizer.token (Recognizer.exactly "any".toList); return Quantifier.any) :=
    atLeast ("any".toList.length + 0) (by decide)
      ((token stops (exactly_name stops (by decide))).andThen fun _ => pure rfl)
  have all : Local t n 1 here here id
      (do Recognizer.token (Recognizer.exactly "all".toList); return Quantifier.all)
      (do Recognizer.token (Recognizer.exactly "all".toList); return Quantifier.all) :=
    atLeast ("all".toList.length + 0) (by decide)
      ((token stops (exactly_name stops (by decide))).andThen fun _ => pure rfl)
  exact any.orElse all

include h in
theorem lambda : Local t n 1 .ground .ground
    (fun found => (found.2.1, found.2.2.map fun bound => (bound.2.1, bound.2.2.erase)))
    (lambda nested) (Grammar.lambda nested') := by
  refine rule stops (atLeast (0 + (1 + (1 + (0 + (1 + 0))))) (by decide) ?_)
  refine position.bind fun start start' _ => (quantifier stops).andThen fun q => ?_
  refine (openParenthesis stops).andThen fun _ => ?_
  have bound : Local t (n - 0 - 1 - 1) 1 .inside .inside
      (fun (bound : Nat × List Char × Term) => (bound.2.1, bound.2.2.erase))
      (do let named ← Grammar.identifier
          Recognizer.mark ":"
          let body ← nested
          return (named.1, named.2, body))
      (do let named ← Grammar.identifier
          Recognizer.mark ":"
          let body ← nested'
          return (named.1, named.2, body)) := by
    refine atLeast (1 + (":".toList.length + (1 + 0))) (by decide) ?_
    refine (identifier stops).bind fun named named' same => ?_
    refine (plainMark stops (by decide) (by decide)).andThen fun _ => ?_
    refine ((h.under 1).weaken (by omega) (Nat.le_refl 1)).bind fun body body' same' => pure ?_
    exact congr (congrArg Prod.mk same) same'
  refine bound.attempt.bind fun bound bound' same => ?_
  exact (closeParenthesis stops).andThen fun _ => pure (congrArg (Prod.mk q) same)

include h in
theorem path : Local t n 1 .ground .ground Term.erase (path nested) (Grammar.path nested') := by
  have slash : ∀ m, Local t m "/".toList.length .ground .ground id (Recognizer.mark "/")
      (Recognizer.mark "/") := fun m => plainMark stops (by decide) (by decide)
  refine rule stops (atLeast (1 + (0 + (0 + 0))) (by decide) ?_)
  refine (segment stops).bind fun first first' same => ?_
  have more : Local t (n - 1) (0 + 1) .ground .ground Segment.erase
      (do Recognizer.mark "/"; Grammar.segment) (do Recognizer.mark "/"; Grammar.segment) :=
    atLeast ("/".toList.length + 1) (by decide) ((slash _).andThen fun _ => segment stops)
  refine more.many.bind fun rest rest' others => ?_
  have quantified := lambda (n := n - 1 - 0 - "/".toList.length) stops
    (h.weaken (by omega) (Nat.le_refl 1))
  refine ((slash _).andThen fun _ => quantified).attempt.bind fun ending ending' ends => ?_
  rcases ending with _ | ⟨position, q, bound⟩ <;> rcases ending' with _ | ⟨position', q', bound'⟩
  · exact pure (by simp only [Term.erase, same, others])
  · cases ends
  · cases ends
  · simp only [Option.map_some, Option.some.injEq, Prod.mk.injEq] at ends
    obtain ⟨rfl, bounds⟩ := ends
    rcases bound with _ | ⟨boundAt, name, body⟩ <;> rcases bound' with _ | ⟨boundAt', name', body'⟩
    · exact pure (by simp only [Term.erase, same, others])
    · cases bounds
    · cases bounds
    · simp only [Option.map_some, Option.some.injEq, Prod.mk.injEq] at bounds
      exact pure (by simp only [Term.erase, same, others, bounds])

include h in
theorem primary :
    Local t n 1 .ground .ground Term.erase (primary nested) (Grammar.primary nested') :=
  (group stops h).orElse <| (literal stops).orElse <| (call stops h).orElse <|
    (path stops h).orElse fail

include h in
theorem expressionOver : Local t n 1 .ground .ground Term.erase (expressionOver nested)
    (Grammar.expressionOver nested') :=
  level stops <| level stops <| level stops <| level stops <| level stops <| unary stops <|
    primary stops h

end Operands

/-- Expressions are local, and the fuel for them does not matter when there is enough. -/
theorem expression {fuel fuel' : Nat} (enough : n ≤ fuel) (enough' : n ≤ fuel') :
    Local t n 1 .ground .ground Term.erase (expression fuel) (Grammar.expression fuel') := by
  induction n generalizing fuel fuel' with
  | zero => exact ⟨fun short => absurd short (Nat.not_lt_zero _),
      fun _ short => absurd short (Nat.not_lt_zero _)⟩
  | succ n ih =>
    obtain ⟨fuel, rfl⟩ := Nat.exists_eq_add_of_le' (Nat.le_trans (Nat.le_add_left 1 n) enough)
    obtain ⟨fuel', rfl⟩ := Nat.exists_eq_add_of_le' (Nat.le_trans (Nat.le_add_left 1 n) enough')
    exact expressionOver stops (ih (Nat.le_of_succ_le_succ enough) (Nat.le_of_succ_le_succ enough'))

/-! ## Order clauses -/

theorem orderTerm {nested nested' : Recognizer Term}
    (h : Local t n 1 .ground .ground Term.erase nested nested') :
    Local t n 1 .ground .ground OrderTerm.erase (orderTerm nested) (Grammar.orderTerm nested') := by
  have ascending : ∀ m, Local t m 0 .ground .ground id
      (do let _ ← Grammar.word "asc"; return OrderDirection.ascending)
      (do let _ ← Grammar.word "asc"; return OrderDirection.ascending) := fun m =>
    atLeast ("asc".toList.length + 0) (by decide) ((word stops (by decide)).bind fun _ _ _ => pure rfl)
  have descending : ∀ m, Local t m 0 .ground .ground id
      (do let _ ← Grammar.word "desc"; return OrderDirection.descending)
      (do let _ ← Grammar.word "desc"; return OrderDirection.descending) := fun m =>
    atLeast ("desc".toList.length + 0) (by decide) ((word stops (by decide)).bind fun _ _ _ => pure rfl)
  refine rule stops (atLeast (1 + (0 + 0)) (by decide) (h.bind fun term term' same => ?_))
  refine ((ascending _).orElse (descending _)).attempt.bind fun found found' same' => pure ?_
  rw [Option.map_id, id, id] at same'
  rw [OrderTerm.erase, OrderTerm.erase, same, same']

omit stops in
/-- Where nothing follows, a comma can be read at the ground as well. -/
theorem comma_end : Local [] n 1 .ground .ground id (Recognizer.mark ",") (Recognizer.mark ",") := by
  have blank : Local [] n 0 .ground .ground id Recognizer.blanks Recognizer.blanks := blanks nofun
  have comma : ∀ m, Local [] m 1 .ground .ground id (Recognizer.exactly [','])
      (Recognizer.exactly [',']) := fun m =>
    ⟨fun _ found => ⟨[','], reads_exactly found, Nat.le_refl _, rfl⟩,
      fun _ _ _ more => follows_exactly more (by rw [List.append_nil])⟩
  exact atLeast (0 + 1) (by decide) (blank.andThen fun _ => comma _)

end Local

end RecordQuery.Grammar
