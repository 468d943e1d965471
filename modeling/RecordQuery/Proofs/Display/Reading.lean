import RecordQuery.Proofs.Display.Legible
import RecordQuery.Proofs.Display.Lexical

/-!
# Reading what is displayed

The text of an expression whose nodes are lexical and legible reads as the term that it is displayed
as, wherever nothing that would go on with it follows. The induction is on the expression: each
operator, call and quantifier reads back if what it is made of does.

## Main definitions

* `Expr.ReadsBack`: whether the text of an expression reads as the term.

## Main statements

* `Displayable.route`: the text of a path is that of its segments.
* `Displayable.readsBack`: displayed expressions read back.
-/

namespace RecordQuery

open Binding (Scope)
open Grammar (Boundary LexicalPath ReadsOperand Segment StartsPath Term isSpace segmentsText)
open Grammar.Recognizer

variable {context : QueryContext} {scope : Scope}

/-! ## Paths -/

/-- What has neither a primitive type nor that of a null is a path. -/
theorem WellTyped.isPath {e : Expr} (h : WellTyped context scope e) (untyped : e.type ≠ .null)
    (structured : e.type.primitive? = none) : e.isPath = true := by
  cases h with
  | range | property | cast | castItems => rfl
  | null adopts =>
    cases adopts with
    | same => exact absurd rfl untyped
    | null => cases structured
  | _ => cases structured

theorem WellTyped.isPath_of_structured {e : Expr} {owner : String}
    (h : WellTyped context scope e) (single : e.type = .structured owner) : e.isPath = true :=
  h.isPath (by rw [single]; nofun) (by rw [single]; rfl)

theorem WellTyped.isPath_of_collection {e : Expr} {item : TypeRef}
    (h : WellTyped context scope e) (collection : e.type = .collection item) : e.isPath = true :=
  h.isPath (by rw [collection]; nofun) (by rw [collection]; rfl)

theorem Expr.eq_of_isElementVariable {e : Expr} (h : e.isElementVariable = true) :
    ∃ t, e = .range t elementName := by
  cases e with
  | range t name => exact ⟨t, by rw [eq_of_beq (show (name == elementName) = true from h)]⟩
  | _ => cases h

/-- The segments that a path is displayed as are names, they have no positions, and the text of the
path is made of their texts. -/
structure Expr.HasRoute (e : Expr) : Prop where
  names : LexicalPath e.route.1 e.route.2
  chars : e.chars = e.route.1.text ++ segmentsText e.route.2
  first : e.route.1.erase = e.route.1
  rest : e.route.2.map Segment.erase = e.route.2

/-- A path of one segment. -/
theorem Expr.HasRoute.single {e : Expr} (segment : Segment) (route : e.route = (segment, []))
    (name : segment.IsLexical) (free : Grammar.isReserved segment.word = false)
    (chars : e.chars = segment.text) (first : segment.erase = segment) : e.HasRoute := by
  refine ⟨?_, ?_, ?_, ?_⟩ <;> rw [route]
  · exact ⟨name, free, nofun⟩
  · rw [chars, segmentsText, List.flatMap_nil, List.append_nil]
  · exact first
  · rfl

/-- A path with one more segment. -/
theorem Expr.HasRoute.further {e source : Expr} (segment : Segment) (h : source.HasRoute)
    (route : e.route = (source.route.1, source.route.2 ++ [segment])) (name : segment.IsLexical)
    (chars : e.chars = source.chars ++ '/' :: segment.text) (erased : segment.erase = segment) :
    e.HasRoute := by
  refine ⟨?_, ?_, ?_, ?_⟩ <;> rw [route]
  · refine ⟨h.names.starts, h.names.free, fun s mem => ?_⟩
    rcases List.mem_append.1 mem with mem | mem
    · exact h.names.others s mem
    · exact List.mem_singleton.1 mem ▸ name
  · rw [chars, h.chars]
    simp [segmentsText]
  · exact h.first
  · rw [List.map_append, h.rest, List.map_singleton, erased]

theorem Expr.chars_property {t : TypeRef} {source : Expr} {p : Property} :
    (Expr.property t source p).chars = if source.isElementVariable then p.name.toList
      else source.chars ++ '/' :: p.name.toList := by
  rw [chars, text]
  split <;> simp [chars, String.toList_append]

theorem Expr.chars_cast {t : TypeRef} {source : Expr} {target : String} :
    (Expr.cast t source target).chars = if source.isElementVariable then target.toList
      else source.chars ++ '/' :: target.toList := by
  rw [chars, text]
  split <;> simp [chars, String.toList_append]

theorem Displayable.route {e : Expr} (h : Displayable context scope e) (is_path : e.isPath = true) :
    e.HasRoute := by
  induction e using Expr.childInduction with
  | step e ih =>
    cases e with
    | range t name =>
      obtain ⟨is_name, free⟩ := h.lexical_here
      refine .single (.member 0 name.toList) rfl is_name ?_ ?_ rfl
      · rwa [Segment.word_member is_name]
      · rw [Expr.chars, Expr.text, Segment.text]
    | property t source p =>
      have is_name : Grammar.IsIdentifier p.name.toList := h.lexical_here
      by_cases element : source.isElementVariable = true
      · obtain ⟨t', rfl⟩ := Expr.eq_of_isElementVariable element
        refine .single (.member 0 p.name.toList) ?_ is_name ?_ ?_ rfl
        · rw [Expr.route, if_pos element]
        · rw [Segment.word_member is_name]
          exact (h.legible_here rfl).1
        · rw [Expr.chars_property, if_pos element, Segment.text]
      · have inner : Displayable context scope source := h.child List.mem_cons_self
        have source_path : source.isPath = true := by
          cases h.typed with
          | property typed single => exact typed.isPath_of_structured single
        refine .further (.member 0 p.name.toList) (ih source List.mem_cons_self inner source_path)
          ?_ is_name ?_ rfl
        · rw [Expr.route, if_neg element]
        · rw [Expr.chars_property, if_neg element, Segment.text]
    | cast t source target =>
      have is_name : Grammar.IsQualified target.toList := h.lexical_here
      by_cases element : source.isElementVariable = true
      · obtain ⟨t', rfl⟩ := Expr.eq_of_isElementVariable element
        refine .single (.cast 0 target.toList) ?_ is_name (h.legible_here rfl) ?_ rfl
        · rw [Expr.route, if_pos element]
        · rw [Expr.chars_cast, if_pos element, Segment.text]
      · have inner : Displayable context scope source := h.child List.mem_cons_self
        have source_path : source.isPath = true := by
          cases h.typed with
          | cast typed single => exact typed.isPath_of_structured single
          | castItems typed items => exact typed.isPath_of_collection items
        refine .further (.cast 0 target.toList) (ih source List.mem_cons_self inner source_path)
          ?_ is_name ?_ rfl
        · rw [Expr.route, if_neg element]
        · rw [Expr.chars_cast, if_neg element, Segment.text]
    | _ => cases is_path

/-! ## Expressions that read back -/

/-- The text of an expression starts like an operand, with a digit only if it is a number, and it
reads as the term that the expression is displayed as. -/
structure Expr.ReadsBack (e : Expr) : Prop where
  starts : ∃ c more, e.chars = c :: more ∧ Grammar.startsOperand c = true ∧
    (c.isDigit = true → e.isConversion = true ∨
      ∃ t v n, e = .constant t v ∧ v.int? = some n ∧ 0 ≤ n)
  reads : ∀ {fuel : Nat} {s rest : List Char}, e.chars.length ≤ fuel → Boundary rest →
    s.dropWhile isSpace = e.chars ++ rest →
      ReadsOperand (Grammar.expression fuel) s e.shown rest

namespace Expr.ReadsBack

variable {e left right operand body source : Expr} {t : TypeRef} {s rest : List Char} {fuel : Nat}

/-- An expression is displayed without blanks in front of it, so one in front of it is skipped. -/
theorem dropWhile (h : e.ReadsBack) (rest : List Char) :
    (e.chars ++ rest).dropWhile isSpace = e.chars ++ rest := by
  obtain ⟨c, more, shape, starts, -⟩ := h.starts
  rw [shape]
  exact (Ends.cons (Grammar.isSpace_eq_false_of_startsOperand starts) _).dropWhile

/-- An expression inside of something else is read as a whole. -/
theorem expression (h : e.ReadsBack) (enough : e.chars.length < fuel) (boundary : Boundary rest)
    (ends : Grammar.NoOperator rest) (start : s.dropWhile isSpace = e.chars ++ rest) :
    (Grammar.expression fuel).Reads Term.erase s e.shown rest := by
  obtain ⟨fuel, rfl⟩ := Nat.exists_eq_add_of_lt (Nat.lt_of_le_of_lt (Nat.zero_le _) enough)
  rw [Nat.zero_add] at enough ⊢
  exact (h.reads (Nat.le_of_lt_succ enough) boundary start).expression ends

theorem of_literal {v : Value} (h : v.IsLiteral) : (constant t v).ReadsBack := by
  have chars : (constant t v).chars = v.literal.toList := by rw [Expr.chars, text]
  refine ⟨?_, fun _ boundary start => ?_⟩
  · obtain ⟨c, more, shape, starts, -, sign⟩ := h.starts
    refine ⟨c, more, chars.trans shape, starts, fun digit => ?_⟩
    obtain ⟨n, value, positive⟩ := sign digit
    exact .inr ⟨t, v, n, rfl, value, positive⟩
  · rw [chars] at start
    rw [shown]
    refine .of_primary (h.refuses_unary boundary start) (Refuses.orElse ?_ ?_)
    · obtain ⟨c, more, shape, -, parenthesis, -⟩ := h.starts
      refine Grammar.refuses_group ?_
      rw [start, shape]
      refine Ends.cons ?_ _
      exact beq_false_of_ne parenthesis
    · exact (h.reads boundary start).orElse

end Expr.ReadsBack

namespace Expr.HasRoute

variable {e source : Expr} {s tail rest : List Char} {nested : Grammar.Recognizer Term}

theorem starts (h : e.HasRoute) : ∃ c more, e.chars = c :: more ∧
    Grammar.startsOperand c = true ∧ c.isDigit = false := by
  obtain ⟨c, more, shape, starts⟩ := h.names.starts.starts
  refine ⟨c, more ++ segmentsText e.route.2, by rw [h.chars, shape, List.cons_append], ?_, ?_⟩
  · obtain letter | rfl := starts
    · simp [Grammar.startsOperand, letter]
    · decide
  · exact (Bool.or_eq_false_iff.1 (Grammar.other_of_starts starts).2).1

theorem startsPath (h : e.HasRoute) (start : s.dropWhile isSpace = e.chars ++ tail)
    (glued : Ends (fun c => Grammar.extendsName c || c == '\'') tail)
    (parenthesis : Ends (· == '(') (tail.dropWhile isSpace)) :
    StartsPath s e.route.1 (segmentsText e.route.2 ++ tail) where
  here := by rw [start, h.chars, List.append_assoc]
  lexical := h.names.starts
  free := h.names.free
  glued := Grammar.ends_segmentsText glued (by decide)
  parenthesis := Grammar.ends_segmentsText_dropWhile parenthesis (by decide)

theorem readsBack (h : e.HasRoute) (is_path : e.isPath = true) : e.ReadsBack := by
  refine ⟨?_, fun {fuel s rest} _ boundary start => ?_⟩
  · obtain ⟨c, more, shape, starts, no_digit⟩ := h.starts
    exact ⟨c, more, shape, starts, fun digit => by simp [no_digit] at digit⟩
  · have path := h.startsPath start boundary.glued boundary.parenthesis
    have reads : (Grammar.primary (Grammar.expression fuel)).Reads Term.erase s _ rest :=
      Grammar.reads_primary_path path h.names.others boundary
    rw [h.first, h.rest, ← shown_of_isPath is_path] at reads
    exact .of_primary path.refuses_unary reads

/-- A quantifier behind a path. -/
theorem reads_quantified (h : source.HasRoute) {q : Grammar.Quantifier}
    {ending : Option (List Char × Term)} (inside : List Char)
    (start : s.dropWhile isSpace =
      source.chars ++ '/' :: (Grammar.quantifierText q ++ '(' :: inside))
    (quantified : (Grammar.lambda nested).Reads Grammar.eraseLambda
      (Grammar.quantifierText q ++ '(' :: inside) (q, ending) rest) :
    ReadsOperand nested s
      (Grammar.quantifiedPath source.route.1 source.route.2 (q, ending)) rest := by
  have path := h.startsPath start (Ends.cons (by decide) _) (Ends.cons (by decide) _)
  have reads := Grammar.reads_primary_quantified path h.names.others quantified
  rw [h.first, h.rest] at reads
  exact .of_primary path.refuses_unary reads

end Expr.HasRoute

namespace Expr.ReadsBack

variable {e left right operand body source : Expr} {t : TypeRef} {s rest : List Char} {fuel : Nat}

theorem binary (hl : left.ReadsBack) (hr : right.ReadsBack) (op : BinaryOperator) :
    (Expr.binary t op left right).ReadsBack := by
  refine ⟨⟨'(', _, chars_binary t op left right, by decide, fun digit => absurd digit (by decide)⟩,
    fun {fuel s rest} enough boundary start => ?_⟩
  have opens : s.dropWhile isSpace = '(' :: (left.chars ++ (Grammar.operatorText op ++
      (right.chars ++ ')' :: rest))) := by
    rw [start, chars_binary]
    simp
  have length : left.chars.length < fuel ∧ right.chars.length < fuel := by
    rw [chars_binary] at enough
    simp only [List.length_append, List.length_cons] at enough
    omega
  obtain ⟨fuel, rfl⟩ := Nat.exists_eq_add_of_lt (Nat.lt_of_le_of_lt (Nat.zero_le _) length.1)
  rw [Nat.zero_add] at length ⊢
  rw [shown]
  refine .operation opens ?_ ?_
  · exact hl.reads (Nat.le_of_lt_succ length.1) (Grammar.boundary_operator op _) (hl.dropWhile _)
  · exact hr.reads (Nat.le_of_lt_succ length.2) (Grammar.boundary_close _) (hr.dropWhile _)

theorem not (h : operand.ReadsBack) : (unary t .not operand).ReadsBack := by
  refine ⟨⟨'n', _, chars_not t operand, by decide, fun digit => absurd digit (by decide)⟩,
    fun {fuel s rest} enough boundary start => ?_⟩
  have here : s.dropWhile isSpace = "not".toList ++ (' ' :: (operand.chars ++ rest)) := by
    rw [start, chars_not, List.append_assoc]
    rfl
  rw [chars_not, List.length_append, List.length_cons] at enough
  rw [shown]
  refine .behind (Grammar.reads_not here (Ends.cons (by decide) _)) ?_
    (h.reads (by omega) boundary (h.dropWhile rest))
  have shrinks := (List.dropWhile_suffix isSpace (l := s)).length_le
  rw [here, List.length_append] at shrinks
  exact Nat.lt_of_lt_of_le (Nat.lt_add_of_pos_left (by decide)) shrinks

theorem negate (h : operand.ReadsBack) (unsigned : Ends Char.isDigit operand.chars) :
    (unary t .negate operand).ReadsBack := by
  refine ⟨⟨'-', _, chars_negate t operand, by decide, fun digit => absurd digit (by decide)⟩,
    fun {fuel s rest} enough boundary start => ?_⟩
  have here : s.dropWhile isSpace = '-' :: (operand.chars ++ rest) := by
    rw [start, chars_negate, List.cons_append]
  have ends : Ends Char.isDigit (operand.chars ++ rest) := by
    obtain ⟨c, more, shape, -⟩ := h.starts
    rw [shape] at unsigned ⊢
    exact Ends.cons (unsigned c rfl) _
  rw [chars_negate, List.length_cons] at enough
  rw [shown]
  refine .behind (Grammar.reads_minus here ends) ?_ (h.reads (by omega) boundary (h.dropWhile rest))
  have shrinks := (List.dropWhile_suffix isSpace (l := s)).length_le
  rw [here, List.length_cons] at shrinks
  exact shrinks

theorem convert (h : operand.ReadsBack) (target : PrimitiveType) :
    (Expr.convert target operand).ReadsBack := by
  have chars : (Expr.convert target operand).chars = operand.chars := by
    rw [Expr.chars, text, Expr.chars]
  refine ⟨?_, fun enough boundary start => ?_⟩
  · obtain ⟨c, more, shape, starts, -⟩ := h.starts
    exact ⟨c, more, chars.trans shape, starts, fun _ => .inl rfl⟩
  · rw [chars] at enough start
    rw [shown]
    exact h.reads enough boundary start

/-- A quantifier over a path reads back if what stands between its parentheses does. -/
theorem quantified (h : source.HasRoute) {q : Grammar.Quantifier}
    {ending : Option (List Char × Term)} {inside : List Char}
    (chars : e.chars = source.chars ++ '/' :: (Grammar.quantifierText q ++ '(' :: inside))
    (shown : e.shown = Grammar.quantifiedPath source.route.1 source.route.2 (q, ending))
    (inner : ∀ {fuel : Nat} {rest : List Char}, inside.length < fuel →
      (Grammar.lambda (Grammar.expression fuel)).Reads Grammar.eraseLambda
        (Grammar.quantifierText q ++ '(' :: (inside ++ rest)) (q, ending) rest) :
    e.ReadsBack := by
  refine ⟨?_, fun {fuel s rest} enough boundary start => ?_⟩
  · obtain ⟨c, more, shape, starts, no_digit⟩ := h.starts
    refine ⟨c, _, by rw [chars, shape, List.cons_append], starts, fun digit => ?_⟩
    simp [no_digit] at digit
  · rw [shown]
    rw [chars, List.length_append, List.length_cons, List.length_append, List.length_cons] at enough
    refine h.reads_quantified (inside ++ rest) ?_ (inner (by omega))
    rw [start, chars]
    simp

theorem anyItem (h : source.HasRoute) : (any t source none none).ReadsBack := by
  refine quantified h (chars_quantified t source) ?_ fun _ => Grammar.reads_lambda_empty .any _
  rw [shown]
  intro _ _ named
  cases named

/-- The range variable and the body of a quantifier. -/
theorem reads_lambda (h : body.ReadsBack) (q : Grammar.Quantifier) {bound : String}
    (name : Grammar.IsIdentifier bound.toList)
    (enough : (bound.toList ++ ':' :: ' ' :: (body.chars ++ [')'])).length < fuel) :
    (Grammar.lambda (Grammar.expression fuel)).Reads Grammar.eraseLambda
      (Grammar.quantifierText q ++ '(' :: (bound.toList ++ ':' :: ' ' :: (body.chars ++ [')']) ++ rest))
      (q, some (bound.toList, body.shown)) rest := by
  have inner : (Grammar.expression fuel).Reads Term.erase (' ' :: (body.chars ++ ')' :: rest))
      body.shown (')' :: rest) := by
    refine h.expression ?_ (Grammar.boundary_close rest) (Ends.cons (by decide) rest)
      (h.dropWhile _)
    simp only [List.length_append, List.length_cons] at enough
    omega
  have reads := Grammar.reads_lambda q name inner
  simpa using reads

theorem quantify (h : source.HasRoute) (hb : body.ReadsBack) {bound : String}
    (name : Grammar.IsIdentifier bound.toList) :
    (any t source (some bound) (some body)).ReadsBack ∧ (all t source bound body).ReadsBack := by
  refine ⟨quantified h (chars_any t source body bound) ?_ (hb.reads_lambda .any name),
    quantified h (chars_all t source body bound) ?_ (hb.reads_lambda .all name)⟩ <;> rw [shown]

/-! ### Calls -/

theorem length_lt_furtherChars {arg : Expr} {args : List Expr} (mem : arg ∈ args) :
    arg.chars.length < (furtherChars args).length := by
  obtain ⟨before, after, rfl⟩ := List.append_of_mem mem
  simp only [furtherChars, List.flatMap_append, List.flatMap_cons, List.length_append,
    List.length_cons]
  omega

/-- Behind an argument there is a comma or the parenthesis that closes the call. -/
theorem boundary_further (args : List Expr) (rest : List Char) :
    Boundary (furtherChars args ++ ')' :: rest) ∧
      Grammar.NoOperator (furtherChars args ++ ')' :: rest) := by
  cases args with
  | nil => exact ⟨Grammar.boundary_close rest, Ends.cons (by decide) rest⟩
  | cons arg args => exact ⟨Grammar.boundary_comma _, Ends.cons (by decide) _⟩

/-- Further arguments up to the parenthesis that closes a call. -/
theorem reads_arguments {args : List Expr} (all : ∀ arg ∈ args, arg.ReadsBack)
    (enough : ∀ arg ∈ args, arg.chars.length < fuel) :
    (Grammar.nextArgument (Grammar.expression fuel)).ReadsMany Term.erase
      (furtherChars args ++ ')' :: rest) (args.map shown) (')' :: rest) := by
  induction args with
  | nil =>
    have no_comma : (Grammar.Recognizer.mark ",").Refuses (')' :: rest) :=
      Grammar.refuses_mark_of_ends (by rfl) (Ends.cons (by decide) rest)
    exact (Refuses.bind no_comma).readsMany
  | cons arg args ih =>
    obtain ⟨first, others⟩ := List.forall_mem_cons.1 all
    obtain ⟨enough, enough'⟩ := List.forall_mem_cons.1 enough
    have shape : furtherChars (arg :: args) ++ ')' :: rest =
        ',' :: ' ' :: (arg.chars ++ (furtherChars args ++ ')' :: rest)) := by
      simp [furtherChars]
    obtain ⟨boundary, ends⟩ := boundary_further args rest
    have comma : (Grammar.Recognizer.mark ",").Reads id (furtherChars (arg :: args) ++ ')' :: rest) ()
        (' ' :: (arg.chars ++ (furtherChars args ++ ')' :: rest))) := reads_mark (by rw [shape]; rfl)
    have reads : (Grammar.expression fuel).Reads Term.erase
        (' ' :: (arg.chars ++ (furtherChars args ++ ')' :: rest))) arg.shown
        (furtherChars args ++ ')' :: rest) :=
      first.expression enough boundary ends (first.dropWhile _)
    refine Reads.readsMany (comma.bind fun _ _ => reads) ?_ (ih others enough')
    rw [shape]
    simp only [List.length_append, List.length_cons]
    omega

/-- The names of functions are names of the grammar, and none of them is reserved. -/
theorem isName_builtin (f : Builtin) :
    Grammar.IsName f.text.toList ∧ Grammar.isReserved f.text.toList = false := by
  cases f <;> exact ⟨⟨_, _, rfl, by decide, by decide⟩, by decide⟩

theorem call {f : Builtin} {arg : Expr} {args : List Expr}
    (all : ∀ a ∈ arg :: args, a.ReadsBack) : (call t f (arg :: args)).ReadsBack := by
  obtain ⟨is_name, free⟩ := isName_builtin f
  obtain ⟨first, others⟩ := List.forall_mem_cons.1 all
  have chars := chars_call t f arg args
  refine ⟨?_, fun {fuel s rest} enough boundary start => ?_⟩
  · obtain ⟨c, more, shape, starts, -⟩ := is_name
    refine ⟨c, _, by rw [chars, shape, List.cons_append], by simp [Grammar.startsOperand, starts], ?_⟩
    intro digit
    simp [Grammar.isDigit_eq_false starts] at digit
  · have here : s.dropWhile isSpace = f.text.toList ++ '(' ::
        (arg.chars ++ (furtherChars args ++ ')' :: rest)) := by
      rw [start, chars]
      simp
    have long : arg.chars.length < fuel ∧ ∀ a ∈ args, a.chars.length < fuel := by
      rw [chars] at enough
      simp only [List.length_append, List.length_cons] at enough
      refine ⟨by omega, fun a mem => ?_⟩
      have := length_lt_furtherChars mem
      omega
    obtain ⟨behind, ends⟩ := boundary_further args rest
    have inner := Grammar.reads_separated
      (first.expression long.1 behind ends (first.dropWhile (furtherChars args ++ ')' :: rest)))
      (reads_arguments others long.2)
    have no_operator : Grammar.unaryOperator.Refuses s := by
      have word := Grammar.leadingWord_append here is_name.letters (Ends.cons (by decide) _)
      refine Grammar.refuses_unary ?_ (Grammar.refuses_minus ?_)
      · rw [word]
        exact (Grammar.ne_of_not_reserved free).2.2.2
      · obtain ⟨c, more, shape, starts, -⟩ := is_name
        rw [here, shape]
        refine Ends.cons ?_ _
        exact (Bool.or_eq_false_iff.1 (Grammar.other_of_starts (.inl starts)).2).2
    rw [shown, shownAll_eq_map]
    exact .of_primary no_operator (Grammar.reads_primary_call is_name free here inner)

end Expr.ReadsBack

/-! ## All displayed expressions -/

namespace Displayable

/-- The sign of a negation is not taken for the sign of a number. -/
theorem unsigned {t : TypeRef} {operand : Expr}
    (h : Displayable context scope (.unary t .negate operand)) (hb : operand.ReadsBack) :
    Ends Char.isDigit operand.chars := by
  obtain ⟨c, more, shape, -, digit⟩ := hb.starts
  rw [shape]
  refine Ends.cons (Bool.eq_false_iff.2 fun is_digit => ?_) more
  obtain conversion | ⟨t', v, n, rfl, value, positive⟩ := digit is_digit
  · exact absurd (conversion.symm.trans h.lexical_here) nofun
  · exact absurd (h.legible_here rfl n value) (Int.not_lt.2 positive)

/-- Every function needs an argument. -/
theorem accepts_zero {f : Builtin} {s : Signature} (h : f.signature? = some s) :
    s.accepts 0 = false := by
  cases f <;> cases h <;> rfl

/-- Displayed expressions read back. -/
theorem readsBack {e : Expr} (h : Displayable context scope e) : e.ReadsBack := by
  induction e using Expr.childInduction generalizing scope with
  | step e ih =>
    cases e with
    | constant => exact .of_literal h.isLiteral
    | range | property | cast => exact (h.route rfl).readsBack rfl
    | binary t op left right =>
      exact .binary (ih left List.mem_cons_self (h.child List.mem_cons_self))
        (ih right (List.mem_cons_of_mem _ List.mem_cons_self)
          (h.child (List.mem_cons_of_mem _ List.mem_cons_self))) op
    | unary t op operand =>
      have inner := ih operand List.mem_cons_self (h.child List.mem_cons_self)
      cases op with
      | not => exact inner.not
      | negate => exact inner.negate (h.unsigned inner)
    | call t f args =>
      cases args with
      | nil =>
        cases h.typed with
        | call signature arity => exact absurd (arity.symm.trans (accepts_zero signature)) nofun
      | cons arg args =>
        exact .call fun a mem => ih a mem (h.child (List.mem_map_of_mem mem))
    | convert target operand =>
      exact (ih operand List.mem_cons_self (h.child List.mem_cons_self)).convert target
    | any t source bound body =>
      cases h.typed with
      | anyItem typed collection =>
        exact .anyItem ((h.child List.mem_cons_self).route (typed.isPath_of_collection collection))
      | any typed collection =>
        have inner := h.child (List.mem_cons_of_mem _ List.mem_cons_self)
        have body_reads := ih _ (List.mem_cons_of_mem _ List.mem_cons_self) inner
        exact (Expr.ReadsBack.quantify ((h.child List.mem_cons_self).route
          (typed.isPath_of_collection collection)) body_reads h.lexical_here).1
    | all t source bound body =>
      cases h.typed with
      | all typed collection =>
        have inner := h.child (List.mem_cons_of_mem _ List.mem_cons_self)
        have body_reads := ih _ (List.mem_cons_of_mem _ List.mem_cons_self) inner
        exact (Expr.ReadsBack.quantify ((h.child List.mem_cons_self).route
          (typed.isPath_of_collection collection)) body_reads h.lexical_here).2

end Displayable

end RecordQuery
