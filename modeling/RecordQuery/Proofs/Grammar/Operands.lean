import RecordQuery.Proofs.Grammar.Constants
import RecordQuery.Text.Blank

/-!
# Reading operands

Constants, calls and paths are tried in turn, so a path is read back where its first word is not
reserved. A quantifier is no segment of the path that it ends.

## Main definitions

* `segmentsText`: the text of the segments behind the first one of a path.
* `quantifierText`: the word of a quantifier.
* `startsOperand`: the characters that operands start with.

## Main statements

* `reads_primary_path`, `reads_primary_quantified`: paths are read back, those that a quantifier
  ends too.
* `reads_primary_call`: so are calls.
-/

namespace RecordQuery.Grammar

open Recognizer

variable {nested : Recognizer Term} {s text rest tail : List Char} {first : Segment}
  {more : List Segment}

/-! ## Unary operators -/

theorem refuses_minus (h : Ends (· == '-') (text.dropWhile isSpace)) : minus.Refuses text := by
  refine Refuses.token (reads_position.bind_refuses fun _ _ => Refuses.bind ?_)
  exact refuses_exactly (not_prefix_of_ends h)

/-- The sign of a number is no operator. -/
theorem refuses_minus_digit {c : Char} (h : text.dropWhile isSpace = '-' :: c :: rest)
    (digit : c.isDigit = true) : minus.Refuses text := by
  refine Refuses.token ?_
  rw [h]
  refine reads_position.bind_refuses fun _ _ => ?_
  exact (reads_exactly ['-'] _).bind_refuses fun _ _ => Refuses.bind (refuses_notBefore digit)

theorem refuses_unary (word : leadingWord text ≠ "not".toList) (sign : minus.Refuses text) :
    unaryOperator.Refuses text := by
  refine refuses_firstOf fun p mem => ?_
  simp only [List.mem_cons, List.not_mem_nil, or_false] at mem
  obtain rfl | rfl := mem
  · exact Refuses.bind (refuses_word_of_leadingWord word (by decide))
  · exact Refuses.bind sign

theorem reads_minus (h : text.dropWhile isSpace = '-' :: rest) (ends : Ends Char.isDigit rest) :
    unaryOperator.Reads Prod.snd text .negate rest := by
  have word : leadingWord text = [] := leadingWord_append h rfl (Ends.cons (by decide) _)
  refine Refuses.orElse (Refuses.bind (refuses_word_of_leadingWord (by rw [word]; decide)
    (by decide))) (Reads.orElse ?_)
  have sign : minus.Reads (fun _ => ()) text () rest := by
    refine Reads.token ?_
    rw [h]
    refine reads_position.bind fun start _ => (reads_exactly ['-'] rest).bind fun _ _ => ?_
    exact (reads_notBefore ends).bind fun _ _ => Reads.pure (f := fun _ => ()) start
  exact sign.bind fun start _ => Reads.pure (f := Prod.snd) (start, UnaryOperator.negate)

/-! ## Where a path starts -/

theorem isAsciiLetter_iff {c : Char} : isAsciiLetter c = true ↔
    ('A'.val ≤ c.val ∧ c.val ≤ 'Z'.val) ∨ ('a'.val ≤ c.val ∧ c.val ≤ 'z'.val) := by
  have ranges : isAsciiLetter c = (decide ('A'.val ≤ c.val ∧ c.val ≤ 'Z'.val) ||
      (decide ('a'.val ≤ c.val) && decide (c.val ≤ 'z'.val))) := rfl
  simp only [ranges, Bool.or_eq_true, Bool.and_eq_true, decide_eq_true_eq]

theorem isDigit_eq_false {c : Char} (h : startsName c = true) : c.isDigit = false := by
  refine Bool.eq_false_iff.2 fun digit => ?_
  simp only [startsName, isAsciiLetter_iff, Char.isDigit, Bool.or_eq_true, Bool.and_eq_true,
    decide_eq_true_eq, beq_iff_eq] at h digit
  rcases h with (upper | lower) | rfl
  · grind
  · grind
  · exact absurd digit (by decide)

/-- A name starts neither like an expression in parentheses nor like a number. -/
theorem other_of_starts {c : Char} (h : startsName c = true ∨ c = '$') :
    (c == '(') = false ∧ (c.isDigit || c == '-') = false := by
  obtain starts | rfl := h
  · refine ⟨Bool.eq_false_iff.2 fun opens => ?_,
      Bool.or_eq_false_iff.2 ⟨isDigit_eq_false starts, Bool.eq_false_iff.2 fun sign => ?_⟩⟩
    · rw [eq_of_beq opens] at starts
      exact absurd starts (by decide)
    · rw [eq_of_beq sign] at starts
      exact absurd starts (by decide)
  · decide

theorem refuses_group (h : Ends (· == '(') (text.dropWhile isSpace)) :
    (group nested).Refuses text := by
  refine Refuses.rule (reads_position.bind_refuses fun _ _ => Refuses.bind ?_)
  refine refuses_mark_of_ends (by rfl) ?_
  rwa [(ends_dropWhile isSpace text).dropWhile]

/-- A segment starts like a name, or with the sign of the element. -/
theorem Segment.IsLexical.starts (lexical : first.IsLexical) :
    ∃ c more, first.text = c :: more ∧ (startsName c = true ∨ c = '$') := by
  cases first with
  | member _ name =>
    obtain rfl | ⟨c, more, rfl, starts, -⟩ := lexical
    · exact ⟨'$', _, rfl, .inr rfl⟩
    · exact ⟨c, more, rfl, .inl starts⟩
  | cast _ type =>
    obtain ⟨_, second, more, ⟨c, letters, rfl, starts, -⟩, -, -, rfl⟩ := lexical
    exact ⟨c, letters ++ dotted (second :: more), rfl, .inl starts⟩

theorem Segment.IsLexical.ends (lexical : first.IsLexical) {belongs : Char → Bool}
    (other : ∀ c, startsName c = true ∨ c = '$' → belongs c = false) :
    Ends belongs (first.text ++ rest) := by
  obtain ⟨c, more, shape, starts⟩ := lexical.starts
  rw [shape]
  exact Ends.cons (other c starts) _

/-- Where the first segment of a path stands that starts with no reserved word, there is neither an
expression in parentheses nor a constant nor a call nor an operator. -/
structure StartsPath (text : List Char) (first : Segment) (rest : List Char) : Prop where
  here : text.dropWhile isSpace = first.text ++ rest
  lexical : first.IsLexical
  free : isReserved first.word = false
  glued : Ends (fun c => extendsName c || c == '\'') rest
  parenthesis : Ends (· == '(') (rest.dropWhile isSpace)

namespace StartsPath

variable (h : StartsPath text first rest)

include h

theorem extends_name : Ends extendsName rest := h.glued.mono fun c member => by simp [member]

theorem leadingWord_not_reserved : isReserved (leadingWord text) = false := by
  obtain word | ⟨-, word⟩ := leadingWord_segment h.lexical h.here h.extends_name.name
  · exact word ▸ h.free
  · rw [word]
    decide

theorem refuses_group : (group nested).Refuses text := by
  refine Grammar.refuses_group ?_
  rw [h.here]
  exact h.lexical.ends fun c starts => (other_of_starts starts).1

theorem refuses_literal : literal.Refuses text := by
  refine Grammar.refuses_literal h.leadingWord_not_reserved ?_ ?_
  · rw [h.here]
    have quote : Ends (· == '\'') rest := h.glued.mono fun c member => by simp [eq_of_beq member]
    obtain same | ⟨c, more, start, rfl | rfl⟩ := h.lexical.behind h.extends_name
    · rwa [same]
    · rw [start]
      exact Ends.cons (by decide) more
    · rw [start]
      exact Ends.cons (by decide) more
  · rw [h.here]
    exact h.lexical.ends fun c starts => (other_of_starts starts).2

theorem refuses_call : (call nested).Refuses text := by
  refine Refuses.rule ?_
  have here := h.here
  have stays : (text.dropWhile isSpace).dropWhile isSpace = text.dropWhile isSpace :=
    (ends_dropWhile isSpace text).dropWhile
  cases first with
  | member _ name =>
    refine (reads_identifier h.lexical (stays.trans here) h.extends_name.name).bind_refuses ?_
    exact fun _ _ => Refuses.bind (refuses_mark_of_ends (by rfl) h.parenthesis)
  | cast _ type =>
    obtain ⟨name, second, more, first_name, -, -, rfl⟩ := h.lexical
    have here : text.dropWhile isSpace = name ++ (dotted (second :: more) ++ rest) :=
      here.trans (List.append_assoc _ _ _)
    have point : Ends continuesName (dotted (second :: more) ++ rest) := Ends.cons (by decide) _
    refine (reads_identifier (.inr first_name) (stays.trans here) point).bind_refuses ?_
    exact fun _ _ => Refuses.bind (refuses_mark_of_ends (by rfl) (Ends.cons (by decide) _))

theorem refuses_unary : unaryOperator.Refuses text := by
  refine Grammar.refuses_unary (ne_of_not_reserved h.leadingWord_not_reserved).2.2.2 ?_
  refine refuses_minus ?_
  rw [h.here]
  exact h.lexical.ends fun c starts => (Bool.or_eq_false_iff.1 (other_of_starts starts).2).2

end StartsPath

/-! ## Paths -/

/-- The text of the segments behind the first one of a path. -/
def segmentsText (segments : List Segment) : List Char := segments.flatMap fun s => '/' :: s.text

/-- A further segment of a path. -/
def nextSegment : Recognizer Segment := do
  mark "/"
  segment

theorem refuses_nextSegment (h : Ends (· == '/') (s.dropWhile isSpace)) : nextSegment.Refuses s :=
  Refuses.bind (refuses_mark_of_ends (by rfl) h)

theorem ends_segmentsText {belongs : Char → Bool} (h : Ends belongs tail)
    (slash : belongs '/' = false) : Ends belongs (segmentsText more ++ tail) := by
  cases more with
  | nil => exact h
  | cons s more => exact Ends.cons slash _

theorem ends_segmentsText_dropWhile {belongs : Char → Bool}
    (h : Ends belongs (tail.dropWhile isSpace)) (slash : belongs '/' = false) :
    Ends belongs ((segmentsText more ++ tail).dropWhile isSpace) := by
  cases more with
  | nil => exact h
  | cons s more => exact Ends.cons slash _

theorem dropWhile_segment {s : Segment} (lexical : s.IsLexical) (rest : List Char) :
    (s.text ++ rest).dropWhile isSpace = s.text ++ rest := by
  refine Ends.dropWhile (lexical.ends fun c starts => ?_)
  obtain starts | rfl := starts
  · exact isSpace_eq_false (continuesName_of_startsName starts)
  · decide

/-- The characters of paths. -/
def inPath (c : Char) : Bool := extendsName c || c == '/' || c == '$'

theorem inPath_plain {s : List Char} (h : s.all inPath = true) :
    '(' ∉ s ∧ ')' ∉ s ∧ '\'' ∉ s := by
  have inert : Local.Inert inPath := by decide
  exact inert.plain h

theorem IsName.inPath {s : List Char} (h : IsName s) : s.all inPath = true := by
  refine List.all_eq_true.2 fun c mem => ?_
  simp [Grammar.inPath, extendsName, List.all_eq_true.1 h.letters c mem]

theorem IsIdentifier.inPath {s : List Char} (h : IsIdentifier s) : s.all inPath = true := by
  obtain rfl | name := h
  · decide
  · exact name.inPath

theorem Segment.IsLexical.inPath {s : Segment} (h : s.IsLexical) :
    s.text.all inPath = true := by
  cases s with
  | member => exact IsIdentifier.inPath h
  | cast =>
    obtain ⟨first, second, more, first_name, second_name, others, shape⟩ := h
    have names := List.forall_mem_cons.2 ⟨second_name, others⟩
    rw [Segment.text, shape, List.all_append, first_name.inPath, dotted, List.all_flatMap]
    refine List.all_eq_true.2 fun name mem => ?_
    rw [List.all_cons, (names name mem).inPath]
    rfl

theorem inPath_segmentsText (lexical : ∀ s ∈ more, s.IsLexical) :
    (segmentsText more).all inPath = true := by
  rw [segmentsText, List.all_flatMap]
  refine List.all_eq_true.2 fun s mem => ?_
  rw [List.all_cons, (lexical s mem).inPath]
  rfl

/-- The segments of a path up to a place where no further segment stands. -/
theorem reads_segments (lexical : ∀ s ∈ more, s.IsLexical) (glued : Ends extendsName tail)
    (parenthesis : Ends (· == '(') (tail.dropWhile isSpace)) (ends : nextSegment.Refuses tail) :
    nextSegment.ReadsMany Segment.erase (segmentsText more ++ tail) (more.map Segment.erase)
      tail := by
  induction more with
  | nil => exact ends.readsMany
  | cons s more ih =>
    obtain ⟨first, others⟩ := List.forall_mem_cons.1 lexical
    have shape : segmentsText (s :: more) ++ tail = '/' :: (s.text ++ (segmentsText more ++ tail)) := by
      simp [segmentsText]
    have slash : (mark "/").Reads id (segmentsText (s :: more) ++ tail) ()
        (s.text ++ (segmentsText more ++ tail)) := reads_mark (by rw [shape]; rfl)
    have reads : nextSegment.Reads Segment.erase (segmentsText (s :: more) ++ tail) s.erase
        (segmentsText more ++ tail) := by
      refine slash.bind fun _ _ => ?_
      exact reads_segment first (dropWhile_segment first _) (ends_segmentsText glued (by decide))
        (ends_segmentsText_dropWhile parenthesis (by decide))
    refine reads.readsMany ?_ (ih others)
    rw [shape]
    simp only [List.length_cons, List.length_append]
    omega

/-- A path with nothing behind it that goes on with it. -/
theorem reads_path (h : StartsPath text first (segmentsText more ++ tail))
    (lexical : ∀ s ∈ more, s.IsLexical) (boundary : Boundary tail) :
    (path nested).Reads Term.erase text (.path first.erase (more.map Segment.erase)) tail := by
  refine Reads.rule ?_
  rw [h.here]
  refine (reads_segment h.lexical (dropWhile_segment h.lexical _) h.extends_name
    h.parenthesis).bind fun a same => ?_
  refine (reads_segments lexical boundary.name boundary.parenthesis
    (refuses_nextSegment boundary.slash)).many.bind fun b same' => ?_
  have no_ending : Refuses (do mark "/"; lambda nested) tail :=
    Refuses.bind (refuses_mark_of_ends (by rfl) boundary.slash)
  refine (no_ending.attempt (f := id)).bind fun ending none_found => ?_
  rw [Option.map_eq_none_iff.1 none_found, ← same, ← same']
  exact Reads.pure (f := Term.erase) (.path a b)

theorem reads_primary_path (h : StartsPath text first (segmentsText more ++ tail))
    (lexical : ∀ s ∈ more, s.IsLexical) (boundary : Boundary tail) :
    (primary nested).Reads Term.erase text (.path first.erase (more.map Segment.erase)) tail := by
  refine Refuses.orElse h.refuses_group (Refuses.orElse h.refuses_literal ?_)
  exact Refuses.orElse h.refuses_call (reads_path h lexical boundary).orElse

/-! ## Quantifiers -/

/-- The word of a quantifier. -/
def quantifierText : Quantifier → List Char
  | .any => "any".toList
  | .all => "all".toList

theorem reads_quantifier (q : Quantifier) (rest : List Char) :
    quantifier.Reads id (quantifierText q ++ rest) q rest := by
  have reads : ∀ word : List Char, (word ++ rest).dropWhile isSpace = word ++ rest →
      (token (exactly word)).Reads id (word ++ rest) () rest := by
    intro word stays
    refine Reads.token ?_
    rw [stays]
    exact reads_exactly word rest
  cases q with
  | any => exact ((reads _ rfl).bind fun _ _ => Reads.pure (f := id) Quantifier.any).orElse
  | all =>
    refine Refuses.orElse (Refuses.bind (Refuses.token ?_))
      ((reads _ rfl).bind fun _ _ => Reads.pure (f := id) Quantifier.all)
    refine refuses_exactly fun leads => ?_
    exact absurd (List.cons_prefix_cons.1 (List.cons_prefix_cons.1 leads).2).1 (by decide)

/-- What a quantifier and its body are, without positions. -/
def eraseLambda (found : Nat × Quantifier × Option (Nat × List Char × Term)) :
    Quantifier × Option (List Char × Term) :=
  (found.2.1, found.2.2.map fun body => (body.2.1, body.2.2.erase))

theorem reads_lambda_empty (q : Quantifier) (rest : List Char) :
    (lambda nested).Reads eraseLambda (quantifierText q ++ '(' :: ')' :: rest) (q, none) rest := by
  refine Reads.rule ?_
  have stays : (quantifierText q ++ '(' :: ')' :: rest).dropWhile isSpace =
      quantifierText q ++ '(' :: ')' :: rest := by cases q <;> rfl
  rw [stays]
  have opens : (mark "(").Reads id ('(' :: ')' :: rest) () (')' :: rest) := reads_mark rfl
  have closes : (mark ")").Reads id (')' :: rest) () rest := reads_mark rfl
  refine reads_position.bind fun start _ => (reads_quantifier q _).bind fun a same => ?_
  refine opens.bind fun _ _ => ?_
  have no_body : identifier.Refuses (')' :: rest) := refuses_identifier (Ends.cons (by decide) rest)
  refine (Refuses.bind no_body).attempt (f := id) |>.bind fun body none_found => ?_
  refine closes.bind fun _ _ => ?_
  rw [Option.map_eq_none_iff.1 none_found, ← show a = q from same]
  exact Reads.pure (f := eraseLambda) (start, a, none)

theorem reads_lambda (q : Quantifier) {bound : List Char} {t : Term} (name : IsIdentifier bound)
    (inner : nested.Reads Term.erase (' ' :: s) t (')' :: rest)) :
    (lambda nested).Reads eraseLambda (quantifierText q ++ '(' :: (bound ++ ':' :: ' ' :: s))
      (q, some (bound, t)) rest := by
  refine Reads.rule ?_
  have stays : (quantifierText q ++ '(' :: (bound ++ ':' :: ' ' :: s)).dropWhile isSpace =
      quantifierText q ++ '(' :: (bound ++ ':' :: ' ' :: s) := by cases q <;> rfl
  rw [stays]
  have opens : (mark "(").Reads id ('(' :: (bound ++ ':' :: ' ' :: s)) () (bound ++ ':' :: ' ' :: s) :=
    reads_mark rfl
  have colon : (mark ":").Reads id (':' :: ' ' :: s) () (' ' :: s) := reads_mark rfl
  have closes : (mark ")").Reads id (')' :: rest) () rest := reads_mark rfl
  have variable_reads : identifier.Reads Prod.snd (bound ++ ':' :: ' ' :: s) bound (':' :: ' ' :: s) :=
    reads_identifier name (dropWhile_segment (s := .member 0 bound) name _) (Ends.cons (by decide) _)
  have body : Reads (do
      let named ← identifier
      mark ":"
      let body ← nested
      return (named.1, named.2, body)) (fun body => (body.2.1, body.2.2.erase))
      (bound ++ ':' :: ' ' :: s) (bound, t) (')' :: rest) := by
    refine variable_reads.bind fun found same => colon.bind fun _ _ => ?_
    refine inner.bind fun term same' => ?_
    rw [← same, ← same']
    exact Reads.pure (f := fun body : Nat × List Char × Term => (body.2.1, body.2.2.erase))
      (found.1, found.2, term)
  refine reads_position.bind fun start _ => (reads_quantifier q _).bind fun a same => ?_
  refine opens.bind fun _ _ => body.attempt.bind fun found same' => closes.bind fun _ _ => ?_
  rw [← same', ← show a = q from same]
  exact Reads.pure (f := eraseLambda) (start, a, found)

/-- A quantifier is no further segment of a path. -/
theorem refuses_nextSegment_quantifier (q : Quantifier) (s : List Char) :
    nextSegment.Refuses ('/' :: (quantifierText q ++ '(' :: s)) := by
  have slash : (mark "/").Reads id ('/' :: (quantifierText q ++ '(' :: s)) ()
      (quantifierText q ++ '(' :: s) := reads_mark rfl
  refine slash.bind_refuses fun _ _ => Refuses.bind ?_
  have word : (Recognizer.orElse (exactly "any".toList) (exactly "all".toList)).Reads id
      (quantifierText q ++ '(' :: s) () ('(' :: s) := by
    cases q with
    | any => exact (reads_exactly _ _).orElse
    | all =>
      refine Refuses.orElse (refuses_exactly fun leads => ?_) (reads_exactly _ _)
      exact absurd (List.cons_prefix_cons.1 (List.cons_prefix_cons.1 leads).2).1 (by decide)
  have opens : (mark "(").Reads id ('(' :: s) () s := reads_mark rfl
  have start : lambdaStart.Reads id (quantifierText q ++ '(' :: s) () s := by
    refine (reads_blanks _).bind fun _ _ => ?_
    rw [show (quantifierText q ++ '(' :: s).dropWhile isSpace = quantifierText q ++ '(' :: s by
      cases q <;> rfl]
    exact word.bind fun _ _ => opens
  intro c here
  obtain ⟨u, d, found, -⟩ := start.outcome here
  simp [absent, found]

/-- What a path with a quantifier at its end is. -/
def quantifiedPath (first : Segment) (more : List Segment) :
    Quantifier × Option (List Char × Term) → Term
  | (q, none) => .quantified first more q 0
  | (q, some (bound, body)) => .lambda first more q 0 0 bound body

/-- A path that a quantifier ends. -/
theorem reads_path_quantified {q : Quantifier} {ending : Option (List Char × Term)}
    (h : StartsPath text first (segmentsText more ++ '/' :: (quantifierText q ++ '(' :: s)))
    (lexical : ∀ s ∈ more, s.IsLexical)
    (quantified : (lambda nested).Reads eraseLambda (quantifierText q ++ '(' :: s) (q, ending) tail) :
    (path nested).Reads Term.erase text
      (quantifiedPath first.erase (more.map Segment.erase) (q, ending)) tail := by
  refine Reads.rule ?_
  rw [h.here]
  have slash : (mark "/").Reads id ('/' :: (quantifierText q ++ '(' :: s)) ()
      (quantifierText q ++ '(' :: s) := reads_mark rfl
  refine (reads_segment h.lexical (dropWhile_segment h.lexical _) h.extends_name
    h.parenthesis).bind fun a same => ?_
  refine (reads_segments lexical (Ends.cons (by decide) _) (Ends.cons (by decide) _)
    (refuses_nextSegment_quantifier q s)).many.bind fun b same' => ?_
  refine (slash.bind fun _ _ => quantified).attempt.bind fun found same'' => ?_
  obtain ⟨⟨start, q', body⟩, rfl, value⟩ := Option.map_eq_some_iff.1 same''
  rw [← value, ← same, ← same']
  cases body with
  | none => exact Reads.pure (f := Term.erase) (.quantified a b q' start)
  | some body => exact Reads.pure (f := Term.erase) (.lambda a b q' start body.1 body.2.1 body.2.2)

theorem reads_primary_quantified {q : Quantifier} {ending : Option (List Char × Term)}
    (h : StartsPath text first (segmentsText more ++ '/' :: (quantifierText q ++ '(' :: s)))
    (lexical : ∀ s ∈ more, s.IsLexical)
    (quantified : (lambda nested).Reads eraseLambda (quantifierText q ++ '(' :: s) (q, ending) tail) :
    (primary nested).Reads Term.erase text
      (quantifiedPath first.erase (more.map Segment.erase) (q, ending)) tail := by
  refine Refuses.orElse h.refuses_group (Refuses.orElse h.refuses_literal ?_)
  exact Refuses.orElse h.refuses_call (reads_path_quantified h lexical quantified).orElse

/-! ## Calls -/

/-- A call of a function whose name is not reserved. -/
theorem reads_primary_call {name : List Char} {args : List Term} (is_name : IsName name)
    (free : isReserved name = false) (h : text.dropWhile isSpace = name ++ '(' :: s)
    (inner : (separated nested).Reads (List.map Term.erase) s args (')' :: rest)) :
    (primary nested).Reads Term.erase text (.call 0 name args) rest := by
  have word : leadingWord text = name := leadingWord_append h is_name.letters (Ends.cons (by decide) s)
  have no_group : (group nested).Refuses text := by
    obtain ⟨c, more, rfl, starts, -⟩ := is_name
    refine refuses_group ?_
    rw [h]
    refine Ends.cons ?_ _
    exact (other_of_starts (.inl starts)).1
  have no_literal : literal.Refuses text := by
    refine refuses_literal (by rw [word, free]) ?_ ?_
    · rw [h, List.dropWhile_append_of_pos (List.all_eq_true.1 is_name.letters)]
      exact Ends.cons (by decide) s
    · obtain ⟨c, more, rfl, starts, -⟩ := is_name
      rw [h]
      exact Ends.cons (other_of_starts (.inl starts)).2 _
  refine Refuses.orElse no_group (Refuses.orElse no_literal (Reads.orElse (Reads.rule ?_)))
  have stays : (text.dropWhile isSpace).dropWhile isSpace = name ++ '(' :: s :=
    (ends_dropWhile isSpace text).dropWhile.trans h
  have opens : (mark "(").Reads id ('(' :: s) () s := reads_mark rfl
  have closes : (mark ")").Reads id (')' :: rest) () rest := reads_mark rfl
  refine (reads_identifier (.inr is_name) stays (Ends.cons (by decide) s)).bind fun found same => ?_
  refine opens.bind fun _ _ => inner.attempt.bind fun terms same' => closes.bind fun _ _ => ?_
  obtain ⟨terms, rfl, value⟩ := Option.map_eq_some_iff.1 same'
  rw [← same, ← value, ← Term.eraseAll_eq_map]
  exact Reads.pure (f := Term.erase) (.call found.1 found.2 terms)

/-! ## Operands behind operators -/

/-- An operand is read: unary operators and what stands behind them. -/
def ReadsOperand (nested : Recognizer Term) (s : List Char) (t : Term) (rest : List Char) : Prop :=
  ∃ ops s' u, unaryOperator.ReadsMany Prod.snd s ops s' ∧
    (primary nested).Reads Term.erase s' u rest ∧
    t = ops.foldr (fun op operand => .unary 0 op operand) u

namespace ReadsOperand

variable {t u : Term} {op : BinaryOperator} {s' : List Char}

theorem of_primary (no_operator : unaryOperator.Refuses s)
    (h : (primary nested).Reads Term.erase s t rest) : ReadsOperand nested s t rest :=
  ⟨[], s, t, no_operator.readsMany, h, rfl⟩

theorem behind {op : UnaryOperator} (step : unaryOperator.Reads Prod.snd s op s')
    (shorter : s'.length < s.length) (h : ReadsOperand nested s' t rest) :
    ReadsOperand nested s (.unary 0 op t) rest := by
  obtain ⟨ops, s'', u, before, innermost, rfl⟩ := h
  exact ⟨op :: ops, s'', u, step.readsMany shorter before, innermost, rfl⟩

theorem unary (h : ReadsOperand nested s t rest) :
    (unary (primary nested)).Reads Term.erase s t rest := by
  obtain ⟨ops, s', u, before, innermost, rfl⟩ := h
  exact reads_unary before innermost

theorem expression (h : ReadsOperand nested s t rest) (ends : NoOperator rest) :
    (expressionOver nested).Reads Term.erase s t rest := reads_operand h.unary ends

/-- An operation in parentheses is an operand. -/
theorem operation {fuel : Nat} {left right : List Char}
    (opens : s.dropWhile isSpace = '(' :: (left ++ (operatorText op ++ (right ++ ')' :: rest))))
    (hl : ReadsOperand (Grammar.expression fuel) (left ++ (operatorText op ++ (right ++ ')' :: rest))) t
      (operatorText op ++ (right ++ ')' :: rest)))
    (hr : ReadsOperand (Grammar.expression fuel) (' ' :: (right ++ ')' :: rest)) u (')' :: rest)) :
    ReadsOperand (Grammar.expression (fuel + 1)) s (.group 0 (.binary 0 op t u)) rest := by
  have no_operator : unaryOperator.Refuses s := by
    have word : leadingWord s = [] := leadingWord_append opens rfl (Ends.cons (by decide) _)
    refine refuses_unary (by rw [word]; decide) (refuses_minus ?_)
    rw [opens]
    exact Ends.cons (by decide) _
  have shorter : (')' :: rest).length ≤ (right ++ ')' :: rest).length := by
    rw [List.length_append]
    exact Nat.le_add_left _ _
  have inner := reads_operation hl.unary hr.unary shorter (Ends.cons (by decide) rest)
  exact of_primary no_operator (reads_primary_group opens inner rfl)

end ReadsOperand

/-! ## Lists of arguments -/

/-- A further argument. -/
def nextArgument (nested : Recognizer Term) : Recognizer Term := do
  mark ","
  nested

theorem reads_separated {t : Term} {ts : List Term} (h : nested.Reads Term.erase s t tail)
    (more : (nextArgument nested).ReadsMany Term.erase tail ts rest) :
    (separated nested).Reads (List.map Term.erase) s (t :: ts) rest := by
  refine h.bind fun a same => more.many.bind fun b same' => ?_
  rw [← same, ← same']
  exact Reads.pure (f := List.map Term.erase) (a :: b)

/-! ## Where an operand starts -/

/-- The characters that operands start with: those of names and numbers, and the signs of the
element, of parentheses, of negations and of strings. -/
def startsOperand (c : Char) : Bool :=
  startsName c || c.isDigit || ['$', '(', '-', '\''].contains c

theorem isSpace_eq_false_of_startsOperand {c : Char} (h : startsOperand c = true) :
    isSpace c = false := by
  refine Bool.eq_false_iff.2 fun space => ?_
  simp only [isSpace, Bool.or_eq_true, beq_iff_eq] at space
  rcases space with ((rfl | rfl) | rfl) | rfl <;> exact absurd h (by decide)

theorem isBlank_eq_false {c : Char} (h : startsOperand c = true) : Text.isBlank c = false := by
  have printable : 0x24 ≤ c.toNat ∧ c.toNat ≤ 0x7A := by
    simp only [startsOperand, startsName, isAsciiLetter_iff, Char.isDigit, Bool.or_eq_true, Bool.and_eq_true, decide_eq_true_eq, beq_iff_eq,
      List.contains_iff_mem, List.mem_cons, List.not_mem_nil, or_false] at h
    have between : ∀ {a b : Char}, a.val ≤ c.val ∧ c.val ≤ b.val → 0x24 ≤ a.toNat →
        b.toNat ≤ 0x7A → 0x24 ≤ c.toNat ∧ c.toNat ≤ 0x7A := fun range low high =>
      ⟨Nat.le_trans low (UInt32.le_iff_toNat_le.1 range.1),
        Nat.le_trans (UInt32.le_iff_toNat_le.1 range.2) high⟩
    rcases h with (((upper | lower) | rfl) | digit) | rfl | rfl | rfl | rfl
    · exact between upper (by decide) (by decide)
    · exact between lower (by decide) (by decide)
    · decide
    · exact between digit (by decide) (by decide)
    all_goals decide
  simp only [Text.isBlank, Bool.or_eq_false_iff, Bool.and_eq_false_imp, decide_eq_true_eq,
    decide_eq_false_iff_not, beq_eq_false_iff_ne]
  omega

end RecordQuery.Grammar
