import RecordQuery.Proofs.Grammar.Numeral

/-!
# Reading constants

The text of a constant is read back where nothing follows that would go on with it. What starts with
a word that is not reserved, and has no quote behind the word, is no constant.

## Main definitions

* `Boundary`: what can follow an operand.

## Main statements

* `refuses_literal`: what is no constant.
* `reads_string`, `reads_guid`, `reads_dateTime`, `reads_numeral`: constants are read back.
-/

namespace RecordQuery.Grammar

open Recognizer

variable {s text rest : List Char}

/-! ## Boundaries -/

/-- What can follow an operand: nothing that goes on with a name or a quoted text, and behind blanks
neither an opening parenthesis nor a slash. -/
structure Boundary (s : List Char) : Prop where
  glued : Ends (fun c => extendsName c || c == '\'') s
  apart : Ends (fun c => c == '(' || c == '/') (s.dropWhile isSpace)

theorem boundary_nil : Boundary [] := ⟨nofun, nofun⟩

theorem boundary_close (s : List Char) : Boundary (')' :: s) :=
  ⟨Ends.cons (by decide) s, Ends.cons (by decide) s⟩

theorem boundary_comma (s : List Char) : Boundary (',' :: s) :=
  ⟨Ends.cons (by decide) s, Ends.cons (by decide) s⟩

theorem boundary_operator (op : BinaryOperator) (s : List Char) : Boundary (operatorText op ++ s) := by
  refine ⟨Ends.cons (by decide) _, ?_⟩
  rw [dropWhile_operatorText]
  cases op <;> exact Ends.cons (by decide) _

namespace Boundary

theorem name (h : Boundary s) : Ends extendsName s :=
  h.glued.mono fun c member => by simp [member]

theorem quote (h : Boundary s) : Ends (· == '\'') s :=
  h.glued.mono fun c member => by simp [eq_of_beq member]

theorem parenthesis (h : Boundary s) : Ends (· == '(') (s.dropWhile isSpace) :=
  h.apart.mono fun c member => by simp [eq_of_beq member]

theorem slash (h : Boundary s) : Ends (· == '/') (s.dropWhile isSpace) :=
  h.apart.mono fun c member => by simp [eq_of_beq member]

end Boundary

theorem refuses_mark_of_ends {mark : String} {x : Char} (single : mark.toList = [x])
    (h : Ends (· == x) (s.dropWhile isSpace)) : (Recognizer.mark mark).Refuses s := by
  refine refuses_mark fun leads => ?_
  obtain ⟨behind, split⟩ := leads
  rw [single] at split
  exact absurd (h x (by rw [← split]; rfl)) (by simp)

/-! ## What is no constant -/

theorem refuses_exactly_of_head {c d : Char} {fixed more : List Char} (h : c ≠ d) :
    (exactly (c :: fixed)).Refuses (d :: more) :=
  refuses_exactly fun leads => h (List.cons_prefix_cons.1 leads).1

theorem not_prefix_of_ends {x : Char} (h : Ends (· == x) s) : ¬ [x] <+: s := by
  rintro ⟨behind, rfl⟩
  exact absurd (h x rfl) (by simp)

/-- No quote stands behind a word of a text in which none stands behind the letters. -/
theorem ends_quote_behind (word : List Char) (letters : word.all continuesName = true)
    (h : Ends (· == '\'') ((word ++ s).dropWhile continuesName)) : Ends (· == '\'') s := by
  rw [List.dropWhile_append_of_pos (List.all_eq_true.1 letters)] at h
  cases s with
  | nil => exact nofun
  | cons c s =>
    by_cases continues : continuesName c = true
    · refine Ends.cons (Bool.eq_false_iff.2 fun quote => ?_) s
      rw [eq_of_beq quote] at continues
      exact absurd continues (by decide)
    · rwa [List.dropWhile_cons_of_neg continues] at h

theorem refuses_guid
    (h : Ends (· == '\'') ((text.dropWhile isSpace).dropWhile continuesName)) :
    guid.Refuses text := by
  refine Refuses.rule (reads_position.bind_refuses fun _ _ => Refuses.bind ?_)
  refine refuses_exactly fun leads => ?_
  obtain ⟨behind, split⟩ := leads
  rw [← split] at h
  exact absurd (h '\'' rfl) (by decide)

theorem refuses_dateTime
    (h : Ends (· == '\'') ((text.dropWhile isSpace).dropWhile continuesName)) :
    dateTime.Refuses text := by
  refine Refuses.rule (reads_position.bind_refuses fun _ _ => ?_)
  by_cases word : "datetime".toList <+: text.dropWhile isSpace
  · obtain ⟨t, split⟩ := word
    rw [← split] at h ⊢
    have h : Ends (· == '\'') (t.dropWhile continuesName) := h
    refine (reads_exactly _ _).bind_refuses fun _ _ => ?_
    by_cases offset : "offset".toList <+: t
    · obtain ⟨t', rfl⟩ := offset
      have no_quote := ends_quote_behind "offset".toList (by decide) h
      refine (reads_exactly _ _).attempt.bind_refuses fun _ _ => Refuses.bind ?_
      exact refuses_exactly (not_prefix_of_ends no_quote)
    · have no_quote := ends_quote_behind [] rfl h
      refine ((refuses_exactly offset).attempt (f := id)).bind_refuses fun _ _ => Refuses.bind ?_
      exact refuses_exactly (not_prefix_of_ends no_quote)
  · exact Refuses.bind (refuses_exactly word)

theorem refuses_string
    (h : Ends (· == '\'') ((text.dropWhile isSpace).dropWhile continuesName)) :
    string.Refuses text := by
  refine Refuses.rule (reads_position.bind_refuses fun _ _ => Refuses.bind (refuses_exactly ?_))
  exact not_prefix_of_ends (ends_quote_behind [] rfl h)

theorem refuses_number (h : Ends (fun c => c.isDigit || c == '-') (text.dropWhile isSpace)) :
    number.Refuses text := by
  refine Refuses.token (reads_position.bind_refuses fun _ _ => Refuses.bind ?_)
  have sign : (oneOf ['-']).Refuses (text.dropWhile isSpace) := by
    refine refuses_oneOf (h.mono fun c member => ?_)
    simp only [List.contains_cons, List.contains_nil, Bool.or_false] at member
    simp [member]
  have digits : Ends Char.isDigit (text.dropWhile isSpace) :=
    h.mono fun c member => by simp [member]
  exact (reads_optionally_none sign).bind_refuses fun _ _ => Refuses.bind (refuses_run1 digits)

/-- A word that stands for a constant is refused where another word stands. -/
theorem refuses_constant {word : String} {constant : Nat → Term}
    (other : leadingWord text ≠ word.toList) (letters : word.toList.all continuesName = true) :
    Refuses (do return constant (← Grammar.word word)) text :=
  Refuses.bind (refuses_word_of_leadingWord other letters)

/-- What starts with a word that is not reserved, and not with a number or a quoted text, is no
constant. -/
theorem refuses_literal (word : isReserved (leadingWord text) = false)
    (unquoted : Ends (· == '\'') ((text.dropWhile isSpace).dropWhile continuesName))
    (unsigned : Ends (fun c => c.isDigit || c == '-') (text.dropWhile isSpace)) :
    literal.Refuses text := by
  obtain ⟨no_null, no_true, no_false, -⟩ := ne_of_not_reserved word
  refine refuses_firstOf fun p mem => ?_
  simp only [List.mem_cons, List.not_mem_nil, or_false] at mem
  obtain rfl | rfl | rfl | rfl | rfl | rfl | rfl := mem
  · exact refuses_constant no_null (by decide)
  · exact refuses_constant no_true (by decide)
  · exact refuses_constant no_false (by decide)
  · exact refuses_guid unquoted
  · exact refuses_dateTime unquoted
  · exact refuses_string unquoted
  · exact refuses_number unsigned

/-! ## Constant words -/

theorem reads_constant {word : String} {constant : Nat → Term}
    (same : ∀ i j, (constant i).erase = (constant j).erase)
    (h : text.dropWhile isSpace = word.toList ++ rest) (ends : Ends continuesName rest) :
    Reads (do return constant (← Grammar.word word)) Term.erase text (constant 0).erase rest := by
  refine (reads_word h ends).bind fun start _ => ?_
  rw [same 0 start]
  exact Reads.pure (f := Term.erase) (constant start)

theorem reads_null (h : text.dropWhile isSpace = "null".toList ++ rest)
    (ends : Ends continuesName rest) : literal.Reads Term.erase text (.null 0) rest :=
  (reads_constant (fun _ _ => rfl) h ends).orElse

theorem reads_true (h : text.dropWhile isSpace = "true".toList ++ rest)
    (ends : Ends continuesName rest) : literal.Reads Term.erase text (.bool 0 true) rest := by
  have word : leadingWord text = "true".toList := leadingWord_append h (by decide) ends
  refine Refuses.orElse (refuses_constant (by rw [word]; decide) (by decide)) ?_
  exact (reads_constant (fun _ _ => rfl) h ends).orElse

theorem reads_false (h : text.dropWhile isSpace = "false".toList ++ rest)
    (ends : Ends continuesName rest) : literal.Reads Term.erase text (.bool 0 false) rest := by
  have word : leadingWord text = "false".toList := leadingWord_append h (by decide) ends
  refine Refuses.orElse (refuses_constant (by rw [word]; decide) (by decide)) ?_
  refine Refuses.orElse (refuses_constant (by rw [word]; decide) (by decide)) ?_
  exact (reads_constant (fun _ _ => rfl) h ends).orElse

/-- Where no constant word stands, a constant is a quoted text or a number. -/
theorem reads_literal {t : Term} (word : isReserved (leadingWord text) = false)
    (h : (firstOf [guid, dateTime, string, number]).Reads Term.erase text t rest) :
    literal.Reads Term.erase text t rest := by
  obtain ⟨no_null, no_true, no_false, -⟩ := ne_of_not_reserved word
  refine Refuses.orElse (refuses_constant no_null (by decide)) ?_
  refine Refuses.orElse (refuses_constant no_true (by decide)) ?_
  exact Refuses.orElse (refuses_constant no_false (by decide)) h

/-! ## Quoted texts -/

variable {body : List Char}

theorem reads_guid (h : text.dropWhile isSpace = "guid'".toList ++ (body ++ '\'' :: rest))
    (some_char : body ≠ []) (all : body.all isGuidChar = true) :
    literal.Reads Term.erase text (.guid 0 body) rest := by
  have word : leadingWord text = "guid".toList :=
    leadingWord_append h (by decide) (Ends.cons (by decide) _)
  refine reads_literal (by rw [word]; decide) (Reads.orElse (Reads.rule ?_))
  rw [h]
  have chars : (run1 isGuidChar).Reads id (body ++ '\'' :: rest) body ('\'' :: rest) :=
    reads_run1 some_char (List.all_eq_true.1 all) (Ends.cons (by decide) rest)
  refine reads_position.bind fun start _ => (reads_exactly _ _).bind fun _ _ => ?_
  refine (reads_whole chars).bind fun found same => (reads_exactly ['\''] rest).bind fun _ _ => ?_
  rw [← same]
  exact Reads.pure (f := Term.erase) (.guid start found)

theorem reads_dateTime (h : text.dropWhile isSpace = "datetime'".toList ++ (body ++ '\'' :: rest))
    (some_char : body ≠ []) (all : body.all (· != '\'') = true) :
    literal.Reads Term.erase text (.dateTime 0 body) rest := by
  have word : leadingWord text = "datetime".toList :=
    leadingWord_append h (by decide) (Ends.cons (by decide) _)
  have no_guid : guid.Refuses text := by
    refine Refuses.rule (reads_position.bind_refuses fun _ _ => Refuses.bind ?_)
    rw [h]
    exact refuses_exactly_of_head (by decide)
  refine reads_literal (by rw [word]; decide) (Refuses.orElse no_guid (Reads.orElse (Reads.rule ?_)))
  have shape : text.dropWhile isSpace = "datetime".toList ++ (['\''] ++ (body ++ '\'' :: rest)) := h
  rw [shape]
  have no_offset : (exactly "offset".toList).Refuses (['\''] ++ (body ++ '\'' :: rest)) :=
    refuses_exactly_of_head (by decide)
  have chars : (run1 (· != '\'')).Reads id (body ++ '\'' :: rest) body ('\'' :: rest) :=
    reads_run1 some_char (List.all_eq_true.1 all) (Ends.cons (by decide) rest)
  refine reads_position.bind fun start _ => (reads_exactly _ _).bind fun _ _ => ?_
  refine (no_offset.attempt (f := id)).bind fun _ _ => (reads_exactly _ _).bind fun _ _ => ?_
  refine (reads_whole chars).bind fun found same => (reads_exactly ['\''] rest).bind fun _ _ => ?_
  rw [← same]
  exact Reads.pure (f := Term.erase) (.dateTime start found)

theorem reads_string (h : text.dropWhile isSpace = '\'' :: (body ++ '\'' :: rest))
    (closes : stringBodyChars (body ++ '\'' :: rest) = body) :
    literal.Reads Term.erase text (.string 0 body) rest := by
  have word : leadingWord text = [] := leadingWord_append h rfl (Ends.cons (by decide) _)
  have no_guid : guid.Refuses text := by
    refine Refuses.rule (reads_position.bind_refuses fun _ _ => Refuses.bind ?_)
    rw [h]
    exact refuses_exactly_of_head (by decide)
  have no_dateTime : dateTime.Refuses text := by
    refine Refuses.rule (reads_position.bind_refuses fun _ _ => Refuses.bind ?_)
    rw [h]
    exact refuses_exactly_of_head (by decide)
  have chars : stringBody.Reads id (body ++ '\'' :: rest) body ('\'' :: rest) := by
    intro c start
    simp [found, stringBody, start, closes, Local.rest_after start]
  refine reads_literal (by rw [word]; decide) ?_
  refine Refuses.orElse no_guid (Refuses.orElse no_dateTime (Reads.orElse (Reads.rule ?_)))
  rw [h]
  refine reads_position.bind fun start _ => (reads_exactly ['\''] _).bind fun _ _ => ?_
  refine chars.bind fun found same => (reads_exactly ['\''] rest).bind fun _ _ => ?_
  rw [← same]
  exact Reads.pure (f := Term.erase) (.string start found)

/-! ## Numbers -/

/-- No reserved word starts with another letter than these. -/
theorem leadingWord_not_reserved (h : Ends ['n', 't', 'f'].contains (text.dropWhile isSpace)) :
    isReserved (leadingWord text) = false := by
  refine Bool.eq_false_iff.2 fun reserved => ?_
  simp only [isReserved, List.contains_iff_mem, List.mem_cons, List.not_mem_nil, or_false,
    ← String.toList_inj, String.toList_ofList] at reserved
  have split : leadingWord text ++ (text.dropWhile isSpace).dropWhile continuesName =
      text.dropWhile isSpace := List.takeWhile_append_dropWhile
  rcases reserved with word | word | word | word <;> rw [word] at split <;>
    exact absurd (h _ (by rw [← split]; rfl)) (by decide)

theorem reads_numeral (m : Numeral) (ends : Ends extendsName rest)
    (h : text.dropWhile isSpace = m.text ++ rest) :
    literal.Reads Term.erase text (.number 0 m.text) rest := by
  obtain ⟨first, more, shape, digit⟩ := m.exists_cons
  have start : text.dropWhile isSpace = first :: (more ++ rest) := by rw [h, shape, List.cons_append]
  have other : ∀ c : Char, c.isDigit = false → c ≠ '-' → first ≠ c := by
    rintro c no_digit no_minus rfl
    exact digit.elim (by simp [no_digit]) no_minus
  have word : isReserved (leadingWord text) = false := by
    refine leadingWord_not_reserved ?_
    rw [start]
    refine Ends.cons (Bool.eq_false_iff.2 fun member => ?_) _
    simp only [List.contains_iff_mem, List.mem_cons, List.not_mem_nil, or_false] at member
    rcases member with rfl | rfl | rfl <;> exact other _ (by decide) (by decide) rfl
  have number_reads : number.Reads Term.erase text (.number 0 m.text) rest := by
    refine Reads.token (reads_position.bind fun position _ => ?_)
    rw [h]
    refine (m.reads ends).bind fun found same => ?_
    rw [← same]
    exact Reads.pure (f := Term.erase) (.number position found)
  have no_guid : guid.Refuses text := by
    refine Refuses.rule (reads_position.bind_refuses fun _ _ => Refuses.bind ?_)
    rw [start]
    exact refuses_exactly_of_head (other 'g' (by decide) (by decide)).symm
  have no_dateTime : dateTime.Refuses text := by
    refine Refuses.rule (reads_position.bind_refuses fun _ _ => Refuses.bind ?_)
    rw [start]
    exact refuses_exactly_of_head (other 'd' (by decide) (by decide)).symm
  have no_string : string.Refuses text := by
    refine Refuses.rule (reads_position.bind_refuses fun _ _ => Refuses.bind ?_)
    rw [start]
    exact refuses_exactly_of_head (other '\'' (by decide) (by decide)).symm
  refine reads_literal word (Refuses.orElse no_guid (Refuses.orElse no_dateTime ?_))
  exact Refuses.orElse no_string number_reads.orElse

end RecordQuery.Grammar
