import RecordQuery.Proofs.Grammar.Reading

/-!
# Reading names

Names are read as far as they go, so they are read back wherever nothing that belongs to a name
follows. The word that a text starts with decides whether a fixed word is read there.

## Main definitions

* `IsName`, `IsIdentifier`, `IsQualified`: the texts that are names.
* `leadingWord`: the word that a text starts with.
* `Segment.IsLexical`: whether the text of a segment is a name of its kind.

## Main statements

* `reads_identifier`, `reads_qualifiedName`: names are read back.
* `reads_segment`: segments are read back, where neither a name nor a parenthesis follows.
-/

namespace RecordQuery.Grammar

open Recognizer

variable {s rest text : List Char}

/-! ## Names -/

/-- A letter or an underscore, and then letters, digits and underscores. -/
def IsName (s : List Char) : Prop :=
  ∃ c more, s = c :: more ∧ startsName c = true ∧ more.all continuesName = true

/-- A name, or the name of the element. -/
def IsIdentifier (s : List Char) : Prop := s = "$it".toList ∨ IsName s

/-- Names with a point before each. -/
def dotted (names : List (List Char)) : List Char := names.flatMap ('.' :: ·)

/-- Names with points between them, at least two. -/
def IsQualified (s : List Char) : Prop :=
  ∃ first second more, IsName first ∧ IsName second ∧ (∀ name ∈ more, IsName name) ∧
    s = first ++ dotted (second :: more)

/-- A character that goes on with a name or with the names behind a point. -/
def extendsName (c : Char) : Bool := continuesName c || c == '.'

theorem continuesName_of_startsName {c : Char} (h : startsName c = true) :
    continuesName c = true := by
  simp only [startsName, continuesName, Bool.or_eq_true] at h ⊢
  exact h.imp_left .inl

theorem isSpace_eq_false {c : Char} (h : continuesName c = true) : isSpace c = false := by
  refine Bool.eq_false_iff.2 fun space => ?_
  simp only [isSpace, Bool.or_eq_true, beq_iff_eq] at space
  rcases space with ((rfl | rfl) | rfl) | rfl <;> exact absurd h (by decide)

theorem IsName.letters (h : IsName s) : s.all continuesName = true := by
  obtain ⟨c, more, rfl, starts, continues⟩ := h
  rw [List.all_cons, continuesName_of_startsName starts, continues]
  rfl

theorem IsName.ne_nil (h : IsName s) : s ≠ [] := by
  obtain ⟨c, more, rfl, -⟩ := h
  exact List.cons_ne_nil c more

theorem Recognizer.Ends.mono {belongs belongs' : Char → Bool} (h : Ends belongs s)
    (sub : ∀ c, belongs' c = true → belongs c = true) : Ends belongs' s := fun c head =>
  Bool.eq_false_iff.2 fun member => Bool.eq_false_iff.1 (h c head) (sub c member)

theorem Recognizer.Ends.cons {belongs : Char → Bool} {c : Char} (h : belongs c = false) (rest : List Char) :
    Ends belongs (c :: rest) := by
  intro d head
  cases head
  exact h

theorem Recognizer.Ends.name (h : Ends extendsName s) : Ends continuesName s :=
  h.mono fun c member => by simp [extendsName, member]

theorem Recognizer.Ends.point (h : Ends extendsName s) : Ends (· == '.') s :=
  h.mono fun c member => by simp [extendsName, eq_of_beq member]

theorem reads_nameChars (name : IsName s) (ends : Ends continuesName rest) :
    nameChars.Reads id (s ++ rest) s rest := by
  obtain ⟨c, more, rfl, starts, continues⟩ := name
  refine (reads_one starts).bind fun first same => ?_
  refine (reads_run (List.all_eq_true.1 continues) ends).bind fun others same' => ?_
  rw [← same, ← same']
  exact Reads.pure (f := id) (first :: others)

theorem refuses_nameChars (h : Ends startsName s) : nameChars.Refuses s :=
  Refuses.bind (refuses_one h)

/-! ## Tokens -/

theorem reads_identifier (name : IsIdentifier s) (h : text.dropWhile isSpace = s ++ rest)
    (ends : Ends continuesName rest) : identifier.Reads Prod.snd text s rest := by
  refine Reads.token ?_
  rw [h]
  refine reads_position.bind fun start _ => ?_
  have chars : (Recognizer.orElse (do exactly "$it".toList; return "$it".toList) nameChars).Reads
      id (s ++ rest) s rest := by
    obtain rfl | name := name
    · exact ((reads_exactly _ _).bind fun _ _ => Reads.pure (f := id) _).orElse
    · refine Refuses.orElse (Refuses.bind (refuses_exactly fun leads => ?_))
        (reads_nameChars name ends)
      obtain ⟨c, more, rfl, starts, -⟩ := name
      rw [List.cons_append] at leads
      obtain ⟨rfl, -⟩ := List.cons_prefix_cons.1 leads
      exact absurd starts (by decide)
  refine chars.bind fun found same => ?_
  cases same
  exact Reads.pure (f := Prod.snd) (start, found)

theorem refuses_identifier
    (h : Ends (fun c => startsName c || c == '$') (text.dropWhile isSpace)) :
    identifier.Refuses text := by
  refine Refuses.token (reads_position.bind_refuses fun _ _ => Refuses.bind ?_)
  refine Refuses.both (Refuses.bind (refuses_exactly fun leads => ?_)) (refuses_nameChars ?_)
  · obtain ⟨behind, split⟩ := leads
    exact absurd (h '$' (by rw [← split]; rfl)) (by decide)
  · exact h.mono fun c member => by simp [member]

/-- One more of the names that points separate. -/
def pointName : Recognizer (List Char) := do
  exactly ['.']
  let name ← nameChars
  return '.' :: name

theorem reads_pointName (name : IsName s) (ends : Ends continuesName rest) :
    pointName.Reads id ('.' :: s ++ rest) ('.' :: s) rest := by
  refine (reads_exactly ['.'] (s ++ rest)).bind fun _ _ => ?_
  refine (reads_nameChars name ends).bind fun found same => ?_
  cases same
  exact Reads.pure (f := id) ('.' :: found)

theorem refuses_pointName (h : Ends (· == '.') s) : pointName.Refuses s := by
  refine Refuses.bind (refuses_exactly fun leads => ?_)
  obtain ⟨behind, split⟩ := leads
  exact absurd (h '.' (by rw [← split]; rfl)) (by decide)

theorem ends_dotted (names : List (List Char)) (ends : Ends extendsName rest) :
    Ends continuesName (dotted names ++ rest) := by
  cases names with
  | nil => exact ends.name
  | cons name names => exact Ends.cons (by decide) _

theorem readsMany_pointName {names : List (List Char)} (all : ∀ name ∈ names, IsName name)
    (ends : Ends extendsName rest) :
    pointName.ReadsMany id (dotted names ++ rest) (names.map ('.' :: ·)) rest := by
  induction names with
  | nil => exact (refuses_pointName ends.point).readsMany
  | cons name names ih =>
    obtain ⟨first, others⟩ := List.forall_mem_cons.1 all
    have shape : dotted (name :: names) ++ rest = '.' :: name ++ (dotted names ++ rest) := by
      simp [dotted]
    have shorter : (dotted names ++ rest).length < ('.' :: name ++ (dotted names ++ rest)).length := by
      simp only [List.cons_append, List.length_cons, List.length_append]
      omega
    rw [shape]
    exact (reads_pointName first (ends_dotted names ends)).readsMany shorter (ih others)

theorem reads_qualifiedName (name : IsQualified s) (h : text.dropWhile isSpace = s ++ rest)
    (ends : Ends extendsName rest) : qualifiedName.Reads Prod.snd text s rest := by
  obtain ⟨first, second, more, first_name, second_name, others, rfl⟩ := name
  refine Reads.token ?_
  have shape : first ++ dotted (second :: more) ++ rest =
      first ++ ('.' :: second ++ (dotted more ++ rest)) := by
    simp [dotted]
  rw [h, shape]
  refine reads_position.bind fun start _ => ?_
  refine (reads_nameChars first_name (Ends.cons (by decide) _)).bind fun a same => ?_
  refine (reads_pointName second_name (ends_dotted more ends)).bind fun b same' => ?_
  refine (readsMany_pointName others ends).many.bind fun c same'' => ?_
  rw [List.map_id] at same''
  have value : first ++ dotted (second :: more) = a ++ b ++ c.flatten := by
    rw [show first = a from same.symm, show b = '.' :: second from same', same'']
    simp [dotted, List.flatMap_def]
  rw [value]
  exact Reads.pure (f := Prod.snd) (start, a ++ b ++ c.flatten)

/-- A name without points is no qualified name. -/
theorem refuses_qualifiedName (name : IsIdentifier s) (h : text.dropWhile isSpace = s ++ rest)
    (ends : Ends extendsName rest) : qualifiedName.Refuses text := by
  refine Refuses.token ?_
  rw [h]
  refine reads_position.bind_refuses fun _ _ => ?_
  obtain rfl | name := name
  · exact Refuses.bind (refuses_nameChars (Ends.cons (by decide) _))
  · refine (reads_nameChars name ends.name).bind_refuses fun _ _ => ?_
    exact Refuses.bind (refuses_pointName ends.point)

/-! ## The first word of a text -/

/-- The letters, digits and underscores that a text starts with behind the blanks. -/
def leadingWord (text : List Char) : List Char :=
  (text.dropWhile isSpace).takeWhile continuesName

theorem ends_dropWhile (belongs : Char → Bool) (s : List Char) :
    Ends belongs (s.dropWhile belongs) := by
  intro c head
  have := List.head?_dropWhile_not belongs s
  rw [head] at this
  simpa using this

theorem leadingWord_append {word : List Char} (h : text.dropWhile isSpace = word ++ rest)
    (letters : word.all continuesName = true) (ends : Ends continuesName rest) :
    leadingWord text = word := by
  rw [leadingWord, h, takeWhile_append_of_ends (List.all_eq_true.1 letters) ends]

theorem refuses_word_of_leadingWord {word : String} (other : leadingWord text ≠ word.toList)
    (letters : word.toList.all continuesName = true) : (Grammar.word word).Refuses text :=
  refuses_word List.takeWhile_append_dropWhile.symm List.all_takeWhile (ends_dropWhile _ _) other
    letters

/-! ## Segments -/

/-- Whether the text of a segment is a name of its kind. -/
def Segment.IsLexical : Segment → Prop
  | member _ name => IsIdentifier name
  | cast _ type => IsQualified type

/-- No quantifier starts where the first word has no parenthesis behind it. -/
theorem refuses_lambdaStart (h : Ends (· == '(')
    (((text.dropWhile isSpace).dropWhile continuesName).dropWhile isSpace)) :
    lambdaStart.Refuses text := by
  refine (reads_blanks text).bind_refuses fun _ _ => ?_
  have behind : ∀ word : List Char, word.all continuesName = true → ∀ {t : List Char},
      text.dropWhile isSpace = word ++ t → (mark "(").Refuses t := by
    intro word letters t split
    refine refuses_mark fun leads => ?_
    obtain ⟨more, opens⟩ := leads
    rw [split, List.dropWhile_append_of_pos (List.all_eq_true.1 letters)] at h
    cases t with
    | nil => cases opens
    | cons c t =>
      by_cases continues : continuesName c = true
      · rw [List.dropWhile_cons_of_neg (by simp [isSpace_eq_false continues])] at opens
        cases opens
        exact absurd continues (by decide)
      · rw [List.dropWhile_cons_of_neg continues, ← opens] at h
        exact absurd (h '(' rfl) (by decide)
  intro c start
  rw [outcome_bind]
  cases found : ((Recognizer.orElse (exactly "any".toList) (exactly "all".toList)) c).outcome with
  | none => rfl
  | some result =>
    obtain ⟨⟨⟩, d⟩ := result
    rw [outcome_orElse] at found
    obtain first | ⟨-, second⟩ := Option.or_eq_some_iff.1 found
    · exact behind "any".toList (by decide)
        (start.symm.trans (Local.reads_exactly first)) d rfl
    · exact behind "all".toList (by decide)
        (start.symm.trans (Local.reads_exactly second)) d rfl

theorem Segment.IsLexical.ne_nil {s : Segment} (h : s.IsLexical) : s.text ≠ [] := by
  cases s with
  | member _ name =>
    obtain rfl | name := h
    · exact List.cons_ne_nil _ _
    · exact name.ne_nil
  | cast _ type =>
    obtain ⟨first, second, more, first_name, -, -, rfl⟩ := h
    exact fun empty => first_name.ne_nil (List.append_eq_nil_iff.1 empty).1

/-- Behind the first word of a segment there is the end of the segment, or a sign or a point. -/
theorem Segment.IsLexical.behind {s : Segment} (h : s.IsLexical) (glued : Ends extendsName rest) :
    (s.text ++ rest).dropWhile continuesName = rest ∨
      ∃ c more, (s.text ++ rest).dropWhile continuesName = c :: more ∧ (c = '$' ∨ c = '.') := by
  have dropped : ∀ {name t : List Char}, IsName name → Ends continuesName t →
      (name ++ t).dropWhile continuesName = t := fun name ends => by
    rw [List.dropWhile_append_of_pos (List.all_eq_true.1 name.letters), ends.dropWhile]
  cases s with
  | member _ name =>
    obtain rfl | name := h
    · exact .inr ⟨'$', _, rfl, .inl rfl⟩
    · exact .inl (dropped name glued.name)
  | cast _ type =>
    obtain ⟨first, second, more, name, -, -, rfl⟩ := h
    refine .inr ⟨'.', second ++ (dotted more ++ rest), ?_, .inr rfl⟩
    change (first ++ dotted (second :: more) ++ rest).dropWhile continuesName = _
    rw [List.append_assoc, dropped name (ends_dotted _ glued)]
    simp [dotted]

/-- Nothing opens a parenthesis behind the first word of a segment. -/
theorem Segment.IsLexical.apart {s : Segment} (h : s.IsLexical) (glued : Ends extendsName rest)
    (apart : Ends (· == '(') (rest.dropWhile isSpace)) :
    Ends (· == '(') (((s.text ++ rest).dropWhile continuesName).dropWhile isSpace) := by
  obtain same | ⟨c, more, start, rfl | rfl⟩ := h.behind glued
  · rwa [same]
  · rw [start]
    exact Ends.cons (by decide) more
  · rw [start]
    exact Ends.cons (by decide) more

theorem reads_segment {s : Segment} (lexical : s.IsLexical) (h : text.dropWhile isSpace = s.text ++ rest)
    (glued : Ends extendsName rest) (apart : Ends (· == '(') (rest.dropWhile isSpace)) :
    segment.Reads Segment.erase text s.erase rest := by
  have no_quantifier : (absent lambdaStart).Reads id text () text := by
    have refused : lambdaStart.Refuses text :=
      refuses_lambdaStart (h.symm ▸ lexical.apart glued apart)
    intro c start
    simp [found, absent, refused c start, start]
  refine no_quantifier.bind fun _ _ => ?_
  cases s with
  | member position name =>
    refine Refuses.orElse (Refuses.bind (refuses_qualifiedName lexical h glued)) ?_
    refine (reads_identifier lexical h glued.name).bind fun found same => ?_
    rw [show (Segment.member position name).erase = (Segment.member found.1 found.2).erase by
      rw [same]; rfl]
    exact Reads.pure _
  | cast position type =>
    refine Reads.orElse ((reads_qualifiedName lexical h glued).bind fun found same => ?_)
    rw [show (Segment.cast position type).erase = (Segment.cast found.1 found.2).erase by
      rw [same]; rfl]
    exact Reads.pure _

/-! ## Reserved words -/

/-- A word that is a constant or an operator where an operand could start. -/
def isReserved (word : List Char) : Bool :=
  ["null", "true", "false", "not"].contains (String.ofList word)

/-- The text of a segment up to its first point. -/
def Segment.word (s : Segment) : List Char := s.text.takeWhile (· != '.')

theorem ne_of_not_reserved {word : List Char} (h : isReserved word = false) :
    word ≠ "null".toList ∧ word ≠ "true".toList ∧ word ≠ "false".toList ∧ word ≠ "not".toList := by
  refine ⟨?_, ?_, ?_, ?_⟩ <;> rintro rfl <;> exact absurd h (by decide)

theorem IsName.takeWhile_point (name : IsName s) (h : Ends (· != '.') rest) :
    (s ++ rest).takeWhile (· != '.') = s := by
  refine takeWhile_append_of_ends (fun c mem => ?_) h
  have letter := List.all_eq_true.1 name.letters c mem
  simp only [bne_iff_ne]
  rintro rfl
  exact absurd letter (by decide)

theorem Segment.word_member {position : Nat} (name : IsIdentifier s) :
    (member position s).word = s := by
  obtain rfl | name := name
  · rfl
  · have whole : (s ++ []).takeWhile (· != '.') = s := name.takeWhile_point nofun
    rwa [List.append_nil] at whole

/-- A text starts with the first word of its first segment, unless that is the element. -/
theorem leadingWord_segment {s : Segment} (lexical : s.IsLexical)
    (h : text.dropWhile isSpace = s.text ++ rest) (ends : Ends continuesName rest) :
    leadingWord text = s.word ∨ s.word = "$it".toList ∧ leadingWord text = [] := by
  cases s with
  | member position chars =>
    obtain rfl | name := lexical
    · refine .inr ⟨by rfl, ?_⟩
      rw [leadingWord, h]
      rfl
    · rw [Segment.word_member (.inr name)]
      exact .inl (leadingWord_append h name.letters ends)
  | cast position type =>
    obtain ⟨first, second, more, name, -, -, rfl⟩ := lexical
    have word : (Segment.cast position (first ++ dotted (second :: more))).word = first :=
      name.takeWhile_point (Ends.cons (by decide) _)
    rw [word]
    refine .inl (leadingWord_append (h.trans (List.append_assoc _ _ _)) name.letters ?_)
    exact Ends.cons (by decide) _

end RecordQuery.Grammar
