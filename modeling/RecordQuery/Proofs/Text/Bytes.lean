import RecordQuery.Proofs.Text.Search

/-!
# Searching the bytes of a text

The bytes of a text are searched, and what is found counts characters in the end. No byte in the
middle of a character begins one, so the bytes of a pattern do not occur there. The offset that is
found is the number of the bytes before a character, and the characters before it are those before
the place where the pattern occurs.

## Main statements

* `Text.bytes_prefix_iff`: texts begin with each other as their bytes do.
* `Text.byteIndexOf_eq`: the offset at which a text is found.
* `Text.charsBefore_byteIndexOf`: the characters before it.
-/

namespace RecordQuery.Text

variable {pattern text rest : List Char} {c d : Char}

/-! ## The bytes of a character -/

/-- The first byte of a character begins one, and the others do not. -/
theorem exists_utf8EncodeChar (c : Char) : ∃ first others,
    String.utf8EncodeChar c = first :: others ∧ first.IsUTF8FirstByte ∧
      ∀ b ∈ others, ¬ b.IsUTF8FirstByte := by
  cases encoded : String.utf8EncodeChar c with
  | nil => exact absurd encoded String.utf8EncodeChar_ne_nil
  | cons first others =>
    have marks : ∀ (i : Nat) (h : i < (first :: others).length),
        (first :: others)[i].IsUTF8FirstByte ↔ i = 0 := by
      rw [← encoded]
      exact fun i h => UInt8.isUTF8FirstByte_getElem_utf8EncodeChar
    refine ⟨first, others, rfl, (marks 0 (Nat.zero_lt_succ _)).2 rfl, fun b mem begins => ?_⟩
    obtain ⟨i, within, rfl⟩ := List.getElem_of_mem mem
    exact Nat.succ_ne_zero i ((marks (i + 1) (Nat.succ_lt_succ within)).1 begins)

/-- No character is the beginning of another one. -/
theorem eq_of_utf8EncodeChar_append {s t : List UInt8}
    (same : String.utf8EncodeChar c ++ s = String.utf8EncodeChar d ++ t) : c = d := by
  have decoded : ∀ (e : Char) (u : List UInt8),
      ((String.utf8EncodeChar e ++ u).toByteArray).utf8DecodeChar? 0 = some e := by
    intro e u
    rw [List.toByteArray_append, ← List.utf8Encode_singleton]
    exact List.utf8DecodeChar?_utf8Encode_singleton_append
  have read := decoded c s
  rw [same, decoded d t] at read
  exact (Option.some.inj read).symm

/-- Texts begin with each other as their bytes do. -/
theorem bytes_prefix_iff : bytes pattern <+: bytes text ↔ pattern <+: text := by
  induction pattern generalizing text with
  | nil => simp
  | cons c pattern ih =>
    cases text with
    | nil => simp
    | cons d text =>
      rw [bytes_cons, bytes_cons, List.cons_prefix_cons]
      constructor
      · intro h
        obtain ⟨more, split⟩ := h
        rw [List.append_assoc] at split
        obtain rfl := eq_of_utf8EncodeChar_append split
        exact ⟨rfl, ih.1 ⟨more, List.append_cancel_left split⟩⟩
      · intro h
        obtain ⟨rfl, below⟩ := h
        exact (List.prefix_append_right_inj _).2 (ih.2 below)

/-! ## Searching -/

/-- What does not begin with the first item of a pattern is passed over. -/
theorem indexOf_append_of_forall_ne {α : Type} [BEq α] [LawfulBEq α] {a : α} {items passed : List α}
    (ne : ∀ b ∈ passed, b ≠ a) (rest : List α) :
    indexOf (a :: items) (passed ++ rest) =
      (indexOf (a :: items) rest).map (· + passed.length) := by
  induction passed with
  | nil => simp
  | cons b passed ih =>
    have other : ¬ (a :: items).isPrefixOf (b :: (passed ++ rest)) := by
      rw [List.isPrefixOf_iff_prefix, List.cons_prefix_cons]
      intro h
      exact ne b List.mem_cons_self h.1.symm
    have further := ih fun b mem => ne b (List.mem_cons_of_mem _ mem)
    simp [indexOf_cons, other, further, Function.comp_def, Nat.add_assoc]

/-- A text is searched character by character. -/
theorem byteIndexOf_cons : byteIndexOf pattern (c :: rest) =
    if pattern.isPrefixOf (c :: rest) then some 0
    else (byteIndexOf pattern rest).map (· + c.utf8Size) := by
  by_cases here : pattern <+: c :: rest
  · rw [if_pos (List.isPrefixOf_iff_prefix.2 here)]
    exact indexOf_eq_some_zero_iff.2 (bytes_prefix_iff.2 here)
  · rw [if_neg (mt List.isPrefixOf_iff_prefix.1 here)]
    cases pattern with
    | nil => exact absurd List.nil_prefix here
    | cons d pattern =>
      obtain ⟨a, items, pattern_bytes, begins, -⟩ := exists_utf8EncodeChar d
      obtain ⟨b, others, text_bytes, -, inside⟩ := exists_utf8EncodeChar c
      have size : c.utf8Size = others.length + 1 := by
        rw [← String.length_utf8EncodeChar, text_bytes, List.length_cons]
      have elsewhere : ¬ bytes (d :: pattern) <+: bytes (c :: rest) := mt bytes_prefix_iff.1 here
      -- a match in the middle of `c` would begin with a byte that begins no character
      have passed : indexOf (a :: (items ++ bytes pattern)) (others ++ bytes rest) =
          (indexOf (a :: (items ++ bytes pattern)) (bytes rest)).map (· + others.length) :=
        indexOf_append_of_forall_ne (fun x mem same => inside x mem (same ▸ begins)) (bytes rest)
      unfold byteIndexOf
      rw [bytes_cons, bytes_cons, pattern_bytes, text_bytes, List.cons_append, List.cons_append]
        at elsewhere ⊢
      rw [indexOf_cons, if_neg (mt List.isPrefixOf_iff_prefix.1 elsewhere), passed]
      simp [size, Function.comp_def, Nat.add_assoc]

/-- The offset at which a text is found is that of a character. -/
theorem byteIndexOf_eq (pattern text : List Char) :
    byteIndexOf pattern text = (indexOf pattern text).map fun i => byteLength (text.take i) := by
  induction text with
  | nil =>
    cases pattern with
    | nil => rfl
    | cons c pattern => simp [byteIndexOf, indexOf]
  | cons c rest ih =>
    rw [byteIndexOf_cons, indexOf_cons]
    split
    · rfl
    · simp [ih, byteLength, Function.comp_def, Nat.add_comm]

theorem charsBefore_le (offset : Nat) (text : List Char) :
    charsBefore offset text ≤ text.length := by
  induction text generalizing offset with
  | nil => exact Nat.le_refl 0
  | cons c rest ih =>
    rw [charsBefore]
    split
    · exact Nat.zero_le _
    · exact Nat.succ_le_succ (ih _)

theorem charsBefore_byteLength {i : Nat} (within : i ≤ text.length) :
    charsBefore (byteLength (text.take i)) text = i := by
  induction text generalizing i with
  | nil => exact (Nat.le_zero.1 within).symm
  | cons c rest ih =>
    cases i with
    | zero => rfl
    | succ i =>
      have size := c.utf8Size_pos
      rw [List.take_succ_cons, byteLength, charsBefore, if_neg (by omega), Nat.add_sub_cancel_left,
        ih (Nat.le_of_succ_le_succ within)]

/-- The characters before the offset that is found are those before the place where the text
occurs. -/
theorem charsBefore_byteIndexOf (pattern text : List Char) :
    (byteIndexOf pattern text).map (charsBefore · text) = indexOf pattern text := by
  rw [byteIndexOf_eq, Option.map_map]
  cases found : indexOf pattern text with
  | none => rfl
  | some i =>
    have occurs := (indexOf_eq_some_iff.1 found).1
    exact congrArg some (charsBefore_byteLength (Nat.le_of_add_right_le occurs.le))

/-- Two bytes stand before the second character. -/
example : byteIndexOf "m".toList "Åm".toList = some 2 ∧ charsBefore 2 "Åm".toList = 1 := by decide

theorem contains_eq (text pattern : List Char) :
    contains text pattern = (indexOf pattern text).isSome := by
  rw [contains, byteIndexOf_eq, Option.isSome_map]

end RecordQuery.Text
