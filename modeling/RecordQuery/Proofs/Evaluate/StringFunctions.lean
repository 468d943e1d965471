import RecordQuery.Proofs.Evaluate.IntegerArithmetic
import RecordQuery.Proofs.Text.Bytes
import RecordQuery.Proofs.Value.Transitivity
import RecordQuery.Proofs.Value.Widening

/-!
# Functions on texts

A text is searched by its bytes, but the index that is reported counts characters, like the lengths
and the bounds of the parts that are cut out. So what one function gives is understood by the
others. Counts are 32-bit integers, which is enough for texts of less than 2 ^ 31 characters.

## Main definitions

* `Builtin.of`: the call of a function for arguments.
* `Evaluate.StringLaws`: how the functions on two texts agree with each other.

## Main statements

* `Evaluate.value_stringLaws`: they agree on all texts.
-/

namespace RecordQuery

/-- The call of a function for arguments, of the type that the function returns. -/
def Builtin.of (f : Builtin) (args : List Expr) : Expr :=
  .call ((f.signature?.map fun s => .primitive s.returns).getD .null) f args

namespace Evaluate

variable {s t : String} {u v : Value} {k n : Int}

/-! ## Counts -/

theorem isInteger_ofCount (short : n < 2 ^ 31) (least : -1 ≤ n) :
    (ofCount n).IsInteger .int32 n :=
  Value.isInteger_ofInt? ⟨-(2 ^ 31), 2 ^ 31 - 1, rfl, by omega, by omega⟩

theorem function_length (short : s.length < 2 ^ 31) :
    (function .length [.string s]).IsInteger .int32 s.length := by
  change (ofCount s.toList.length).IsInteger .int32 s.length
  rw [String.length_toList]
  exact isInteger_ofCount (by omega) (by omega)

/-- The index that a search reports, which is `-1` if it finds nothing. -/
def indexOrMissing : Option Nat → Int
  | some i => i
  | none => -1

/-- The bytes of a text are searched, and the index counts characters. -/
theorem toInt_charIndex {pattern text : List Char} (short : text.length < 2 ^ 31) :
    (charIndex pattern text).toInt = indexOrMissing (Text.indexOf pattern text) := by
  unfold charIndex
  rw [← Text.charsBefore_byteIndexOf]
  cases found : Text.byteIndexOf pattern text with
  | none => rfl
  | some offset =>
    have within := Text.charsBefore_le offset text
    exact Int64.toInt_ofNat_of_lt (by omega)

theorem function_indexOf (short : s.length < 2 ^ 31) :
    (function .indexOf [.string s, .string t]).IsInteger .int32
      (indexOrMissing (Text.indexOf t.toList s.toList)) := by
  rw [← String.length_toList] at short
  change ((Value.int64 (charIndex t.toList s.toList)).castOrNull .int32).IsInteger .int32 _
  rw [Value.castOrNull_int64 (by decide), toInt_charIndex short]
  cases found : Text.indexOf t.toList s.toList with
  | none => exact isInteger_ofCount (by decide) (by decide)
  | some i =>
    have within := (Text.indexOf_eq_some_iff.1 found).1.le
    exact isInteger_ofCount (n := (i : Int)) (by omega) (by omega)

theorem function_indexOf_isInteger_iff (short : s.length < 2 ^ 31) :
    (function .indexOf [.string s, .string t]).IsInteger .int32 k ↔
      indexOrMissing (Text.indexOf t.toList s.toList) = k := by
  refine ⟨fun index => ?_, fun index => index ▸ function_indexOf short⟩
  exact Option.some.inj ((function_indexOf short).2.symm.trans index.2)

theorem indexOrMissing_eq_iff {found : Option Nat} {i : Nat} :
    indexOrMissing found = i ↔ found = some i := by
  cases found with
  | none => exact ⟨nofun, nofun⟩
  | some j => exact Int.ofNat_inj.trans Option.some_inj.symm

theorem indexOrMissing_eq_neg_one_iff {found : Option Nat} :
    indexOrMissing found = -1 ↔ found = none := by
  cases found with
  | none => exact iff_of_true rfl rfl
  | some i => exact ⟨nofun, nofun⟩

/-! ## Parts of a text -/

theorem function_of_isNull {f : Builtin} {args : List Value} (null : args.any Value.isNull = true) :
    function f args = .null := if_pos null

theorem function_substring (start : u.int? = some k) :
    function .substring [.string s, u] = substring s.toList (some k) none := by
  have present : u.isNull = false := (Value.views_of_int? start).1
  rw [function, List.any_cons, List.any_cons, present, ← start]
  rfl

theorem function_substring_of_length (start : u.int? = some k) (length : v.int? = some n) :
    function .substring [.string s, u, v] = substring s.toList (some k) (some n) := by
  have present : u.isNull = false ∧ v.isNull = false :=
    ⟨(Value.views_of_int? start).1, (Value.views_of_int? length).1⟩
  rw [function, List.any_cons, List.any_cons, List.any_cons, present.1, present.2, ← start,
    ← length]
  rfl

theorem substring_of_le {i : Nat} (text : List Char) (within : i ≤ text.length) :
    substring text (some i) none = ofChars (Text.slice text i none) ∧
      ∀ size : Nat, substring text (some i) (some size) =
        ofChars (Text.slice text i (some size)) := by
  have inside : ¬ ((i : Int) < 0 ∨ (text.length : Int) < i) := by omega
  refine ⟨?_, fun size => ?_⟩
  · rw [substring, if_neg inside]
    rfl
  · have positive : ¬ (size : Int) < 0 := by omega
    rw [substring, if_neg inside]
    exact if_neg positive

theorem substring_of_outside {text : List Char} (outside : k < 0 ∨ (text.length : Int) < k)
    (size : Option Int) : substring text (some k) size = .null := if_pos outside

theorem substring_of_negative (text : List Char) (start : Option Int) (negative : n < 0) :
    substring text start (some n) = .null := by
  unfold substring
  split
  · rfl
  · split
    · rfl
    · exact if_pos negative

theorem ofChars_toList (s : String) : ofChars s.toList = .string s :=
  congrArg Value.string String.ofList_toList

theorem ofChars_eq_iff {text : List Char} : ofChars text = .string s ↔ text = s.toList := by
  rw [← ofChars_toList, ofChars, ofChars, Value.string.injEq, String.ofList_inj]

/-- The two parts at an index make up the text. -/
theorem function_concat_substring (start : u.int? = some k) (zero : v.int? = some 0) (least : 0 ≤ k)
    (within : k ≤ s.length) :
    function .concat [function .substring [.string s, v, u], function .substring [.string s, u]] =
      .string s := by
  obtain ⟨i, rfl⟩ := Int.eq_ofNat_of_zero_le least
  have inside : i ≤ s.toList.length := by
    rw [String.length_toList]
    omega
  have before := (substring_of_le s.toList (Nat.zero_le _)).2 i
  have behind := (substring_of_le s.toList inside).1
  rw [function_substring_of_length zero start, function_substring start]
  rw [show (0 : Int) = ((0 : Nat) : Int) from rfl, before, behind]
  change ofChars ((String.ofList _).toList ++ (String.ofList _).toList) = _
  rw [String.toList_ofList, String.toList_ofList, Text.slice_append_slice, ofChars_toList]

/-- No part starts outside of the text. -/
theorem function_substring_of_outside (start : u.int? = some k) (outside : k < 0 ∨ s.length < k) :
    function .substring [.string s, u] = .null ∧ function .substring [.string s, u, v] = .null := by
  have outside : k < 0 ∨ (s.toList.length : Int) < k := by rwa [String.length_toList]
  refine ⟨(function_substring start).trans (substring_of_outside outside none), ?_⟩
  by_cases null : [.string s, u, v].any Value.isNull = true
  · exact function_of_isNull null
  · rw [function, if_neg null]
    change substring s.toList u.int? v.int? = .null
    rw [start, substring_of_outside outside]

/-- No part has a negative length. -/
theorem function_substring_of_negative (length : v.int? = some n) (negative : n < 0) :
    function .substring [.string s, u, v] = .null := by
  by_cases null : [.string s, u, v].any Value.isNull = true
  · exact function_of_isNull null
  · rw [function, if_neg null]
    change substring s.toList u.int? v.int? = .null
    rw [length, substring_of_negative _ _ negative]

/-! ## Searches -/

/-- A text is missing from another one if that does not contain it. -/
theorem function_indexOf_missing_iff (short : s.length < 2 ^ 31) :
    (function .indexOf [.string s, .string t]).IsInteger .int32 (-1) ↔
      function .substringOf [.string t, .string s] = .bool false := by
  rw [function_indexOf_isInteger_iff short, indexOrMissing_eq_neg_one_iff]
  change _ ↔ Value.bool (Text.contains s.toList t.toList) = .bool false
  rw [Text.contains_eq, Value.bool.injEq, Option.isSome_eq_false_iff, Option.isNone_iff_eq_none]

/-- A text begins with another one if it has it at the index zero. -/
theorem function_startsWith_iff (short : s.length < 2 ^ 31) :
    function .startsWith [.string s, .string t] = .bool true ↔
      (function .indexOf [.string s, .string t]).IsInteger .int32 0 := by
  rw [function_indexOf_isInteger_iff short]
  change Value.bool (t.toList.isPrefixOf s.toList) = .bool true ↔ _ = ((0 : Nat) : Int)
  rw [Value.bool.injEq, indexOrMissing_eq_iff, Text.indexOf_eq_some_zero_iff,
    List.isPrefixOf_iff_prefix]

/-- The part at the index is the text that was searched. -/
theorem function_substring_found (short : s.length < 2 ^ 31)
    (index : (function .indexOf [.string s, .string t]).IsInteger .int32 k) (least : 0 ≤ k)
    (start : u.int? = some k) (length : v.int? = some t.length) :
    function .substring [.string s, u, v] = .string t := by
  obtain ⟨i, rfl⟩ := Int.eq_ofNat_of_zero_le least
  have found := indexOrMissing_eq_iff.1 ((function_indexOf_isInteger_iff short).1 index)
  have occurs := (Text.indexOf_eq_some_iff.1 found).1
  have within : i ≤ s.toList.length := le_of_add_le_left occurs.le
  rw [function_substring_of_length start length, (substring_of_le _ within).2, ofChars_eq_iff,
    ← String.length_toList, occurs.slice_eq]

/-- A text ends with another one if that is its part at the difference of the lengths. -/
theorem function_endsWith_iff (start : u.int? = some ((s.length : Int) - t.length)) :
    function .endsWith [.string s, .string t] = .bool true ↔
      (t.length : Int) ≤ s.length ∧ function .substring [.string s, u] = .string t := by
  change Value.bool (t.toList.isSuffixOf s.toList) = .bool true ↔ _
  rw [Value.bool.injEq, List.isSuffixOf_iff_suffix, Text.suffix_iff_slice_eq,
    function_substring start, String.length_toList, String.length_toList]
  rw [Int.ofNat_le]
  refine and_congr_right fun within => ?_
  have inside : s.length - t.length ≤ s.toList.length := by
    rw [String.length_toList]
    omega
  rw [← Int.ofNat_sub within, (substring_of_le _ inside).1, ofChars_eq_iff]

/-! ## Laws -/

theorem comparison_le_iff (hu : u.int? = some k) (hv : v.int? = some n) :
    comparison .le u v = true ↔ k ≤ n := by
  unfold comparison
  rw [Value.compare?_of_int? hu hv]
  change (compare k n != .gt) = true ↔ _
  rw [bne_iff_ne, Int.compare_ne_gt]

/-- How the functions on two texts agree with each other. The texts `s` and `t` are the values of
`a` and `b`. -/
structure StringLaws (value : Expr → Value) (a b : Expr) (s t : String) : Prop where
  /-- Lengths count characters. -/
  length : (value (Builtin.length.of [a])).IsInteger .int32 s.length ∧
    (value (Builtin.length.of [b])).IsInteger .int32 t.length
  /-- An index is the least one at which the text occurs. -/
  index : ∃ i, (value (Builtin.indexOf.of [a, b])).IsInteger .int32 i ∧
    ((i = -1 ∧ ∀ n, ¬ Text.OccursAt t.toList s.toList n) ∨
      ∃ n : Nat, i = n ∧ IsLeast {n | Text.OccursAt t.toList s.toList n} n)
  missing : (value (Builtin.indexOf.of [a, b])).IsInteger .int32 (-1) ↔
    value (Builtin.substringOf.of [b, a]) = .bool false
  found : ∀ i start, (value (Builtin.indexOf.of [a, b])).IsInteger .int32 i → 0 ≤ i →
    (value start).int? = some i →
    value (Builtin.substring.of [a, start, Builtin.length.of [b]]) = .string t
  starts : value (Builtin.startsWith.of [a, b]) = .bool true ↔
    (value (Builtin.indexOf.of [a, b])).IsInteger .int32 0
  ends : value (Builtin.endsWith.of [a, b]) = .bool true ↔
    value (.binary .boolean .le (Builtin.length.of [b]) (Builtin.length.of [a])) = .bool true ∧
      value (Builtin.substring.of [a, .binary (.primitive .int32) .sub (Builtin.length.of [a])
        (Builtin.length.of [b])]) = .string t
  parts : ∀ k start zero, (value start).int? = some k → (value zero).int? = some 0 →
    0 ≤ k → k ≤ s.length →
    value (Builtin.concat.of [Builtin.substring.of [a, zero, start],
      Builtin.substring.of [a, start]]) = .string s
  outside : ∀ k start, (value start).int? = some k → k < 0 ∨ s.length < k →
    ∀ count, value (Builtin.substring.of [a, start]) = .null ∧
      value (Builtin.substring.of [a, start, count]) = .null
  negative : ∀ n start count, (value count).int? = some n → n < 0 →
    value (Builtin.substring.of [a, start, count]) = .null

variable {r : Record} {m : Model} {bindings : Bindings} {a b : Expr}

theorem value_of (f : Builtin) (args : List Expr) :
    value r m bindings (f.of args) = function f (values r m bindings args) := rfl

/-- The difference of two counts is a 32-bit integer. -/
theorem value_sub_counts {i j : Nat} (ha : (value r m bindings a).IsInteger .int32 i)
    (hb : (value r m bindings b).IsInteger .int32 j) :
    (value r m bindings (.binary (.primitive .int32) .sub a b)).IsInteger .int32 (i - j) := by
  obtain ⟨low, high, range, -, above⟩ := ha.inRange
  obtain ⟨low', high', range', -, above'⟩ := hb.inRange
  cases range
  cases range'
  have fits : PrimitiveType.int32.InRange ((i : Int) - j) :=
    ⟨-(2 ^ 31), 2 ^ 31 - 1, rfl, by omega, by omega⟩
  have difference : IsIntegerResult .int32 .sub i j _ := arithmetic_isIntegerResult rfl ha hb
  rw [value_arithmetic rfl]
  exact difference.1 fits

/-- The functions on texts agree with each other on all texts whose lengths are 32-bit integers. -/
theorem value_stringLaws (ha : value r m bindings a = .string s)
    (hb : value r m bindings b = .string t) (short : s.length < 2 ^ 31)
    (short' : t.length < 2 ^ 31) : StringLaws (value r m bindings) a b s t := by
  have lengthA : (value r m bindings (Builtin.length.of [a])).IsInteger .int32 s.length := by
    rw [value_of, values, values, ha]
    exact function_length short
  have lengthB : (value r m bindings (Builtin.length.of [b])).IsInteger .int32 t.length := by
    rw [value_of, values, values, hb]
    exact function_length short'
  have index : value r m bindings (Builtin.indexOf.of [a, b]) =
      function .indexOf [.string s, .string t] := by
    rw [value_of, values, values, values, ha, hb]
  constructor
  case length => exact ⟨lengthA, lengthB⟩
  case index =>
    refine ⟨_, index ▸ function_indexOf short, ?_⟩
    cases found : Text.indexOf t.toList s.toList with
    | none => exact .inl ⟨rfl, Text.indexOf_eq_none_iff.1 found⟩
    | some i => exact .inr ⟨i, rfl, Text.indexOf_eq_some_iff.1 found⟩
  case missing =>
    rw [index, value_of, values, values, values, ha, hb]
    exact function_indexOf_missing_iff short
  case found =>
    intro i start isIndex least isStart
    rw [value_of, values, values, values, values, ha]
    exact function_substring_found short (index ▸ isIndex) least isStart lengthB.2
  case starts =>
    rw [index, value_of, values, values, values, ha, hb]
    exact function_startsWith_iff short
  case ends =>
    rw [value_comparison rfl, Value.bool.injEq, comparison_le_iff lengthB.2 lengthA.2]
    simp only [value_of .endsWith, value_of .substring, values, ha, hb]
    exact function_endsWith_iff (value_sub_counts lengthA lengthB).2
  case parts =>
    intro k start zero isStart isZero least within
    simp only [value_of, values, ha]
    exact function_concat_substring isStart isZero least within
  case outside =>
    intro k start isStart outside count
    simp only [value_of, values, ha]
    exact function_substring_of_outside isStart outside
  case negative =>
    intro n start count isCount negative
    simp only [value_of, values, ha]
    exact function_substring_of_negative isCount negative

/-- The characters of these texts take one, two and four bytes. -/
theorem value_stringLaws_bytes : StringLaws (value default default [])
    (.ofValue (.string "Ångström 😀")) (.ofValue (.string "m 😀")) "Ångström 😀" "m 😀" :=
  value_stringLaws rfl rfl (by decide) (by decide)

end Evaluate

end RecordQuery
