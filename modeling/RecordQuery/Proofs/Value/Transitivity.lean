import RecordQuery.Proofs.Binary64.Order
import RecordQuery.Proofs.Pipeline.Ordering

/-!
# Ties between values

Values that do not compare tie in the order for sorting, and so does a double with every integer that
is rounded to it. Such a tie may lie between two values of which one comes before the other, and then
the order is not transitive. In all other cases it is a total order with ties.

Values compare if they are of one family. Within a family their order is that of places in a lawful
order, with the exception of numbers: integers have an order of their own, which is finer than that of
the doubles that they are rounded to.

## Main definitions

* `Value.Family`, `Value.family?`: what compares with each other.
* `Value.Blurs`: whether a value ties with two values of which the second comes before the first.

## Main statements

* `Value.compare?_swap`, `Value.sortOrder_swap`: comparing the other way round.
* `Value.compare?_isSome_iff`: which values compare.
* `Value.sortOrder_trans_iff`: where the order for sorting is transitive.
* `SortKey.ordersTotally_iff`: which items a key orders totally.
-/

namespace RecordQuery

/-! ## Comparing the other way round -/

theorem Binary64.compare?_swap (x y : Binary64) :
    y.compare? x = (x.compare? y).map Ordering.swap := by
  unfold compare?
  cases x.orderKey? with
  | none => cases y.orderKey? <;> rfl
  | some i =>
    cases y.orderKey? with
    | none => rfl
    | some j => exact congrArg some Std.OrientedOrd.eq_swap

theorem Guid.compare_swap (g h : Guid) : h.compare g = (g.compare h).swap :=
  Std.OrientedOrd.eq_swap

theorem DateTime.compare_swap (d e : DateTime) : e.compare d = (d.compare e).swap := by
  rw [compare, compare, Ordering.swap_then, ← Std.OrientedOrd.eq_swap, ← Std.OrientedOrd.eq_swap]

namespace Value

variable {a b c v : Value} {x : Binary64} {i j : Int}

theorem double?_double (x : Binary64) : (double x).double? = some x := rfl

theorem compare?_double_left (x : Binary64) (b : Value) :
    (double x).compare? b = b.double?.bind x.compare? := by
  unfold compare?
  split
  case h_2 => rfl
  case h_3 =>
    rw [double?_double]
    cases double? _ <;> rfl
  all_goals simp_all

theorem compare?_double_right (a : Value) (y : Binary64) :
    a.compare? (double y) = ((double y).compare? a).map Ordering.swap := by
  rw [compare?_double_left]
  unfold compare?
  split
  case h_3 x _ =>
    rw [double?_double, double?_double]
    exact Binary64.compare?_swap y x
  case h_4 =>
    rw [double?_double]
    cases double? _ with
    | none => rfl
    | some x => exact Binary64.compare?_swap y x
  all_goals simp_all [double?, int?]

theorem compare?_swap (a b : Value) : b.compare? a = (a.compare? b).map Ordering.swap := by
  cases a with
  | double x => exact compare?_double_right b x
  | _ =>
    cases b with
    | double y =>
      rw [compare?_double_right, Option.map_map]
      simp [Function.comp_def]
    | guid h => first | exact congrArg some (Guid.compare_swap _ _) | rfl
    | dateTime e => first | exact congrArg some (DateTime.compare_swap _ _) | rfl
    | _ => first | exact congrArg some Std.OrientedOrd.eq_swap | rfl

/-- Values that are exchanged are ordered the other way round. -/
theorem sortOrder_swap (a b : Value) : b.sortOrder a = (a.sortOrder b).swap := by
  unfold sortOrder
  rw [compare?_swap a b]
  cases a.isNull <;> cases b.isNull <;> try rfl
  cases a.compare? b <;> rfl

/-! ## Families -/

/-- What compares with each other: numbers of all types, or the values of one other type. -/
inductive Family where
  | number
  | truth
  | text
  | guid
  | instant
  deriving DecidableEq

/-- The type of the values of a family; numbers are compared as doubles unless both are integers. -/
def Family.type : Family → PrimitiveType
  | number => .double
  | truth => .boolean
  | text => .string
  | guid => .guid
  | instant => .dateTime

/-- The family of a value. Null, NaN, collections and complex values compare with nothing. -/
def family? : Value → Option Family
  | int16 _ | int32 _ | int64 _ => some .number
  | double x => if x.isNaN then none else some .number
  | bool _ => some .truth
  | string _ => some .text
  | guid _ => some .guid
  | dateTime _ => some .instant
  | null | collection _ | complex _ => none

theorem number_iff : v.family? = some .number ↔
    (∃ n, v.int? = some n) ∨ ∃ x, v = double x ∧ x.isNaN = false := by
  cases v with
  | double x => cases number : x.isNaN <;> simp [family?, number, int?]
  | _ => simp [family?, int?]

theorem double?_of_int? (h : v.int? = some i) : v.double? = some (.ofInt i) := by
  cases v with
  | int16 | int32 | int64 => exact congrArg (Option.map Binary64.ofInt) h
  | _ => cases h

theorem compare?_double_isSome_iff :
    ((double x).compare? v).isSome ↔ x.isNaN = false ∧ v.family? = some .number := by
  rw [compare?_double_left]
  cases number : x.isNaN with
  | true => cases v.double? <;> simp [Binary64.compare?_of_isNaN, number]
  | false =>
    cases v with
    | double y =>
      cases number' : y.isNaN <;>
        simp [double?, family?, Binary64.compare?_of_isNaN, Binary64.compare?_eq, number, number']
    | int16 | int32 | int64 =>
      rw [double?_of_int? rfl]
      simp [family?, Binary64.compare?_eq number (Binary64.isNaN_ofInt _)]
    | _ => simp [double?, int?, family?]

/-- Values compare if they are of one family. -/
theorem compare?_isSome_iff : (a.compare? b).isSome ↔ ∃ f, a.family? = some f ∧ b.family? = some f := by
  cases a with
  | double x =>
    rw [compare?_double_isSome_iff]
    cases number : x.isNaN <;> simp [family?, number]
  | _ =>
    cases b with
    | double y =>
      rw [compare?_double_right, Option.isSome_map, compare?_double_isSome_iff]
      cases number : y.isNaN <;> simp [family?, number]
    | _ => simp [compare?, family?, int?]

theorem ne_null_of_family? {f : Family} (h : v.family? = some f) : v ≠ null := by
  rintro rfl
  cases h

theorem sortOrder_of_compare? {order : Ordering} (h : a.compare? b = some order) :
    a.sortOrder b = order := by
  obtain ⟨f, ha, hb⟩ := compare?_isSome_iff.1 (by rw [h]; rfl)
  rw [sortOrder_of_ne (ne_null_of_family? ha) (ne_null_of_family? hb), h, Option.getD_some]

/-! ## Numbers -/

/-- The place among doubles of a number, which an integer is rounded for. -/
def place (v : Value) : Int := (v.double?.map Binary64.place).getD 0

theorem place_of_int? (h : v.int? = some i) : v.place = (Binary64.ofInt i).place := by
  rw [place, double?_of_int? h, Option.map_some, Option.getD_some]

theorem place_double (x : Binary64) : (double x).place = x.place := rfl

theorem compare?_of_int? (ha : a.int? = some i) (hb : b.int? = some j) :
    a.compare? b = some (compare i j) := by
  cases a <;> cases ha <;> cases b <;> cases hb <;> rfl

/-- A number compares with a double by its place. -/
theorem compare?_double (ha : a.family? = some .number) (number : x.isNaN = false) :
    a.compare? (double x) = some (compare a.place (double x).place) := by
  rw [compare?_double_right, compare?_double_left, place_double]
  obtain ⟨i, int⟩ | ⟨y, rfl, number'⟩ := number_iff.1 ha
  · rw [double?_of_int? int, place_of_int? int, Option.bind_some,
      Binary64.compare?_eq number (Binary64.isNaN_ofInt i), Option.map_some,
      ← Std.OrientedOrd.eq_swap]
  · rw [double?_double, place_double, Option.bind_some, Binary64.compare?_eq number number',
      Option.map_some, ← Std.OrientedOrd.eq_swap]

/-- Two numbers are both integers and compare as such, or compare by their places. -/
theorem compare?_numbers (ha : a.family? = some .number) (hb : b.family? = some .number) :
    (∃ i j, a.int? = some i ∧ b.int? = some j ∧ a.compare? b = some (compare i j)) ∨
      a.compare? b = some (compare a.place b.place) := by
  obtain ⟨i, left⟩ | ⟨x, rfl, number⟩ := number_iff.1 ha
  · obtain ⟨j, right⟩ | ⟨y, rfl, number⟩ := number_iff.1 hb
    · exact .inl ⟨i, j, left, right, compare?_of_int? left right⟩
    · exact .inr (compare?_double ha number)
  · right
    rw [compare?_swap b, compare?_double hb number, Option.map_some, ← Std.OrientedOrd.eq_swap]

theorem place_le_of_sortOrder (ha : a.family? = some .number) (hb : b.family? = some .number)
    (le : a.sortOrder b ≠ .gt) : a.place ≤ b.place := by
  obtain ⟨i, j, left, right, order⟩ | order := compare?_numbers ha hb
  · rw [sortOrder_of_compare? order, ne_eq, Int.compare_eq_gt, not_lt] at le
    rw [place_of_int? left, place_of_int? right]
    exact Binary64.place_ofInt_mono le
  · rwa [sortOrder_of_compare? order, ne_eq, Int.compare_eq_gt, not_lt] at le

/-! ## Ties that are no equalities -/

/-- `b.Blurs a c`: the value `b` ties with `a` and with `c` in the order for sorting, although `c`
comes before `a`. It compares with neither of them, or both are integers that are rounded to it. -/
inductive Blurs : Value → Value → Value → Prop
  | stranger {a b c : Value} (apart : a.compare? c = some .gt) (notNull : b ≠ null)
      (other : b.family? ≠ a.family?) : Blurs b a c
  | rounded {a c : Value} {x : Binary64} {i j : Int} (left : a.int? = some i)
      (right : c.int? = some j) (apart : j < i) (meets : (Binary64.ofInt i).same x)
      (meets' : (Binary64.ofInt j).same x) : Blurs (double x) a c

/-- The order for sorting is transitive on numbers as long as no two integers are rounded to a double
between them. -/
theorem blurs_of_numbers (ha : a.family? = some .number) (hb : b.family? = some .number)
    (hc : c.family? = some .number) (ab : a.sortOrder b ≠ .gt) (bc : b.sortOrder c ≠ .gt)
    (ac : a.sortOrder c = .gt) : b.Blurs a c := by
  have left := place_le_of_sortOrder ha hb ab
  have right := place_le_of_sortOrder hb hc bc
  obtain ⟨i, j, hi, hj, order⟩ | order := compare?_numbers ha hc
  · rw [sortOrder_of_compare? order, Int.compare_eq_gt] at ac
    have back := Binary64.place_ofInt_mono ac.le
    rw [← place_of_int? hi, ← place_of_int? hj] at back
    obtain ⟨k, hk⟩ | ⟨x, rfl, number⟩ := number_iff.1 hb
    · -- an integer between them would order them
      rw [sortOrder_of_compare? (compare?_of_int? hi hk), ne_eq, Int.compare_eq_gt] at ab
      rw [sortOrder_of_compare? (compare?_of_int? hk hj), ne_eq, Int.compare_eq_gt] at bc
      omega
    · have same : ∀ {v : Value} {n}, v.int? = some n → v.place = (double x).place →
          (Binary64.ofInt n).same x := by
        intro v n int eq
        rw [Binary64.same, Binary64.compare?_eq (Binary64.isNaN_ofInt n) number,
          ← place_of_int? int, eq, place_double]
        simp
      exact .rounded hi hj ac (same hi (by omega)) (same hj (by omega))
  · rw [sortOrder_of_compare? order, Int.compare_eq_gt] at ac
    omega

/-- The values of a family other than numbers are of one type. -/
theorem orderable_of_family? {f : Family} (h : v.family? = some f) (ne : f ≠ .number) :
    v.Orderable f.type := by
  cases v with
  | int16 | int32 | int64 =>
    cases h
    exact (ne rfl).elim
  | double x =>
    obtain ⟨-, same⟩ := Option.ite_none_left_eq_some.1 h
    cases same
    exact (ne rfl).elim
  | bool | string | guid | dateTime =>
    cases h
    exact ⟨.inr rfl, nofun⟩
  | null | collection | complex => cases h

/-- Values of one family are in order, but for doubles between integers. -/
theorem blurs_of_family? {f : Family} (ha : a.family? = some f) (hb : b.family? = some f)
    (hc : c.family? = some f) (ab : a.sortOrder b ≠ .gt) (bc : b.sortOrder c ≠ .gt)
    (ac : a.sortOrder c = .gt) : b.Blurs a c := by
  by_cases number : f = .number
  · subst number
    exact blurs_of_numbers ha hb hc ab bc ac
  · have orderable : ∀ v ∈ [a, b, c], v.Orderable f.type := by
      simp [orderable_of_family? ha number, orderable_of_family? hb number,
        orderable_of_family? hc number]
    have total := sortOrder_ordersTotally orderable
    exact (total.trans a (by simp) b (by simp) c (by simp) ab bc ac).elim

/-- Where the order for sorting is not transitive, no value is null. -/
theorem ne_null_of_not_trans (ab : a.sortOrder b ≠ .gt) (bc : b.sortOrder c ≠ .gt)
    (ac : a.sortOrder c = .gt) : a ≠ null ∧ b ≠ null ∧ c ≠ null := by
  have ha : a ≠ null := by
    rintro rfl
    rw [sortOrder_null_left] at ac
    split at ac <;> cases ac
  have hb : b ≠ null := by
    rintro rfl
    simp [isNull_of_ne ha] at ab
  refine ⟨ha, hb, ?_⟩
  rintro rfl
  simp [isNull_of_ne hb] at bc

theorem sortOrder_of_family?_ne (ha : a ≠ null) (hb : b ≠ null) (other : b.family? ≠ a.family?) :
    a.sortOrder b = .eq := by
  have none : a.compare? b = none := by
    rw [← Option.not_isSome_iff_eq_none, compare?_isSome_iff]
    rintro ⟨f, left, right⟩
    exact other (right.trans left.symm)
  rw [sortOrder_of_ne ha hb, none, Option.getD_none]

/-- A value that blurs two values ties with both. -/
theorem Blurs.ties (h : b.Blurs a c) :
    a.sortOrder b = .eq ∧ b.sortOrder c = .eq ∧ a.sortOrder c = .gt := by
  cases h with
  | stranger apart notNull other =>
    obtain ⟨f, ha, hc⟩ := compare?_isSome_iff.1 (by rw [apart]; rfl)
    refine ⟨sortOrder_of_family?_ne (ne_null_of_family? ha) notNull other,
      sortOrder_of_family?_ne notNull (ne_null_of_family? hc) ?_, sortOrder_of_compare? apart⟩
    rw [hc, ← ha]
    exact other.symm
  | @rounded _ _ x i j left right apart meets meets' =>
    have tie : ∀ {v : Value} {n}, v.int? = some n → (Binary64.ofInt n).same x →
        v.sortOrder (double x) = .eq := by
      intro v n int meets
      refine sortOrder_of_compare? ?_
      rw [compare?_double_right, compare?_double_left, double?_of_int? int, Option.bind_some,
        ← Binary64.compare?_swap]
      exact eq_of_beq meets
    refine ⟨tie left meets, ?_, sortOrder_of_compare? ?_⟩
    · rw [sortOrder_swap c, tie right meets']
      rfl
    · rw [compare?_of_int? left right, Int.compare_eq_gt.2 apart]

/-- The order for sorting is transitive, unless the value in the middle blurs the others. -/
theorem sortOrder_trans_iff (a b c : Value) :
    (a.sortOrder b ≠ .gt → b.sortOrder c ≠ .gt → a.sortOrder c ≠ .gt) ↔ ¬ b.Blurs a c := by
  constructor
  · intro trans blurs
    obtain ⟨ab, bc, ac⟩ := blurs.ties
    exact trans (by simp [ab]) (by simp [bc]) ac
  · intro clear ab bc ac
    obtain ⟨ha, hb, hc⟩ := ne_null_of_not_trans ab bc ac
    have apart : a.compare? c = some .gt := by
      rw [sortOrder_of_ne ha hc] at ac
      cases found : a.compare? c <;> simp_all
    refine clear ?_
    obtain ⟨f, left, right⟩ := compare?_isSome_iff.1 (by rw [apart]; rfl)
    by_cases same : b.family? = a.family?
    · exact blurs_of_family? left (same.trans left) right ab bc ac
    · exact .stranger apart hb same

end Value

/-! ## Keys -/

/-- A key orders items totally, in either direction, unless a value of it blurs two others. -/
theorem SortKey.ordersTotally_iff {α : Type} (k : SortKey α) (items : List α) :
    OrdersTotally k.compare items ↔
      ∀ a ∈ items, ∀ b ∈ items, ∀ c ∈ items, ¬ (k.key b).Blurs (k.key a) (k.key c) := by
  have ascending : OrdersTotally (fun a b => (k.key a).sortOrder (k.key b)) items ↔
      ∀ a ∈ items, ∀ b ∈ items, ∀ c ∈ items, ¬ (k.key b).Blurs (k.key a) (k.key c) := by
    simp only [← Value.sortOrder_trans_iff]
    exact ⟨fun total => total.trans, fun trans => ⟨fun a _ b _ => Value.sortOrder_swap _ _, trans⟩⟩
  rw [← ascending]
  obtain ⟨direction, key⟩ := k
  cases direction with
  | ascending => exact Iff.rfl
  | descending =>
    refine ⟨fun total => ?_, OrdersTotally.reverse⟩
    simpa [SortKey.compare, OrderDirection.apply] using total.reverse

/-- The order for sorting is a total order with ties on values, and a key that gives such values orders
items totally, unless one value blurs two others: then it ties with both. -/
theorem Value.sortOrder_total_iff_not_blurs {α : Type} (k : SortKey α) (items : List α)
    (a b c : Value) :
    b.sortOrder a = (a.sortOrder b).swap ∧
    ((a.sortOrder b ≠ .gt → b.sortOrder c ≠ .gt → a.sortOrder c ≠ .gt) ↔ ¬ b.Blurs a c) ∧
    (OrdersTotally k.compare items ↔
      ∀ a ∈ items, ∀ b ∈ items, ∀ c ∈ items, ¬ (k.key b).Blurs (k.key a) (k.key c)) :=
  ⟨sortOrder_swap a b, sortOrder_trans_iff a b c, k.ordersTotally_iff items⟩

/-- NaN ties with two and with one, so that two stays before one. The double of `2 ^ 53` ties with
that integer and the next one. -/
theorem Value.sortOrder_not_transitive :
    (¬ ∀ a b c : Value, a.sortOrder b ≠ .gt → b.sortOrder c ≠ .gt → a.sortOrder c ≠ .gt) ∧
    ((Pipeline.ofItems [double ⟨0x4000000000000000⟩, double .nan,
      double ⟨0x3FF0000000000000⟩]).orderBy ⟨.ascending, id⟩).execute =
        [double ⟨0x4000000000000000⟩, double .nan, double ⟨0x3FF0000000000000⟩] ∧
    (double ⟨0x4340000000000000⟩).Blurs (int64 9007199254740993) (int64 9007199254740992) := by
  refine ⟨fun trans => ?_, ?_, ?_⟩
  · exact absurd (trans (double ⟨0x4000000000000000⟩) (double .nan) (double ⟨0x3FF0000000000000⟩)
      (by decide) (by decide)) (by decide)
  · rfl
  · exact .rounded rfl rfl (by decide) (by decide +kernel) (by decide +kernel)

end RecordQuery
