import RecordQuery.Pipeline.Sort

/-!
# Stable sorting

What it means to sort items so that ties keep their order, for a comparison that is a total order
with ties on the items at hand. There is just one result, and the insertion sort gives it.

The sort holds its items from the last to the first. An insertion keeps them sorted, and it puts the
new item behind all items that it ties with: an item that it passes is greater than it.

## Main definitions

* `OrdersTotally`: whether a comparison is a total order with ties on some items.
* `SortsStably`: whether a list is another one sorted, with ties in their old order.

## Main statements

* `OrdersTotally.lex`, `OrdersTotally.reverse`: orders made of orders.
* `SortsStably.unique`: there is one result of sorting.
* `insertionSort_sortsStably`: the insertion sort gives it.
-/

namespace RecordQuery

variable {α : Type} {order : α → α → Ordering} {items : List α}

/-! ## Orders with ties -/

/-- Whether a comparison is a total order with ties on some items. -/
structure OrdersTotally (order : α → α → Ordering) (items : List α) : Prop where
  swap : ∀ a ∈ items, ∀ b ∈ items, order b a = (order a b).swap
  trans : ∀ a ∈ items, ∀ b ∈ items, ∀ c ∈ items, order a b ≠ .gt → order b c ≠ .gt →
    order a c ≠ .gt

namespace OrdersTotally

theorem subset {part : List α} (h : OrdersTotally order items) (sub : ∀ a ∈ part, a ∈ items) :
    OrdersTotally order part where
  swap a ha b hb := h.swap a (sub a ha) b (sub b hb)
  trans a ha b hb c hc := h.trans a (sub a ha) b (sub b hb) c (sub c hc)

theorem refl (h : OrdersTotally order items) {a : α} (ha : a ∈ items) : order a a = .eq := by
  have swap := h.swap a ha a ha
  cases eq : order a a <;> simp_all

theorem ne_gt_of_ne_lt (h : OrdersTotally order items) {a b : α} (ha : a ∈ items) (hb : b ∈ items)
    (not_lt : order a b ≠ .lt) : order b a ≠ .gt := by
  rw [h.swap a ha b hb]
  cases eq : order a b <;> simp_all

theorem eq_of_ne_gt (h : OrdersTotally order items) {a b : α} (ha : a ∈ items) (hb : b ∈ items)
    (ab : order a b ≠ .gt) (ba : order b a ≠ .gt) : order a b = .eq := by
  rw [h.swap a ha b hb] at ba
  cases eq : order a b <;> simp_all

/-- Items that tie compare in the same way with any other item. -/
theorem congr (h : OrdersTotally order items) {a b c : α} (ha : a ∈ items) (hb : b ∈ items)
    (hc : c ∈ items) (tie : order a b = .eq) : order a c = order b c := by
  have back : order b a = .eq := by rw [h.swap a ha b hb, tie]; rfl
  have ca := h.swap a ha c hc
  have cb := h.swap b hb c hc
  have abc := h.trans a ha b hb c hc
  have bac := h.trans b hb a ha c hc
  have cab := h.trans c hc a ha b hb
  have cba := h.trans c hc b hb a ha
  cases hac : order a c <;> cases hbc : order b c <;> simp_all

theorem lt_of_lt_of_ne_gt (h : OrdersTotally order items) {a b c : α} (ha : a ∈ items)
    (hb : b ∈ items) (hc : c ∈ items) (ab : order a b = .lt) (bc : order b c ≠ .gt) :
    order a c = .lt := by
  cases ac : order a c with
  | lt => rfl
  | eq =>
    have swap := h.swap b hb c hc
    rw [← h.congr ha hc hb ac, ab] at swap
    cases bc' : order b c with
    | gt => exact (bc bc').elim
    | _ => simp [bc'] at swap
  | gt => exact (h.trans a ha b hb c hc (by simp [ab]) bc ac).elim

/-- Whatever maps items to a lawful order compares them totally. -/
theorem of_compare {κ : Type} [Ord κ] [Std.TransOrd κ] (f : α → κ)
    (h : ∀ a ∈ items, ∀ b ∈ items, order a b = compare (f a) (f b)) :
    OrdersTotally order items where
  swap a ha b hb := by
    rw [h a ha b hb, h b hb a ha]
    exact Std.OrientedCmp.eq_swap
  trans a ha b hb c hc ab bc := by
    rw [h a ha b hb] at ab
    rw [h b hb c hc] at bc
    rw [h a ha c hc]
    exact Ordering.ne_gt_iff_isLE.2
      (Std.TransCmp.isLE_trans (Ordering.ne_gt_iff_isLE.1 ab) (Ordering.ne_gt_iff_isLE.1 bc))

theorem comap {β : Type} (f : β → α) {sources : List β}
    (h : OrdersTotally order (sources.map f)) :
    OrdersTotally (fun a b => order (f a) (f b)) sources where
  swap _ ha _ hb := h.swap _ (List.mem_map_of_mem ha) _ (List.mem_map_of_mem hb)
  trans _ ha _ hb _ hc := h.trans _ (List.mem_map_of_mem ha) _ (List.mem_map_of_mem hb) _
    (List.mem_map_of_mem hc)

theorem ties (items : List α) : OrdersTotally (fun _ _ => .eq) items where
  swap _ _ _ _ := rfl
  trans _ _ _ _ _ _ _ _ := nofun

theorem reverse (h : OrdersTotally order items) :
    OrdersTotally (fun a b => (order a b).swap) items where
  swap a ha b hb := by rw [h.swap a ha b hb]
  trans a ha b hb c hc ab bc := by
    rw [← h.swap a ha b hb] at ab
    rw [← h.swap b hb c hc] at bc
    rw [← h.swap a ha c hc]
    exact h.trans c hc b hb a ha bc ab

/-- The lexicographic order of two orders. -/
theorem lex {next : α → α → Ordering} (h : OrdersTotally order items)
    (h' : OrdersTotally next items) :
    OrdersTotally (fun a b => (order a b).then (next a b)) items where
  swap a ha b hb := by rw [h.swap a ha b hb, h'.swap a ha b hb, Ordering.swap_then]
  trans a ha b hb c hc ab bc := by
    cases hab : order a b with
    | lt =>
      have le : order b c ≠ .gt := by
        intro gt
        simp [gt] at bc
      simp [h.lt_of_lt_of_ne_gt ha hb hc hab le]
    | eq =>
      rw [h.congr ha hb hc hab]
      cases hbc : order b c with
      | lt => simp
      | eq =>
        simp only [hab, hbc, Ordering.eq_then] at ab bc ⊢
        exact h'.trans a ha b hb c hc ab bc
      | gt => simp [hbc] at bc
    | gt => simp [hab] at ab

end OrdersTotally

/-! ## Sorting -/

/-- Whether a list is another one sorted, in which items that tie keep their order. -/
structure SortsStably (order : α → α → Ordering) (input output : List α) : Prop where
  perm : output.Perm input
  sorted : output.Pairwise fun a b => order a b ≠ .gt
  stable : ∀ a ∈ input, output.filter (order a · == .eq) = input.filter (order a · == .eq)

/-- Sorted lists with the same items in the same order among ties are equal. -/
theorem eq_of_sorted {xs ys : List α} (total : OrdersTotally order xs) (perm : xs.Perm ys)
    (xs_sorted : xs.Pairwise fun a b => order a b ≠ .gt)
    (ys_sorted : ys.Pairwise fun a b => order a b ≠ .gt)
    (stable : ∀ a ∈ xs, xs.filter (order a · == .eq) = ys.filter (order a · == .eq)) :
    xs = ys := by
  induction xs generalizing ys with
  | nil => exact perm.nil_eq
  | cons a xs ih =>
    cases ys with
    | nil => cases perm.eq_nil
    | cons b ys =>
      have ha : a ∈ a :: xs := List.mem_cons_self
      have hb : b ∈ a :: xs := perm.mem_iff.2 List.mem_cons_self
      have aa : order a a = .eq := total.refl ha
      -- both first items are least, so they tie and lead the same list of ties
      have ab : order a b = .eq := by
        refine total.eq_of_ne_gt ha hb ?_ ?_
        · rcases List.mem_cons.1 hb with rfl | hb
          · simp [aa]
          · exact (List.pairwise_cons.1 xs_sorted).1 b hb
        · rcases List.mem_cons.1 (perm.mem_iff.1 ha) with rfl | ha
          · simp [aa]
          · exact (List.pairwise_cons.1 ys_sorted).1 a ha
      have same : a = b := by
        have eq := stable a ha
        simp only [List.filter_cons, aa, ab, beq_self_eq_true, if_true, List.cons.injEq] at eq
        exact eq.1
      subst same
      congr 1
      refine ih (total.subset fun c hc => List.mem_cons_of_mem a hc) perm.cons_inv
        xs_sorted.of_cons ys_sorted.of_cons fun c hc => ?_
      have eq := stable c (List.mem_cons_of_mem a hc)
      simp only [List.filter_cons] at eq
      split at eq
      · exact (List.cons.inj eq).2
      · exact eq

theorem SortsStably.unique {input output output' : List α} (total : OrdersTotally order input)
    (h : SortsStably order input output) (h' : SortsStably order input output') :
    output = output' := by
  refine eq_of_sorted (total.subset fun a ha => h.perm.mem_iff.1 ha) (h.perm.trans h'.perm.symm)
    h.sorted h'.sorted fun a ha => ?_
  have ha := h.perm.mem_iff.1 ha
  rw [h.stable a ha, h'.stable a ha]

/-- Comparisons that agree on the items sort them alike. -/
theorem SortsStably.congr {order' : α → α → Ordering} {input output : List α}
    (same : ∀ a ∈ input, ∀ b ∈ input, order a b = order' a b) :
    SortsStably order input output ↔ SortsStably order' input output := by
  have imp : ∀ {first second : α → α → Ordering},
      (∀ a ∈ input, ∀ b ∈ input, first a b = second a b) →
      SortsStably first input output → SortsStably second input output := by
    intro first second same h
    have mem : ∀ a ∈ output, a ∈ input := fun a ha => h.perm.mem_iff.1 ha
    refine ⟨h.perm, h.sorted.imp_of_mem fun ha hb le => ?_, fun a ha => ?_⟩
    · rwa [← same _ (mem _ ha) _ (mem _ hb)]
    · have ties : ∀ b ∈ input, (second a b == .eq) = (first a b == .eq) :=
        fun b hb => by rw [same a ha b hb]
      rw [List.filter_congr ties, List.filter_congr fun b hb => ties b (mem b hb), h.stable a ha]
  exact ⟨imp same, imp fun a ha b hb => (same a ha b hb).symm⟩

/-! ## Insertion -/

theorem perm_insertBack (order : α → α → Ordering) (a : α) (sorted : List α) :
    (insertBack order a sorted).Perm (a :: sorted) := by
  induction sorted with
  | nil => exact .refl _
  | cons b rest ih =>
    unfold insertBack
    split
    · exact (ih.cons b).trans (.swap a b rest)
    · exact .refl _

theorem sorted_insertBack {a : α} {sorted : List α} (total : OrdersTotally order (a :: sorted))
    (h : sorted.Pairwise fun b c => order c b ≠ .gt) :
    (insertBack order a sorted).Pairwise fun b c => order c b ≠ .gt := by
  induction sorted with
  | nil => exact List.pairwise_singleton _ a
  | cons b rest ih =>
    obtain ⟨least, rest_sorted⟩ := List.pairwise_cons.1 h
    have ha : a ∈ a :: b :: rest := List.mem_cons_self
    have hb : b ∈ a :: b :: rest := List.mem_cons_of_mem a List.mem_cons_self
    unfold insertBack
    split
    case isTrue lt =>
      have lt : order a b = .lt := eq_of_beq lt
      refine List.pairwise_cons.2 ⟨fun c hc => ?_, ih (total.subset ?_) rest_sorted⟩
      · rcases List.mem_cons.1 ((perm_insertBack order a rest).mem_iff.1 hc) with rfl | hc
        · simp [lt]
        · exact least c hc
      · intro c hc
        rcases List.mem_cons.1 hc with rfl | hc
        · exact ha
        · exact List.mem_cons_of_mem a (List.mem_cons_of_mem b hc)
    case isFalse not_lt =>
      have ba : order b a ≠ .gt := total.ne_gt_of_ne_lt ha hb (by simpa using not_lt)
      refine List.pairwise_cons.2 ⟨fun c hc => ?_, h⟩
      rcases List.mem_cons.1 hc with rfl | hc
      · exact ba
      · have hc' : c ∈ a :: b :: rest := List.mem_cons_of_mem a (List.mem_cons_of_mem b hc)
        exact total.trans c hc' b hb a ha (least c hc) ba

/-- Among the items that tie with a given one, a new item comes last. -/
theorem filter_insertBack {a c : α} {sorted : List α}
    (total : OrdersTotally order (c :: a :: sorted)) :
    (insertBack order a sorted).filter (order c · == .eq) =
      (a :: sorted).filter (order c · == .eq) := by
  induction sorted with
  | nil => rfl
  | cons b rest ih =>
    unfold insertBack
    split
    case isFalse => rfl
    case isTrue lt =>
      have rest_total : OrdersTotally order (c :: a :: rest) := total.subset (by simp_all)
      rw [List.filter_cons, ih rest_total]
      by_cases cb : order c b = .eq
      · have ca : order c a ≠ .eq := by
          intro ca
          have eq := total.congr (c := b) (by simp) (by simp) (by simp) ca
          rw [cb, eq_of_beq lt] at eq
          cases eq
        simp [ca, cb]
      · simp [List.filter_cons, cb]

theorem perm_foldl_insertBack (order : α → α → Ordering) (more sorted : List α) :
    (more.foldl (fun sorted a => insertBack order a sorted) sorted).Perm
      (more.reverse ++ sorted) := by
  induction more generalizing sorted with
  | nil => exact .refl _
  | cons a rest ih =>
    rw [List.reverse_cons, List.append_assoc, List.singleton_append]
    exact (ih _).trans ((perm_insertBack order a sorted).append_left rest.reverse)

/-- Inserting items in turn sorts them together with those that were sorted before. All lists are
given from the last item to the first. -/
theorem foldl_insertBack (total : OrdersTotally order items) (more sorted : List α)
    (more_mem : ∀ a ∈ more, a ∈ items) (sorted_mem : ∀ a ∈ sorted, a ∈ items)
    (h : sorted.Pairwise fun b c => order c b ≠ .gt) :
    let result := more.foldl (fun sorted a => insertBack order a sorted) sorted
    result.Pairwise (fun b c => order c b ≠ .gt) ∧
      ∀ c ∈ items, result.filter (order c · == .eq) =
        (more.reverse ++ sorted).filter (order c · == .eq) := by
  induction more generalizing sorted with
  | nil => exact ⟨h, fun _ _ => rfl⟩
  | cons a rest ih =>
    obtain ⟨ha, rest_mem⟩ := List.forall_mem_cons.1 more_mem
    have inserted_mem : ∀ b ∈ insertBack order a sorted, b ∈ items := fun b hb => by
      rcases List.mem_cons.1 ((perm_insertBack order a sorted).mem_iff.1 hb) with rfl | hb
      · exact ha
      · exact sorted_mem b hb
    have here : OrdersTotally order (a :: sorted) :=
      total.subset (List.forall_mem_cons.2 ⟨ha, sorted_mem⟩)
    obtain ⟨pairwise, stable⟩ := ih _ rest_mem inserted_mem (sorted_insertBack here h)
    rw [List.reverse_cons, List.append_assoc, List.singleton_append]
    refine ⟨pairwise, fun c hc => ?_⟩
    have here : OrdersTotally order (c :: a :: sorted) :=
      total.subset (List.forall_mem_cons.2 ⟨hc, List.forall_mem_cons.2 ⟨ha, sorted_mem⟩⟩)
    exact (stable c hc).trans (by
      rw [List.filter_append, List.filter_append, filter_insertBack here])

/-- The insertion sort keeps the items, whatever the comparison is. -/
theorem perm_insertionSort (order : α → α → Ordering) (items : List α) :
    (insertionSort order items).Perm items := by
  have perm := perm_foldl_insertBack order items []
  rw [List.append_nil] at perm
  exact (List.reverse_perm _).trans (perm.trans (List.reverse_perm items))

/-- The insertion sort sorts and keeps the order of ties. -/
theorem insertionSort_sortsStably (total : OrdersTotally order items) :
    SortsStably order items (insertionSort order items) := by
  obtain ⟨pairwise, stable⟩ := foldl_insertBack total items [] (fun _ ha => ha) nofun .nil
  rw [List.append_nil] at stable
  refine ⟨perm_insertionSort order items, List.pairwise_reverse.2 pairwise, fun c hc => ?_⟩
  rw [insertionSort, List.filter_reverse, stable c hc, List.filter_reverse, List.reverse_reverse]

end RecordQuery
