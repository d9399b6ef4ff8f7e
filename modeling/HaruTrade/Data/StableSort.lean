import Mathlib.Data.List.Sort

/-!
# Sorting by a key

`sortOn key` is Python's `sorted` with a key: the keys do not fall, and elements with one key keep
the order that they had. `IsStableSort` says what a stable sort of a list is without naming a
sorting algorithm; `isStableSort_sortOn` connects the two. Without equal keys the order of the list that
is sorted does not matter (`sortOn_eq_of_perm`). A part of a list is sorted as it stands in
the sorted list (`filter_sortOn_eq`), and a part that is a range of the keys stands there in one piece
(`isInfix_filter`). Of a strictly ordered list, the first elements are those that few elements are below
(`mem_take_iff_countP_lt`), and the last ones those that all others are below
(`drop_eq_of_forall_lt`).
-/

namespace HaruTrade

variable {α κ : Type} [LinearOrder κ]

/-- `sorted(l, key=key)`. Source: none: infrastructure. Kind: D -/
def sortOn (key : α → κ) (l : List α) : List α := l.insertionSort fun a b => key a ≤ key b

/-- What a stable sort of a list is: a list of the same elements, in the order of their keys, in
which the elements of one key stand as in the list that was sorted.
Source: none: infrastructure. Kind: D -/
structure IsStableSort (key : α → κ) (l sorted : List α) : Prop where
  perm : sorted.Perm l
  ordered : sorted.Pairwise fun a b => key a ≤ key b
  stable : ∀ k, (sorted.filter fun a => key a = k) = l.filter fun a => key a = k

variable {key : α → κ} {l : List α} {a : α}

/-- Inserting an element puts it before the elements of its key.
Source: none: infrastructure. Kind: L -/
theorem filter_orderedInsert (k : κ) :
    ((l.orderedInsert (fun a b => key a ≤ key b) a).filter fun b => key b = k) =
      (a :: l).filter fun b => key b = k := by
  induction l with
  | nil => rfl
  | cons b l ih =>
      by_cases hab : key a ≤ key b
      · rw [List.orderedInsert_cons_of_le (fun a b => key a ≤ key b) l hab]
      · rw [List.orderedInsert_of_not_le (fun a b => key a ≤ key b) l hab, List.filter_cons, ih]
        by_cases ha : key a = k
        · have hb : key b ≠ k := fun hb => hab (ha.trans hb.symm).le
          simp [ha, hb]
        · simp [List.filter_cons, ha]

theorem filter_sortOn (k : κ) :
    ((sortOn key l).filter fun a => key a = k) = l.filter fun a => key a = k := by
  unfold sortOn
  induction l with
  | nil => rfl
  | cons a l ih =>
      rw [List.insertionSort_cons, filter_orderedInsert, List.filter_cons, ih, List.filter_cons]

theorem pairwise_sortOn : (sortOn key l).Pairwise fun a b => key a ≤ key b :=
  have : IsTrans α fun a b => key a ≤ key b := ⟨fun _ _ _ => le_trans⟩
  have : Std.Total fun a b => key a ≤ key b := ⟨fun a b => le_total (key a) (key b)⟩
  List.pairwise_insertionSort _ l

/-- **`sortOn` is a stable sort.** Source: none: infrastructure. Kind: L -/
theorem isStableSort_sortOn : IsStableSort key l (sortOn key l) where
  perm := List.perm_insertionSort _ l
  ordered := pairwise_sortOn
  stable := filter_sortOn

/-- `sorted(l, key=key, reverse=reverse)`: also the reverse order keeps the order of equal keys.
Source: none: infrastructure. Kind: D -/
def sortBy (reverse : Bool) (key : α → κ) (l : List α) : List α :=
  if reverse then sortOn (OrderDual.toDual ∘ key) l else sortOn key l

theorem perm_sortBy {reverse : Bool} : (sortBy reverse key l).Perm l := by
  unfold sortBy
  split_ifs
  · exact isStableSort_sortOn.perm
  · exact isStableSort_sortOn.perm

theorem pairwise_sortBy {reverse : Bool} : (sortBy reverse key l).Pairwise fun a b =>
    if reverse then key b ≤ key a else key a ≤ key b := by
  unfold sortBy
  split_ifs
  · have hdual : (sortOn (OrderDual.toDual ∘ key) l).Pairwise fun a b =>
        (OrderDual.toDual ∘ key) a ≤ (OrderDual.toDual ∘ key) b := pairwise_sortOn
    exact hdual
  · exact pairwise_sortOn

/-- Sorting a list by a key makes the key rise exactly when no key is there twice.
Source: none: infrastructure. Kind: L -/
theorem pairwise_lt_sortOn_iff :
    ((sortOn key l).Pairwise fun a b => key a < key b) ↔ (l.map key).Nodup := by
  have hsort : IsStableSort key l (sortOn key l) := isStableSort_sortOn
  rw [← (hsort.perm.map key).nodup_iff, List.Nodup, List.pairwise_map]
  constructor
  · exact fun h => h.imp ne_of_lt
  · exact fun h => (hsort.ordered.and h).imp fun hab => lt_of_le_of_ne hab.1 hab.2

/-- **Sorting forgets the order** of a list in which no key is there twice.
Source: none: infrastructure. Kind: L -/
theorem sortOn_eq_of_perm {l' : List α} (h : l.Perm l') (hkeys : (l.map key).Nodup) :
    sortOn key l = sortOn key l' := by
  have hsort : IsStableSort key l (sortOn key l) := isStableSort_sortOn
  have hsort' : IsStableSort key l' (sortOn key l') := isStableSort_sortOn
  refine List.Perm.eq_of_pairwise (fun a b ha hb hab hba => ?_) hsort.ordered hsort'.ordered
    (hsort.perm.trans (h.trans hsort'.perm.symm))
  have ha : a ∈ l := hsort.perm.mem_iff.mp ha
  have hb : b ∈ l := h.mem_iff.mpr (hsort'.perm.mem_iff.mp hb)
  exact List.inj_on_of_nodup_map hkeys ha hb (le_antisymm hab hba)

/-! ## Parts of a sorted list -/

section parts

variable {p : α → Bool}

/-- An element that is not above any other goes to the front. Source: none: infrastructure.
Kind: L -/
theorem orderedInsert_of_forall_le (h : ∀ b ∈ l, key a ≤ key b) :
    l.orderedInsert (fun a b => key a ≤ key b) a = a :: l := by
  cases l with
  | nil => rfl
  | cons b l =>
      exact List.orderedInsert_cons_of_le (fun a b => key a ≤ key b) l (h b List.mem_cons_self)

/-- Inserting into a sorted list and taking a part commute. Source: none: infrastructure.
Kind: L -/
theorem filter_orderedInsert_of_pairwise (hl : l.Pairwise fun a b => key a ≤ key b) :
    (l.orderedInsert (fun a b => key a ≤ key b) a).filter p =
      if p a then (l.filter p).orderedInsert (fun a b => key a ≤ key b) a else l.filter p := by
  induction l with
  | nil =>
      by_cases ha : p a = true
      · simp [ha]
      · simp [ha]
  | cons b l ih =>
      obtain ⟨hb, hl⟩ := List.pairwise_cons.mp hl
      by_cases hab : key a ≤ key b
      · have hall : ∀ c ∈ (b :: l).filter p, key a ≤ key c := by
          intro c hc
          rcases List.mem_cons.mp (List.mem_filter.mp hc).1 with rfl | hc
          · exact hab
          · exact hab.trans (hb c hc)
        rw [List.orderedInsert_cons_of_le (fun a b => key a ≤ key b) l hab,
          orderedInsert_of_forall_le hall, List.filter_cons]
      · rw [List.orderedInsert_of_not_le (fun a b => key a ≤ key b) l hab, List.filter_cons, ih hl,
          List.filter_cons]
        by_cases hpb : p b = true
        · rw [if_pos hpb, if_pos hpb,
            List.orderedInsert_of_not_le (fun a b => key a ≤ key b) (l.filter p) hab]
          split_ifs
          · rfl
          · rfl
        · rw [if_neg hpb, if_neg hpb]

/-- **A part is sorted as it stands in the sorted list.** Source: none: infrastructure. Kind: P -/
theorem filter_sortOn_eq : (sortOn key l).filter p = sortOn key (l.filter p) := by
  induction l with
  | nil => rfl
  | cons a l ih =>
      have hsorted : (sortOn key l).Pairwise fun a b => key a ≤ key b := pairwise_sortOn
      unfold sortOn at ih hsorted ⊢
      rw [List.insertionSort_cons, filter_orderedInsert_of_pairwise hsorted, ih, List.filter_cons]
      split_ifs
      · rfl
      · rfl

/-- **The first elements of a strictly ordered list** are those that few elements are below.
Source: none: infrastructure. Kind: P -/
theorem mem_take_iff_countP_lt {l : List κ} (hl : l.Pairwise (· < ·)) {n : ℕ} {k : κ} :
    k ∈ l.take n ↔ k ∈ l ∧ (l.countP (· < k)) < n := by
  induction l generalizing n with
  | nil => simp
  | cons a l ih =>
      obtain ⟨ha, hl⟩ := List.pairwise_cons.mp hl
      cases n with
      | zero => simp
      | succ n =>
          rw [List.take_succ_cons, List.mem_cons, List.mem_cons, ih hl, List.countP_cons]
          constructor
          · rintro (rfl | ⟨hk, hcount⟩)
            · have hnone : l.countP (· < k) = 0 := by
                rw [List.countP_eq_zero]
                intro b hb
                simpa using (ha b hb).le
              exact ⟨Or.inl rfl, by simp [hnone]⟩
            · exact ⟨Or.inr hk, by simpa [ha k hk] using hcount⟩
          · rintro ⟨rfl | hk, hcount⟩
            · exact Or.inl rfl
            · exact Or.inr ⟨hk, by simpa [ha k hk] using hcount⟩

/-- **The last elements of a strictly ordered list** are those that all others are below.
Source: none: infrastructure. Kind: P -/
theorem drop_eq_of_forall_lt {last : List α} (hl : l.Pairwise fun a b => key a < key b)
    (hlast : last.Pairwise fun a b => key a < key b) (hsub : ∀ a ∈ last, a ∈ l)
    (hbelow : ∀ a ∈ l, a ∉ last → ∀ b ∈ last, key a < key b) :
    l.drop (l.length - last.length) = last := by
  classical
  let front := l.filter fun a => a ∉ last
  have hfront : ∀ a, a ∈ front ↔ a ∈ l ∧ a ∉ last := by
    intro a
    rw [List.mem_filter, decide_eq_true_eq]
  have hordered : (front ++ last).Pairwise fun a b => key a < key b := by
    rw [List.pairwise_append]
    refine ⟨hl.filter _, hlast, fun a ha b hb => ?_⟩
    obtain ⟨ha, hout⟩ := (hfront a).mp ha
    exact hbelow a ha hout b hb
  have hnodup : ∀ {m : List α}, (m.Pairwise fun a b => key a < key b) → m.Nodup :=
    fun hm => hm.imp fun hab heq => absurd (congrArg key heq) (ne_of_lt hab)
  have hperm : (front ++ last).Perm l := by
    rw [List.perm_ext_iff_of_nodup (hnodup hordered) (hnodup hl)]
    intro a
    rw [List.mem_append, hfront]
    constructor
    · rintro (⟨ha, -⟩ | ha)
      · exact ha
      · exact hsub a ha
    · intro ha
      by_cases hin : a ∈ last
      · exact Or.inr hin
      · exact Or.inl ⟨ha, hin⟩
  have heq : front ++ last = l :=
    hperm.eq_of_pairwise (fun a b _ _ hab hba => absurd hba (not_lt_of_gt hab)) hordered hl
  rw [← heq, List.length_append, Nat.add_sub_cancel]
  exact List.drop_left

variable (hrange : ∀ a b c, key a ≤ key b → key b ≤ key c → p a = true → p c = true → p b = true)
include hrange

/-- After an element of a range, the rest of the range comes first.
Source: none: infrastructure. Kind: L -/
theorem isPrefix_filter (ha : p a = true) (hl : (a :: l).Pairwise fun a b => key a ≤ key b) :
    l.filter p <+: l := by
  induction l with
  | nil => exact List.prefix_rfl
  | cons b l ih =>
      obtain ⟨hle, hl⟩ := List.pairwise_cons.mp hl
      by_cases hb : p b = true
      · rw [List.filter_cons_of_pos hb, List.prefix_cons_inj]
        have hrest : (a :: l).Pairwise fun a b => key a ≤ key b :=
          List.pairwise_cons.mpr ⟨fun c hc => hle c (List.mem_cons_of_mem b hc),
            (List.pairwise_cons.mp hl).2⟩
        exact ih hrest
      · -- what is outside the range is past it
        have hnone : (b :: l).filter p = [] := by
          rw [List.filter_eq_nil_iff]
          intro c hc hpc
          rcases List.mem_cons.mp hc with rfl | hmem
          · exact hb hpc
          · exact hb (hrange a b c (hle b List.mem_cons_self) ((List.pairwise_cons.mp hl).1 c hmem)
              ha hpc)
        rw [hnone]
        exact List.nil_prefix

/-- **A range of the keys stands in one piece** in a sorted list. Source: none: infrastructure.
Kind: P -/
theorem isInfix_filter (hl : l.Pairwise fun a b => key a ≤ key b) : l.filter p <:+: l := by
  induction l with
  | nil => exact List.infix_rfl
  | cons a l ih =>
      by_cases ha : p a = true
      · rw [List.filter_cons_of_pos ha]
        exact ((List.prefix_cons_inj a).mpr (isPrefix_filter hrange ha hl)).isInfix
      · rw [List.filter_cons_of_neg ha]
        exact (ih (List.pairwise_cons.mp hl).2).trans (List.suffix_cons a l).isInfix

end parts

end HaruTrade
