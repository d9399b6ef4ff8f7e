import Mathlib.Algebra.GroupWithZero.Nat
import HaruTrade.Data.Dict

/-!
# Grouping by a key, and reading in pages

A dict is filled from a list by `grouped.setdefault(key(x), []).append(x)`; a list is read in slices
`l[offset:offset + limit]`. Nothing here names a particular program.

* `grouped` — the dict; `mem_grouped` says which groups it has.
* `perm_grouped` — **every element is in one group**, once; `sum_grouped` — what is summed over the groups.
* `page` — a slice; `flatMap_page` — pages of one size, read one after the other, are the list.
-/

namespace HaruTrade

/-! ## Groups -/

section groups

variable {α κ β : Type} [DecidableEq κ] {key : α → κ} {l rows : List α} {d : Dict κ (List α)} {k : κ}

/-- `grouped.setdefault(key(a), []).append(a)`. Source: none: infrastructure. Kind: D -/
def groupTurn (key : α → κ) (d : Dict κ (List α)) (a : α) : Dict κ (List α) :=
  Dict.set d (key a) ((Dict.find? d (key a)).getD [] ++ [a])

/-- The groups of a list. Source: none: infrastructure. Kind: D -/
def grouped (key : α → κ) (l : List α) : Dict κ (List α) := l.foldl (groupTurn key) Table.empty

theorem find?_foldl_groupTurn :
    Dict.find? (l.foldl (groupTurn key) d) k =
      if k ∈ l.map key then some ((Dict.find? d k).getD [] ++ l.filter fun a => key a = k)
      else Dict.find? d k := by
  induction l generalizing d with
  | nil => rfl
  | cons a l ih =>
      rw [List.foldl_cons, ih]
      unfold groupTurn
      rw [Dict.find?_set, List.map_cons, List.filter_cons]
      by_cases hk : k = key a
      · subst hk
        rw [if_pos rfl, if_pos List.mem_cons_self, decide_eq_true rfl, if_pos rfl, Option.getD_some,
          List.append_assoc, List.singleton_append]
        split_ifs with hmem
        · rfl
        · -- no further element of the group
          have hnil : l.filter (fun b => key b = key a) = [] :=
            List.filter_eq_nil_iff.mpr fun b hb hkey =>
              hmem (of_decide_eq_true hkey ▸ List.mem_map_of_mem hb)
          rw [hnil]
      · rw [if_neg hk, decide_eq_false (Ne.symm hk), if_neg Bool.false_ne_true]
        have hmem : k ∈ key a :: l.map key ↔ k ∈ l.map key := by
          rw [List.mem_cons, or_iff_right hk]
        simp only [hmem]

/-- **The groups** of a list: one for every key, with the elements of that key in their order.
Source: none: infrastructure. Kind: L -/
theorem mem_grouped :
    (k, rows) ∈ (grouped key l).rows ↔ k ∈ l.map key ∧ rows = l.filter fun a => key a = k := by
  rw [← Dict.find?_eq_some_iff]
  unfold grouped
  rw [find?_foldl_groupTurn]
  split_ifs with hmem
  · rw [Dict.find?_empty, Option.getD_none, List.nil_append, Option.some.injEq]
    exact ⟨fun h => ⟨hmem, h.symm⟩, fun h => h.2.symm⟩
  · rw [Dict.find?_empty]
    exact ⟨fun h => absurd h.symm (Option.some_ne_none rows), fun h => absurd h.1 hmem⟩

/-- The elements of different keys that are all there are. Source: none: infrastructure. Kind: L -/
theorem flatMap_filter_perm {ks : List κ} (hks : ks.Nodup) (hmem : ∀ a ∈ l, key a ∈ ks) :
    (ks.flatMap fun k => l.filter fun a => key a = k).Perm l := by
  induction ks generalizing l with
  | nil =>
      have hnil : l = [] := List.eq_nil_iff_forall_not_mem.mpr fun a ha => List.not_mem_nil (hmem a ha)
      rw [hnil]
      exact List.Perm.refl _
  | cons k ks ih =>
      rw [List.nodup_cons] at hks
      rw [List.flatMap_cons]
      have hrest : (ks.flatMap fun j => l.filter fun a => key a = j) =
          ks.flatMap fun j => (l.filter fun a => ¬ key a = k).filter fun a => key a = j := by
        refine List.flatMap_congr fun j hj => ?_
        rw [List.filter_filter]
        refine List.filter_congr fun a _ => ?_
        by_cases hkey : key a = j
        · have hne : key a ≠ k := fun hk => hks.1 (hk.symm.trans hkey ▸ hj)
          simp [hkey, hkey ▸ hne]
        · simp [hkey]
      rw [hrest]
      have hperm := ih (l := l.filter fun a => ¬ key a = k) hks.2 fun a ha => by
        obtain ⟨hal, hne⟩ := List.mem_filter.mp ha
        exact (List.mem_cons.mp (hmem a hal)).resolve_left (of_decide_eq_true hne)
      refine (hperm.append_left _).trans ?_
      simpa using List.filter_append_perm (fun a => decide (key a = k)) l

/-- **Every element is in one group**, once. Source: none: infrastructure. Kind: P -/
theorem perm_grouped : ((grouped key l).rows.flatMap Prod.snd).Perm l := by
  have hrows : (grouped key l).rows.flatMap Prod.snd =
      ((grouped key l).rows.map Prod.fst).flatMap fun k => l.filter fun a => key a = k := by
    rw [List.flatMap_map]
    refine List.flatMap_congr fun e he => ?_
    exact (mem_grouped.mp he).2
  rw [hrows]
  refine flatMap_filter_perm (grouped key l).nodup fun a ha => ?_
  exact List.mem_map_of_mem (f := Prod.fst) (mem_grouped.mpr ⟨List.mem_map_of_mem ha, rfl⟩)

/-- A sum of sums over the groups is the sum over the list. Source: none: infrastructure. Kind: L -/
theorem sum_grouped [AddCommMonoid β] (f : α → β) :
    ((grouped key l).rows.map fun e => (e.2.map f).sum).sum = (l.map f).sum := by
  have hperm : (((grouped key l).rows.flatMap Prod.snd).map f).Perm (l.map f) := perm_grouped.map f
  rw [← hperm.sum_eq, List.map_flatMap, List.flatMap_def, List.sum_flatten, List.map_map]
  rfl

end groups

/-! ## Pages -/

section pages

variable {α : Type} {l : List α} {n size : ℕ}

/-- `l[offset:offset + limit]`. Source: none: infrastructure. Kind: D -/
def page (offset limit : ℕ) (l : List α) : List α := (l.drop offset).take limit

/-- The first pages, read one after the other. Source: none: infrastructure. Kind: L -/
theorem flatMap_page_eq_take :
    ((List.range n).flatMap fun i => page (i * size) size l) = l.take (n * size) := by
  induction n with
  | zero => rw [Nat.zero_mul, List.take_zero, List.range_zero, List.flatMap_nil]
  | succ n ih =>
      rw [List.range_succ, List.flatMap_append, ih, List.flatMap_singleton, Nat.succ_mul, List.take_add]
      rfl

/-- **The pages of a list**, read one after the other, are the list. Source: none: infrastructure.
Kind: P -/
theorem flatMap_page (h : l.length ≤ n * size) :
    ((List.range n).flatMap fun i => page (i * size) size l) = l := by
  rw [flatMap_page_eq_take, List.take_of_length_le h]

end pages

end HaruTrade
