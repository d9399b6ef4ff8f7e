import Mathlib.Data.List.Dedup
import Mathlib.Data.List.Sort

/-!
# The last item of every key, in the order of the keys

A dict is filled from a list, so that a later item takes the place of an earlier one with its key, and is
read out in the order of its keys: `[by_key[k] for k in sorted(by_key.keys())]`. Nothing here names a
particular program.

* `sortedSet` — the keys that are read out, and `lastByKey` — the items.
* `pairwise_lastByKey` — their keys are in order and distinct, and `map_key_lastByKey` says which.
* `lastByKey_perm` — with distinct keys nothing is lost.
* `length_lastByKey_append` — of two lists with distinct keys nothing is lost exactly when they share none.
-/

namespace HaruTrade

variable {α κ : Type} [LinearOrder κ] {key : α → κ} {l l' : List α} {a : α} {k : κ}

/-- `sorted(set(ks))`. Source: none: infrastructure. Kind: D -/
def sortedSet (ks : List κ) : List κ := ks.dedup.insertionSort (· ≤ ·)

/-- `sorted(by_key.keys())`. Source: none: infrastructure. Kind: D -/
def sortedKeys (key : α → κ) (l : List α) : List κ := sortedSet (l.map key)

/-- `[by_key[k] for k in sorted(by_key.keys())]`. Source: none: infrastructure. Kind: D -/
def lastByKey (key : α → κ) (l : List α) : List α :=
  (sortedKeys key l).filterMap fun k => l.reverse.find? fun a => key a = k

theorem mem_sortedSet {ks : List κ} : k ∈ sortedSet ks ↔ k ∈ ks := by
  unfold sortedSet
  rw [List.mem_insertionSort, List.mem_dedup]

theorem pairwise_sortedSet {ks : List κ} : (sortedSet ks).Pairwise (· < ·) := by
  have hle := List.pairwise_insertionSort (· ≤ ·) ks.dedup
  have hnodup : (sortedSet ks).Nodup :=
    (List.perm_insertionSort _ _).nodup_iff.mpr (List.nodup_dedup ks)
  exact (hle.and hnodup).imp fun h => lt_of_le_of_ne h.1 h.2

theorem nodup_sortedSet {ks : List κ} : (sortedSet ks).Nodup :=
  pairwise_sortedSet.imp fun h => h.ne

/-- What is in order and distinct already stays as it is. Source: none: infrastructure. Kind: L -/
theorem sortedSet_eq_self {ks : List κ} (h : ks.Pairwise (· < ·)) : sortedSet ks = ks := by
  have hnodup : ks.Nodup := h.imp fun hlt => hlt.ne
  unfold sortedSet
  rw [hnodup.dedup]
  exact List.Pairwise.insertionSort_eq (h.imp fun hlt => hlt.le)

theorem mem_sortedKeys : k ∈ sortedKeys key l ↔ ∃ a ∈ l, key a = k :=
  mem_sortedSet.trans List.mem_map

/-- Only the keys of the items count. Source: none: infrastructure. Kind: L -/
theorem lastByKey_congr {key' : α → κ} (h : ∀ a ∈ l, key a = key' a) :
    lastByKey key l = lastByKey key' l := by
  have hkeys : l.map key = l.map key' := List.map_congr_left h
  unfold lastByKey sortedKeys
  rw [hkeys]
  refine List.filterMap_congr fun k _ => ?_
  rw [← List.head?_filter, ← List.head?_filter]
  refine congrArg List.head? (List.filter_congr fun a ha => ?_)
  rw [h a (List.mem_reverse.mp ha)]

/-- Every key has a last item. Source: none: infrastructure. Kind: L -/
theorem exists_find?_reverse (h : ∃ a ∈ l, key a = k) :
    ∃ a ∈ l, key a = k ∧ (l.reverse.find? fun a => key a = k) = some a := by
  obtain ⟨a, ha, hkey⟩ := h
  cases hfind : l.reverse.find? fun a => decide (key a = k) with
  | none =>
      have hne := List.find?_eq_none.mp hfind a (List.mem_reverse.mpr ha)
      exact absurd hkey (by simpa using hne)
  | some b =>
      exact ⟨b, List.mem_reverse.mp (List.mem_of_find?_eq_some hfind),
        by simpa using List.find?_some hfind, rfl⟩

theorem map_key_lastByKey : (lastByKey key l).map key = sortedKeys key l := by
  unfold lastByKey
  rw [List.map_filterMap]
  refine (List.filterMap_congr ?_).trans List.filterMap_some
  intro k hk
  obtain ⟨a, -, hkey, hfind⟩ := exists_find?_reverse (mem_sortedKeys.mp hk)
  rw [hfind, Option.map_some, hkey]

/-- **The items come in the order of their keys**, one for each. Source: none: infrastructure. Kind: L -/
theorem pairwise_lastByKey : ((lastByKey key l).map key).Pairwise (· < ·) := by
  rw [map_key_lastByKey]
  exact pairwise_sortedSet

theorem nodup_map_lastByKey : ((lastByKey key l).map key).Nodup :=
  pairwise_lastByKey.imp fun h => h.ne

theorem mem_of_mem_lastByKey (h : a ∈ lastByKey key l) : a ∈ l := by
  obtain ⟨k, -, hfind⟩ := List.mem_filterMap.mp h
  exact List.mem_reverse.mp (List.mem_of_find?_eq_some hfind)

theorem length_lastByKey : (lastByKey key l).length = (l.map key).dedup.length := by
  have hlen : ((lastByKey key l).map key).length = (sortedKeys key l).length :=
    congrArg List.length map_key_lastByKey
  rw [List.length_map] at hlen
  rw [hlen]
  exact List.length_insertionSort _ _

/-- **With distinct keys nothing is lost.** Source: none: infrastructure. Kind: L -/
theorem lastByKey_perm (h : (l.map key).Nodup) : (lastByKey key l).Perm l := by
  have hsub : (lastByKey key l).Subperm l :=
    List.subperm_of_subset (List.Nodup.of_map key nodup_map_lastByKey) fun _ => mem_of_mem_lastByKey
  refine hsub.perm_of_length_le ?_
  rw [length_lastByKey, h.dedup, List.length_map]

/-- **Of two lists with distinct keys** nothing is lost exactly when they share no key.
Source: none: infrastructure. Kind: L -/
theorem length_lastByKey_append (h : (l.map key).Nodup) (h' : (l'.map key).Nodup) :
    (lastByKey key (l ++ l')).length = l.length + l'.length ↔
      ∀ a ∈ l, ∀ b ∈ l', key a ≠ key b := by
  rw [length_lastByKey, ← List.length_append, ← List.length_map key, List.map_append]
  constructor
  · intro hlen a ha b hb
    have hnodup : (l.map key ++ l'.map key).Nodup := by
      rw [← (List.dedup_sublist _).eq_of_length hlen]
      exact List.nodup_dedup _
    exact (List.nodup_append.mp hnodup).2.2 _ (List.mem_map_of_mem ha) _ (List.mem_map_of_mem hb)
  · intro hne
    have hnodup : (l.map key ++ l'.map key).Nodup := by
      refine List.nodup_append.mpr ⟨h, h', fun k hk k' hk' => ?_⟩
      obtain ⟨a, ha, rfl⟩ := List.mem_map.mp hk
      obtain ⟨b, hb, rfl⟩ := List.mem_map.mp hk'
      exact hne a ha b hb
    rw [hnodup.dedup]

end HaruTrade
