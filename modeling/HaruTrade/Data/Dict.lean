import HaruTrade.Data.Table

/-!
# Python dicts

A `Dict κ α` is a table of key and value in the order of insertion. Nothing here names a particular
program.

* `find?`, `set`, `popAll` — `d.get(key)`, `d[key] = value`, and `d.pop(key, None)` for some keys.
* `find?_set`, `find?_popAll` — a dict is its look-up function.
* `length_set`, `length_popAll` — how many keys are left.
* `sumValues_set_succ` — a dict of counts.
-/

namespace HaruTrade

/-- A Python `dict`. Source: none: infrastructure. Kind: D -/
abbrev Dict (κ α : Type) := Table (Prod.fst : κ × α → κ)

namespace Dict

variable {κ α : Type} [DecidableEq κ] {d : Dict κ α} {k j : κ} {a : α} {ks : List κ}

/-- `d.get(key)`. Source: none: infrastructure. Kind: D -/
def find? (d : Dict κ α) (k : κ) : Option α := (d.get? k).map Prod.snd

/-- `d[key] = value`: a key that is in the dict keeps its place. Source: none: infrastructure.
Kind: D -/
def set (d : Dict κ α) (k : κ) (a : α) : Dict κ α :=
  d.upsert (k, a) (fun e => (e.1, if e.1 = k then a else e.2)) fun _ => rfl

/-- `d.pop(key, None)` for every one of the keys. Source: none: infrastructure. Kind: D -/
def popAll (d : Dict κ α) (ks : List κ) : Dict κ α where
  rows := d.rows.filter fun e => e.1 ∉ ks
  nodup := d.nodup.sublist (List.filter_sublist.map Prod.fst)

theorem find?_eq_some_iff : find? d k = some a ↔ (k, a) ∈ d.rows := by
  unfold find?
  rw [Option.map_eq_some_iff]
  constructor
  · rintro ⟨e, he, rfl⟩
    obtain ⟨hmem, rfl⟩ := Table.get?_eq_some_iff.mp he
    exact hmem
  · intro h
    exact ⟨(k, a), Table.get?_eq_some_iff.mpr ⟨h, rfl⟩, rfl⟩

@[simp] theorem find?_empty : find? (Table.empty : Dict κ α) k = none := rfl

theorem find?_set : find? (set d k a) j = if j = k then some a else find? d j := by
  unfold find? set
  rw [Table.get?_upsert]
  by_cases hjk : j = k
  · subst hjk
    rw [if_pos rfl, if_pos rfl]
    cases h : d.get? j with
    | none => rfl
    | some e =>
        obtain ⟨-, rfl⟩ := Table.get?_eq_some_iff.mp h
        simp
  · rw [if_neg hjk, if_neg hjk]

@[simp] theorem find?_set_self : find? (set d k a) k = some a := by
  rw [find?_set, if_pos rfl]

theorem find?_set_of_ne (h : j ≠ k) : find? (set d k a) j = find? d j := by
  rw [find?_set, if_neg h]

theorem find?_popAll : find? (popAll d ks) k = if k ∈ ks then none else find? d k := by
  ext a
  rw [find?_eq_some_iff]
  unfold popAll
  rw [List.mem_filter]
  by_cases h : k ∈ ks
  · simp [h]
  · simp [h, find?_eq_some_iff]

/-- What is still in the dict was in it before. Source: none: infrastructure. Kind: L -/
theorem find?_of_popAll (h : find? (popAll d ks) k = some a) : find? d k = some a := by
  rw [find?_popAll] at h
  split_ifs at h
  exact h

/-! ## Lengths -/

/-- Only a new key makes a dict longer. Source: none: infrastructure. Kind: L -/
theorem length_set (h : find? d k ≠ none) : (set d k a).rows.length = d.rows.length := by
  unfold set Table.upsert
  split
  · next hnone =>
      refine absurd ?_ h
      unfold find?
      rw [hnone]
      rfl
  · exact List.length_map _

/-- Every key that is in the dict makes it shorter by one. Source: none: infrastructure. Kind: L -/
theorem length_popAll (hks : ks.Nodup) (hmem : ∀ k ∈ ks, k ∈ d.rows.map Prod.fst) :
    (popAll d ks).rows.length + ks.length = d.rows.length := by
  have hperm : ((d.rows.map Prod.fst).filter (· ∈ ks)).Perm ks := by
    refine (List.perm_ext_iff_of_nodup (d.nodup.filter _) hks).mpr fun k => ?_
    rw [List.mem_filter, decide_eq_true_eq]
    exact ⟨And.right, fun h => ⟨hmem k h, h⟩⟩
  have hkept : (popAll d ks).rows.length = (d.rows.map Prod.fst).countP fun k => ¬ k ∈ ks := by
    unfold popAll
    rw [List.countP_map, List.countP_eq_length_filter]
    rfl
  have hsplit := List.length_eq_countP_add_countP (fun k => decide (k ∈ ks))
    (l := d.rows.map Prod.fst)
  rw [List.length_map, List.countP_eq_length_filter, hperm.length_eq] at hsplit
  rw [hkept, hsplit, add_comm]
  simp

/-! ## Counters -/

/-- `sum(d.values())`. Source: none: infrastructure. Kind: D -/
def sumValues (d : Dict κ ℕ) : ℕ := (d.rows.map Prod.snd).sum

omit [DecidableEq κ] in
theorem cast_sumValues (d : Dict κ ℕ) : (sumValues d : ℤ) = d.total fun e => (e.2 : ℤ) := by
  unfold sumValues Table.total
  induction d.rows with
  | nil => rfl
  | cons e rows ih =>
      rw [List.map_cons, List.sum_cons, List.map_cons, List.sum_cons, Nat.cast_add, ih]

/-- **Counting a key**, `d[key] = d.get(key, 0) + 1`, makes the sum of the values greater by one.
Source: none: infrastructure. Kind: L -/
theorem sumValues_set_succ (d : Dict κ ℕ) (k : κ) :
    sumValues (set d k ((find? d k).getD 0 + 1)) = sumValues d + 1 := by
  have hcast : (sumValues (set d k ((find? d k).getD 0 + 1)) : ℤ) = sumValues d + 1 := by
    rw [cast_sumValues, cast_sumValues]
    unfold set Table.upsert
    split
    · next hnone =>
        have hfind : find? d k = none := by
          unfold find?
          rw [hnone]
          rfl
        rw [hfind]
        simp [Table.total, Table.insert]
    · next e hsome =>
        have hfind : find? d k = some e.2 := by
          unfold find?
          rw [hsome]
          rfl
        have hkey : e.1 = k := (Table.get?_eq_some_iff.mp hsome).2
        rw [Table.total_modify hsome, hfind, if_pos hkey]
        simp
  exact_mod_cast hcast

end Dict

end HaruTrade
