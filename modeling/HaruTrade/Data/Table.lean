import Mathlib.Algebra.BigOperators.Group.List.Basic
import Mathlib.Data.List.Nodup
import Mathlib.Tactic.Abel

/-!
# Tables with a primary key

A `Table key` is a finite list of rows no two of which have the same `key`; the uniqueness is a
field, so an update that would break it cannot be written. Nothing here names a particular schema.

* `get?` — the row with a given key; `mem_iff_get?` says that a table is its look-up function.
* `modify` — change the row with a given key by a key-preserving function.
* `add` — insert a row under a fresh natural-number key (`fresh` is above every key in use).
* `upsert` — change the row that has the new row's key, or insert the new row.
* `total` — the sum of a quantity over the rows, with what each update does to it.
-/

/-- Rows with pairwise different keys. Source: none: infrastructure. Kind: D -/
structure Table {κ α : Type} (key : α → κ) where
  /-- The rows, in insertion order. -/
  rows : List α
  /-- The key is a primary key. -/
  nodup : (rows.map key).Nodup

namespace Table

variable {κ α : Type} {key : α → κ}

/-- The table without rows. Source: none: infrastructure. Kind: D -/
def empty : Table key := ⟨[], List.nodup_nil⟩

/-- The rows that satisfy `p`, in insertion order (a `SELECT ... WHERE`).
Source: none: infrastructure. Kind: D -/
def select (t : Table key) (p : α → Bool) : List α := t.rows.filter p

/-- Rows of a table with the same key are the same row. Source: none: infrastructure. Kind: L -/
theorem eq_of_key_eq {t : Table key} {a b : α} (ha : a ∈ t.rows) (hb : b ∈ t.rows)
    (h : key a = key b) : a = b :=
  List.inj_on_of_nodup_map t.nodup ha hb h

theorem eq_of_rows_eq {t t' : Table key} (h : t.rows = t'.rows) : t = t' := by
  obtain ⟨rows, nodup⟩ := t
  obtain ⟨rows', nodup'⟩ := t'
  obtain rfl : rows = rows' := h
  rfl

theorem nodup_select {t : Table key} {p : α → Bool} : ((t.select p).map key).Nodup :=
  t.nodup.sublist (List.filter_sublist.map key)

section lookup

variable [DecidableEq κ]

/-- The row with key `k` (a `SELECT` by primary key). Source: none: infrastructure. Kind: D -/
def get? (t : Table key) (k : κ) : Option α := t.rows.find? fun a => key a = k

theorem get?_eq_some_iff {t : Table key} {k : κ} {a : α} :
    t.get? k = some a ↔ a ∈ t.rows ∧ key a = k := by
  constructor
  · intro h
    exact ⟨List.mem_of_find?_eq_some h, by simpa using List.find?_some h⟩
  · rintro ⟨ha, rfl⟩
    cases h : t.get? (key a) with
    | none =>
        have hne : ¬ key a = key a := by simpa using List.find?_eq_none.mp h a ha
        exact absurd rfl hne
    | some b =>
        have hb : b ∈ t.rows := List.mem_of_find?_eq_some h
        have hk : key b = key a := by simpa using List.find?_some h
        rw [eq_of_key_eq hb ha hk]

theorem get?_eq_none_iff {t : Table key} {k : κ} : t.get? k = none ↔ ∀ a ∈ t.rows, key a ≠ k := by
  simp [get?, List.find?_eq_none]

/-- A table is its look-up function. Source: none: infrastructure. Kind: L -/
theorem mem_iff_get? {t : Table key} {a : α} : a ∈ t.rows ↔ t.get? (key a) = some a := by
  simp [get?_eq_some_iff]

/-- **A table whose rows are changed in place** is the changed rows, in their order.
Source: none: infrastructure. Kind: L -/
theorem rows_eq_map {t t' : Table key} {f : α → α} (hkeys : t'.rows.map key = t.rows.map key)
    (hget : ∀ k, t'.get? k = (t.get? k).map f) : t'.rows = t.rows.map f := by
  have hlen : t'.rows.length = t.rows.length := by
    have h := congrArg List.length hkeys
    rwa [List.length_map, List.length_map] at h
  refine List.ext_getElem (by rw [List.length_map, hlen]) fun i hi hi' => ?_
  rw [List.length_map] at hi'
  have hkey : key t'.rows[i] = key t.rows[i] := by
    have h := List.getElem_of_eq hkeys (by rwa [List.length_map])
    rwa [List.getElem_map, List.getElem_map] at h
  have hnew : t'.get? (key t.rows[i]) = some t'.rows[i] :=
    get?_eq_some_iff.mpr ⟨List.getElem_mem hi, hkey⟩
  rw [hget, mem_iff_get?.mp (List.getElem_mem hi'), Option.map_some] at hnew
  rw [List.getElem_map]
  exact (Option.some.inj hnew).symm

@[simp] theorem get?_empty {k : κ} : (empty : Table key).get? k = none := rfl

/-- Change the row with key `k` (an `UPDATE` by primary key).
Source: none: infrastructure. Kind: D -/
def modify (t : Table key) (k : κ) (f : α → α) (hf : ∀ a, key (f a) = key a) : Table key where
  rows := t.rows.map fun a => if key a = k then f a else a
  nodup := by
    have h : (key ∘ fun a => if key a = k then f a else a) = key := by
      funext a
      by_cases ha : key a = k <;> simp [ha, hf]
    rw [List.map_map, h]
    exact t.nodup

theorem mem_modify {t : Table key} {k : κ} {f : α → α} {hf : ∀ a, key (f a) = key a} {b : α} :
    b ∈ (t.modify k f hf).rows ↔ ∃ a ∈ t.rows, (if key a = k then f a else a) = b := by
  simp [modify]

theorem get?_modify {t : Table key} {k j : κ} {f : α → α} {hf : ∀ a, key (f a) = key a} :
    (t.modify k f hf).get? j = if j = k then (t.get? j).map f else t.get? j := by
  ext b
  rw [get?_eq_some_iff, mem_modify]
  by_cases hjk : j = k
  · subst hjk
    simp only [if_true, Option.map_eq_some_iff, get?_eq_some_iff]
    constructor
    · rintro ⟨⟨a, ha, rfl⟩, hb⟩
      by_cases hak : key a = j
      · exact ⟨a, ⟨ha, hak⟩, by simp [hak]⟩
      · simp [hak] at hb
    · rintro ⟨a, ⟨ha, rfl⟩, rfl⟩
      exact ⟨⟨a, ha, by simp⟩, hf a⟩
  · simp only [hjk, if_false, get?_eq_some_iff]
    constructor
    · rintro ⟨⟨a, ha, rfl⟩, hb⟩
      by_cases hak : key a = k
      · simp only [hak, if_true, hf] at hb
        exact absurd (hb.symm) hjk
      · simpa [hak] using ⟨ha, by simpa [hak] using hb⟩
    · rintro ⟨hb, rfl⟩
      exact ⟨⟨b, hb, by simp [hjk]⟩, rfl⟩

@[simp] theorem get?_modify_self {t : Table key} {k : κ} {f : α → α}
    {hf : ∀ a, key (f a) = key a} : (t.modify k f hf).get? k = (t.get? k).map f := by
  simp [get?_modify]

/-- Insert a row whose key is not in use. Source: none: infrastructure. Kind: D -/
def insert (t : Table key) (a : α) (h : t.get? (key a) = none) : Table key where
  rows := t.rows ++ [a]
  nodup := by
    rw [List.map_append, List.nodup_append]
    refine ⟨t.nodup, by simp, ?_⟩
    intro k hk j hj hkj
    obtain ⟨b, hb, rfl⟩ := List.mem_map.mp hk
    obtain rfl : j = key a := by simpa using hj
    exact get?_eq_none_iff.mp h b hb hkj

theorem get?_insert {t : Table key} {a : α} {h : t.get? (key a) = none} {k : κ} :
    (t.insert a h).get? k = if k = key a then some a else t.get? k := by
  by_cases hk : k = key a
  · subst hk
    simp [get?_eq_some_iff, insert]
  · simp [get?, insert, List.find?_append, hk, Ne.symm hk]

/-- Change the row that has `a`'s key by `f`, or insert `a`.
Source: none: infrastructure. Kind: D -/
def upsert (t : Table key) (a : α) (f : α → α) (hf : ∀ b, key (f b) = key b) : Table key :=
  match h : t.get? (key a) with
  | none => t.insert a h
  | some _ => t.modify (key a) f hf

theorem get?_upsert {t : Table key} {a : α} {f : α → α} {hf : ∀ b, key (f b) = key b} {k : κ} :
    (t.upsert a f hf).get? k = if k = key a then some ((t.get? k).elim a f) else t.get? k := by
  unfold upsert
  by_cases hk : k = key a
  · subst hk
    rw [if_pos rfl]
    split
    · next h => rw [get?_insert, if_pos rfl, h, Option.elim_none]
    · next b h => rw [get?_modify_self, h, Option.map_some, Option.elim_some]
  · rw [if_neg hk]
    split
    · rw [get?_insert, if_neg hk]
    · rw [get?_modify, if_neg hk]

/-- A row with a new key goes to the end. Source: none: infrastructure. Kind: L -/
theorem rows_upsert_of_none {t : Table key} {a : α} {f : α → α} {hf : ∀ b, key (f b) = key b}
    (h : t.get? (key a) = none) : (t.upsert a f hf).rows = t.rows ++ [a] := by
  unfold upsert
  split
  · rfl
  · next b hb =>
      rw [h] at hb
      cases hb

/-- A key that is in use keeps its place. Source: none: infrastructure. Kind: L -/
theorem rows_upsert_of_some {t : Table key} {a b : α} {f : α → α} {hf : ∀ b, key (f b) = key b}
    (h : t.get? (key a) = some b) :
    (t.upsert a f hf).rows = t.rows.map fun c => if key c = key a then f c else c := by
  unfold upsert
  split
  · next hnone =>
      rw [h] at hnone
      cases hnone
  · rfl

end lookup

/-! ## Fresh keys -/

section fresh

variable {key : α → ℕ}

/-- The next key of an autoincrement column. Source: none: infrastructure. Kind: D -/
def fresh (t : Table key) : ℕ := t.rows.foldr (fun a n => max (key a + 1) n) 1

theorem key_lt_fresh {t : Table key} {a : α} (h : a ∈ t.rows) : key a < t.fresh := by
  suffices ∀ l : List α, a ∈ l → key a < l.foldr (fun a n => max (key a + 1) n) 1 from this _ h
  intro l
  induction l with
  | nil => simp
  | cons b l ih =>
      intro hm
      rcases List.mem_cons.mp hm with rfl | hm
      · exact lt_of_lt_of_le (Nat.lt_succ_self _) (le_max_left _ _)
      · exact lt_of_lt_of_le (ih hm) (le_max_right _ _)

theorem get?_fresh {t : Table key} : t.get? t.fresh = none :=
  get?_eq_none_iff.mpr fun _ ha => (key_lt_fresh ha).ne

/-- Insert a row under a fresh key (an `INSERT` with an autoincrement key).
Source: none: infrastructure. Kind: D -/
def add (t : Table key) (mk : ℕ → α) (hmk : ∀ n, key (mk n) = n) : Table key :=
  t.insert (mk t.fresh) (by rw [hmk]; exact get?_fresh)

theorem rows_add {t : Table key} {mk : ℕ → α} {hmk : ∀ n, key (mk n) = n} :
    (t.add mk hmk).rows = t.rows ++ [mk t.fresh] := rfl

theorem get?_add {t : Table key} {mk : ℕ → α} {hmk : ∀ n, key (mk n) = n} {k : ℕ} :
    (t.add mk hmk).get? k = if k = t.fresh then some (mk t.fresh) else t.get? k := by
  rw [add, get?_insert, hmk]

end fresh

/-! ## Totals -/

section total

variable {M : Type} [AddCommGroup M]

/-- The sum of `f` over the rows. Source: none: infrastructure. Kind: D -/
def total (t : Table key) (f : α → M) : M := (t.rows.map f).sum

theorem total_add {key : α → ℕ} {t : Table key} {mk : ℕ → α} {hmk : ∀ n, key (mk n) = n}
    {f : α → M} : (t.add mk hmk).total f = t.total f + f (mk t.fresh) := by
  simp [total, rows_add]

variable [DecidableEq κ]

/-- Changing one row changes the total by what the row's share changes.
Source: none: infrastructure. Kind: L -/
theorem total_modify {t : Table key} {k : κ} {g : α → α} {hg : ∀ a, key (g a) = key a} {a : α}
    (h : t.get? k = some a) (f : α → M) :
    (t.modify k g hg).total f = t.total f + (f (g a) - f a) := by
  obtain ⟨ha, hk⟩ := get?_eq_some_iff.mp h
  obtain ⟨l₁, l₂, hl⟩ := List.append_of_mem ha
  have hnd := t.nodup
  rw [hl, List.map_append, List.map_cons, List.nodup_middle, List.nodup_cons] at hnd
  have hother : ∀ b ∈ l₁ ++ l₂, (if key b = k then g b else b) = b := by
    intro b hb
    have hne : key b ≠ k := by
      rintro hbk
      exact hnd.1 (by rw [hk, ← hbk, ← List.map_append]; exact List.mem_map_of_mem hb)
    simp [hne]
  have hsame : ∀ l : List α, (∀ b ∈ l, b ∈ l₁ ++ l₂) →
      l.map (fun b => if key b = k then g b else b) = l := by
    intro l hl
    exact (List.map_congr_left fun b hb => hother b (hl b hb)).trans l.map_id'
  have h₁ := hsame l₁ fun b hb => List.mem_append_left _ hb
  have h₂ := hsame l₂ fun b hb => List.mem_append_right _ hb
  simp only [total, modify, hl, List.map_append, List.map_cons, h₁, h₂, hk, if_true,
    List.sum_append, List.sum_cons]
  abel

end total

end Table
