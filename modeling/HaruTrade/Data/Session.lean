import Mathlib.Data.List.Sort
import HaruTrade.Data.Table

/-!
# Sessions that do not flush before a query

A `Session` is a unit of work on a table: the rows that were loaded carry changes that wait for the
commit, and so do new rows. A query without autoflush chooses the rows by the values that the
database has, and answers the objects with the values they have by now. Nothing here names a
particular schema.

* `mem_query` — what such a query answers, and `map_key_query` which rows it has seen.
* `look_foldl` — a loop each turn of which changes one row.
* `commit_eq_some_iff`, `get?_of_commit` — what a commit leaves: the pending rows and the new ones.
-/

namespace HaruTrade

/-- Source: none: infrastructure. Kind: D -/
structure Session {κ α : Type} (key : α → κ) where
  /-- The rows of the database. -/
  stored : Table key
  /-- The same rows with the changes that wait for the commit. -/
  pending : Table key
  /-- New rows that wait for the commit. -/
  added : List α
  /-- A change keeps the key of its row. -/
  same : pending.rows.map key = stored.rows.map key

namespace Session

variable {κ α : Type} {key : α → κ}

/-- A session that has changed nothing. Source: none: infrastructure. Kind: D -/
def ofTable (t : Table key) : Session key := ⟨t, t, [], rfl⟩

/-- `session.add(row)`. Source: none: infrastructure. Kind: D -/
def add (s : Session key) (a : α) : Session key := { s with added := s.added ++ [a] }

@[simp] theorem stored_add {s : Session key} {a : α} : (s.add a).stored = s.stored := rfl

@[simp] theorem pending_add {s : Session key} {a : α} : (s.add a).pending = s.pending := rfl

@[simp] theorem added_add {s : Session key} {a : α} : (s.add a).added = s.added ++ [a] := rfl

variable [DecidableEq κ]

/-- Change the attributes of one row. Source: none: infrastructure. Kind: D -/
def modify (s : Session key) (k : κ) (f : α → α) (hf : ∀ a, key (f a) = key a) : Session key where
  stored := s.stored
  pending := s.pending.modify k f hf
  added := s.added
  same := by
    rw [← s.same]
    unfold Table.modify
    rw [List.map_map]
    apply List.map_congr_left
    intro a _
    by_cases ha : key a = k
    · simp [ha, hf]
    · simp [ha]

section modify

variable {s : Session key} {k j : κ} {f : α → α}

@[simp] theorem stored_modify (hf : ∀ a, key (f a) = key a) :
    (s.modify k f hf).stored = s.stored := rfl

@[simp] theorem added_modify (hf : ∀ a, key (f a) = key a) :
    (s.modify k f hf).added = s.added := rfl

theorem get?_pending_modify (hf : ∀ a, key (f a) = key a) : (s.modify k f hf).pending.get? j =
    if j = k then (s.pending.get? j).map f else s.pending.get? j := by
  unfold modify
  rw [Table.get?_modify]

end modify

/-! ## Queries -/

/-- The object of a row, with its changes. Source: none: infrastructure. Kind: D -/
def object (s : Session key) (a : α) : α := (s.pending.get? (key a)).getD a

/-- `SELECT ... WHERE p ORDER BY le LIMIT limit` without a flush: the database's own values decide
which rows there are, and the session answers its objects. Source: none: infrastructure. Kind: D -/
def query (s : Session key) (p : α → Bool) (le : α → α → Prop) [DecidableRel le] (limit : ℕ) :
    List α :=
  (((s.stored.select p).insertionSort le).take limit).map s.object

section query

variable {s : Session key} {p : α → Bool} {le : α → α → Prop} [DecidableRel le] {limit : ℕ} {a : α}

/-- The rows of the database and the objects have the same keys.
Source: none: infrastructure. Kind: L -/
theorem isSome_get?_pending {k : κ} : (s.pending.get? k).isSome = (s.stored.get? k).isSome := by
  have hmem (t : Table key) : (t.get? k).isSome = true ↔ k ∈ t.rows.map key := by
    rw [Option.isSome_iff_exists, List.mem_map]
    exact exists_congr fun _ => Table.get?_eq_some_iff
  rw [Bool.eq_iff_iff, hmem, hmem, s.same]

theorem key_object (s : Session key) (a : α) : key (s.object a) = key a := by
  unfold object
  cases h : s.pending.get? (key a) with
  | none => rfl
  | some b => exact (Table.get?_eq_some_iff.mp h).2

/-- **The rows that a query sees** are those that the database would have answered.
Source: none: infrastructure. Kind: L -/
theorem map_key_query : (s.query p le limit).map key =
    (((s.stored.select p).insertionSort le).take limit).map key := by
  unfold query
  rw [List.map_map]
  apply List.map_congr_left
  intro a _
  exact key_object s a

theorem nodup_map_key_query : ((s.query p le limit).map key).Nodup := by
  rw [map_key_query]
  have hperm := (List.perm_insertionSort le (s.stored.select p)).map key
  exact (hperm.nodup_iff.mpr Table.nodup_select).sublist ((List.take_sublist _ _).map key)

/-- A row that a query answers is stored with its condition. Source: none: infrastructure. Kind: L -/
theorem exists_of_mem_query (h : a ∈ s.query p le limit) :
    s.pending.get? (key a) = some a ∧ ∃ b, s.stored.get? (key a) = some b ∧ p b = true := by
  obtain ⟨b, hb, rfl⟩ := List.mem_map.mp h
  obtain ⟨hb, hp⟩ := List.mem_filter.mp ((List.mem_insertionSort le).mp (List.mem_of_mem_take hb))
  have hstored : s.stored.get? (key b) = some b := Table.mem_iff_get?.mp hb
  rw [key_object s]
  refine ⟨?_, b, hstored, hp⟩
  have hsome : (s.pending.get? (key b)).isSome = true := by
    rw [isSome_get?_pending, hstored]
    rfl
  obtain ⟨c, hc⟩ := Option.isSome_iff_exists.mp hsome
  rw [object, hc]
  rfl

/-- **Below its limit** a query answers the object of every row that is stored with its condition.
Source: none: infrastructure. Kind: L -/
theorem mem_query (hlimit : s.stored.rows.length ≤ limit) :
    a ∈ s.query p le limit ↔
      s.pending.get? (key a) = some a ∧ ∃ b, s.stored.get? (key a) = some b ∧ p b = true := by
  constructor
  · exact exists_of_mem_query
  · rintro ⟨ha, b, hb, hp⟩
    obtain ⟨hmem, hkey⟩ := Table.get?_eq_some_iff.mp hb
    unfold query
    rw [List.take_of_length_le]
    · refine List.mem_map.mpr ⟨b, (List.mem_insertionSort le).mpr (List.mem_filter.mpr ⟨hmem, hp⟩), ?_⟩
      rw [object, hkey, ha]
      rfl
    · rw [List.length_insertionSort]
      exact (List.length_filter_le _ _).trans hlimit

end query

/-! ## Loops -/

/-- **A loop each turn of which changes one row** has changed each of its rows once and left the
others. Source: none: infrastructure. Kind: P -/
theorem look_foldl {σ ι : Type} (look : σ → κ → Option α) (turn : σ → ι → σ) (row : ι → κ)
    (change : ι → α → α) {l : List ι} {s : σ}
    (h : ∀ i ∈ l, ∀ s j, look (turn s i) j =
      if j = row i then (look s j).map (change i) else look s j)
    (hnodup : (l.map row).Nodup) :
    (∀ i ∈ l, look (l.foldl turn s) (row i) = (look s (row i)).map (change i)) ∧
      ∀ j, j ∉ l.map row → look (l.foldl turn s) j = look s j := by
  induction l generalizing s with
  | nil => exact ⟨fun i hi => absurd hi List.not_mem_nil, fun _ _ => rfl⟩
  | cons i l ih =>
      rw [List.map_cons, List.nodup_cons] at hnodup
      obtain ⟨hin, hout⟩ := ih (s := turn s i) (fun i' hi' => h i' (List.mem_cons_of_mem _ hi'))
        hnodup.2
      rw [List.foldl_cons]
      constructor
      · intro i' hi'
        rcases List.mem_cons.mp hi' with rfl | hi'
        · rw [hout _ hnodup.1, h i' (List.mem_cons_self ..), if_pos rfl]
        · have hne : row i' ≠ row i := by
            intro heq
            exact hnodup.1 (heq ▸ List.mem_map_of_mem hi')
          rw [hin i' hi', h i (List.mem_cons_self ..), if_neg hne]
      · intro j hj
        rw [List.map_cons, List.mem_cons, not_or] at hj
        rw [hout j hj.2, h i (List.mem_cons_self ..), if_neg hj.1]

/-! ## Commits -/

/-- The inserts of a flush; the key of a row must be new. Source: none: infrastructure. Kind: D -/
def insertAll (t : Table key) : List α → Option (Table key)
  | [] => some t
  | a :: l => if h : t.get? (key a) = none then insertAll (t.insert a h) l else none

/-- The table after a commit, or none when the database refuses a new row.
Source: none: infrastructure. Kind: D -/
def commit (s : Session key) : Option (Table key) := insertAll s.pending s.added

section commit

variable {t t' : Table key} {l : List α} {k : κ}

theorem get?_insertAll (h : insertAll t l = some t') :
    t'.get? k = (t.get? k).or (l.find? fun a => key a = k) := by
  induction l generalizing t with
  | nil =>
      obtain rfl : t = t' := Option.some_inj.mp h
      simp
  | cons a l ih =>
      unfold insertAll at h
      by_cases ha : t.get? (key a) = none
      · rw [dif_pos ha] at h
        rw [ih h, Table.get?_insert]
        by_cases hk : k = key a
        · subst hk
          simp [ha]
        · simp [hk, Ne.symm hk]
      · rw [dif_neg ha] at h
        exact absurd h (by simp)

/-- **The inserts go through** when the rows have distinct keys. Source: none: infrastructure.
Kind: L -/
theorem insertAll_eq_some_iff : insertAll t l = some t' ↔ t'.rows = t.rows ++ l := by
  induction l generalizing t with
  | nil =>
      rw [List.append_nil]
      constructor
      · intro h
        exact congrArg Table.rows (Option.some.inj h).symm
      · intro h
        exact congrArg some (Table.eq_of_rows_eq h.symm)
  | cons a l ih =>
      unfold insertAll
      by_cases ha : t.get? (key a) = none
      · rw [dif_pos ha, ih]
        unfold Table.insert
        rw [List.append_assoc, List.singleton_append]
      · rw [dif_neg ha]
        refine ⟨fun h => absurd h (by simp), fun h => absurd ?_ ha⟩
        refine Table.get?_eq_none_iff.mpr fun b hb hkey => ?_
        have hnodup := t'.nodup
        rw [h, List.map_append, List.map_cons] at hnodup
        exact List.disjoint_of_nodup_append hnodup (List.mem_map_of_mem hb)
          (hkey ▸ List.mem_cons_self)

/-- A row that is inserted has a new key. Source: none: infrastructure. Kind: L -/
theorem get?_eq_none_of_insertAll (h : insertAll t l = some t') {a : α} (ha : a ∈ l) :
    t.get? (key a) = none := by
  induction l generalizing t with
  | nil => exact absurd ha List.not_mem_nil
  | cons b l ih =>
      unfold insertAll at h
      by_cases hb : t.get? (key b) = none
      · rw [dif_pos hb] at h
        rcases List.mem_cons.mp ha with rfl | ha
        · exact hb
        · have hnone := ih h ha
          rw [Table.get?_insert] at hnone
          by_cases hab : key a = key b
          · rw [hab]
            exact hb
          · rwa [if_neg hab] at hnone
      · rw [dif_neg hb] at h
        exact absurd h (by simp)

/-- **What a commit leaves**: the objects as they are, and the new rows.
Source: none: infrastructure. Kind: L -/
theorem get?_of_commit {s : Session key} (h : s.commit = some t') :
    t'.get? k = (s.pending.get? k).or (s.added.find? fun a => key a = k) :=
  get?_insertAll h

/-- **A commit goes through** exactly when the objects and the new rows have distinct keys.
Source: none: infrastructure. Kind: L -/
theorem commit_eq_some_iff {s : Session key} :
    s.commit = some t' ↔ t'.rows = s.pending.rows ++ s.added := insertAll_eq_some_iff

/-- A commit refuses a new row whose key is stored. Source: none: infrastructure. Kind: L -/
theorem get?_stored_of_commit {s : Session key} (h : s.commit = some t') {a : α} (ha : a ∈ s.added) :
    s.stored.get? (key a) = none := by
  have hnone := get?_eq_none_of_insertAll h ha
  rw [← Option.not_isSome_iff_eq_none, ← isSome_get?_pending, hnone]
  simp

end commit

end Session

end HaruTrade
