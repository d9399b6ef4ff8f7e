import Mathlib.Data.List.Basic
import Mathlib.Data.List.Forall2
import Mathlib.Algebra.Order.Group.Int
import HaruTrade.Domain.Models

/-!
# Python lists and exceptions

Indexing and slicing with Python's integer bounds, which count from the end when they are negative,
and the results of code that may raise.
-/

namespace HaruTrade

variable {α β ε : Type} {xs ys : List α}

/-! ## Results -/

/-- A computation that succeeds has succeeded in its first part. Source: none: infrastructure.
Kind: L -/
theorem ok_of_bind {x : Except ε α} {f : α → Except ε β} {b : β}
    (h : (x >>= f) = .ok b) : ∃ a, x = .ok a ∧ f a = .ok b := by
  cases x with
  | error e => cases h
  | ok a => exact ⟨a, rfl, h⟩

theorem eq_ok_of_toOption {x : Except ε α} {a : α} (h : x.toOption = some a) :
    x = .ok a := by
  cases x with
  | error e => exact absurd h (by simp [Except.toOption])
  | ok b => exact congrArg Except.ok (Option.some.inj h)

theorem ok_of_join_toOption {x : Except ε (Option α)} {a : α} (h : x.toOption.join = some a) :
    x = .ok (some a) :=
  eq_ok_of_toOption (Option.join_eq_some_iff.mp h)

/-- A loop over a list succeeds when each of its rounds does. Source: none: infrastructure. Kind: L -/
theorem mapM_eq_ok_iff {f : α → Except ε β} {ys : List β} :
    xs.mapM f = .ok ys ↔ List.Forall₂ (fun x y => f x = .ok y) xs ys := by
  induction xs generalizing ys with
  | nil =>
      rw [List.mapM_nil, List.forall₂_nil_left_iff]
      exact ⟨fun h => (Except.ok.inj h).symm, fun h => congrArg Except.ok h.symm⟩
  | cons x xs ih =>
      rw [List.mapM_cons, List.forall₂_cons_left_iff]
      constructor
      · intro h
        obtain ⟨y, hy, h⟩ := ok_of_bind h
        obtain ⟨ys', hys, h⟩ := ok_of_bind h
        exact ⟨y, ys', hy, ih.mp hys, (Except.ok.inj h).symm⟩
      · rintro ⟨y, ys', hy, hys, rfl⟩
        rw [hy, ih.mpr hys]
        rfl

/-- Source: none: infrastructure. Kind: L -/
theorem exists_mapM_eq_ok_iff {f : α → Except ε β} :
    (∃ ys, xs.mapM f = .ok ys) ↔ ∀ x ∈ xs, ∃ y, f x = .ok y := by
  induction xs with
  | nil => exact iff_of_true ⟨[], rfl⟩ nofun
  | cons x xs ih =>
      rw [List.forall_mem_cons, ← ih]
      constructor
      · rintro ⟨ys, h⟩
        rw [List.mapM_cons] at h
        obtain ⟨y, hy, h⟩ := ok_of_bind h
        obtain ⟨ys', hys, -⟩ := ok_of_bind h
        exact ⟨⟨y, hy⟩, ys', hys⟩
      · rintro ⟨⟨y, hy⟩, ys, hys⟩
        rw [List.mapM_cons, hy, hys]
        exact ⟨y :: ys, rfl⟩

/-! ## Division -/

/-- `a / b` on floats. Source: none: infrastructure. Kind: D -/
def pyDiv (a b : ℚ) : Except Exn ℚ :=
  if b = 0 then .error (.other "float division by zero") else .ok (a / b)

theorem pyDiv_of_ne {a b : ℚ} (h : b ≠ 0) : pyDiv a b = .ok (a / b) := if_neg h

/-! ## Lists -/

/-- `xs[i]`. Source: none: infrastructure. Kind: D -/
def pyGet (xs : List α) (i : ℤ) : Except Exn α :=
  let j := if i < 0 then xs.length + i else i
  if j < 0 then .error (.other "list index out of range")
  else (xs[j.toNat]?).elim (.error (.other "list index out of range")) .ok

/-- Where a slice bound falls in a list of the given length. Source: none: infrastructure. Kind: D -/
def pySliceBound (length : ℕ) (i : ℤ) : ℕ := (if i < 0 then length + i else i).toNat

/-- `xs[start:stop]`. Source: none: infrastructure. Kind: D -/
def pySlice (xs : List α) (start stop : ℤ) : List α :=
  (xs.take (pySliceBound xs.length stop)).drop (pySliceBound xs.length start)

/-- `xs[start:]`. Source: none: infrastructure. Kind: D -/
def pySliceFrom (xs : List α) (start : ℤ) : List α :=
  xs.drop (pySliceBound xs.length start)

theorem pySliceBound_of_nonneg {n : ℕ} {i : ℤ} (h : 0 ≤ i) : pySliceBound n i = i.toNat := by
  unfold pySliceBound
  rw [if_neg (by omega)]

theorem pySliceFrom_append {i : ℤ} (h : 0 ≤ i) (hle : i ≤ xs.length) :
    pySliceFrom (xs ++ ys) i = pySliceFrom xs i ++ ys := by
  unfold pySliceFrom
  rw [pySliceBound_of_nonneg h, pySliceBound_of_nonneg h,
    List.drop_append_of_le_length (by omega)]

theorem pySlice_append {i j : ℤ} (hi : 0 ≤ i) (hj : 0 ≤ j) (hle : j ≤ xs.length) :
    pySlice (xs ++ ys) i j = pySlice xs i j := by
  unfold pySlice
  rw [pySliceBound_of_nonneg hi, pySliceBound_of_nonneg hj, pySliceBound_of_nonneg hi,
    pySliceBound_of_nonneg hj, List.take_append_of_le_length (by omega)]

theorem pyGet_append {i : ℤ} (h : 0 ≤ i) (hlt : i < xs.length) :
    pyGet (xs ++ ys) i = pyGet xs i := by
  unfold pyGet
  simp only [if_neg (not_lt.mpr h)]
  rw [List.getElem?_append_left (by omega)]

/-- An index that a list has, from its start or its end. Source: none: infrastructure. Kind: L -/
theorem exists_pyGet {i : ℤ} (hge : -(xs.length : ℤ) ≤ i) (hlt : i < xs.length) :
    ∃ x, pyGet xs i = .ok x := by
  obtain ⟨j, hj, hidx⟩ : ∃ j : ℕ, j < xs.length ∧ (if i < 0 then (xs.length : ℤ) + i else i) = j := by
    split_ifs with hneg
    · exact ⟨(xs.length + i).toNat, by omega, by omega⟩
    · exact ⟨i.toNat, by omega, by omega⟩
  refine ⟨xs[j], ?_⟩
  unfold pyGet
  dsimp only
  rw [hidx, if_neg (by omega), Int.toNat_natCast, List.getElem?_eq_getElem hj]
  rfl

theorem pyGet_of_before {i : ℤ} (h : i < -(xs.length : ℤ)) :
    pyGet xs i = .error (.other "list index out of range") := by
  have hneg : i < 0 := by omega
  unfold pyGet
  dsimp only
  rw [if_pos hneg, if_pos (by omega)]

theorem pyGet_neg_one {x : α} (h : xs.getLast? = some x) :
    pyGet xs (-1) = .ok x := by
  have hne : xs ≠ [] := by
    rintro rfl
    exact absurd h (by simp)
  have hpos : 0 < xs.length := List.length_pos_iff.mpr hne
  have hidx : ((xs.length : ℤ) + -1).toNat = xs.length - 1 := by omega
  rw [List.getLast?_eq_getElem?] at h
  unfold pyGet
  simp only [if_pos (show (-1 : ℤ) < 0 by decide)]
  rw [if_neg (by omega), hidx, h]
  rfl

/-- An index from the end that the list has. Source: none: infrastructure. Kind: L -/
theorem pyGet_neg_eq_ok {n : ℕ} (hn : 0 < n) (hlen : n ≤ xs.length) :
    ∃ x, pyGet xs (-n) = .ok x := by
  have hidx : ((xs.length : ℤ) + -(n : ℤ)).toNat = xs.length - n := by omega
  refine ⟨xs[xs.length - n], ?_⟩
  unfold pyGet
  simp only [if_pos (show -(n : ℤ) < 0 by omega)]
  rw [if_neg (by omega), hidx, List.getElem?_eq_getElem]
  rfl

/-- An index from the end does not depend on what is in front of a list that is long enough.
Source: none: infrastructure. Kind: L -/
theorem pyGet_neg_append {n : ℕ} (hn : 0 < n) (hlen : n ≤ ys.length) :
    pyGet (xs ++ ys) (-n) = pyGet ys (-n) := by
  have hidx : ((xs.length + ys.length : ℕ) + -(n : ℤ)).toNat =
      xs.length + ((ys.length : ℤ) + -(n : ℤ)).toNat := by omega
  unfold pyGet
  simp only [if_pos (show -(n : ℤ) < 0 by omega), List.length_append]
  rw [if_neg (by omega), if_neg (by omega), hidx, List.getElem?_append_right (by omega),
    Nat.add_sub_cancel_left]

/-- A slice from the end does not depend on what is in front of a list that is long enough.
Source: none: infrastructure. Kind: L -/
theorem pySlice_neg_append {m n : ℕ} (hm : 0 < m) (hn : 0 < n) (hlen : m ≤ ys.length)
    (hlen' : n ≤ ys.length) : pySlice (xs ++ ys) (-m) (-n) = pySlice ys (-m) (-n) := by
  have hbound : ∀ (zs : List α) (k : ℕ), 0 < k → pySliceBound zs.length (-k) = zs.length - k := by
    intro zs k hk
    unfold pySliceBound
    rw [if_pos (by omega)]
    omega
  unfold pySlice
  rw [hbound _ m hm, hbound _ n hn, hbound _ m hm, hbound _ n hn, List.length_append]
  rw [show xs.length + ys.length - n = xs.length + (ys.length - n) by omega,
    show xs.length + ys.length - m = xs.length + (ys.length - m) by omega,
    List.take_append, List.drop_append]
  simp

end HaruTrade
