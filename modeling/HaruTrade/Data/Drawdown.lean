import Mathlib.Algebra.Order.Field.Basic
import Mathlib.Order.Bounds.Basic

/-!
# Falls of a sequence

The relative falls of a sequence of values that are not negative: from one of its positive values to
the same or a later one. Nothing here names a particular program.

* `IsPeak` — the greatest value so far.
* `falls` — the relative falls so far.
* `isGreatest_falls_succ` — **the deepest fall** goes on with the fall from the peak, so that one pass
  with a running peak finds the greatest of the falls between all pairs of positions.
-/

namespace HaruTrade

/-! ## Peaks -/

section peaks

variable {K : Type} [LinearOrder K] (E : ℕ → K) (n : ℕ)

/-- The greatest value up to position `n`. Source: none: infrastructure. Kind: D -/
def IsPeak (peak : K) : Prop := IsGreatest {x | ∃ i ≤ n, x = E i} peak

variable {E n} {peak : K}

theorem isPeak_zero : IsPeak E 0 (E 0) := by
  refine ⟨⟨0, le_rfl, rfl⟩, ?_⟩
  rintro x ⟨i, hi, rfl⟩
  rw [Nat.le_zero.mp hi]

theorem IsPeak.le (h : IsPeak E n peak) {i : ℕ} (hi : i ≤ n) : E i ≤ peak := h.2 ⟨i, hi, rfl⟩

/-- **The running peak.** Source: none: infrastructure. Kind: L -/
theorem IsPeak.succ (h : IsPeak E n peak) : IsPeak E (n + 1) (max peak (E (n + 1))) := by
  obtain ⟨⟨k, hk, hpeak⟩, hub⟩ := h
  constructor
  · rcases le_total peak (E (n + 1)) with hle | hle
    · exact ⟨n + 1, le_rfl, max_eq_right hle⟩
    · exact ⟨k, hk.trans n.le_succ, (max_eq_left hle).trans hpeak⟩
  · rintro x ⟨i, hi, rfl⟩
    rcases Nat.le_succ_iff.mp hi with hi | rfl
    · exact (hub ⟨i, hi, rfl⟩).trans (le_max_left _ _)
    · exact le_max_right _ _

end peaks

/-! ## Falls -/

section falls

variable {K : Type} [Field K] [LinearOrder K] (E : ℕ → K) (n : ℕ)

/-- The relative falls up to position `n`, each from a positive value to the same or a later one.
Source: none: infrastructure. Kind: D -/
def falls : Set K := {f | ∃ i j, i ≤ j ∧ j ≤ n ∧ 0 < E i ∧ f = (E i - E j) / E i}

variable {E n} {m : ℕ} {peak deepest : K}

theorem falls_subset (h : n ≤ m) : falls E n ⊆ falls E m := by
  rintro f ⟨i, j, hij, hj, hpos, rfl⟩
  exact ⟨i, j, hij, hj.trans h, hpos, rfl⟩

/-- Only the values so far matter. Source: none: infrastructure. Kind: L -/
theorem falls_congr {F : ℕ → K} (h : ∀ i ≤ n, E i = F i) : falls E n = falls F n := by
  ext f
  constructor
  · rintro ⟨i, j, hij, hj, hpos, rfl⟩
    rw [h i (hij.trans hj), h j hj] at *
    exact ⟨i, j, hij, hj, hpos, rfl⟩
  · rintro ⟨i, j, hij, hj, hpos, rfl⟩
    rw [← h i (hij.trans hj), ← h j hj] at *
    exact ⟨i, j, hij, hj, hpos, rfl⟩

theorem falls_succ : falls E (n + 1) =
    falls E n ∪ {f | ∃ i ≤ n + 1, 0 < E i ∧ f = (E i - E (n + 1)) / E i} := by
  ext f
  constructor
  · rintro ⟨i, j, hij, hj, hpos, rfl⟩
    rcases Nat.le_succ_iff.mp hj with hj | rfl
    · exact Or.inl ⟨i, j, hij, hj, hpos, rfl⟩
    · exact Or.inr ⟨i, hij, hpos, rfl⟩
  · rintro (hf | ⟨i, hi, hpos, rfl⟩)
    · exact falls_subset n.le_succ hf
    · exact ⟨i, n + 1, hi, le_rfl, hpos, rfl⟩

theorem isGreatest_falls_zero (hpos : 0 < E 0) : IsGreatest (falls E 0) 0 := by
  have hzero : (E 0 - E 0) / E 0 = 0 := by rw [sub_self, zero_div]
  refine ⟨⟨0, 0, le_rfl, le_rfl, hpos, hzero.symm⟩, ?_⟩
  rintro f ⟨i, j, hij, hj, -, rfl⟩
  obtain rfl := Nat.le_zero.mp hj
  obtain rfl := Nat.le_zero.mp hij
  exact hzero.le

variable [IsStrictOrderedRing K]

/-- Falls to one value are the deeper the higher they begin. Source: none: infrastructure. Kind: L -/
theorem fall_le_fall {x y z : K} (hx : 0 < x) (hxy : x ≤ y) (hz : 0 ≤ z) :
    (x - z) / x ≤ (y - z) / y := by
  have hy : 0 < y := hx.trans_le hxy
  rw [sub_div, sub_div, div_self hx.ne', div_self hy.ne']
  exact sub_le_sub_left (div_le_div_of_nonneg_left hz hx hxy) 1

/-- **The deepest fall** is the deepest one so far or the fall from the peak.
Source: none: infrastructure. Kind: P -/
theorem isGreatest_falls_succ (hE : ∀ i, 0 ≤ E i) (hpeak : IsPeak E (n + 1) peak) (hpos : 0 < peak)
    (h : IsGreatest (falls E n) deepest) :
    IsGreatest (falls E (n + 1)) (max deepest ((peak - E (n + 1)) / peak)) := by
  rw [falls_succ]
  apply h.union
  obtain ⟨k, hk, hmax⟩ := hpeak.1
  constructor
  · exact ⟨k, hk, hmax ▸ hpos, by rw [hmax]⟩
  · rintro f ⟨i, hi, hposi, rfl⟩
    exact fall_le_fall hposi (hpeak.le hi) (hE (n + 1))

/-- **The deepest fall is a part of one.** Source: none: infrastructure. Kind: L -/
theorem deepest_mem_Icc (hE : ∀ i, 0 ≤ E i) (hpos : 0 < E 0)
    (h : IsGreatest (falls E n) deepest) : 0 ≤ deepest ∧ deepest ≤ 1 := by
  constructor
  · exact h.2 (falls_subset n.zero_le (isGreatest_falls_zero hpos).1)
  · obtain ⟨i, j, -, -, hposi, rfl⟩ := h.1
    rw [div_le_one hposi]
    exact sub_le_self _ (hE j)

end falls

end HaruTrade
