import Mathlib.Data.List.GetD
import HaruTrade.Backtest.Jobs
import HaruTrade.Data.Drawdown

/-!
# The maximum drawdown of a backtest

`maxDrawdown` goes once through the returns of the trades, with the equity, its peak and the deepest
fall from a peak so far. The equity never falls below zero: a return of minus one or less loses all of
it, and there it stays.

* `equity` — the equity after a number of trades.
* `AtTrade`, `atTrade_next` — **the invariant of the loop**: its locals are the equity, its greatest
  value so far and the deepest of the falls so far.
* **`maxDrawdown_isGreatest`** — what the loop ends with is the deepest of the falls between all pairs
  of times; it is a part of one, and further trades never lessen it.
-/

namespace HaruTrade

namespace BacktestJobService

variable (returns : List ℚ)

/-- **The equity** after `k` trades. Source: `app/services/backtest_jobs.py`
`BacktestJobService._max_drawdown`. Kind: D -/
def equity : ℕ → ℚ
  | 0 => 1
  | k + 1 => equity k * max 0 (1 + returns.getD k 0)

variable {returns} {more : List ℚ} {d : Drawdown} {k : ℕ}

theorem equity_nonneg (k : ℕ) : 0 ≤ equity returns k := by
  induction k with
  | zero => exact zero_le_one
  | succ k ih => exact mul_nonneg ih (le_max_left _ _)

/-- Later trades do not change the equity so far. Source: none: infrastructure. Kind: L -/
theorem equity_append (h : k ≤ returns.length) : equity (returns ++ more) k = equity returns k := by
  induction k with
  | zero => rfl
  | succ k ih =>
      rw [equity, equity, ih (k.le_succ.trans h), List.getD_append _ _ _ _ h]

/-- The locals of the loop after `k` trades. Source: `app/services/backtest_jobs.py`
`BacktestJobService._max_drawdown`. Kind: D -/
structure AtTrade (returns : List ℚ) (k : ℕ) (d : Drawdown) : Prop where
  equity : d.equity = equity returns k
  peak : IsPeak (BacktestJobService.equity returns) k d.peak
  maxDd : IsGreatest (falls (BacktestJobService.equity returns) k) d.maxDd

theorem atTrade_zero : AtTrade returns 0 {} := ⟨rfl, isPeak_zero, isGreatest_falls_zero one_pos⟩

/-- **One round of the loop.** Source: `app/services/backtest_jobs.py`
`BacktestJobService._max_drawdown`. Kind: L -/
theorem atTrade_next (h : AtTrade returns k d) :
    AtTrade returns (k + 1) (d.next (returns.getD k 0)) := by
  have hequity : d.equity * max 0 (1 + returns.getD k 0) =
      BacktestJobService.equity returns (k + 1) := by
    rw [h.equity, BacktestJobService.equity]
  have hpeak := h.peak.succ
  -- the equity begins at one, so that its peak is positive
  have hpos : 0 < max d.peak (BacktestJobService.equity returns (k + 1)) :=
    one_pos.trans_le (hpeak.le (k + 1).zero_le)
  unfold Drawdown.next
  dsimp only
  rw [hequity, if_pos hpos]
  exact ⟨rfl, hpeak, isGreatest_falls_succ equity_nonneg hpeak hpos h.maxDd⟩

/-- The locals after the whole loop. Source: `app/services/backtest_jobs.py`
`BacktestJobService._max_drawdown`. Kind: L -/
theorem atTrade_foldl (returns : List ℚ) :
    AtTrade returns returns.length (returns.foldl Drawdown.next {}) := by
  have hprefix : ∀ k ≤ returns.length,
      AtTrade returns k ((returns.take k).foldl Drawdown.next {}) := by
    intro k
    induction k with
    | zero => exact fun _ => atTrade_zero
    | succ k ih =>
        intro hk
        rw [List.take_add_one, List.getElem?_eq_getElem hk, Option.toList_some, List.foldl_append,
          List.foldl_cons, List.foldl_nil, ← List.getD_eq_getElem _ 0 hk]
        exact atTrade_next (ih (k.le_succ.trans hk))
  have hall := hprefix returns.length le_rfl
  rwa [List.take_length] at hall

/-- **The maximum drawdown** is the deepest fall of the equity between any two times, it is a part of
one, and it does not decrease when returns are appended. Source: `app/services/backtest_jobs.py`
`BacktestJobService._max_drawdown`. Kind: P -/
theorem maxDrawdown_isGreatest (returns : List ℚ) :
    IsGreatest {f | ∃ i j, i ≤ j ∧ j ≤ returns.length ∧ 0 < equity returns i ∧
        f = (equity returns i - equity returns j) / equity returns i} (maxDrawdown returns) ∧
      (0 ≤ maxDrawdown returns ∧ maxDrawdown returns ≤ 1) ∧
      ∀ more, maxDrawdown returns ≤ maxDrawdown (returns ++ more) := by
  have hdeepest := (atTrade_foldl returns).maxDd
  refine ⟨hdeepest, deepest_mem_Icc equity_nonneg one_pos hdeepest, fun more => ?_⟩
  have hlonger := (atTrade_foldl (returns ++ more)).maxDd
  apply hlonger.2
  -- the falls so far are falls of the longer list
  have hsame : falls (equity returns) returns.length =
      falls (equity (returns ++ more)) returns.length :=
    falls_congr fun i hi => (equity_append hi).symm
  have hfall := hdeepest.1
  rw [hsame] at hfall
  refine falls_subset ?_ hfall
  rw [List.length_append]
  exact Nat.le_add_right _ _

end BacktestJobService

end HaruTrade
