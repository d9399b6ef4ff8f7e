import Mathlib.Tactic.Linarith
import Mathlib.Tactic.Positivity
import Mathlib.Tactic.Ring
import HaruTrade.Backtest.Direction

/-!
# Slippage and the direction of a trade

The price of an entry and the direction of its trade are decided by two functions from the same side
text: the price is raised for `buy` and lowered for everything else, and the trade is short for `sell`
and long for everything else.

* `slippageFactor` — what becomes of the open.
* `AdverseEntry` — an entry that is no better than the open of its bar.
* **`slippage_adverse_iff`** — the trades whose entry is adverse.
-/

namespace HaruTrade

open BacktestJobService

/-- What slippage makes of an open of 1. Source: `app/backtest/core.py`
`BacktestCore.entry_price_n_plus_one_open`. Kind: D -/
def slippageFactor (slippagePct : ℚ) (side : String) : ℚ :=
  if side = "buy" then 1 + slippagePct / 100 else 1 - slippagePct / 100

/-- An entry at no better a price than the open: a long trade pays at least the open, a short one gets
at most the open. Source: `docs/prd.md` 12. Kind: D -/
def AdverseEntry (openPrice entry : ℚ) : Direction → Prop
  | .long => openPrice ≤ entry
  | .short => entry ≤ openPrice

/-- The trade of a signal is simulated with an adverse entry. Source:
`app/services/backtest_jobs.py` `BacktestJobService._simulate_trade`. Kind: D -/
def SimulatedAdversely (cfg : BacktestSettings) (candles : List Candle) (signal : BacktestSignal)
    (openPrice : ℚ) (result : ℚ × ℚ × String) : Prop :=
  ∃ entry atr, BacktestCore.entryPriceNPlusOneOpen cfg.slippagePct candles signal = .ok entry ∧
    signal.direction.simulate candles (signal.index + 1) entry atr cfg.stopAtrMult cfg.tpAtrMult
      cfg.trailAtrMult = .ok result ∧
    AdverseEntry openPrice entry signal.direction

variable {cfg : BacktestSettings} {candles : List Candle} {signal : BacktestSignal} {next : Candle}
  {slippagePct openPrice entry : ℚ}

/-- The entry price of a signal, by its factor. Source: `app/backtest/core.py`
`BacktestCore.entry_price_n_plus_one_open`. Kind: L -/
theorem entryPrice_of_pyGet (hlt : signal.index + 1 < candles.length)
    (hnext : pyGet candles (signal.index + 1) = .ok next) :
    BacktestCore.entryPriceNPlusOneOpen slippagePct candles signal =
      .ok (next.open * slippageFactor slippagePct signal.side) := by
  unfold BacktestCore.entryPriceNPlusOneOpen slippageFactor
  rw [if_neg (not_le.mpr hlt), hnext]
  split_ifs
  · rfl
  · rfl

/-- A raised price that is above zero is at least the open. Source: none: infrastructure. Kind: L -/
theorem le_raised (hslippage : 0 ≤ slippagePct) (hentry : 0 < openPrice * (1 + slippagePct / 100)) :
    openPrice ≤ openPrice * (1 + slippagePct / 100) := by
  have hpct : 0 ≤ slippagePct / 100 := by positivity
  have hopen : 0 < openPrice := pos_of_mul_pos_left hentry (by linarith)
  have hraised : openPrice * (1 + slippagePct / 100) = openPrice + openPrice * (slippagePct / 100) := by
    ring
  rw [hraised]
  exact le_add_of_nonneg_right (mul_nonneg hopen.le hpct)

/-- A lowered price above zero is at least the open when nothing is taken off, or when the open is
below zero. Source: none: infrastructure. Kind: L -/
theorem le_lowered_iff (hslippage : 0 ≤ slippagePct)
    (hentry : 0 < openPrice * (1 - slippagePct / 100)) :
    openPrice ≤ openPrice * (1 - slippagePct / 100) ↔ slippagePct = 0 ∨ openPrice < 0 := by
  have hlowered : openPrice * (1 - slippagePct / 100) = openPrice - openPrice * (slippagePct / 100) := by
    ring
  have hne : openPrice ≠ 0 := left_ne_zero_of_mul hentry.ne'
  rw [hlowered, le_sub_self_iff]
  constructor
  · intro h
    rcases lt_or_gt_of_ne hne with hneg | hpos
    · exact Or.inr hneg
    · have hpct : slippagePct / 100 ≤ 0 := nonpos_of_mul_nonpos_right h hpos
      exact Or.inl (by linarith)
  · rintro (rfl | hneg)
    · simp
    · exact mul_nonpos_of_nonpos_of_nonneg hneg.le (by positivity)

/-- A lowered price above zero is at most the open when nothing is taken off, or when the open is
above zero. Source: none: infrastructure. Kind: L -/
theorem lowered_le_iff (hslippage : 0 ≤ slippagePct)
    (hentry : 0 < openPrice * (1 - slippagePct / 100)) :
    openPrice * (1 - slippagePct / 100) ≤ openPrice ↔ slippagePct = 0 ∨ 0 < openPrice := by
  have hlowered : openPrice * (1 - slippagePct / 100) = openPrice - openPrice * (slippagePct / 100) := by
    ring
  have hne : openPrice ≠ 0 := left_ne_zero_of_mul hentry.ne'
  rw [hlowered, sub_le_self_iff]
  constructor
  · intro h
    rcases lt_or_gt_of_ne hne with hneg | hpos
    · have hpct : slippagePct / 100 ≤ 0 := nonpos_of_mul_nonneg_right h hneg
      exact Or.inl (by linarith)
    · exact Or.inr hpos
  · rintro (rfl | hpos)
    · simp
    · exact mul_nonneg hpos.le (by positivity)

/-- **When slippage is adverse**: for every list of candles, every signal whose trade is simulated and
a slippage of at least zero, the entry is no better than the open of the next bar exactly when the
side is `buy`, when there is no slippage, or when the side is `sell` (any other one is simulated long
at a lowered price) — as long as the open is above zero. Source: `app/backtest/core.py`
`BacktestCore.entry_price_n_plus_one_open`. Kind: P -/
theorem slippage_adverse_iff (cfg : BacktestSettings) (candles : List Candle) (signal : BacktestSignal)
    (next : Candle) (result : ℚ × ℚ × String) (hslippage : 0 ≤ cfg.slippagePct)
    (hnext : pyGet candles (signal.index + 1) = .ok next)
    (hok : simulateTrade cfg candles signal = .ok result) :
    SimulatedAdversely cfg candles signal next.open result ↔
      signal.side = "buy" ∨ cfg.slippagePct = 0 ∨ (signal.side = "sell" ∧ 0 < next.open) ∨
        (signal.side ≠ "sell" ∧ next.open < 0) := by
  obtain ⟨hlt, entry, atr, hentry, hpos, -, hresult⟩ := simulateTrade_eq_ok.mp hok
  have hvalue : next.open * slippageFactor cfg.slippagePct signal.side = entry :=
    Except.ok.inj ((entryPrice_of_pyGet hlt hnext).symm.trans hentry)
  unfold slippageFactor at hvalue
  have hsimulated : signal.direction.simulate candles (signal.index + 1) entry atr cfg.stopAtrMult
      cfg.tpAtrMult cfg.trailAtrMult = .ok result := by
    rw [← hresult]
    unfold BacktestSignal.direction
    split_ifs
    · rfl
    · rfl
  have hadverse : SimulatedAdversely cfg candles signal next.open result ↔
      AdverseEntry next.open entry signal.direction := by
    constructor
    · rintro ⟨entry', atr', hentry', -, h⟩
      obtain rfl : entry = entry' := Except.ok.inj (hentry.symm.trans hentry')
      exact h
    · intro h
      exact ⟨entry, atr, hentry, hsimulated, h⟩
  rw [hadverse]
  unfold BacktestSignal.direction
  by_cases hbuy : signal.side = "buy"
  · have hsell : signal.side ≠ "sell" := by
      rw [hbuy]
      decide
    rw [if_pos hbuy] at hvalue
    rw [if_neg hsell, ← hvalue]
    exact ⟨fun _ => Or.inl hbuy, fun _ => le_raised hslippage (hvalue ▸ hpos)⟩
  · rw [if_neg hbuy] at hvalue
    rw [← hvalue] at hpos ⊢
    by_cases hsell : signal.side = "sell"
    · rw [if_pos hsell]
      refine (lowered_le_iff hslippage hpos).trans ?_
      simp [hsell]
    · rw [if_neg hsell]
      refine (le_lowered_iff hslippage hpos).trans ?_
      simp [hsell, hbuy]

/-- A signal with the side `long` on an open of 100 is bought at 99.95.
Source: `app/services/backtest_jobs.py` `BacktestJobService._simulate_trade`. Kind: C -/
theorem not_adverse_of_side_long :
    ∃ result, simulateTrade {} [flatCandle 100, flatCandle 100] ⟨0, "long"⟩ = .ok result ∧
      ¬ SimulatedAdversely {} [flatCandle 100, flatCandle 100] ⟨0, "long"⟩ 100 result := by
  refine ⟨(25000001 / 1000000000, 25000001 / 99950000000, "end_of_data"),
    eq_ok_of_toOption (by decide +kernel), ?_⟩
  rintro ⟨entry, atr, hentry, -, hadverse⟩
  have hvalue : BacktestCore.entryPriceNPlusOneOpen (5 / 100) [flatCandle 100, flatCandle 100]
      ⟨0, "long"⟩ = .ok (9995 / 100) := eq_ok_of_toOption (by decide +kernel)
  obtain rfl : 9995 / 100 = entry := Except.ok.inj (hvalue.symm.trans hentry)
  have hle : (100 : ℚ) ≤ 9995 / 100 := hadverse
  exact absurd hle (by decide +kernel)

/-- A signal with the side `sell` on an open of 100 is sold at 99.95. Source:
`app/services/backtest_jobs.py` `BacktestJobService._simulate_trade`. Kind: P -/
theorem slippage_adverse_iff_sell :
    SimulatedAdversely {} [flatCandle 100, flatCandle 100] ⟨0, "sell"⟩ (flatCandle 100).open
      (-3 / 2000000000, -3 / 199900000000, "stop_loss") :=
  (slippage_adverse_iff {} [flatCandle 100, flatCandle 100] ⟨0, "sell"⟩ (flatCandle 100)
    (-3 / 2000000000, -3 / 199900000000, "stop_loss") (by decide +kernel) rfl
    (eq_ok_of_toOption (by decide +kernel))).mpr
    (Or.inr (Or.inr (Or.inl ⟨rfl, by decide +kernel⟩)))

end HaruTrade
