import HaruTrade.Domain.Python
import HaruTrade.Orders.StateMachine
import HaruTrade.Risk.Engine

/-!
# The trade simulation of the backtest

`BacktestJobService` simulates the trade of a signal on the bars after it. Both directions go through
the bars one by one with `tradeLoop` and settle what remains at the last close. The simulation is
written for any type of numbers: rational numbers are exact, doubles round.

* `longBar`, `shortBar` — what one bar does to a trade.
* `simulateLongTrade`, `simulateShortTrade`, `simulateTrade` — the simulation.
* `tradeLoop_append` — bars after the end of a trade do not change it.
-/

namespace HaruTrade

/-! ## A trade -/

/-- A bar that trades at one price. Source: none: infrastructure. Kind: D -/
def flatCandle (price : ℚ) (ts : Time := 0) : Candle where
  «open» := price
  high := price
  low := price
  close := price
  ts := ts

/-- A bar with its prices rounded to doubles. Source: none: infrastructure. Kind: D -/
def Candle.toDouble (b : Candle) : Candle PyNum where
  «open» := .binary64 b.open
  high := .binary64 b.high
  low := .binary64 b.low
  close := .binary64 b.close
  ts := b.ts
  volume := b.volume

/-- The local variables of a simulation; `best` is the highest price since the half close of a long
trade, and the lowest of a short one. Source: `app/services/backtest_jobs.py`
`BacktestJobService._simulate_long_trade`. Kind: D -/
structure TradeState (F : Type := ℚ) [OfNat F 0] [OfNat F 1] where
  remaining : F := 1
  realized : F := 0
  state : PositionState := .OPEN
  best : Option F := none
  trailingStop : Option F := none
  reason : String := "end_of_data"
  deriving DecidableEq, Repr

/-- The prices that a trade is simulated with. Source: `app/services/backtest_jobs.py`
`BacktestJobService._simulate_long_trade`. Kind: D -/
structure TradeLevels (F : Type := ℚ) where
  entryPrice : F
  stopPrice : F
  takeProfitPrice : F
  atr : F
  trailAtrMult : F

section simulation

variable {F : Type} [OfNat F 0] [OfNat F 1] [OfNat F 2] [Add F] [Sub F] [Mul F] [Div F] [LE F]
  [DecidableLE F] [LT F] [DecidableLT F] [Max F] [Min F] [DecidableEq F]

/-- `for candle in candles: if remaining <= 0: break ...`.
Source: `app/services/backtest_jobs.py` `BacktestJobService._simulate_long_trade`. Kind: D -/
def tradeLoop (bar : TradeState F → Candle F → TradeState F) :
    TradeState F → List (Candle F) → TradeState F
  | t, [] => t
  | t, candle :: candles => if t.remaining ≤ 0 then t else tradeLoop bar (bar t candle) candles

namespace TradeState

/-- Close what remains at a price that gains `gain` for each unit.
Source: `app/services/backtest_jobs.py` `BacktestJobService._simulate_long_trade`. Kind: D -/
def close (t : TradeState F) (gain : F) (reason : String) : TradeState F :=
  { t with realized := t.realized + gain * t.remaining, remaining := 0, reason }

/-- Close half of what remains. Source: `app/services/backtest_jobs.py`
`BacktestJobService._simulate_long_trade`. Kind: D -/
def halve (t : TradeState F) (gain best trailingStop : F) : TradeState F :=
  { t with
    realized := t.realized + gain * (t.remaining / 2)
    remaining := t.remaining - t.remaining / 2
    state := .HALF_CLOSED
    best := some best
    trailingStop := some trailingStop }

end TradeState

/-- One bar of a long trade: the stop is looked at first, and after the half close the trailing stop
may still be hit by the same bar. Source: `app/services/backtest_jobs.py`
`BacktestJobService._simulate_long_trade`. Kind: D -/
def longBar (lv : TradeLevels F) (t : TradeState F) (candle : Candle F) : TradeState F :=
  if t.state = .OPEN then
    if candle.low ≤ lv.stopPrice then t.close (lv.stopPrice - lv.entryPrice) "stop_loss"
    else if lv.takeProfitPrice ≤ candle.high then
      let highest := max candle.high lv.takeProfitPrice
      let trailingStop := max (highest - lv.atr * lv.trailAtrMult) 0
      let t := t.halve (lv.takeProfitPrice - lv.entryPrice) highest trailingStop
      if candle.low ≤ trailingStop then t.close (trailingStop - lv.entryPrice) "trailing_stop"
      else t
    else t
  else
    let highest := max (PositionStateMachine.highestOr t.best candle.high) candle.high
    let trailingStop := max (highest - lv.atr * lv.trailAtrMult) 0
    let t := { t with best := some highest, trailingStop := some trailingStop }
    if candle.low ≤ trailingStop then t.close (trailingStop - lv.entryPrice) "trailing_stop"
    else t

/-- One bar of a short trade. Source: `app/services/backtest_jobs.py`
`BacktestJobService._simulate_short_trade`. Kind: D -/
def shortBar (lv : TradeLevels F) (t : TradeState F) (candle : Candle F) : TradeState F :=
  if t.state = .OPEN then
    if lv.stopPrice ≤ candle.high then t.close (lv.entryPrice - lv.stopPrice) "stop_loss"
    else if candle.low ≤ lv.takeProfitPrice then
      let lowest := min candle.low lv.takeProfitPrice
      let trailingStop := lowest + lv.atr * lv.trailAtrMult
      let t := t.halve (lv.entryPrice - lv.takeProfitPrice) lowest trailingStop
      if trailingStop ≤ candle.high then t.close (lv.entryPrice - trailingStop) "trailing_stop"
      else t
    else t
  else
    let lowest := min (PositionStateMachine.highestOr t.best candle.low) candle.low
    let trailingStop := lowest + lv.atr * lv.trailAtrMult
    let t := { t with best := some lowest, trailingStop := some trailingStop }
    if trailingStop ≤ candle.high then t.close (lv.entryPrice - trailingStop) "trailing_stop"
    else t

/-- What a simulation returns: the profit, the return and the reason. What remains after the last bar
is closed at the last close, for `gain` of it. Source: `app/services/backtest_jobs.py`
`BacktestJobService._simulate_long_trade`. Kind: D -/
def TradeState.settle (t : TradeState F) (candles : List (Candle F)) (entryPrice : F)
    (gain : F → F) : Except Exn (F × F × String) := do
  let t ←
    if 0 < t.remaining then do
      let last ← pyGet candles (-1)
      pure { t with
        realized := t.realized + gain last.close * t.remaining
        reason := "end_of_data" }
    else pure t
  return (t.realized, if 0 < entryPrice then t.realized / entryPrice else 0, t.reason)

/-- The levels of a long trade. Source: `app/services/backtest_jobs.py`
`BacktestJobService._simulate_long_trade`. Kind: D -/
def longLevels (entryPrice atr stopAtrMult tpAtrMult trailAtrMult : F) : TradeLevels F where
  entryPrice := entryPrice
  stopPrice := max (entryPrice - atr * stopAtrMult) 0
  takeProfitPrice := entryPrice + atr * tpAtrMult
  atr := atr
  trailAtrMult := trailAtrMult

/-- The levels of a short trade. Source: `app/services/backtest_jobs.py`
`BacktestJobService._simulate_short_trade`. Kind: D -/
def shortLevels (entryPrice atr stopAtrMult tpAtrMult trailAtrMult : F) : TradeLevels F where
  entryPrice := entryPrice
  stopPrice := entryPrice + atr * stopAtrMult
  takeProfitPrice := max (entryPrice - atr * tpAtrMult) 0
  atr := atr
  trailAtrMult := trailAtrMult

namespace BacktestJobService

/-- Source: `app/services/backtest_jobs.py` `BacktestJobService._simulate_long_trade`. Kind: D -/
def simulateLongTrade (candles : List (Candle F)) (entryIdx : ℤ)
    (entryPrice atr stopAtrMult tpAtrMult trailAtrMult : F) : Except Exn (F × F × String) :=
  (tradeLoop (longBar (longLevels entryPrice atr stopAtrMult tpAtrMult trailAtrMult)) {}
    (pySliceFrom candles entryIdx)).settle candles entryPrice fun exit => exit - entryPrice

/-- Source: `app/services/backtest_jobs.py` `BacktestJobService._simulate_short_trade`. Kind: D -/
def simulateShortTrade (candles : List (Candle F)) (entryIdx : ℤ)
    (entryPrice atr stopAtrMult tpAtrMult trailAtrMult : F) : Except Exn (F × F × String) :=
  (tradeLoop (shortBar (shortLevels entryPrice atr stopAtrMult tpAtrMult trailAtrMult)) {}
    (pySliceFrom candles entryIdx)).settle candles entryPrice fun exit => entryPrice - exit

end BacktestJobService

end simulation

/-- What a backtest reads of a signal: its bar, which a request may give as any integer, and its
side. Source: `app/services/backtest_jobs.py` `BacktestJobService._simulate_trade`. Kind: D -/
structure BacktestSignal where
  index : ℤ
  side : String
  deriving DecidableEq, Repr

/-- Source: none: infrastructure. Kind: D -/
def Signal.forBacktest (s : Signal) : BacktestSignal := ⟨s.index, s.side⟩

section simulation

variable {F : Type} [(n : ℕ) → OfNat F n] [NatCast F] [Add F] [Sub F] [Neg F] [Mul F] [Div F] [LE F]
  [DecidableLE F] [LT F] [DecidableLT F] [Max F] [Min F] [DecidableEq F]

/-- The settings of a backtest job. Source: `app/services/backtest_jobs.py`
`BacktestJobService._run_job`. Kind: D -/
structure BacktestSettings (F : Type := ℚ) [(n : ℕ) → OfNat F n] [Div F] where
  slippagePct : F := 5 / 100
  atrPeriod : ℤ := 14
  stopAtrMult : F := 3 / 2
  tpAtrMult : F := 2
  trailAtrMult : F := 3 / 2
  deriving DecidableEq, Repr

/-- The entry price: the open of the bar after the signal, with slippage.
Source: `app/backtest/core.py` `BacktestCore.entry_price_n_plus_one_open`. Kind: D -/
def BacktestCore.entryPriceNPlusOneOpen (slippagePct : F) (candles : List (Candle F))
    (signal : BacktestSignal) : Except Exn F :=
  if candles.length ≤ signal.index + 1 then .error (.lookup "N+1 candle required")
  else do
    let next ← pyGet candles (signal.index + 1)
    return if signal.side = "buy" then next.open * (1 + slippagePct / 100)
      else next.open * (1 - slippagePct / 100)

namespace BacktestJobService

/-- Source: `app/services/backtest_jobs.py` `BacktestJobService._compute_atr`. Kind: D -/
def computeAtr (candles : List (Candle F)) (signalIndex atrPeriod : ℤ) : Except Exn F :=
  let window := pySlice candles (max 0 (signalIndex - atrPeriod + 1)) (signalIndex + 1)
  if window = [] then .ok 1
  else (RiskEngine.computeAtr window).map fun atr => max atr (1 / 1000000000)

/-- **The trade of a signal.** Source: `app/services/backtest_jobs.py`
`BacktestJobService._simulate_trade`. Kind: D -/
def simulateTrade (cfg : BacktestSettings F) (candles : List (Candle F)) (signal : BacktestSignal) :
    Except Exn (F × F × String) := do
  let entryIdx := signal.index + 1
  if candles.length ≤ entryIdx then throw (.lookup "N+1 candle required")
  let entry ← BacktestCore.entryPriceNPlusOneOpen cfg.slippagePct candles signal
  if entry ≤ 0 then throw (.lookup "invalid_entry_price")
  let atr ← computeAtr candles signal.index cfg.atrPeriod
  if signal.side = "sell" then
    simulateShortTrade candles entryIdx entry atr cfg.stopAtrMult cfg.tpAtrMult cfg.trailAtrMult
  else
    simulateLongTrade candles entryIdx entry atr cfg.stopAtrMult cfg.tpAtrMult cfg.trailAtrMult

end BacktestJobService

end simulation

/-! ## Rules -/

section rules

variable {bar : TradeState → Candle → TradeState} {t : TradeState} {xs ys candles : List Candle}
  {entryPrice pnl ret : ℚ} {gain : ℚ → ℚ} {reason : String}

/-- Nothing happens to a trade that is over. Source: `app/services/backtest_jobs.py`
`BacktestJobService._simulate_long_trade`. Kind: L -/
theorem tradeLoop_of_done (h : t.remaining ≤ 0) : tradeLoop bar t xs = t := by
  cases xs with
  | nil => rfl
  | cons x xs => exact if_pos h

/-- **The loop goes on where it stopped.** Source: `app/services/backtest_jobs.py`
`BacktestJobService._simulate_long_trade`. Kind: L -/
theorem tradeLoop_append : tradeLoop bar t (xs ++ ys) = tradeLoop bar (tradeLoop bar t xs) ys := by
  induction xs generalizing t with
  | nil => rfl
  | cons x xs ih =>
      by_cases h : t.remaining ≤ 0
      · rw [tradeLoop_of_done h, tradeLoop_of_done h, tradeLoop_of_done h]
      · rw [List.cons_append, tradeLoop, if_neg h, tradeLoop, if_neg h, ih]

/-- A trade that is over settles without looking at the bars. Source:
`app/services/backtest_jobs.py` `BacktestJobService._simulate_long_trade`. Kind: L -/
theorem settle_of_done (h : t.remaining ≤ 0) :
    t.settle candles entryPrice gain =
      .ok (t.realized, if 0 < entryPrice then t.realized / entryPrice else 0, t.reason) := by
  unfold TradeState.settle
  rw [if_neg (not_lt.mpr h)]
  rfl

/-- What is left at the last bar is settled at the end of the data. Source:
`app/services/backtest_jobs.py` `BacktestJobService._simulate_long_trade`. Kind: L -/
theorem done_of_settle (h : t.settle candles entryPrice gain = .ok (pnl, ret, reason))
    (hreason : reason ≠ "end_of_data") : t.remaining ≤ 0 := by
  by_contra hopen
  unfold TradeState.settle at h
  rw [if_pos (not_le.mp hopen)] at h
  cases hlast : pyGet candles (-1) with
  | error x =>
      rw [hlast] at h
      cases h
  | ok last =>
      rw [hlast] at h
      injection h with h
      injection h with hpnl h
      injection h with hret h
      exact hreason h.symm

/-- What remains after the last bar is closed at the last close. Source:
`app/services/backtest_jobs.py` `BacktestJobService._simulate_long_trade`. Kind: L -/
theorem settle_at_end (h : 0 < t.remaining) (hne : candles ≠ []) :
    t.settle candles entryPrice gain =
      .ok (t.realized + gain (candles.getLast hne).close * t.remaining,
        if 0 < entryPrice then
          (t.realized + gain (candles.getLast hne).close * t.remaining) / entryPrice else 0,
        "end_of_data") := by
  have hlast := pyGet_neg_one (List.getLast?_eq_some_getLast hne)
  unfold TradeState.settle
  rw [if_pos h, hlast]
  rfl

/-- What remains after the last bar ends with the data. Source: `app/services/backtest_jobs.py`
`BacktestJobService._simulate_long_trade`. Kind: L -/
theorem settle_of_open (h : 0 < t.remaining) (hne : candles ≠ []) :
    ∃ pnl ret, t.settle candles entryPrice gain = .ok (pnl, ret, "end_of_data") :=
  ⟨_, _, settle_at_end h hne⟩

/-- **What it takes to simulate a trade.** Source: `app/services/backtest_jobs.py`
`BacktestJobService._simulate_trade`. Kind: L -/
theorem simulateTrade_eq_ok {cfg : BacktestSettings} {signal : BacktestSignal}
    {result : ℚ × ℚ × String} :
    BacktestJobService.simulateTrade cfg candles signal = .ok result ↔
      signal.index + 1 < candles.length ∧ ∃ entry atr,
        BacktestCore.entryPriceNPlusOneOpen cfg.slippagePct candles signal = .ok entry ∧ 0 < entry ∧
        BacktestJobService.computeAtr candles signal.index cfg.atrPeriod = .ok atr ∧
        (if signal.side = "sell" then
          BacktestJobService.simulateShortTrade candles (signal.index + 1) entry atr
            cfg.stopAtrMult cfg.tpAtrMult cfg.trailAtrMult
        else
          BacktestJobService.simulateLongTrade candles (signal.index + 1) entry atr
            cfg.stopAtrMult cfg.tpAtrMult cfg.trailAtrMult) = .ok result := by
  unfold BacktestJobService.simulateTrade
  by_cases hlen : (candles.length : ℤ) ≤ signal.index + 1
  · simp only [if_pos hlen]
    constructor
    · intro h
      cases h
    · rintro ⟨hlt, -⟩
      exact absurd hlen (not_le.mpr hlt)
  · simp only [if_neg hlen]
    constructor
    · intro h
      obtain ⟨entry, hentry, h⟩ := ok_of_bind h
      by_cases hpos : entry ≤ 0
      · rw [if_pos hpos] at h
        cases h
      · rw [if_neg hpos] at h
        obtain ⟨atr, hatr, h⟩ := ok_of_bind h
        exact ⟨not_le.mp hlen, entry, atr, hentry, not_le.mp hpos, hatr, h⟩
    · rintro ⟨-, entry, atr, hentry, hpos, hatr, h⟩
      rw [hentry]
      show (if entry ≤ 0 then _ else _) = _
      rw [if_neg (not_le.mpr hpos), hatr]
      exact h

end rules

end HaruTrade
