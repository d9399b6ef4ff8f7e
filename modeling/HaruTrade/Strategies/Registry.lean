import HaruTrade.Domain.Python
import HaruTrade.Runtime.World
import Mathlib.Algebra.Order.Field.Rat

/-!
# Strategies and their registry

A strategy scans the candles of a ticker and may answer with a signal; the registry asks every
strategy of a timeframe. A division by zero and an index that a list does not have raise, so `Generate`
returns in `Except`. `GapMomentumStrategy` is here, the other strategies of the registry import this
file.
-/

namespace HaruTrade

/-- The name of a bar length. Source: `app/loops/loop_b_runtime.py` `MarketSchedule`. Kind: D -/
def Timeframe.name : Timeframe → String
  | m3 => "3m"
  | m5 => "5m"
  | m15 => "15m"
  | m60 => "60m"
  | d1 => "1d"

/-- The seconds since midnight. Source: none: infrastructure. Kind: D -/
def Time.clock (t : Time) : ℕ := t % 86400

/-- Source: `app/strategies/base.py` `BaseStrategy`. Kind: D -/
structure Strategy where
  timeframe : Timeframe
  generate : (ticker : String) → (candles : List Candle) → (now : Time) → Option Signal

/-- `generate` of a strategy, which may raise. Source: `app/strategies/base.py`
`BaseStrategy.generate`. Kind: D -/
abbrev Generate := (ticker : String) → List Candle → (now : Time) → Except Exn (Option Signal)

/-- A strategy as the loops ask it, which do so where it does not raise.
Source: `app/strategies/base.py` `BaseStrategy`. Kind: D -/
def Generate.strategy (generate : Generate) (timeframe : Timeframe) : Strategy where
  timeframe := timeframe
  generate ticker candles now := (generate ticker candles now).toOption.join

/-- The signal at the last candle, priced at its close. Source:
`app/strategies/impl/volume_surge.py` `VolumeSurgeStrategy.generate`. Kind: D -/
def lastSignal (strategyId side ticker : String) (timeframe : Timeframe) (candles : List Candle)
    (now : Time) (lastClose : ℚ) : Signal where
  index := candles.length - 1
  side := side
  ticker := ticker
  strategyId := strategyId
  timeframe := timeframe.name
  price := some lastClose
  signalTime := some now

/-- The clock is within one of the hours, which are pairs of seconds since midnight.
Source: `app/strategies/base.py` `BaseStrategy.is_active_time`. Kind: D -/
def isActiveTime (activeHours : List (ℕ × ℕ)) (now : Time) : Bool :=
  activeHours.any fun hours => hours.1 ≤ Time.clock now ∧ Time.clock now ≤ hours.2

namespace GapMomentumStrategy

/-- `("08:00", "09:00")` and `("09:00", "09:30")`.
Source: `app/strategies/impl/gap_momentum.py` `GapMomentumStrategy`. Kind: D -/
def activeHours : List (ℕ × ℕ) := [(8 * 3600, 9 * 3600), (9 * 3600, 9 * 3600 + 30 * 60)]

/-- A gap of two percent between the last two bars is a signal in its direction.
Source: `app/strategies/impl/gap_momentum.py` `GapMomentumStrategy.generate`. Kind: D -/
def generate (timeframe : Timeframe) : Generate := fun ticker candles now =>
  if isActiveTime activeHours now = false ∨ candles.length < 2 then return none
  else do
    let prev ← pyGet candles (-2)
    let last ← pyGet candles (-1)
    if prev.close ≤ 0 then return none
    let gapRatio ← pyDiv (last.open - prev.close) prev.close
    if |gapRatio| < 2 / 100 then return none
    let side := if 0 < gapRatio then "buy" else "sell"
    return some (lastSignal "1" side ticker timeframe candles now last.close)

/-- Source: `app/strategies/registry.py` `StrategyRegistry`, which builds it for `3m`. Kind: D -/
def strategy : Strategy := Generate.strategy (generate .m3) .m3

/-- What a signal of the strategy is labelled with. Source: `app/strategies/impl/gap_momentum.py`
`GapMomentumStrategy.generate`. Kind: L -/
theorem labels_of_generate {timeframe : Timeframe} {ticker : String} {candles : List Candle}
    {now : Time} {signal : Signal} (h : generate timeframe ticker candles now = .ok (some signal)) :
    signal.strategyId = "1" ∧ signal.ticker = ticker ∧ signal.timeframe = timeframe.name := by
  unfold generate at h
  split_ifs at h with hout
  · cases h
  obtain ⟨prev, -, h⟩ := ok_of_bind h
  obtain ⟨last, -, h⟩ := ok_of_bind h
  split_ifs at h with hclose
  · cases h
  obtain ⟨gapRatio, -, h⟩ := ok_of_bind h
  by_cases hgap : |gapRatio| < 2 / 100
  · rw [if_pos hgap] at h
    cases h
  · rw [if_neg hgap] at h
    injection h with h
    injection h with h
    subst h
    exact ⟨rfl, rfl, rfl⟩

end GapMomentumStrategy

namespace StrategyRegistry

/-- Source: `app/strategies/registry.py` `StrategyRegistry.for_timeframe`. Kind: D -/
def forTimeframe (strategies : List Strategy) (timeframe : Timeframe) : List Strategy :=
  strategies.filter fun s => s.timeframe = timeframe

/-- Source: `app/strategies/registry.py` `StrategyRegistry.scan`. Kind: D -/
def scan (strategies : List Strategy) (timeframe : Timeframe) (ticker : String)
    (candles : List Candle) (now : Time) : List Signal :=
  (forTimeframe strategies timeframe).filterMap fun s => s.generate ticker candles now

end StrategyRegistry

end HaruTrade
