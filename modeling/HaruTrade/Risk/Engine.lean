import HaruTrade.Data.Double
import HaruTrade.Domain.Models
import Mathlib.Algebra.Order.Field.Rat
import Mathlib.Algebra.BigOperators.Group.List.Basic

/-!
# The risk engine

The entry levels of a position and the average true range.
-/

namespace HaruTrade

namespace RiskEngine

/-- Source: `app/risk/engine.py` `RiskEngine.can_open_new_position`. Kind: D -/
def canOpenNewPosition (openCount maxPositions : ℕ) : Bool := openCount < maxPositions

/-- Source: `app/risk/engine.py` `RiskEngine.build_stop_take_profit`. Kind: D -/
def buildStopTakeProfit (entryPrice atrValue stopAtrMult tpAtrMult : ℚ) : ℚ × ℚ :=
  (max (entryPrice - atrValue * stopAtrMult) 0, entryPrice + atrValue * tpAtrMult)

section trueRange

variable {F : Type} [OfNat F 0] [NatCast F] [Add F] [Sub F] [Neg F] [Div F] [LE F] [DecidableLE F]
  [Max F] [DecidableEq F]

/-- The true range of a bar after a close. Source: `app/risk/engine.py`
`RiskEngine.compute_atr`. Kind: D -/
def trueRange (high low prevClose : F) : F :=
  max (max (high - low) (pyAbs (high - prevClose))) (pyAbs (low - prevClose))

/-- The true ranges of a series of bars; the first bar takes its own close for the previous one.
Source: `app/risk/engine.py` `RiskEngine.compute_atr`. Kind: D -/
def trueRanges (bars : List (Candle F)) : List F :=
  List.zipWith (fun bar prevClose => trueRange bar.high bar.low prevClose) bars
    ((bars.take 1 ++ bars).map Candle.close)

/-- Source: `app/risk/engine.py` `RiskEngine.compute_atr`, on the highs, lows and closes of one
series of bars. Kind: D -/
def computeAtr (bars : List (Candle F)) : Except Exn F :=
  if bars = [] then .error (.lookup "high/low/close series are required")
  else .ok (pySum (trueRanges bars) / ((trueRanges bars).length : ℕ))

end trueRange

theorem computeAtr_ok {bars : List Candle} (h : bars ≠ []) :
    computeAtr bars = .ok ((trueRanges bars).sum / (trueRanges bars).length) := by
  unfold computeAtr
  rw [if_neg h, pySum_eq_sum]

end RiskEngine

end HaruTrade
