import HaruTrade.Data.Double
import HaruTrade.Strategies.Registry

/-!
# The five strategies

What each strategy of the registry reads of the candles and when it answers with a signal. The
exponential average is written for any type of numbers: rational numbers, or doubles that round.
-/

namespace HaruTrade

/-! ## Helpers -/

/-- Source: `app/strategies/helpers.py` `closes`. Kind: D -/
def closes (candles : List Candle) : List ℚ := candles.map Candle.close

/-- Source: `app/strategies/helpers.py` `volumes`. Kind: D -/
def volumes (candles : List Candle) : List ℚ := candles.map Candle.volume

section average

variable {F : Type} [OfNat F 0] [OfNat F 1] [OfNat F 2] [NatCast F] [Add F] [Sub F] [Neg F] [Mul F]
  [Div F] [LE F] [DecidableLE F] [Max F] [DecidableEq F]

/-- The exponential moving average. Source: `app/strategies/helpers.py` `ema`. Kind: D -/
def ema (values : List F) (period : ℕ) : Except Exn F :=
  if period = 0 then .error (.lookup "period must be positive")
  else if values.length < period then .error (.lookup "not enough samples for EMA")
  else
    let k : F := 2 / (period + 1)
    .ok ((values.drop period).foldl (fun current value => value * k + current * (1 - k))
      (pySum (values.take period) / period))

end average

/-! ## Strategies -/

namespace EmaPullbackStrategy

/-- `("09:00", "15:20")`. Source: `app/strategies/impl/ema_pullback.py`
`EmaPullbackStrategy.__init__`. Kind: D -/
def activeHours : List (ℕ × ℕ) := [(9 * 3600, 15 * 3600 + 20 * 60)]

/-- The last volume is below the average of the nineteen before it.
Source: `app/strategies/impl/ema_pullback.py` `EmaPullbackStrategy.generate`. Kind: D -/
def thinVolume (vols : List ℚ) : Except Exn Bool :=
  if 20 ≤ vols.length then do
    let recent := pySlice vols (-20) (-1)
    let recentAvg := if 0 < recent.length then recent.sum / 19 else 0
    let last ← pyGet vols (-1)
    return 0 < recentAvg ∧ last < recentAvg
  else return false

/-- The averages are in order and the close is near the middle one.
Source: `app/strategies/impl/ema_pullback.py` `EmaPullbackStrategy.generate`. Kind: D -/
def generate (timeframe : Timeframe) : Generate := fun ticker candles now =>
  if isActiveTime activeHours now = false ∨ candles.length < 60 then return none
  else do
    let cls := closes candles
    let ema5 ← ema cls 5
    let ema20 ← ema cls 20
    let ema60 ← ema cls 60
    if ¬ (ema20 < ema5 ∧ ema60 < ema20) then return none
    let lastClose ← pyGet cls (-1)
    let pullbackRatio ← pyDiv |lastClose - ema20| ema20
    if 1 / 100 < pullbackRatio then return none
    let thin ← thinVolume (volumes candles)
    return if thin then none else some (lastSignal "2" "buy" ticker timeframe candles now lastClose)

end EmaPullbackStrategy

namespace VolatilityBreakoutStrategy

/-- `("09:00", "15:20")`. Source: `app/strategies/impl/volatility_breakout.py`
`VolatilityBreakoutStrategy.__init__`. Kind: D -/
def activeHours : List (ℕ × ℕ) := [(9 * 3600, 15 * 3600 + 20 * 60)]

/-- The last bar reaches above the one before it by a part of that one's range.
Source: `app/strategies/impl/volatility_breakout.py` `VolatilityBreakoutStrategy.generate`. Kind: D -/
def generate (timeframe : Timeframe) (k : ℚ) : Generate := fun ticker candles now =>
  if isActiveTime activeHours now = false ∨ candles.length < 2 then return none
  else do
    let prev ← pyGet candles (-2)
    let current ← pyGet candles (-1)
    let target := prev.high + (prev.high - prev.low) * k
    return if current.high < target ∨ current.close < target then none
      else some (lastSignal "3" "buy" ticker timeframe candles now current.close)

end VolatilityBreakoutStrategy

namespace VolumeSurgeStrategy

/-- `("09:00", "15:20")` and `("15:30", "20:00")`. Source: `app/strategies/impl/volume_surge.py`
`VolumeSurgeStrategy.__init__`. Kind: D -/
def activeHours : List (ℕ × ℕ) :=
  [(9 * 3600, 15 * 3600 + 20 * 60), (15 * 3600 + 30 * 60, 20 * 3600)]

/-- `sum(recent) / len(recent) if recent else 0.0`. Source: `app/strategies/impl/volume_surge.py`
`VolumeSurgeStrategy.generate`. Kind: D -/
def averageVolume (recent : List ℚ) : Except Exn ℚ :=
  if recent = [] then .ok 0 else pyDiv recent.sum recent.length

/-- The number of some volumes is not zero. Source: `app/strategies/impl/volume_surge.py`
`VolumeSurgeStrategy.generate`. Kind: L -/
theorem exists_averageVolume (recent : List ℚ) : ∃ avg20, averageVolume recent = .ok avg20 := by
  unfold averageVolume
  by_cases hnil : recent = []
  · rw [if_pos hnil]
    exact ⟨_, rfl⟩
  · have hne : (recent.length : ℚ) ≠ 0 :=
      Nat.cast_ne_zero.mpr (mt List.length_eq_zero_iff.mp hnil)
    rw [if_neg hnil, pyDiv_of_ne hne]
    exact ⟨_, rfl⟩

/-- Three times the average volume of the twenty bars before, and a rise of one percent.
Source: `app/strategies/impl/volume_surge.py` `VolumeSurgeStrategy.generate`. Kind: D -/
def generate (timeframe : Timeframe) : Generate := fun ticker candles now =>
  if isActiveTime activeHours now = false ∨ candles.length < 21 then return none
  else do
    let prev ← pyGet candles (-2)
    let last ← pyGet candles (-1)
    let recent := pySlice (volumes candles) (-21) (-1)
    let avg20 ← averageVolume recent
    if avg20 ≤ 0 then return none
    if last.volume < avg20 * 3 then return none
    if prev.close ≤ 0 then return none
    let rise ← pyDiv (last.close - prev.close) prev.close
    if rise < 1 / 100 then return none
    return some (lastSignal "4" "buy" ticker timeframe candles now last.close)

end VolumeSurgeStrategy

namespace SupportResistanceStrategy

/-- `("09:00", "15:20")`. Source: `app/strategies/impl/support_resistance.py`
`SupportResistanceStrategy.__init__`. Kind: D -/
def activeHours : List (ℕ × ℕ) := [(9 * 3600, 15 * 3600 + 20 * 60)]

/-- The candle rebounds from the support. Source: `app/strategies/impl/support_resistance.py`
`SupportResistanceStrategy.generate`. Kind: D -/
def rebound (last : Candle) (support : ℚ) : Except Exn Bool :=
  if 0 < support then do
    let distance ← pyDiv |last.low - support| support
    return distance ≤ 3 / 1000 ∧ support < last.close ∧ last.open ≤ last.close
  else return false

/-- **The guard on the support is enough.** Source: `app/strategies/impl/support_resistance.py`
`SupportResistanceStrategy.generate`. Kind: L -/
theorem exists_rebound (last : Candle) (support : ℚ) :
    ∃ rebounds, rebound last support = .ok rebounds := by
  unfold rebound
  by_cases hpos : 0 < support
  · rw [if_pos hpos, pyDiv_of_ne hpos.ne']
    exact ⟨_, rfl⟩
  · rw [if_neg hpos]
    exact ⟨_, rfl⟩

/-- A breakout above the resistance of the bar before, or a rebound from its support.
Source: `app/strategies/impl/support_resistance.py` `SupportResistanceStrategy.generate`. Kind: D -/
def generate (timeframe : Timeframe) : Generate := fun ticker candles now =>
  if isActiveTime activeHours now = false ∨ candles.length < 2 then return none
  else do
    let prev ← pyGet candles (-2)
    let last ← pyGet candles (-1)
    let pivot := (prev.high + prev.low + prev.close) / 3
    let resistance := 2 * pivot - prev.low
    let support := 2 * pivot - prev.high
    let breakout : Bool := resistance ≤ last.close ∧ prev.volume ≤ last.volume
    let rebounds ← rebound last support
    if !(breakout || rebounds) then return none
    return some (lastSignal "5" "buy" ticker timeframe candles now last.close)

end SupportResistanceStrategy

/-- The strategies that are registered by default. Source: `app/strategies/registry.py`
`StrategyRegistry.__init__`. Kind: D -/
def StrategyRegistry.registered : List Generate :=
  [GapMomentumStrategy.generate .m3, EmaPullbackStrategy.generate .m15,
    VolatilityBreakoutStrategy.generate .m3 (1 / 2), VolumeSurgeStrategy.generate .m3,
    SupportResistanceStrategy.generate .m15]

end HaruTrade
