import HaruTrade.Loops.LoopA
import HaruTrade.Strategies.Registry

/-!
# Loop B

For one ticker Loop B finds the bars that are due, brings their candles up to date and queues the
signals that the strategies find in them.
-/

namespace HaruTrade

open Coro

namespace MarketSchedule

/-- The bars that end at this minute, within the market's hours and outside its call auctions.
Source: `app/loops/loop_b_runtime.py` `MarketSchedule.due_timeframes`. Kind: D -/
def dueTimeframes (now : Time) : List Timeframe :=
  let hh := Time.hour now
  let mm := Time.minute now
  if (hh = 8 ∧ 30 ≤ mm ∧ mm < 60) ∨ (hh = 15 ∧ 20 ≤ mm ∧ mm < 30) then []
  else if hh * 60 + mm < 8 * 60 ∨ 20 * 60 < hh * 60 + mm then []
  else
    (if mm % 3 = 0 then [.m3] else []) ++ (if mm % 5 = 0 then [.m5] else []) ++
      (if mm % 15 = 0 then [.m15] else []) ++ (if mm = 0 then [.m60] else []) ++
      if hh = 15 ∧ mm = 30 then [.d1] else []

/-- The minute that the bar of a timeframe begins at, for the intraday bars.
Source: `app/loops/loop_b_runtime.py` `MarketSchedule.slot_key`. Kind: D -/
def slotKey (now : Time) : Timeframe → Slot
  | .d1 => ⟨Time.day now, none⟩
  | .m60 => ⟨Time.day now, some (Time.hour now, 0)⟩
  | .m15 => ⟨Time.day now, some (Time.hour now, Time.minute now / 15 * 15)⟩
  | .m3 => ⟨Time.day now, some (Time.hour now, Time.minute now / 3 * 3)⟩
  | .m5 => ⟨Time.day now, some (Time.hour now, Time.minute now / 5 * 5)⟩

end MarketSchedule

/-- The stored candles since the given time. Source: `app/services/runtime_factory.py`
`DbFallbackCandleFetcher.fetch_incremental`. Kind: D -/
def DbFallbackCandleFetcher.fetchIncremental (ticker : String) (timeframe : Timeframe)
    (since : Option Time) : Prog (List Candle) :=
  catchSql
    (do
      orRaise (ask (.openSession (.fallback ticker timeframe)))
      orRaise (ask (.listRange ticker timeframe since 240)))
    fun _ => return []

/-- Ask the market-data service up to `attempts` times, then the candle table.
Source: `app/services/runtime_factory.py` `ResilientCandleFetcher.fetch_incremental`. Kind: D -/
def ResilientCandleFetcher.fetchIncremental (ticker : String) (timeframe : Timeframe)
    (since : Option Time) : ℕ → Prog (List Candle)
  | 0 => DbFallbackCandleFetcher.fetchIncremental ticker timeframe since
  | attempts + 1 => do
      match ← ask (.fetchCandles ticker timeframe since) with
      | .ok candles => return candles
      | .error _ => fetchIncremental ticker timeframe since attempts

/-- The calls of a fetch. Source: `app/services/runtime_factory.py`
`ResilientCandleFetcher.fetch_incremental`. Kind: L -/
theorem uses_fetchIncremental {U : Op → Prop} {ticker : String} {timeframe : Timeframe}
    {since : Option Time} (hfetch : U (.fetchCandles ticker timeframe since))
    (hsession : U (.openSession (.fallback ticker timeframe)))
    (hrange : U (.listRange ticker timeframe since 240)) (attempts : ℕ) :
    Uses U (ResilientCandleFetcher.fetchIncremental ticker timeframe since attempts) := by
  induction attempts with
  | zero =>
      refine uses_catchSql ?_ fun _ => uses_ret
      refine Uses.bind (uses_orRaise (uses_perform.mpr hsession)) fun _ => ?_
      exact uses_orRaise (uses_perform.mpr hrange)
  | succ attempts ih =>
      refine Uses.bind (uses_perform.mpr hfetch) fun r => ?_
      cases r with
      | ok candles => exact uses_ret
      | error x => exact ih

namespace LoopBRunner

/-- Store the fresh candles. Source: `app/loops/loop_b_runtime.py`
`LoopBRunner._sync_and_scan`. Kind: D -/
def upsertAll (ticker : String) (timeframe : Timeframe) : List Candle → Prog Unit
  | [] => return ()
  | candle :: candles => do
      orRaise (ask (.upsertIncremental ticker timeframe candle))
      upsertAll ticker timeframe candles

/-- The calls of storing candles. Source: `app/loops/loop_b_runtime.py`
`LoopBRunner._sync_and_scan`. Kind: L -/
theorem uses_upsertAll {U : Op → Prop} {ticker : String} {timeframe : Timeframe}
    (hupsert : ∀ candle, U (.upsertIncremental ticker timeframe candle)) (candles : List Candle) :
    Uses U (upsertAll ticker timeframe candles) := by
  induction candles with
  | nil => exact uses_ret
  | cons candle candles ih =>
      exact Uses.bind (uses_orRaise (uses_perform.mpr (hupsert candle))) fun _ => ih

/-- Bring the candles of one bar length up to date and queue what the strategies find in them.
Source: `app/loops/loop_b_runtime.py` `LoopBRunner._sync_and_scan`, with `LoopBScanner.run_for_timeframe`
of `app/loops/core.py` and the `retry_count` of `app/services/runtime_factory.py`. Kind: D -/
def syncAndScan (strategies : List Strategy) (ticker : String) (timeframe : Timeframe)
    (now : Time) : Prog ℕ := do
  orRaise (ask (.openSession (.lastCandle ticker timeframe)))
  let lastTs ← orRaise (ask (.getLastCandleTime ticker timeframe))
  let fresh ← ResilientCandleFetcher.fetchIncremental ticker timeframe lastTs 2
  orRaise (ask (.openSession (.sync ticker timeframe)))
  upsertAll ticker timeframe fresh
  let rows ← orRaise (ask (.listRecent .scan ticker timeframe 240))
  let signals := StrategyRegistry.scan strategies timeframe ticker rows now
  ask (.putMany signals)
  return signals.length

/-- The due bars one after another; a bar that was processed is skipped, and one whose database
calls fail stays to be processed. Source: `app/loops/loop_b_runtime.py`
`LoopBRunner.run_once_for_ticker`. Kind: D -/
def runTimeframes (strategies : List Strategy) (ticker : String) (now : Time) :
    List Timeframe → ℕ → Prog ℕ
  | [], produced => return produced
  | timeframe :: due, produced => do
      let slot := MarketSchedule.slotKey now timeframe
      if (← ask (.processedSlot ticker timeframe)) = some slot then
        runTimeframes strategies ticker now due produced
      else
        let found ← catchSql (some <$> syncAndScan strategies ticker timeframe now) fun _ => return none
        match found with
        | none => runTimeframes strategies ticker now due produced
        | some n => do
            ask (.setProcessedSlot ticker timeframe slot)
            runTimeframes strategies ticker now due (produced + n)

/-- Source: `app/loops/loop_b_runtime.py` `LoopBRunner.run_once_for_ticker`. Kind: D -/
def runOnceForTicker (strategies : List Strategy) (ticker : String) : Prog ℕ := do
  let now ← ask .now
  runTimeframes strategies ticker now (MarketSchedule.dueTimeframes now) 0

end LoopBRunner

end HaruTrade
