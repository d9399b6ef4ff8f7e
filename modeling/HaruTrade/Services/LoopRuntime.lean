import HaruTrade.Loops.LoopB

/-!
# The runtime cycle

`runCycle` runs Loop A, Loop B over the tracked tickers, and Loop C when it is due. Several cycles can
be under way at once: the background loop and the ones that are started by hand.
-/

namespace HaruTrade

open Coro OrderService

/-- Source: `app/services/loop_runtime.py` `CycleReport`. Kind: D -/
structure CycleReport where
  ok : Bool
  loopA : LoopAResult
  loopBSignals : ℕ
  loopCRan : Bool
  error : Option String := none
  deriving DecidableEq, Repr

/-- The tickers of the tracked symbols and of the open positions, in order.
Source: `app/services/runtime_factory.py` `_load_tracking_tickers`. Kind: D -/
def mergeTickers (tracking : List String) (positions : List Position) : List String :=
  ((tracking ++ (positions.map fun p => PyText.strip p.ticker).filter (· ≠ "")).dedup
    ).insertionSort (· ≤ ·)

/-- The tickers that Loop B scans. The trading and universe lists are read for their counts.
Source: `app/services/runtime_factory.py` `_load_tracking_tickers`. Kind: D -/
def loadTrackingTickers : Prog (List String) :=
  catchSql
    (do
      orRaise (ask (.openSession .tickers))
      let _ ← orRaise (ask .listTradingTickers)
      let trackingTickers ← orRaise (ask .listTrackingTickers)
      let _ ← orRaise (ask .listUniverseTickers)
      let openPositions ← orRaise (ask (.listOpenPositions .tickers))
      return mergeTickers trackingTickers openPositions)
    fun _ => return []

namespace LoopRuntimeCoordinator

/-- Loop B over the tickers. Source: `app/services/loop_runtime.py`
`LoopRuntimeCoordinator.run_cycle`. Kind: D -/
def runLoopB (strategies : List Strategy) : List String → ℕ → Prog ℕ
  | [], n => return n
  | ticker :: tickers, n => do
      let found ← LoopBRunner.runOnceForTicker strategies ticker
      runLoopB strategies tickers (n + found)

/-- What a cycle does until it ends or raises. Source: `app/services/loop_runtime.py`
`LoopRuntimeCoordinator.run_cycle`. Kind: D -/
def cycleBody (strategies : List Strategy) : Prog CycleReport := do
  let loopA ← LoopARunner.runOnce
  orRaise (ask .preLoopBHook)
  let tickers ← loadTrackingTickers
  let loopBSignals ← runLoopB strategies tickers 0
  let now ← ask .now
  let loopCRan ← ask (.shouldRunLoopC now)
  if loopCRan then
    orRaise (ask .loopC)
  return { ok := true, loopA, loopBSignals, loopCRan }

/-- **One cycle.** Source: `app/services/loop_runtime.py` `LoopRuntimeCoordinator.run_cycle`.
Kind: D -/
def runCycle (strategies : List Strategy) : Prog CycleReport :=
  (cycleBody strategies).tryCatch fun x => do
    critical "loop_cycle_failed" x.str
    return {
      ok := false
      loopA := { executedSignal := false, monitoredPositions := 0, closedPositions := 0,
                 failedCloseOrders := 0 }
      loopBSignals := 0
      loopCRan := false
      error := some x.str }

end LoopRuntimeCoordinator

end HaruTrade
