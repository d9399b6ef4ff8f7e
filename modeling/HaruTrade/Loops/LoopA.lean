import HaruTrade.Services.Trading

/-!
# Loop A

One pass of Loop A consumes at most one queued signal and then monitors the open positions: for each
row of one query it reads a price, an ATR and the trail multiplier, lets the state machine decide,
and closes or tracks the position. Prices, ATRs and the writes come between awaits, so what a
pass writes is decided from rows it read earlier.
-/

namespace HaruTrade

open Coro OrderService TradingService

/-- `try: p except SQLAlchemyError as exc: handler(exc)`. Source: none: infrastructure. Kind: D -/
def catchSql {α : Type} (p : Prog α) (handler : String → Prog α) : Prog α :=
  p.tryCatch fun x =>
    match x with
    | .sqlalchemy text => handler text
    | x => raise x

theorem uses_catchSql {α : Type} {U : Op → Prop} {p : Prog α} {f : String → Prog α}
    (h : Uses U p) (hf : ∀ t, Uses U (f t)) : Uses U (catchSql p f) := by
  refine h.tryCatch fun x => ?_
  cases x with
  | sqlalchemy t => exact hf t
  | lookup t => trivial
  | other t => trivial

/-! ## Prices, ATR and the trail multiplier -/

/-- The close of the latest candle, or `0.0` when there is none or the query fails.
Source: `app/services/runtime_factory.py` `DbPriceProvider.get_current_price`. Kind: D -/
def DbPriceProvider.getCurrentPrice (pid : ℕ) (ticker : String) : Prog ℚ :=
  catchSql
    (do
      orRaise (ask (.openSession (.price pid)))
      let value ← orRaise (ask (.getLatestClose pid ticker))
      return value.getD 0)
    fun _ => return 0

/-- The live price when it is positive, else the database price.
Source: `app/services/runtime_factory.py` `LivePriceProvider.get_current_price`. Kind: D -/
def LivePriceProvider.getCurrentPrice (pid : ℕ) (ticker : String) : Prog ℚ := do
  match ← ask (.livePrice pid ticker) with
  | .ok price =>
      if 0 < price then return price
      else DbPriceProvider.getCurrentPrice pid ticker
  | .error _ => DbPriceProvider.getCurrentPrice pid ticker

/-- The ATR of the last twenty bars, at least one, and one when there are fewer than two bars or
the query fails. Source: `app/services/runtime_factory.py` `DbAtrProvider.get_atr`. Kind: D -/
def DbAtrProvider.getAtr (pid : ℕ) (ticker : String) : Prog ℚ := do
  let rows ← catchSql
    (do
      orRaise (ask (.openSession (.atr pid)))
      let rows ← orRaise (ask (.listRecent (.atr pid) ticker .m5 20))
      return some rows)
    fun _ => return none
  match rows with
  | none => return 1
  | some rows =>
      if rows.length < 2 then return 1
      else
        let atr ← ofExcept (RiskEngine.computeAtr rows)
        return max atr 1

/-! ## The runner -/

/-- Source: `app/loops/loop_a_runtime.py` `LoopAResult`. Kind: D -/
structure LoopAResult where
  executedSignal : Bool
  monitoredPositions : ℕ
  closedPositions : ℕ
  failedCloseOrders : ℕ
  deriving DecidableEq, Repr

/-- The counters of a monitoring pass. Source: `app/loops/loop_a_runtime.py`
`LoopARunner._monitor_positions_once`. Kind: D -/
structure Tally where
  monitored : ℕ := 0
  closed : ℕ := 0
  failed : ℕ := 0
  deriving DecidableEq, Repr

namespace LoopARunner

/-- The strategy's own multiplier, else the common one. Source: `app/loops/loop_a_runtime.py`
`LoopARunner._resolve_trail_atr_mult`. Kind: D -/
def resolveTrailAtrMult (pid : ℕ) (strategyId : String) : Prog ℚ := do
  match ← ask (.configFloat pid ("strategy." ++ strategyId ++ ".trail_atr_mult")) with
  | .ok value => return value
  | .error (.lookup _) => orRaise (ask (.configFloat pid "trail_atr_mult"))
  | .error x => raise x

/-- The close order of a transition. Source: `app/loops/loop_a_runtime.py`
`LoopARunner._monitor_positions_once`. Kind: D -/
def closeRequest (p : Position) (tr : Transition) : OrderRequest where
  ticker := p.ticker
  side := "sell"
  orderType := .market
  qty := tr.closeQty
  price := none

/-- The close order and the transition it is placed for. Source: none: infrastructure. Kind: D -/
def closeTicket (p : Position) (tr : Transition) : Ticket := ⟨.close p tr, closeRequest p tr⟩

/-- The order row of a close. Source: `app/loops/loop_a_runtime.py`
`LoopARunner._monitor_positions_once`. Kind: D -/
def closeOrderArgs (p : Position) (tr : Transition) (currentPrice : ℚ) (result : OrderResult) :
    OrderArgs where
  signalId := none
  externalOrderId := result.orderId
  ticker := p.ticker
  side := "sell"
  orderType := .market
  price := some currentPrice
  quantity := tr.closeQty
  status := "filled"
  reason := tr.reason
  closes := some p.id

/-- An optional string in an f-string. Source: none: infrastructure. Kind: D -/
def strOrNone (s : Option String) : String := s.getD "None"

/-- The text of a failed close. Source: `app/loops/loop_a_runtime.py`
`LoopARunner._monitor_positions_once`. Kind: D -/
def closeFailedMessage (p : Position) (tr : Transition) (result : OrderResult) : String :=
  p.ticker ++ " strategy=" ++ p.strategyId ++ " reason=" ++ strOrNone tr.reason ++
    " error=" ++ strOrNone result.error

/-- What a position looks like at the current price, and what to do about it.
Source: `app/loops/loop_a_runtime.py` `LoopARunner._monitor_positions_once`. Kind: D -/
def observe (p : Position) : Prog (ℚ × Transition) := do
  let currentPrice ← LivePriceProvider.getCurrentPrice p.id p.ticker
  let atrValue ← DbAtrProvider.getAtr p.id p.ticker
  let trailAtrMult ← resolveTrailAtrMult p.id p.strategyId
  let transition ← ask (.decide p currentPrice atrValue trailAtrMult)
  return (currentPrice, transition)

/-- The bookkeeping of an accepted close. Source: `app/loops/loop_a_runtime.py`
`LoopARunner._monitor_positions_once`. Kind: D -/
def recordClose (p : Position) (tr : Transition) (currentPrice : ℚ) (result : OrderResult)
    (c : Tally) : Prog Tally :=
  catchSql
    (do
      let _ ← orRaise (ask (.createOrder (closeOrderArgs p tr currentPrice result)))
      let updated ← orRaise (ask (.applyTransition p.id tr))
      return if updated.state = .CLOSED then { c with closed := c.closed + 1 } else c)
    fun text => do
      critical "position_update_failed" text
      return { c with failed := c.failed + 1 }

/-- Close (part of) a position. Source: `app/loops/loop_a_runtime.py`
`LoopARunner._monitor_positions_once`. Kind: D -/
def closePosition (p : Position) (tr : Transition) (currentPrice : ℚ) (c : Tally) :
    Prog Tally := do
  let result ← placeWithReconcile (closeTicket p tr)
  if result.ok then
    recordClose p tr currentPrice result c
  else
    critical "close_order_failed" (closeFailedMessage p tr result)
    return { c with failed := c.failed + 1 }

/-- Store new levels of a position. Source: `app/loops/loop_a_runtime.py`
`LoopARunner._monitor_positions_once`. Kind: D -/
def trackPosition (p : Position) (tr : Transition) (c : Tally) : Prog Tally :=
  catchSql
    (do
      let _ ← orRaise (ask (.applyTransition p.id tr))
      return c)
    fun text => do
      critical "position_update_failed" text
      return { c with failed := c.failed + 1 }

/-- Close or track a position as the transition says. Source: `app/loops/loop_a_runtime.py`
`LoopARunner._monitor_positions_once`. Kind: D -/
def carryOut (p : Position) (tr : Transition) (currentPrice : ℚ) (c : Tally) : Prog Tally := do
  match ← ask (.openSession (.transition p.id)) with
  | .error (.sqlalchemy text) =>
      critical "positions_session_failed" text
      return { c with failed := c.failed + 1 }
  | .error x => raise x
  | .ok () =>
      if 0 < tr.closeQty then
        closePosition p tr currentPrice c
      else if tr.newHighest ≠ p.highestPrice ∨ tr.newTrailingStop ≠ p.trailingStopPrice then
        trackPosition p tr c
      else
        return c

/-- The body of the monitoring loop. Source: `app/loops/loop_a_runtime.py`
`LoopARunner._monitor_positions_once`. Kind: D -/
def monitorPosition (p : Position) (c : Tally) : Prog Tally := do
  let (currentPrice, tr) ← observe p
  carryOut p tr currentPrice { c with monitored := c.monitored + 1 }

/-- The monitoring loop over the queried rows. Source: `app/loops/loop_a_runtime.py`
`LoopARunner._monitor_positions_once`. Kind: D -/
def monitorLoop : List Position → Tally → Prog Tally
  | [], c => return c
  | p :: ps, c => do
      let c ← monitorPosition p c
      monitorLoop ps c

/-- The rows to monitor; a failed query is reported and monitors nothing.
Source: `app/loops/loop_a_runtime.py` `LoopARunner._monitor_positions_once`. Kind: D -/
def queryPositions : Prog (Option (List Position)) :=
  catchSql
    (do
      orRaise (ask (.openSession .positions))
      let positions ← orRaise (ask (.listOpenPositions .monitor))
      return some positions)
    fun text => do
      critical "positions_query_failed" text
      return none

/-- Source: `app/loops/loop_a_runtime.py` `LoopARunner._monitor_positions_once`. Kind: D -/
def monitorPositionsOnce : Prog Tally := do
  match ← queryPositions with
  | none => return {}
  | some positions => monitorLoop positions {}

/-- Source: `app/loops/loop_a_runtime.py` `LoopARunner._consume_signal_once`. Kind: D -/
def consumeSignalOnce : Prog Bool := do
  match ← ask .popOne with
  | none => return false
  | some signal =>
      Coro.tryCatch
        (do
          executeFromSignal signal
          return true)
        fun x => do
          critical "signal_execute_failed" x.str
          return false

/-- **One pass of Loop A.** Source: `app/loops/loop_a_runtime.py` `LoopARunner.run_once`.
Kind: D -/
def runOnce : Prog LoopAResult := do
  let executedSignal ← consumeSignalOnce
  let c ← monitorPositionsOnce
  return {
    executedSignal
    monitoredPositions := c.monitored
    closedPositions := c.closed
    failedCloseOrders := c.failed }

end LoopARunner

end HaruTrade
