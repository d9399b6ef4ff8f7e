import HaruTrade.Data.Table
import HaruTrade.Orders.StateMachine
import HaruTrade.Services.RuntimeState

/-!
# The state of the runtime

Everything the loops share: the flags, the signal queue, the tables of the database, the order
gateway as the broker sees it, and what Loop B and Loop C remember between cycles.

The gateway is a log of answered calls. Three of its fields are *ghosts*, data that the program
never reads and that only the theorems look at: which signal or position an order was placed for
(`Ticket.intent`), and whether the broker registered an order and how much of it was filled when
the order pipeline returned (`GatewayEvent.placed`). The ghost `OrderRow.closes` likewise names
the position whose close an order row records.
-/

namespace HaruTrade

/-- The bar lengths. Source: `app/loops/loop_b_runtime.py` `MarketSchedule`. Kind: D -/
inductive Timeframe
  | m3
  | m5
  | m15
  | m60
  | d1
  deriving DecidableEq, Repr

/-! ## Rows -/

/-- Source: `app/db/models/ordering.py` `Signal`. Kind: D -/
structure SignalRow where
  id : ℕ
  ticker : String
  strategyId : String
  timeframe : String
  side : String
  signalPrice : ℚ
  signalTime : Time
  status : String
  deriving DecidableEq, Repr

/-- Source: `app/db/models/ordering.py` `Order`. Kind: D -/
structure OrderRow where
  id : ℕ
  signalId : Option ℕ
  externalOrderId : Option String
  ticker : String
  side : String
  orderType : OrderType
  price : Option ℚ
  quantity : ℚ
  filledQuantity : ℚ
  status : String
  reason : Option String
  /-- Ghost: the position whose close the row records. -/
  closes : Option ℕ
  deriving DecidableEq, Repr

/-- Source: `app/db/models/ordering.py` `Position`. Kind: D -/
structure Position where
  id : ℕ
  orderId : Option ℕ
  ticker : String
  strategyId : String
  state : PositionState
  entryPrice : ℚ
  stopPrice : ℚ
  takeProfitPrice : ℚ
  trailingStopPrice : Option ℚ
  highestPrice : Option ℚ
  quantity : ℚ
  remainingQuantity : ℚ
  closeReason : Option String
  deriving DecidableEq, Repr

/-- The part of a position row that the state machine reads.
Source: `app/loops/loop_a_runtime.py` `LoopARunner._monitor_positions_once`. Kind: D -/
def Position.snapshot (p : Position) : PositionSnapshot where
  state := p.state
  remainingQuantity := p.remainingQuantity
  stopPrice := p.stopPrice
  takeProfitPrice := p.takeProfitPrice
  trailingStopPrice := p.trailingStopPrice
  highestPrice := p.highestPrice

/-- Source: `app/db/models/universe.py` `Symbol`. Kind: D -/
structure SymbolRow where
  ticker : String
  inUniverse : Bool := true
  isActive : Bool := false
  isBlocked : Bool := false
  status : UniverseStatus := .NORMAL
  deriving DecidableEq, Repr

/-- Source: `app/db/models/candle.py` `Candle`. Kind: D -/
structure CandleRow where
  ticker : String
  timeframe : Timeframe
  candle : Candle
  deriving DecidableEq, Repr

/-- The unique key of the candle table. Source: `app/db/models/candle.py` `Candle`. Kind: D -/
def CandleRow.key (row : CandleRow) : String × Timeframe × Time :=
  (row.ticker, row.timeframe, row.candle.ts)

/-! ## Orders as the gateway sees them -/

/-- What an order is placed for: a queued signal, or the close of a position that a transition of
the state machine asks for. Source: none: infrastructure. Kind: D -/
inductive Intent
  | entry (signal : Signal)
  | close (position : Position) (transition : Transition)
  deriving DecidableEq, Repr

/-- The position an order closes. Source: none: infrastructure. Kind: D -/
def Intent.closes : Intent → Option ℕ
  | entry _ => none
  | close p _ => some p.id

/-- An order request and what it is for. Source: none: infrastructure. Kind: D -/
structure Ticket where
  intent : Intent
  req : OrderRequest
  deriving DecidableEq, Repr

/-- The two `place_order` calls of one reconcile.
Source: `app/orders/service.py` `OrderService.place_with_reconcile`. Kind: D -/
inductive Attempt
  | first
  | second
  deriving DecidableEq, Repr

/-- The statuses that settle an order. Source: `app/orders/service.py`
`OrderService.place_with_reconcile`. Kind: D -/
def settledStatuses : List String := ["accepted", "partial", "filled"]

/-- `st.exists and st.status in {"accepted", "partial", "filled"}`.
Source: `app/orders/service.py` `OrderService.place_with_reconcile`. Kind: D -/
def OrderStatus.settles (st : OrderStatus) : Bool := st.present && st.status ∈ settledStatuses

/-- An answered call of the order gateway. `live` and `filled` are ghosts: whether the broker
registered the order, and how much of it was filled when the reconcile returned.
Source: none: infrastructure. Kind: D -/
inductive GatewayEvent
  | placed (ticket : Ticket) (attempt : Attempt) (reply : Except Exn OrderResult) (live : Bool)
      (filled : ℚ)
  | checked (ticket : Ticket) (attempt : Attempt) (orderId : String)
      (reply : Except Exn OrderStatus)

namespace GatewayEvent

/-- What the order of the event is for. Source: none: infrastructure. Kind: D -/
def ticket : GatewayEvent → Ticket
  | placed t _ _ _ _ => t
  | checked t _ _ _ => t

/-- Does the reply say that the broker accepted the order?
Source: `app/orders/service.py` `OrderService.place_with_reconcile`. Kind: D -/
def accepts : GatewayEvent → Bool
  | placed _ _ (.ok r) _ _ => r.ok
  | placed _ _ (.error _) _ _ => false
  | checked _ _ _ (.ok st) => st.settles
  | checked _ _ _ (.error _) => false

/-- Is the event a `place_order` call? Source: none: infrastructure. Kind: D -/
def isPlacement : GatewayEvent → Bool
  | placed _ _ _ _ _ => true
  | checked _ _ _ _ => false

/-- The quantity of a `place_order` call. Source: none: infrastructure. Kind: D -/
def placedQty : GatewayEvent → ℚ
  | placed t _ _ _ _ => t.req.qty
  | checked _ _ _ _ => 0

/-- The quantity the event accepts. Source: none: infrastructure. Kind: D -/
def acceptedQty (ev : GatewayEvent) : ℚ := if ev.accepts then ev.ticket.req.qty else 0

end GatewayEvent

/-! ## The world -/

/-- A bar slot of Loop B: the day, and the bar's first minute for the intraday bars.
Source: `app/loops/loop_b_runtime.py` `MarketSchedule.slot_key`. Kind: D -/
structure Slot where
  day : ℕ
  minute : Option (ℕ × ℕ)
  deriving DecidableEq, Repr

/-- **The state of the runtime.** Source: `app/services/runtime_factory.py`
`build_runtime_bundle`. Kind: D -/
structure World where
  runtime : RuntimeState := {}
  queue : List Signal := []
  signals : Table SignalRow.id := .empty
  orders : Table OrderRow.id := .empty
  positions : Table Position.id := .empty
  symbols : Table SymbolRow.ticker := .empty
  candles : Table CandleRow.key := .empty
  /-- The answered calls of the order gateway, oldest first. -/
  gateway : List GatewayEvent := []
  /-- `LoopBRunner._processed_slots`. -/
  processedSlots : List ((String × Timeframe) × Slot) := []
  /-- `LoopRuntimeCoordinator._last_loop_c_slot`. -/
  lastLoopCSlot : Option Slot := none

namespace World

variable (w : World)

/-- The gateway events of the orders that close position `pid`.
Source: none: infrastructure. Kind: D -/
def closeEvents (pid : ℕ) : List GatewayEvent :=
  w.gateway.filter fun ev => ev.ticket.intent.closes = some pid

/-- The total quantity of the close orders sent to the gateway for position `pid`.
Source: none: infrastructure. Kind: D -/
def placedQty (pid : ℕ) : ℚ := ((w.closeEvents pid).map GatewayEvent.placedQty).sum

/-- The total quantity of the close orders the gateway accepted for position `pid`.
Source: none: infrastructure. Kind: D -/
def acceptedQty (pid : ℕ) : ℚ := ((w.closeEvents pid).map GatewayEvent.acceptedQty).sum

/-- The order rows that record closes of position `pid`. Source: none: infrastructure. Kind: D -/
def closeOrders (pid : ℕ) : List OrderRow := w.orders.select fun o => o.closes = some pid

end World

end HaruTrade
