import HaruTrade.Runtime.World

/-!
# The ordering repository

The inserts and updates of the signal, order and position tables, each as the state of the world
after its commit. That a commit can fail is added where the calls are answered.
-/

namespace HaruTrade

/-- The arguments of `create_signal`. Source: `app/repositories/ordering.py`
`OrderingRepository.create_signal`. Kind: D -/
structure SignalArgs where
  ticker : String
  strategyId : String
  timeframe : String
  side : String
  signalPrice : ℚ
  /-- `none` stands for `datetime.now()` at the call. -/
  signalTime : Option Time
  status : String := "queued"
  deriving DecidableEq, Repr

/-- The arguments of `create_order`, and the ghost `closes`. Source: `app/repositories/ordering.py`
`OrderingRepository.create_order`. Kind: D -/
structure OrderArgs where
  signalId : Option ℕ
  externalOrderId : Option String
  ticker : String
  side : String
  orderType : OrderType
  price : Option ℚ
  quantity : ℚ
  status : String
  reason : Option String
  closes : Option ℕ
  deriving DecidableEq, Repr

/-- The arguments of `open_position`. Source: `app/repositories/ordering.py`
`OrderingRepository.open_position`. Kind: D -/
structure PositionArgs where
  orderId : Option ℕ
  ticker : String
  strategyId : String
  entryPrice : ℚ
  stopPrice : ℚ
  takeProfitPrice : ℚ
  quantity : ℚ
  deriving DecidableEq, Repr

/-- The row of a signal. Source: `app/repositories/ordering.py`
`OrderingRepository.create_signal`. Kind: D -/
def SignalArgs.row (args : SignalArgs) (now : Time) (id : ℕ) : SignalRow where
  id := id
  ticker := args.ticker
  strategyId := args.strategyId
  timeframe := args.timeframe
  side := args.side
  signalPrice := args.signalPrice
  signalTime := args.signalTime.getD now
  status := args.status

/-- The row of an order. Source: `app/repositories/ordering.py`
`OrderingRepository.create_order`. Kind: D -/
def OrderArgs.row (args : OrderArgs) (id : ℕ) : OrderRow where
  id := id
  signalId := args.signalId
  externalOrderId := args.externalOrderId
  ticker := args.ticker
  side := args.side
  orderType := args.orderType
  price := args.price
  quantity := args.quantity
  filledQuantity := 0
  status := args.status
  reason := args.reason
  closes := args.closes

/-- The row of a new position. Source: `app/repositories/ordering.py`
`OrderingRepository.open_position`. Kind: D -/
def PositionArgs.row (args : PositionArgs) (id : ℕ) : Position where
  id := id
  orderId := args.orderId
  ticker := args.ticker
  strategyId := args.strategyId
  state := .OPEN
  entryPrice := args.entryPrice
  stopPrice := args.stopPrice
  takeProfitPrice := args.takeProfitPrice
  trailingStopPrice := none
  highestPrice := some args.entryPrice
  quantity := args.quantity
  remainingQuantity := args.quantity
  closeReason := none

@[simp] theorem SignalArgs.row_id (args : SignalArgs) (now : Time) (id : ℕ) :
    (args.row now id).id = id := rfl

@[simp] theorem OrderArgs.row_id (args : OrderArgs) (id : ℕ) : (args.row id).id = id := rfl

@[simp] theorem PositionArgs.row_id (args : PositionArgs) (id : ℕ) : (args.row id).id = id := rfl

/-- The row after a transition was applied to it. Source: `app/repositories/ordering.py`
`OrderingRepository.apply_transition`. Kind: D -/
def Position.apply (row : Position) (transition : Transition) : Position :=
  { row with
    state := transition.newState
    highestPrice := transition.newHighest
    trailingStopPrice := transition.newTrailingStop
    remainingQuantity :=
      if 0 < transition.closeQty then max (row.remainingQuantity - transition.closeQty) 0
      else row.remainingQuantity
    closeReason :=
      if transition.newState = .CLOSED ∧ truthy transition.reason then transition.reason
      else row.closeReason }

@[simp] theorem Position.apply_id (row : Position) (tr : Transition) : (row.apply tr).id = row.id :=
  rfl

@[simp] theorem Position.apply_ticker (row : Position) (tr : Transition) :
    (row.apply tr).ticker = row.ticker := rfl

@[simp] theorem Position.apply_state (row : Position) (tr : Transition) :
    (row.apply tr).state = tr.newState := rfl

@[simp] theorem Position.apply_quantity (row : Position) (tr : Transition) :
    (row.apply tr).quantity = row.quantity := rfl

theorem Position.apply_remaining_of_close {row : Position} {tr : Transition}
    (h : 0 < tr.closeQty) (hle : tr.closeQty ≤ row.remainingQuantity) :
    (row.apply tr).remainingQuantity = row.remainingQuantity - tr.closeQty := by
  simp [Position.apply, h, hle]

theorem Position.apply_remaining_of_hold {row : Position} {tr : Transition}
    (h : ¬ 0 < tr.closeQty) : (row.apply tr).remainingQuantity = row.remainingQuantity := by
  simp [Position.apply, h]

namespace OrderingRepository

variable (w : World)

/-- Source: `app/repositories/ordering.py` `OrderingRepository.create_signal`. Kind: D -/
def createSignal (args : SignalArgs) (now : Time) : World :=
  { w with signals := w.signals.add (args.row now) (args.row_id now) }

/-- Source: `app/repositories/ordering.py` `OrderingRepository.create_order`. Kind: D -/
def createOrder (args : OrderArgs) : World :=
  { w with orders := w.orders.add args.row args.row_id }

/-- Source: `app/repositories/ordering.py` `OrderingRepository.open_position`. Kind: D -/
def openPosition (args : PositionArgs) : World :=
  { w with positions := w.positions.add args.row args.row_id }

/-- The update of `apply_transition`, which has found the row.
Source: `app/repositories/ordering.py` `OrderingRepository.apply_transition`. Kind: D -/
def applyTransition (pid : ℕ) (transition : Transition) : World :=
  { w with
    positions := w.positions.modify pid (Position.apply · transition)
      (Position.apply_id · transition) }

/-- Source: `app/repositories/ordering.py` `OrderingRepository.list_open_positions`. Kind: D -/
def listOpenPositions : List Position := w.positions.select fun p => p.state ≠ .CLOSED

theorem mem_listOpenPositions {w : World} {p : Position} :
    p ∈ listOpenPositions w ↔ w.positions.get? p.id = some p ∧ p.state ≠ .CLOSED := by
  simp [listOpenPositions, Table.select, Table.mem_iff_get?]

theorem nodup_listOpenPositions {w : World} : ((listOpenPositions w).map Position.id).Nodup :=
  Table.nodup_select

end OrderingRepository

end HaruTrade
