import HaruTrade.Coroutine.Pool
import HaruTrade.Repositories.Candle
import HaruTrade.Repositories.Ordering
import HaruTrade.Repositories.Universe

/-!
# The calls of the runtime and how they are answered

The modelled code is a coroutine over the calls `Op`: the points where it reads or changes the
shared state, asks the broker or the market-data service, or awaits. `exec` answers a call: what
the world determines (a query, a queue, a decision) is computed from the world, and what it does
not (whether a commit fails, what the gateway replies, the live price) is taken from an `Answer`.

A database call can fail only by `SQLAlchemyError`, before its commit (nothing is stored) or in the
refresh that follows it (the row is stored). A call to a service outside can raise anything.

`suspends` marks the calls that await the network; the event loop changes tasks only there.
-/

namespace HaruTrade

/-- What a session is opened for. Source: none: infrastructure. Kind: D -/
inductive SessionUse
  | signal
  | positions
  | price (pid : ℕ)
  | atr (pid : ℕ)
  | transition (pid : ℕ)
  | tickers
  | lastCandle (ticker : String) (timeframe : Timeframe)
  | fallback (ticker : String) (timeframe : Timeframe)
  | sync (ticker : String) (timeframe : Timeframe)
  deriving DecidableEq, Repr

/-- Who asks for the open positions: the monitor of Loop A or the ticker list of Loop B.
Source: none: infrastructure. Kind: D -/
inductive PositionsUse
  | monitor
  | tickers
  deriving DecidableEq, Repr

/-- What candles are read for: the ATR of a position or the scan of Loop B.
Source: none: infrastructure. Kind: D -/
inductive CandlesUse
  | atr (pid : ℕ)
  | scan
  deriving DecidableEq, Repr

/-- **The calls of the runtime.** The `pid` of a per-position call is a ghost.
Source: none: infrastructure. Kind: D -/
inductive Op
  -- the queue
  | popOne
  | putMany (signals : List Signal)
  -- the database
  | openSession (use : SessionUse)
  | createSignal (args : SignalArgs)
  | createOrder (args : OrderArgs)
  | openPosition (args : PositionArgs)
  | listOpenPositions (use : PositionsUse)
  | applyTransition (pid : ℕ) (transition : Transition)
  | getLatestClose (pid : ℕ) (ticker : String)
  | listRecent (use : CandlesUse) (ticker : String) (timeframe : Timeframe) (limit : ℕ)
  | listRange (ticker : String) (timeframe : Timeframe) (start : Option Time) (limit : ℕ)
  | getLastCandleTime (ticker : String) (timeframe : Timeframe)
  | upsertIncremental (ticker : String) (timeframe : Timeframe) (candle : Candle)
  | listTradingTickers
  | listTrackingTickers
  | listUniverseTickers
  -- the order gateway
  | placeOrder (ticket : Ticket) (attempt : Attempt)
  | getOrderStatus (ticket : Ticket) (attempt : Attempt) (orderId : String)
  -- market data, settings, alerts, clock
  | livePrice (pid : ℕ) (ticker : String)
  | fetchCandles (ticker : String) (timeframe : Timeframe) (since : Option Time)
  | configFloat (pid : ℕ) (key : String)
  | critical (code message : String)
  | now
  -- the state machine
  | decide (position : Position) (currentPrice atrValue trailAtrMult : ℚ)
  -- the coordinator
  | preLoopBHook
  | processedSlot (ticker : String) (timeframe : Timeframe)
  | setProcessedSlot (ticker : String) (timeframe : Timeframe) (slot : Slot)
  | shouldRunLoopC (now : Time)
  | loopC

/-- What a call answers. Source: none: infrastructure. Kind: D -/
@[reducible] def Resp : Op → Type
  | .popOne => Option Signal
  | .putMany _ => Unit
  | .openSession _ => Except Exn Unit
  | .createSignal _ => Except Exn SignalRow
  | .createOrder _ => Except Exn OrderRow
  | .openPosition _ => Except Exn Position
  | .listOpenPositions _ => Except Exn (List Position)
  | .applyTransition _ _ => Except Exn Position
  | .getLatestClose _ _ => Except Exn (Option ℚ)
  | .listRecent _ _ _ _ => Except Exn (List Candle)
  | .listRange _ _ _ _ => Except Exn (List Candle)
  | .getLastCandleTime _ _ => Except Exn (Option Time)
  | .upsertIncremental _ _ _ => Except Exn Unit
  | .listTradingTickers => Except Exn (List String)
  | .listTrackingTickers => Except Exn (List String)
  | .listUniverseTickers => Except Exn (List String)
  | .placeOrder _ _ => Except Exn OrderResult
  | .getOrderStatus _ _ _ => Except Exn OrderStatus
  | .livePrice _ _ => Except Exn ℚ
  | .fetchCandles _ _ _ => Except Exn (List Candle)
  | .configFloat _ _ => Except Exn ℚ
  | .critical _ _ => Unit
  | .now => Time
  | .decide _ _ _ _ => Transition
  | .preLoopBHook => Except Exn Unit
  | .processedSlot _ _ => Option Slot
  | .setProcessedSlot _ _ _ => Unit
  | .shouldRunLoopC _ => Bool
  | .loopC => Except Exn Unit

/-- A piece of the runtime. Source: none: infrastructure. Kind: D -/
abbrev Prog (α : Type) : Type := Coro Op Resp Exn α

/-- Perform a call. Source: none: infrastructure. Kind: D -/
abbrev ask (e : Op) : Prog (Resp e) := Coro.perform e

/-- Perform a call and re-raise the exception it is answered with.
Source: none: infrastructure. Kind: D -/
def orRaise {α : Type} (p : Prog (Except Exn α)) : Prog α := p.bind Coro.ofExcept

@[simp] theorem ofExcept_ok_bind {α β : Type} (v : α) (f : α → Prog β) :
    (Coro.ofExcept (.ok v)).bind f = f v := rfl

@[simp] theorem ofExcept_error_bind {α β : Type} (x : Exn) (f : α → Prog β) :
    (Coro.ofExcept (.error x)).bind f = Coro.raise x := rfl

theorem uses_orRaise {α : Type} {U : Op → Prop} {p : Prog (Except Exn α)} (h : Coro.Uses U p) :
    Coro.Uses U (orRaise p) :=
  h.bind fun _ => Coro.uses_ofExcept

/-! ## Answers -/

/-- How a database call fails. Source: none: infrastructure. Kind: D -/
inductive DbFault
  /-- The query or the commit raises: nothing is stored. -/
  | commit (text : String)
  /-- The refresh after the commit raises: the row is stored. -/
  | refresh (text : String)
  deriving DecidableEq, Repr

/-- The exception of a database fault. Source: none: infrastructure. Kind: D -/
def DbFault.exn : DbFault → Exn
  | commit text => .sqlalchemy text
  | refresh text => .sqlalchemy text

/-- **The part of an answer that the world does not determine**; each call looks at the fields that
concern it. Source: none: infrastructure. Kind: D -/
structure Answer where
  /-- A database call fails. -/
  db : Option DbFault := none
  /-- A call to an outside service raises. -/
  raises : Option Exn := none
  /-- What `place_order` returns, and the ghosts of the order. -/
  order : OrderResult := { ok := true, orderId := some "1" }
  live : Bool := true
  filled : ℚ := 0
  /-- What `get_order_status` returns. -/
  status : OrderStatus := { present := true, status := "accepted" }
  /-- The live price. -/
  price : ℚ := 0
  /-- The setting as a number, when `float(config.get(key))` does not raise. -/
  number : Option ℚ := some 0
  /-- The candles of the market-data service. -/
  candles : List Candle := []
  /-- The clock. -/
  time : Time := 0

namespace Answer

variable (a : Answer)

/-- The reply of an outside service. Source: none: infrastructure. Kind: D -/
def reply {α : Type} (value : α) : Except Exn α :=
  match a.raises with
  | none => .ok value
  | some x => .error x

/-- The answer of a query. Source: none: infrastructure. Kind: D -/
def queried {α : Type} (value : α) (w : World) : Except Exn α × World :=
  match a.db with
  | none => (.ok value, w)
  | some f => (.error f.exn, w)

/-- The answer of a write that leads to `w'`. Source: none: infrastructure. Kind: D -/
def committed {α : Type} (value : α) (w w' : World) : Except Exn α × World :=
  match a.db with
  | none => (.ok value, w')
  | some (.commit text) => (.error (.sqlalchemy text), w)
  | some (.refresh text) => (.error (.sqlalchemy text), w')

end Answer

/-- Source: `app/services/loop_runtime.py` `LoopRuntimeCoordinator._should_run_loop_c`, with its
`maintenance_interval_minutes` of 30. Kind: D -/
def shouldRunLoopC (w : World) (now : Time) : Bool × World :=
  if now.minute % 30 ≠ 0 then (false, w)
  else
    let slot : Slot := ⟨now.day, some (now.hour, now.minute)⟩
    if w.lastLoopCSlot = some slot then (false, w)
    else (true, { w with lastLoopCSlot := some slot })

/-- **How a call is answered.** Source: none: infrastructure. Kind: D -/
def exec : (e : Op) → Answer → World → Resp e × World
  | .popOne, _, w =>
      match w.queue with
      | [] => (none, w)
      | s :: rest => (some s, { w with queue := rest })
  | .putMany signals, _, w => ((), { w with queue := w.queue ++ signals })
  | .openSession _, a, w => a.queried () w
  | .createSignal args, a, w =>
      a.committed (args.row a.time w.signals.fresh) w (OrderingRepository.createSignal w args a.time)
  | .createOrder args, a, w =>
      a.committed (args.row w.orders.fresh) w (OrderingRepository.createOrder w args)
  | .openPosition args, a, w =>
      a.committed (args.row w.positions.fresh) w (OrderingRepository.openPosition w args)
  | .listOpenPositions _, a, w => a.queried (OrderingRepository.listOpenPositions w) w
  | .applyTransition pid tr, a, w =>
      match w.positions.get? pid with
      | none => (.error (.lookup ("position not found: " ++ toString pid)), w)
      | some row => a.committed (row.apply tr) w (OrderingRepository.applyTransition w pid tr)
  | .getLatestClose _ ticker, a, w => a.queried (CandleRepository.getLatestClose w ticker) w
  | .listRecent _ ticker timeframe limit, a, w =>
      a.queried (CandleRepository.listRecent w ticker timeframe limit) w
  | .listRange ticker timeframe start limit, a, w =>
      a.queried (CandleRepository.listRange w ticker timeframe start limit) w
  | .getLastCandleTime ticker timeframe, a, w =>
      a.queried (CandleRepository.getLastCandleTime w ticker timeframe) w
  | .upsertIncremental ticker timeframe candle, a, w =>
      a.committed () w (CandleRepository.upsertIncremental w ticker timeframe candle)
  | .listTradingTickers, a, w => a.queried (UniverseRepository.listTradingTickers w) w
  | .listTrackingTickers, a, w => a.queried (UniverseRepository.listTrackingTickers w) w
  | .listUniverseTickers, a, w => a.queried (UniverseRepository.listUniverseTickers w) w
  | .placeOrder ticket attempt, a, w =>
      (a.reply a.order, { w with
        gateway := w.gateway ++ [.placed ticket attempt (a.reply a.order) a.live a.filled] })
  | .getOrderStatus ticket attempt orderId, a, w =>
      (a.reply a.status, { w with
        gateway := w.gateway ++ [.checked ticket attempt orderId (a.reply a.status)] })
  | .livePrice _ _, a, w => (a.reply a.price, w)
  | .fetchCandles _ _ _, a, w => (a.reply a.candles, w)
  | .configFloat _ key, a, w =>
      match a.number with
      | some x => (.ok x, w)
      | none => (.error (.lookup key), w)
  | .critical code message, _, w => ((), { w with runtime := w.runtime.critical code message })
  | .now, a, w => (a.time, w)
  | .decide p price atr mult, _, w => (PositionStateMachine.decide p.snapshot price atr mult, w)
  | .preLoopBHook, a, w => (a.reply (), w)
  | .processedSlot ticker timeframe, _, w =>
      ((w.processedSlots.lookup (ticker, timeframe)), w)
  | .setProcessedSlot ticker timeframe slot, _, w =>
      ((), { w with processedSlots := ((ticker, timeframe), slot) :: w.processedSlots })
  | .shouldRunLoopC now, _, w => shouldRunLoopC w now
  | .loopC, a, w => (a.reply (), w)

/-- Does the call await the network, so that the event loop can change tasks?
Source: none: infrastructure. Kind: D -/
def Op.suspends : Op → Bool
  | .placeOrder _ _ => true
  | .getOrderStatus _ _ _ => true
  | .livePrice _ _ => true
  | .fetchCandles _ _ _ => true
  | .critical _ _ => true
  | .preLoopBHook => true
  | _ => false

/-! ## What a call can change

Each part of the world is changed by few calls; the frame lemmas below say by which. -/

section frame

variable {e : Op} {a : Answer} {w : World}

/-- The calls that write the position table. Source: none: infrastructure. Kind: D -/
def Op.writesPositions : Op → Bool
  | .openPosition _ => true
  | .applyTransition _ _ => true
  | _ => false

/-- The calls that reach the order gateway. Source: none: infrastructure. Kind: D -/
def Op.reachesGateway : Op → Bool
  | .placeOrder _ _ => true
  | .getOrderStatus _ _ _ => true
  | _ => false

/-- The calls that write the order table. Source: none: infrastructure. Kind: D -/
def Op.writesOrders : Op → Bool
  | .createOrder _ => true
  | _ => false

@[simp] theorem queried_snd {α : Type} (v : α) : (a.queried v w).2 = w := by
  unfold Answer.queried
  split <;> rfl

theorem committed_snd {α : Type} (a : Answer) (v : α) (w w' : World) :
    (a.committed v w w').2 = w ∨ (a.committed v w w').2 = w' := by
  unfold Answer.committed
  split <;> simp

/-- A write either stores its row and returns it, or raises, with or without having stored it.
Source: none: infrastructure. Kind: L -/
theorem committed_cases {α : Type} (a : Answer) (v : α) (w w' : World) :
    a.committed v w w' = (.ok v, w') ∨
      a.db ≠ none ∧ ∃ t, a.committed v w w' = (.error (.sqlalchemy t), w) ∨
        a.committed v w w' = (.error (.sqlalchemy t), w') := by
  unfold Answer.committed
  split
  · exact .inl rfl
  · exact .inr ⟨by simp_all, _, .inl rfl⟩
  · exact .inr ⟨by simp_all, _, .inr rfl⟩

theorem queried_cases {α : Type} (a : Answer) (v : α) (w : World) :
    a.queried v w = (.ok v, w) ∨ ∃ t, a.queried v w = (.error (.sqlalchemy t), w) := by
  unfold Answer.queried
  cases a.db with
  | none => exact .inl rfl
  | some f => cases f <;> exact .inr ⟨_, rfl⟩

/-- A field that a write leaves alone is left alone whether the write commits or not.
Source: none: infrastructure. Kind: L -/
theorem committed_frame {α β : Type} (v : α) {w' : World} (f : World → β) (h : f w' = f w) :
    f (a.committed v w w').2 = f w := by
  rcases committed_snd a v w w' with h' | h' <;> rw [h']
  exact h

theorem exec_positions (h : e.writesPositions = false) :
    (exec e a w).2.positions = w.positions := by
  cases e <;> simp only [Op.writesPositions, Bool.true_eq_false] at h <;>
    simp only [exec, queried_snd, shouldRunLoopC]
  all_goals first
    | rfl
    | exact committed_frame _ World.positions rfl
    | (split <;> first | rfl | (split <;> rfl))

theorem exec_orders (h : e.writesOrders = false) : (exec e a w).2.orders = w.orders := by
  cases e <;> simp only [Op.writesOrders, Bool.true_eq_false] at h <;>
    simp only [exec, queried_snd, shouldRunLoopC]
  all_goals first
    | rfl
    | exact committed_frame _ World.orders rfl
    | (split <;> first | rfl | exact committed_frame _ World.orders rfl | (split <;> rfl))

theorem exec_gateway (h : e.reachesGateway = false) : (exec e a w).2.gateway = w.gateway := by
  cases e <;> simp only [Op.reachesGateway, Bool.true_eq_false] at h <;>
    simp only [exec, queried_snd, shouldRunLoopC]
  all_goals first
    | rfl
    | exact committed_frame _ World.gateway rfl
    | (split <;> first | rfl | exact committed_frame _ World.gateway rfl | (split <;> rfl))

/-- The calls that write the candle table. Source: none: infrastructure. Kind: D -/
def Op.writesCandles : Op → Bool
  | .upsertIncremental _ _ _ => true
  | _ => false

theorem exec_candles (h : e.writesCandles = false) : (exec e a w).2.candles = w.candles := by
  cases e <;> simp only [Op.writesCandles, Bool.true_eq_false] at h <;>
    simp only [exec, queried_snd, shouldRunLoopC]
  all_goals first
    | rfl
    | exact committed_frame _ World.candles rfl
    | (split <;> first | rfl | exact committed_frame _ World.candles rfl | (split <;> rfl))

/-- The calls that change the queue. Source: none: infrastructure. Kind: D -/
def Op.writesQueue : Op → Bool
  | .popOne => true
  | .putMany _ => true
  | _ => false

theorem exec_queue (h : e.writesQueue = false) : (exec e a w).2.queue = w.queue := by
  cases e <;> simp only [Op.writesQueue, Bool.true_eq_false] at h <;>
    simp only [exec, queried_snd, shouldRunLoopC]
  all_goals first
    | rfl
    | exact committed_frame _ World.queue rfl
    | (split <;> first | rfl | exact committed_frame _ World.queue rfl | (split <;> rfl))

/-- No call writes the symbol table. Source: none: infrastructure. Kind: L -/
theorem exec_symbols : (exec e a w).2.symbols = w.symbols := by
  cases e <;> simp only [exec, queried_snd, shouldRunLoopC]
  all_goals first
    | rfl
    | exact committed_frame _ World.symbols rfl
    | (split <;> first | rfl | exact committed_frame _ World.symbols rfl | (split <;> rfl))

/-- Only a critical failure changes the flags. Source: none: infrastructure. Kind: L -/
theorem exec_runtime (h : ∀ code message, e ≠ .critical code message) :
    (exec e a w).2.runtime = w.runtime := by
  cases e <;> simp only [exec, queried_snd, shouldRunLoopC]
  all_goals first
    | rfl
    | exact committed_frame _ World.runtime rfl
    | exact absurd rfl (h _ _)
    | (split <;> first | rfl | exact committed_frame _ World.runtime rfl | (split <;> rfl))

end frame

end HaruTrade
