import HaruTrade.Orders.Service
import HaruTrade.Risk.Engine

/-!
# Executing a queued signal

`executeFromSignal` stores the signal, places a limit order of one share, stores the order and,
when the order is ok, opens a position of that share.

* `exec_executeFromSignal` — **the specification**: a run ends in one of the states of `Entered`,
  which says how far the bookkeeping of the entry got.
-/

namespace HaruTrade

open Coro OrderService

/-! ## Bookkeeping -/

/-- How far the bookkeeping of an order got: nothing was stored, the order row was, or the order
row and the position. Source: none: infrastructure. Kind: D -/
inductive Booking
  | nothing
  | order
  | position
  deriving DecidableEq

/-- The order table after the bookkeeping. Source: none: infrastructure. Kind: D -/
def Booking.orders (t : Table OrderRow.id) (args : OrderArgs) : Booking → Table OrderRow.id
  | nothing => t
  | order => t.add args.row args.row_id
  | position => t.add args.row args.row_id

/-- The position table after the bookkeeping of an entry. Source: none: infrastructure. Kind: D -/
def Booking.opened (t : Table Position.id) (args : PositionArgs) : Booking → Table Position.id
  | nothing => t
  | order => t
  | position => t.add args.row args.row_id

/-- The book and the gateway are as they were. Source: none: infrastructure. Kind: D -/
structure Untouched (w w' : World) : Prop where
  positions : w'.positions = w.positions
  orders : w'.orders = w.orders
  gateway : w'.gateway = w.gateway

theorem Untouched.refl {w : World} : Untouched w w := ⟨rfl, rfl, rfl⟩

theorem Untouched.trans {w w₁ w' : World} (h : Untouched w w₁) (h' : Untouched w₁ w') :
    Untouched w w' :=
  ⟨h'.positions.trans h.positions, h'.orders.trans h.orders, h'.gateway.trans h.gateway⟩

namespace TradingService

/-- `signal.price or 0.0`. Source: `app/services/trading_service.py`
`TradingService.execute_from_signal`. Kind: D -/
def priceOrZero (price : Option ℚ) : ℚ := price.getD 0

/-- Source: `app/services/trading_service.py` `TradingService.execute_from_signal`. Kind: D -/
def signalArgs (signal : Signal) : SignalArgs where
  ticker := signal.ticker
  strategyId := signal.strategyId
  timeframe := signal.timeframe
  side := signal.side
  signalPrice := priceOrZero signal.price
  signalTime := signal.signalTime

/-- The entry order: one share at the signal's price. Source: `app/services/trading_service.py`
`TradingService.execute_from_signal`. Kind: D -/
def entryRequest (signal : Signal) : OrderRequest where
  ticker := signal.ticker
  side := signal.side
  orderType := .limit
  qty := 1
  price := signal.price

/-- The entry order and the signal it is placed for. Source: none: infrastructure. Kind: D -/
def entryTicket (signal : Signal) : Ticket := ⟨.entry signal, entryRequest signal⟩

/-- The order row: an ok result is recorded as filled. Source: `app/services/trading_service.py`
`TradingService.execute_from_signal`. Kind: D -/
def entryOrderArgs (signal : Signal) (signalId : ℕ) (result : OrderResult) : OrderArgs where
  signalId := some signalId
  externalOrderId := result.orderId
  ticker := signal.ticker
  side := signal.side
  orderType := (entryRequest signal).orderType
  price := (entryRequest signal).price
  quantity := (entryRequest signal).qty
  status := if result.ok then "filled" else "rejected"
  reason := result.error
  closes := none

/-- Stop and take-profit of the new position. Source: `app/services/trading_service.py`
`TradingService.execute_from_signal`. Kind: D -/
def entryLevels (signal : Signal) : ℚ × ℚ :=
  let entryPrice := priceOrZero (entryRequest signal).price
  RiskEngine.buildStopTakeProfit entryPrice (max (entryPrice * (1 / 100)) 1) (3 / 2) 2

/-- The new position. Source: `app/services/trading_service.py`
`TradingService.execute_from_signal`. Kind: D -/
def entryPositionArgs (signal : Signal) (orderId : ℕ) : PositionArgs where
  orderId := some orderId
  ticker := signal.ticker
  strategyId := signal.strategyId
  entryPrice := priceOrZero (entryRequest signal).price
  stopPrice := (entryLevels signal).1
  takeProfitPrice := (entryLevels signal).2
  quantity := (entryRequest signal).qty

/-- The bookkeeping after the reconcile. Source: `app/services/trading_service.py`
`TradingService.execute_from_signal`. Kind: D -/
def recordEntry (signal : Signal) (signalId : ℕ) (result : OrderResult) : Prog Unit := do
  let order ← orRaise (ask (.createOrder (entryOrderArgs signal signalId result)))
  if result.ok then
    let _ ← orRaise (ask (.openPosition (entryPositionArgs signal order.id)))
    return ()
  else
    return ()

/-- **Consume a signal.** Source: `app/services/trading_service.py`
`TradingService.execute_from_signal`. Kind: D -/
def executeFromSignal (signal : Signal) : Prog Unit := do
  orRaise (ask (.openSession .signal))
  let dbSignal ← orRaise (ask (.createSignal (signalArgs signal)))
  let result ← placeWithReconcile (entryTicket signal)
  recordEntry signal dbSignal.id result

/-! ## The specification -/

/-- How far the bookkeeping of an entry can get: an ok result gets its order row and its position, a
refused one its order row, unless a write fails. Source: `app/services/trading_service.py`
`TradingService.execute_from_signal`. Kind: D -/
def EntryBooked (R : Regime) (ok : Bool) (b : Booking) : Prop :=
  (ok = true ∧ b = .position) ∨ (ok = false ∧ b = .order) ∨
    (R.writesFail ∧ (b = .position → ok = true))

/-- **An entry**: the reconcile's transcript at the gateway, and the rows that were stored.
Source: `app/services/trading_service.py` `TradingService.execute_from_signal`. Kind: D -/
structure Entered (R : Regime) (signal : Signal) (evs : List GatewayEvent) (r : OrderResult)
    (b : Booking) (w w' : World) : Prop where
  reconciled : Reconciled (entryTicket signal) evs r
  event : ∀ ev ∈ evs, R.event ev
  booked : EntryBooked R r.ok b
  gateway : w'.gateway = w.gateway ++ evs
  orders : ∃ signalId, w'.orders = b.orders w.orders (entryOrderArgs signal signalId r)
  positions : ∃ orderId, w'.positions = b.opened w.positions (entryPositionArgs signal orderId)

variable {R : Regime} {signal : Signal} {signalId : ℕ} {r : OrderResult} {w w' : World}

/-- Source: `app/services/trading_service.py` `TradingService.execute_from_signal`. Kind: L -/
theorem exec_recordEntry {out : Except Exn Unit}
    (h : Exec exec R.ok (recordEntry signal signalId r) w out w') :
    ∃ b, EntryBooked R r.ok b ∧ w'.gateway = w.gateway ∧
      w'.orders = b.orders w.orders (entryOrderArgs signal signalId r) ∧
      ∃ orderId, w'.positions = b.opened w.positions (entryPositionArgs signal orderId) := by
  simp only [recordEntry, bind_eq, orRaise, perform_bind, call_bind, exec_call_iff,
    HaruTrade.exec] at h
  obtain ⟨a, ha, h⟩ := h
  rcases committed_cases a ((entryOrderArgs signal signalId r).row w.orders.fresh) w
    (OrderingRepository.createOrder w (entryOrderArgs signal signalId r)) with
    hc | ⟨hf, x, hc | hc⟩ <;>
    simp only [hc, ofExcept_ok_bind, ofExcept_error_bind, exec_raise_iff] at h
  rotate_left
  · obtain ⟨-, rfl⟩ := h
    exact ⟨.nothing, .inr (.inr ⟨ha hf, by rintro ⟨⟩⟩), rfl, rfl, 0, rfl⟩
  · obtain ⟨-, rfl⟩ := h
    exact ⟨.order, .inr (.inr ⟨ha hf, by rintro ⟨⟩⟩), rfl, rfl, 0, rfl⟩
  cases hok : r.ok with
  | false =>
      simp only [hok, Bool.false_eq_true, if_false, pure_eq, exec_ret_iff] at h
      obtain ⟨-, rfl⟩ := h
      exact ⟨.order, .inr (.inl ⟨rfl, rfl⟩), rfl, rfl, 0, rfl⟩
  | true =>
      simp only [hok, if_true, exec_call_iff, HaruTrade.exec] at h
      obtain ⟨a', ha', h⟩ := h
      generalize hid : ((entryOrderArgs signal signalId r).row w.orders.fresh).id = orderId at h ha'
      generalize hw₁ : OrderingRepository.createOrder w (entryOrderArgs signal signalId r) = w₁ at h
      rcases committed_cases a' ((entryPositionArgs signal orderId).row w₁.positions.fresh) w₁
        (OrderingRepository.openPosition w₁ (entryPositionArgs signal orderId)) with
        hc | ⟨hf, x, hc | hc⟩ <;>
        simp only [hc, ofExcept_ok_bind, ofExcept_error_bind, exec_raise_iff, pure_eq,
          exec_ret_iff] at h <;>
        obtain ⟨-, rfl⟩ := h <;> subst hw₁
      · exact ⟨.position, .inl ⟨rfl, rfl⟩, rfl, rfl, orderId, rfl⟩
      · exact ⟨.order, .inr (.inr ⟨ha' hf, by rintro ⟨⟩⟩), rfl, rfl, 0, rfl⟩
      · exact ⟨.position, .inl ⟨rfl, rfl⟩, rfl, rfl, orderId, rfl⟩

/-- **Executing a signal** leaves the book and the gateway alone, or is an entry.
Source: `app/services/trading_service.py` `TradingService.execute_from_signal`. Kind: P -/
theorem exec_executeFromSignal {out : Except Exn Unit}
    (h : Exec exec R.ok (executeFromSignal signal) w out w') :
    Untouched w w' ∨ ∃ evs r b, Entered R signal evs r b w w' := by
  simp only [executeFromSignal, bind_eq, orRaise, perform_bind, call_bind, exec_call_iff,
    HaruTrade.exec] at h
  -- the session
  obtain ⟨a, -, h⟩ := h
  rcases queried_cases a () w with hq | ⟨x, hq⟩ <;>
    simp only [hq, ofExcept_ok_bind, ofExcept_error_bind, exec_raise_iff, exec_call_iff,
      HaruTrade.exec] at h
  swap
  · obtain ⟨-, rfl⟩ := h
    exact .inl ⟨rfl, rfl, rfl⟩
  -- the signal row
  obtain ⟨a, -, h⟩ := h
  generalize hw₁ : OrderingRepository.createSignal w (signalArgs signal) a.time = w₁ at h
  have h₁ : Untouched w w₁ := by
    subst hw₁
    exact ⟨rfl, rfl, rfl⟩
  rcases committed_cases a ((signalArgs signal).row a.time w.signals.fresh) w w₁ with
    hc | ⟨-, x, hc | hc⟩ <;>
    simp only [hc, ofExcept_ok_bind, ofExcept_error_bind, exec_raise_iff, exec_bind_iff] at h
  rotate_left
  · obtain ⟨-, rfl⟩ := h
    exact .inl ⟨rfl, rfl, rfl⟩
  · obtain ⟨-, rfl⟩ := h
    exact .inl h₁
  -- the reconcile and the bookkeeping
  rcases h with ⟨r, w₂, hrec, h⟩ | ⟨x, rfl, hrec⟩
  · obtain ⟨-, evs, _, hr, hrec, hev, rt, rfl⟩ := exec_placeWithReconcile hrec
    cases hr
    obtain ⟨b, hb, hg, ho, orderId, hp⟩ := exec_recordEntry h
    refine .inr ⟨evs, r, b, hrec, hev, hb, ?_, ⟨w.signals.fresh, ?_⟩, orderId, ?_⟩
    · rw [hg, ← h₁.gateway]
    · rw [ho, ← h₁.orders]
      rfl
    · rw [hp, ← h₁.positions]
  · obtain ⟨_, _, _, hout, _⟩ := exec_placeWithReconcile hrec
    cases hout

end TradingService

end HaruTrade
