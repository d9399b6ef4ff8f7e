import HaruTrade.Book.Lifecycle
import HaruTrade.Integrations.Kiwoom

/-!
# Quantities on the wire

The book halves quantities, the broker's order API takes integers. A position of one share is closed
in two halves when its price reaches the take-profit, and `int(0.5)` is zero.

* `wire_eq_booked` — as long as no price makes the open position take half its profit, the sell
  quantities sent to the broker add up to what the book has sold.
* `closed_unsold` — a take-profit and a trailing stop close the row and sell nothing.
-/

namespace HaruTrade

open Coro OrderService TradingService LoopARunner

/-- The `ord_qty` of an event. Source: `app/integrations/kiwoom/gateway.py`
`KiwoomOrderGateway.place_order`. Kind: D -/
def GatewayEvent.wireQty (accountNo : String) : GatewayEvent → ℚ
  | placed t _ _ _ _ => (KiwoomOrderGateway.payload accountNo t.req).ordQty
  | checked _ _ _ _ => 0

/-- The total `ord_qty` sent to the broker in the sell orders of position `pid`.
Source: `app/integrations/kiwoom/gateway.py` `KiwoomOrderGateway.place_order`. Kind: D -/
def World.wireQty (w : World) (accountNo : String) (pid : ℕ) : ℚ :=
  ((w.closeEvents pid).map (GatewayEvent.wireQty accountNo)).sum

/-- The event is a reply of the broker's gateway, and a placement succeeds.
Source: `app/integrations/kiwoom/gateway.py` `KiwoomOrderGateway.place_order`. Kind: D -/
def AcceptedByKiwoom (accountNo : String) : GatewayEvent → Prop
  | .placed t _ reply _ _ =>
      (∃ post, reply = KiwoomOrderGateway.placeOrder accountNo post t.req) ∧
        ∃ r, reply = .ok r ∧ r.ok = true
  | .checked _ _ _ _ => True

/-- The live mode with orders and writes that succeed. Source:
`app/services/runtime_factory.py` `_build_gateways_and_data_sources`. Kind: D -/
def Regime.live (accountNo : String) : Regime where
  event := AcceptedByKiwoom accountNo
  writesFail := False

/-- The price makes the open position take half its profit. Source:
`app/orders/state_machine.py` `PositionStateMachine.decide`. Kind: D -/
def TakesHalf (p : Position) (price : ℚ) : Prop :=
  p.state = .OPEN ∧ p.stopPrice < price ∧ p.takeProfitPrice ≤ price

instance (p : Position) (price : ℚ) : Decidable (TakesHalf p price) :=
  inferInstanceAs (Decidable (_ ∧ _))

/-- The live mode in which no price makes position `pid` take half its profit.
Source: none: infrastructure. Kind: D -/
def Regime.liveWhole (accountNo : String) (pid : ℕ) : Regime :=
  { Regime.live accountNo with decides := fun p price => p.id = pid → ¬ TakesHalf p price }

/-- Position `pid` of one share is whole or closed, and the wire has sold what the book has.
Source: none: infrastructure. Kind: D -/
def WireMatches (accountNo : String) (pid : ℕ) (w : World) : Prop :=
  ∃ p, w.positions.get? pid = some p ∧ p.quantity = 1 ∧ Lifecycle p ∧ p.state ≠ .HALF_CLOSED ∧
    w.wireQty accountNo pid = p.quantity - p.remainingQuantity

variable {accountNo : String} {w₀ w w' : World} {l : Option ℕ} {pid orderId : ℕ} {signal : Signal}

/-- **One move**: the only close is of the whole share, and it is sent whole.
Source: `app/loops/loop_a_runtime.py` `LoopARunner._monitor_positions_once`. Kind: P -/
theorem WireMatches.move (hm : Move (.liveWhole accountNo pid) l w w')
    (h : WireMatches accountNo pid w) : WireMatches accountNo pid w' := by
  obtain ⟨p, hrow, hq, hlife, hwhole, hwire⟩ := h
  obtain rfl : p.id = pid := (Table.get?_eq_some_iff.mp hrow).2
  rcases hm.onRow hrow hlife with
    ⟨hl, hrow'⟩ | @⟨price, tr, evs, r, b, hc, hlife', -, -, hleft, hrow'⟩ |
      @⟨price, tr, ht, hlife', hnew, hleft, hrow'⟩
  · refine ⟨p, hrow', hq, hlife, hwhole, ?_⟩
    rwa [World.wireQty, hm.closeEvents_of_ne hl]
  · have hsuccess : ∀ ev ∈ evs, ev.isPlacement = true → ev.accepts = true := by
      intro ev hev hpl
      have hacc := hc.event ev hev
      cases ev with
      | placed t att reply live filled =>
          obtain ⟨-, r, rfl, hr⟩ := hacc
          exact hr
      | checked t att id reply => cases hpl
    obtain ⟨hok, live, filled, rfl⟩ := hc.reconciled.eq_placed hsuccess
    obtain ⟨atr, mult, htr⟩ := hc.decided.transition
    have hasks := hc.asks
    rw [htr] at hasks
    -- the close is not a half close, so it is of the one share there is
    have hopen : p.state = .OPEN := by
      cases hs : p.state with
      | OPEN => rfl
      | HALF_CLOSED => exact absurd hs hwhole
      | CLOSED => exact absurd hs hc.decided.notClosed
    have hone : tr.closeQty = 1 ∧ tr.newState = .CLOSED := by
      rcases PositionStateMachine.close_cases hasks with ⟨-, hnew, hcl⟩ | ⟨hst, -, -, hstop, htp⟩
      · rw [htr]
        refine ⟨hcl.trans ?_, hnew⟩
        rw [← hq]
        exact hlife.remaining.trans (by rw [hopen]; rfl)
      · exact absurd ⟨hst, hstop, htp⟩ (hc.decided.decides rfl)
    rcases hc.booked with ⟨hf, -⟩ | ⟨-, rfl | hf⟩
    · rw [hok] at hf
      cases hf
    · refine ⟨p.apply tr, hrow', hq, hlife', ?_, ?_⟩
      · rw [Position.apply_state, hone.2]
        decide
      · rw [World.wireQty, hc.closeEvents, List.map_append, List.sum_append, hleft]
        have hsent : (List.map (GatewayEvent.wireQty accountNo)
            [GatewayEvent.placed (closeTicket p tr) .first (.ok r) live filled]).sum = 1 := by
          simp only [List.map_cons, List.map_nil, List.sum_singleton, GatewayEvent.wireQty,
            KiwoomOrderGateway.payload, closeTicket, closeRequest, hone.1]
          exact_mod_cast truncInt_intCast 1
        rw [hsent, hone.1, ← World.wireQty, hwire]
        simp only [Position.apply_quantity]
        ring
    · exact hf.elim
  · refine ⟨p.apply tr, hrow', hq, hlife', ?_, ?_⟩
    · rwa [Position.apply_state, hnew]
    · rw [World.wireQty, closeEvents_congr ht.gateway, hleft]
      exact hwire

/-- **The wire sells what the book sells**, over any sequential run of the live mode in which no price
makes the position take half its profit. Source: `app/integrations/kiwoom/gateway.py`
`KiwoomOrderGateway.place_order`. Kind: P -/
theorem wire_eq_booked (hnew : w₀.closeEvents w₀.positions.fresh = [])
    (h : Run (.liveWhole accountNo w₀.positions.fresh)
      (OrderingRepository.openPosition w₀ (entryPositionArgs signal orderId)) w) :
    ∃ p, w.positions.get? w₀.positions.fresh = some p ∧
      w.wireQty accountNo p.id = p.quantity - p.remainingQuantity := by
  have hstart : WireMatches accountNo w₀.positions.fresh
      (OrderingRepository.openPosition w₀ (entryPositionArgs signal orderId)) := by
    refine ⟨(entryPositionArgs signal orderId).row w₀.positions.fresh, ?_, rfl,
      .opened one_pos _, nofun, ?_⟩
    · simp [OrderingRepository.openPosition, Table.get?_add]
    · have hevents : (OrderingRepository.openPosition w₀
          (entryPositionArgs signal orderId)).closeEvents w₀.positions.fresh = [] := hnew
      rw [World.wireQty, hevents]
      exact (sub_self _).symm
  obtain ⟨p, hrow, -, -, -, hwire⟩ := h.invariant (fun _ _ _ hm => WireMatches.move hm) hstart
  refine ⟨p, hrow, ?_⟩
  rwa [(Table.get?_eq_some_iff.mp hrow).2]

/-! ## A run -/

/-- A signal to buy one share at 100: its position has a stop of 98.5 and a take-profit of 102.
Source: none: infrastructure. Kind: D -/
def buyAt100 : Signal := { index := 1, side := "buy", ticker := "005930", price := some 100 }

/-- The broker's reply to an order, and the result it means.
Source: `app/integrations/kiwoom/gateway.py` `KiwoomOrderGateway.place_order`. Kind: D -/
def brokerReply : ReplyData := { fields := [("ord_no", "7"), ("return_code", "0")] }

@[inherit_doc brokerReply]
def brokerResult : OrderResult := KiwoomOrderGateway.parseOrder brokerReply

/-- The broker's gateway, at the given price. Source: none: infrastructure. Kind: D -/
def atPrice (price : ℚ) : Op → World → Answer := fun _ _ => { price, order := brokerResult }

/-- The position of `buyAt100` after its stop. Source: none: infrastructure. Kind: D -/
def stoppedLive : World :=
  cycleUnder (atPrice 90) (OrderingRepository.openPosition {} (entryPositionArgs buyAt100 1))

/-- The position of `buyAt100` after its take-profit and its trailing stop.
Source: none: infrastructure. Kind: D -/
def trailedLive : World :=
  cycleUnder (atPrice 90) (cycleUnder (atPrice 110)
    (OrderingRepository.openPosition {} (entryPositionArgs buyAt100 1)))

/-- Orders have a side that the broker knows, and position `pid` does not take half its profit.
Source: none: infrastructure. Kind: D -/
def wireCheck (pid : ℕ) (e : Op) (_w : World) : Bool :=
  match e with
  | .placeOrder t _ => t.req.side ∈ ["buy", "sell"]
  | .decide p price _ _ => ¬ (p.id = pid ∧ TakesHalf p price)
  | _ => true

/-- Source: `app/integrations/kiwoom/gateway.py` `KiwoomOrderGateway.place_order`. Kind: L -/
theorem acceptedByKiwoom_brokerResult {t : Ticket} (att : Attempt) (live : Bool) (filled : ℚ)
    (hside : t.req.side ∈ ["buy", "sell"]) :
    AcceptedByKiwoom "12345678" (.placed t att (.ok brokerResult) live filled) := by
  refine ⟨⟨fun _ => .ok brokerReply, ?_⟩, brokerResult, rfl, by decide +kernel⟩
  have hacc : ("12345678" : String) ≠ "" := by decide
  simp only [KiwoomOrderGateway.placeOrder, hacc, if_false, hside, not_true_eq_false]
  rfl

/-- Source: none: infrastructure. Kind: L -/
theorem side_of_wireCheck {pid : ℕ} {t : Ticket} {att : Attempt} {s : World}
    (h : wireCheck pid (.placeOrder t att) s = true) : t.req.side ∈ ["buy", "sell"] :=
  of_decide_eq_true h

/-- The theorem at the stop of `buyAt100`. Source: none: infrastructure. Kind: C -/
theorem wire_eq_booked_stopped :
    ∃ p, stoppedLive.positions.get? 1 = some p ∧
      stoppedLive.wireQty "12345678" p.id = p.quantity - p.remainingQuantity := by
  have hcheck : runOnce.checked exec (atPrice 90) (wireCheck 1)
      (OrderingRepository.openPosition {} (entryPositionArgs buyAt100 1)) = true := by
    decide +kernel
  have hrun : Run (.liveWhole "12345678" ({} : World).positions.fresh)
      (OrderingRepository.openPosition {} (entryPositionArgs buyAt100 1)) stoppedLive :=
    .single (Step.of_checked ?_ hcheck)
  · exact wire_eq_booked rfl hrun
  refine fun e s he => Regime.ok_of (absurd rfl) ?_ (fun _ _ _ _ => trivial)
    (fun _ _ _ => trivial) ?_
  · rintro t att rfl
    exact ⟨acceptedByKiwoom_brokerResult att true 0 (side_of_wireCheck he), trivial⟩
  · rintro p price atr mult rfl hp htakes
    simp only [wireCheck, decide_eq_true_eq] at he
    exact he ⟨hp, htakes⟩

/-- **A closed position that was never sold**: half a share at the take-profit and half a share at the
trailing stop are both sent as no share. Source: `app/integrations/kiwoom/gateway.py`
`KiwoomOrderGateway.place_order`. Kind: C -/
theorem closed_unsold :
    Run (.live "12345678") (OrderingRepository.openPosition {} (entryPositionArgs buyAt100 1))
        trailedLive ∧
      (trailedLive.positions.get? 1).map (fun p => (p.state, p.quantity - p.remainingQuantity)) =
        some (.CLOSED, 1) ∧
      trailedLive.wireQty "12345678" 1 = 0 := by
  have hstep : ∀ price w,
      runOnce.checked exec (atPrice price) (wireCheck 2) w = true →
      Step (.live "12345678") w (cycleUnder (atPrice price) w) := by
    intro price w hcheck
    refine Step.of_checked (fun e s he => Regime.ok_of (absurd rfl) ?_ (fun _ _ _ _ => trivial)
      (fun _ _ _ => trivial) fun _ _ _ _ _ => trivial) hcheck
    rintro t att rfl
    exact ⟨acceptedByKiwoom_brokerResult att true 0 (side_of_wireCheck he), trivial⟩
  exact ⟨.tail (.single (hstep _ _ (by decide +kernel))) (hstep _ _ (by decide +kernel)),
    by decide +kernel, by decide +kernel⟩

end HaruTrade
