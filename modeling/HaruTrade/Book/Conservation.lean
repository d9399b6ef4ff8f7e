import HaruTrade.Integrations.Kiwoom
import HaruTrade.Loops.Runs

/-!
# Recorded fills and held quantity

For each ticket the filled orders on record, buys positive and sells negative, should add up to what
the positions of the ticker hold. Every close keeps that balance; an entry keeps it only when its
signal is a buy, since a position that a sell signal opens is held like any other.

* `filled_eq_held` — the balance over all sequential runs whose signals for the ticker are buys.
* `sell_signal_held` — one sell signal puts the two sides two shares apart.
-/

namespace HaruTrade

open Coro OrderService TradingService LoopARunner

/-- The quantity of a filled order, positive for a buy and negative for a sell.
Source: `app/repositories/ordering.py` `OrderingRepository.create_order`. Kind: D -/
def OrderRow.signedFill (o : OrderRow) : ℚ :=
  if o.status ≠ "filled" then 0
  else if o.side = "buy" then o.quantity
  else if o.side = "sell" then -o.quantity
  else 0

/-- The signed sum of the recorded fills of a ticker. Source: none: infrastructure. Kind: D -/
def World.signedFills (w : World) (ticker : String) : ℚ :=
  w.orders.total fun o => if o.ticker = ticker then o.signedFill else 0

/-- What the positions of a ticker hold. Source: none: infrastructure. Kind: D -/
def World.held (w : World) (ticker : String) : ℚ :=
  w.positions.total fun p => if p.ticker = ticker then p.remainingQuantity else 0

/-- The event is an answer of the paper gateway. Source: `app/orders/paper_gateway.py`
`PaperOrderGateway`. Kind: D -/
def AcceptedOnPaper : GatewayEvent → Prop
  | .placed _ _ reply _ _ => ∃ seq, reply = .ok (PaperOrderGateway.placeOrder seq)
  | .checked _ _ _ _ => True

/-- The paper gateway and writes that succeed. Source: `app/services/runtime_factory.py`
`_build_gateways_and_data_sources`. Kind: D -/
def Regime.paper : Regime where
  event := AcceptedOnPaper
  writesFail := False

/-- The paper mode in which every signal taken for the ticker is a buy.
Source: none: infrastructure. Kind: D -/
def Regime.paperBuys (ticker : String) : Regime :=
  { Regime.paper with take := fun signal => signal.ticker = ticker → signal.side = "buy" }

variable {w₀ w w' : World} {l : Option ℕ} {ticker : String}

/-- On paper every reconcile is one accepted placement. Source: `app/orders/paper_gateway.py`
`PaperOrderGateway.place_order`. Kind: L -/
theorem ok_on_paper {t : Ticket} {evs : List GatewayEvent} {r : OrderResult}
    (hrec : Reconciled t evs r) (hev : ∀ ev ∈ evs, AcceptedOnPaper ev) : r.ok = true := by
  refine (hrec.eq_placed fun ev hmem hpl => ?_).1
  have hacc := hev ev hmem
  cases ev with
  | placed t att reply live filled =>
      obtain ⟨seq, rfl⟩ := hacc
      rfl
  | checked t att id reply => cases hpl

/-- Source: `app/repositories/ordering.py` `OrderingRepository.create_order`. Kind: L -/
theorem signedFills_of_add {args : OrderArgs}
    (ho : w'.orders = w.orders.add args.row args.row_id) :
    w'.signedFills ticker = w.signedFills ticker +
      if args.ticker = ticker then (args.row w.orders.fresh).signedFill else 0 := by
  rw [World.signedFills, ho, Table.total_add]
  rfl

/-- Source: `app/repositories/ordering.py` `OrderingRepository.open_position`. Kind: L -/
theorem held_of_add {args : PositionArgs}
    (hp : w'.positions = w.positions.add args.row args.row_id) :
    w'.held ticker = w.held ticker + if args.ticker = ticker then args.quantity else 0 := by
  rw [World.held, hp, Table.total_add]
  rfl

/-- Source: `app/repositories/ordering.py` `OrderingRepository.apply_transition`. Kind: L -/
theorem held_of_applied {p : Position} {tr : Transition}
    (hp : w'.positions = applied w.positions p.id tr) (hrow : w.positions.get? p.id = some p) :
    w'.held ticker = w.held ticker +
      if p.ticker = ticker then (p.apply tr).remainingQuantity - p.remainingQuantity else 0 := by
  rw [World.held, hp, applied, Table.total_modify hrow, World.held, Position.apply_ticker]
  by_cases ht : p.ticker = ticker <;> simp [ht]

/-- **One move** changes both sides of the balance by the same amount.
Source: `app/loops/loop_a_runtime.py` `LoopARunner.run_once`. Kind: P -/
theorem balance_move (hm : Move (.paperBuys ticker) l w w')
    (h : w.signedFills ticker = w.held ticker) : w'.signedFills ticker = w'.held ticker := by
  cases hm with
  | quiet hu => rwa [World.signedFills, hu.orders, World.held, hu.positions]
  | @entry signal evs r b _ _ hs he =>
      have hok := ok_on_paper he.reconciled he.event
      obtain ⟨signalId, ho⟩ := he.orders
      obtain ⟨orderId, hp⟩ := he.positions
      have hb : b = .position := by
        rcases he.booked with ⟨-, hb⟩ | ⟨hf, -⟩ | ⟨hf, -⟩
        · exact hb
        · rw [hok] at hf
          cases hf
        · exact hf.elim
      subst hb
      -- a filled order of one share and a position of one share
      rw [signedFills_of_add ho, held_of_add hp, h]
      have hfill : signal.ticker = ticker →
          ((entryOrderArgs signal signalId r).row w.orders.fresh).signedFill = 1 := by
        intro ht
        simp [OrderRow.signedFill, OrderArgs.row, entryOrderArgs, entryRequest, hok, hs ht]
      by_cases ht : signal.ticker = ticker
      · have ht' : (entryOrderArgs signal signalId r).ticker = ticker := ht
        rw [if_pos ht', hfill ht]
        simp [entryPositionArgs, entryRequest, ht]
      · simp [entryOrderArgs, entryPositionArgs, ht]
  | @close p price tr evs r b _ _ hc =>
      have hok := ok_on_paper hc.reconciled hc.event
      obtain ⟨atr, mult, htr⟩ := hc.decided.transition
      have hle : tr.closeQty ≤ p.remainingQuantity := by
        have hasks := hc.asks
        rw [htr] at hasks ⊢
        exact PositionStateMachine.closeQty_le hasks
      have hb : b = .position := by
        rcases hc.booked with ⟨hf, -⟩ | ⟨-, hb | hf⟩
        · rw [hok] at hf
          cases hf
        · exact hb
        · exact hf.elim
      subst hb
      -- a filled sell of what is taken off the position
      rw [signedFills_of_add hc.orders, held_of_applied hc.positions hc.decided.row, h,
        Position.apply_remaining_of_close hc.asks hle]
      have hfill : ((closeOrderArgs p tr price r).row w.orders.fresh).signedFill = -tr.closeQty := by
        simp [OrderRow.signedFill, OrderArgs.row, closeOrderArgs]
      rw [hfill]
      by_cases ht : p.ticker = ticker
      · simp [closeOrderArgs, ht]
      · simp [closeOrderArgs, ht]
  | @track p price tr _ _ ht =>
      have hfills : w'.signedFills ticker = w.signedFills ticker := by
        rw [World.signedFills, ht.orders, World.signedFills]
      have hleft : (p.apply tr).remainingQuantity = p.remainingQuantity :=
        Position.apply_remaining_of_hold ht.holds
      rw [hfills, held_of_applied ht.positions ht.decided.row, h, hleft]
      simp

/-- **The recorded fills of a ticker add up to what its positions hold**, over any sequential run in
paper mode in which every signal taken for the ticker is a buy.
Source: `app/services/trading_service.py` `TradingService.execute_from_signal`. Kind: P -/
theorem filled_eq_held (hstart : w₀.signedFills ticker = w₀.held ticker)
    (h : Run (.paperBuys ticker) w₀ w) : w.signedFills ticker = w.held ticker :=
  h.invariant (fun _ _ _ hm => balance_move hm) hstart

/-! ## A run -/

/-- A gap signal of the given side. Source: `app/strategies/impl/gap_momentum.py`
`GapMomentumStrategy.generate`. Kind: D -/
def gapSignal (side : String) : Signal where
  index := 1
  side := side
  ticker := "005930"
  strategyId := "1"
  timeframe := "3m"
  price := some 100

/-- The state after one paper cycle that consumes a gap signal, at a price of 100.
Source: none: infrastructure. Kind: D -/
def executed (side : String) : World :=
  cycleUnder (fun _ _ => { price := 100, order := PaperOrderGateway.placeOrder 0 })
    { queue := [gapSignal side] }

/-- Every call of a paper cycle is admitted when the signal at the head of the queue is.
Source: none: infrastructure. Kind: L -/
theorem ok_paper {R : Regime} {s : World} {e : Op}
    (hR : R = { Regime.paper with take := R.take })
    (htake : e = .popOne → ∀ signal ∈ s.queue.head?, R.take signal) :
    R.ok e { price := 100, order := PaperOrderGateway.placeOrder 0 } s := by
  refine Regime.ok_of (absurd rfl) ?_ ?_ htake ?_
  · rintro t att rfl
    rw [hR]
    exact ⟨⟨0, rfl⟩, trivial⟩
  · rintro t att id rfl
    rw [hR]
    trivial
  · rintro p price atr mult rfl
    rw [hR]
    trivial

/-- The theorem at a buy signal. Source: none: infrastructure. Kind: C -/
theorem filled_eq_held_buy : (executed "buy").signedFills "005930" = (executed "buy").held "005930" := by
  have hrun : Run (.paperBuys "005930") { queue := [gapSignal "buy"] } (executed "buy") := by
    refine .single (Step.of_checked (fun e s he => ok_paper rfl ?_)
      (show runOnce.checked exec _ (fun e s => match e with
        | .popOne => s.queue.all fun signal => signal.side = "buy"
        | _ => true) _ = true by decide +kernel))
    rintro rfl signal hmem -
    have hall := List.all_eq_true.mp he signal (List.mem_of_mem_head? hmem)
    simpa using hall
  exact filled_eq_held (by decide +kernel) hrun

/-- **A sell signal opens a position that is held**: one share sold on record, one share held.
Source: `app/services/trading_service.py` `TradingService.execute_from_signal`. Kind: C -/
theorem sell_signal_held :
    Run .paper { queue := [gapSignal "sell"] } (executed "sell") ∧
      (executed "sell").signedFills "005930" = -1 ∧ (executed "sell").held "005930" = 1 :=
  ⟨.single (Step.of_env fun _ _ => ok_paper rfl fun _ _ _ => trivial), by decide +kernel,
    by decide +kernel⟩

end HaruTrade
