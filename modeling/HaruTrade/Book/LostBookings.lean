import HaruTrade.Book.Lifecycle

/-!
# Closes whose booking is lost

A close order, its order row and the position row are three effects with a commit between them. When
a commit fails after the gateway accepted the order, the row still shows the quantity as held and
the next cycle sells it again.

* `sold_le_quantity` — as long as an order is placed only while every accepted close of its position
  is in the row, no more is sold than was opened.
* `sold_twice` — without that condition one failed commit sells a position twice.
-/

namespace HaruTrade

open Coro OrderService TradingService LoopARunner

/-- **Every accepted close of the ticket's position is in its row**: what the gateway accepted is what
the row has booked as sold. Source: none: infrastructure. Kind: D -/
def Booked (w : World) (t : Ticket) : Prop :=
  ∀ pid ∈ t.intent.closes, ∀ row ∈ w.positions.get? pid,
    w.acceptedQty pid = row.quantity - row.remainingQuantity

/-- Any gateway and any failing commits, with orders placed only while the position is booked.
Source: none: infrastructure. Kind: D -/
def Regime.booked : Regime := { writesFail := True, place := Booked }

/-- Any gateway and any failing commits. Source: none: infrastructure. Kind: D -/
def Regime.anything : Regime := { writesFail := True }

/-- Position `pid` was opened with quantity `q`, its row agrees with its state, and no more than `q`
was accepted by the gateway. Source: none: infrastructure. Kind: D -/
def SoldWithin (q : ℚ) (pid : ℕ) (w : World) : Prop :=
  ∃ p, w.positions.get? pid = some p ∧ p.quantity = q ∧ Lifecycle p ∧ w.acceptedQty pid ≤ q

variable {w₀ w w' : World} {l : Option ℕ} {q : ℚ} {pid : ℕ} {args : PositionArgs}

/-- **One move**: a close is placed when what was accepted is `quantity - remaining`, and it adds at
most what remains, whether or not it is booked afterwards.
Source: `app/loops/loop_a_runtime.py` `LoopARunner._monitor_positions_once`. Kind: P -/
theorem SoldWithin.move (hm : Move .booked l w w') (h : SoldWithin q pid w) :
    SoldWithin q pid w' := by
  obtain ⟨p, hrow, hq, hlife, hsold⟩ := h
  obtain rfl : p.id = pid := (Table.get?_eq_some_iff.mp hrow).2
  rcases hm.onRow hrow hlife with
    ⟨hl, hrow'⟩ | @⟨price, tr, evs, r, b, hc, hlife', -, hle, -, hrow'⟩ |
      @⟨price, tr, ht, hlife', -, -, hrow'⟩
  · refine ⟨p, hrow', hq, hlife, ?_⟩
    rwa [acceptedQty_congr (hm.closeEvents_of_ne hl)]
  · have hbefore : w.acceptedQty p.id = p.quantity - p.remainingQuantity :=
      hc.placed p.id rfl p hrow
    have hsold' : w'.acceptedQty p.id ≤ q := by
      rw [hc.acceptedQty, hbefore, ← hq]
      split <;> linarith [hlife.remaining_nonneg]
    by_cases hb : b = .position
    · exact ⟨p.apply tr, by rwa [if_pos hb] at hrow', hq, hlife', hsold'⟩
    · exact ⟨p, by rwa [if_neg hb] at hrow', hq, hlife, hsold'⟩
  · refine ⟨p.apply tr, hrow', hq, hlife', ?_⟩
    rwa [acceptedQty_congr (closeEvents_congr ht.gateway)]

/-- A position that was just opened. Source: `app/repositories/ordering.py`
`OrderingRepository.open_position`. Kind: L -/
theorem SoldWithin.opened (hq : 0 < args.quantity)
    (hnew : w.closeEvents w.positions.fresh = []) :
    SoldWithin args.quantity w.positions.fresh (OrderingRepository.openPosition w args) := by
  refine ⟨args.row w.positions.fresh, ?_, rfl, .opened hq _, ?_⟩
  · simp [OrderingRepository.openPosition, Table.get?_add]
  · have hevents : (OrderingRepository.openPosition w args).closeEvents w.positions.fresh = [] :=
      hnew
    rw [World.acceptedQty, hevents]
    exact hq.le

/-- **No more is sold than was opened**, over any sequential run with any failing commits in which an
order is placed only while its position is booked.
Source: `app/loops/loop_a_runtime.py` `LoopARunner._monitor_positions_once`. Kind: P -/
theorem sold_le_quantity (hq : 0 < args.quantity) (hnew : w₀.closeEvents w₀.positions.fresh = [])
    (h : Run .booked (OrderingRepository.openPosition w₀ args) w) :
    w.acceptedQty w₀.positions.fresh ≤ args.quantity := by
  obtain ⟨p, -, -, -, hsold⟩ :=
    h.invariant (fun _ _ _ hm => SoldWithin.move hm) (SoldWithin.opened hq hnew)
  exact hsold

/-- The position that executing a buy at 100 opens. Source: none: infrastructure. Kind: D -/
def oneShare : PositionArgs :=
  entryPositionArgs { index := 1, side := "buy", ticker := "005930", price := some 100 } 1

/-- A stop at 90 that was booked. Source: none: infrastructure. Kind: D -/
def stoppedOut : World :=
  cycleUnder (fun _ _ => { price := 90 }) (OrderingRepository.openPosition {} oneShare)

/-- Is the position of the ticket booked, where an order is placed?
Source: none: infrastructure. Kind: D -/
def placedBooked (e : Op) (w : World) : Bool :=
  match e with
  | .placeOrder t _ => t.intent.closes.all fun pid =>
      (w.positions.get? pid).all fun row => w.acceptedQty pid = row.quantity - row.remainingQuantity
  | _ => true

/-- The theorem at a stop of `oneShare`. Source: none: infrastructure. Kind: C -/
theorem sold_le_quantity_stoppedOut : stoppedOut.acceptedQty 1 ≤ 1 := by
  have hcheck : runOnce.checked exec (fun _ _ => { price := 90 }) placedBooked
      (OrderingRepository.openPosition {} oneShare) = true := by decide +kernel
  have hrun : Run .booked (OrderingRepository.openPosition {} oneShare) stoppedOut :=
    .single (Step.of_checked ?_ hcheck)
  · exact sold_le_quantity (by decide +kernel) rfl hrun
  refine fun e s he => Regime.ok_of (fun _ => trivial) ?_ (fun _ _ _ _ => trivial)
    (fun _ _ _ => trivial) fun _ _ _ _ _ => trivial
  rintro t att rfl
  refine ⟨trivial, fun pid hpid row hrow => ?_⟩
  simpa [placedBooked, Option.mem_def.mp hpid, Option.mem_def.mp hrow] using he

/-- Two cycles at a price of 90 in which no order row can be stored.
Source: none: infrastructure. Kind: D -/
def soldTwice : World :=
  let env : Op → World → Answer := fun e _ =>
    match e with
    | .createOrder _ => { db := some (.commit "database is locked"), price := 90 }
    | _ => { price := 90 }
  cycleUnder env (cycleUnder env (OrderingRepository.openPosition {} oneShare))

/-- **One failed commit sells a position twice.** Source: `app/loops/loop_a_runtime.py`
`LoopARunner._monitor_positions_once`. Kind: C -/
theorem sold_twice :
    Run .anything (OrderingRepository.openPosition {} oneShare) soldTwice ∧
      oneShare.quantity < soldTwice.acceptedQty 1 := by
  have hok : ∀ a e s, Regime.anything.ok e a s := fun a e s =>
    Regime.ok_of (fun _ => trivial) (fun _ _ _ => ⟨trivial, trivial⟩) (fun _ _ _ _ => trivial)
      (fun _ _ _ => trivial) fun _ _ _ _ _ => trivial
  exact ⟨.tail (.single (Step.of_env fun e s => hok _ e s)) (Step.of_env fun e s => hok _ e s),
    by decide +kernel⟩

end HaruTrade
