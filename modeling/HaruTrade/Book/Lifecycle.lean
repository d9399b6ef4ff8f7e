import Mathlib.Tactic.Ring
import HaruTrade.Loops.Runs

/-!
# The life of a position

A position opens with its whole quantity, is halved at the take-profit and closed at a stop. The
invariant ties the three records of that together: the state and the remaining quantity of the row
(`Lifecycle`), and the order rows of its closes (`Ledger`).

* `Lifecycle.close`, `Lifecycle.hold` — **what a decided transition does to a row**; every result
  about positions, sequential or concurrent, rests on these two.
* `position_lifecycle` — the invariant over all sequential runs whose writes succeed.
-/

namespace HaruTrade

open Coro OrderService TradingService LoopARunner

/-- How far a position has come. Source: `app/orders/state_machine.py`
`PositionStateMachine.decide`. Kind: D -/
def PositionState.rank : PositionState → ℕ
  | .OPEN => 0
  | .HALF_CLOSED => 1
  | .CLOSED => 2

/-- What is left of a quantity in each state. Source: `app/orders/state_machine.py`
`PositionStateMachine.decide`. Kind: D -/
def remainingIn (q : ℚ) : PositionState → ℚ
  | .OPEN => q
  | .HALF_CLOSED => q / 2
  | .CLOSED => 0

theorem PositionState.rank_le_two (s : PositionState) : s.rank ≤ 2 := by
  cases s <;> decide

/-- **A position with something to sell whose row agrees with its state.**
Source: none: infrastructure. Kind: D -/
structure Lifecycle (p : Position) : Prop where
  quantity_pos : 0 < p.quantity
  remaining : p.remainingQuantity = remainingIn p.quantity p.state

namespace Lifecycle

variable {row p : Position} {price atr mult : ℚ} {tr : Transition}

/-- Something remains until the position is closed. Source: none: infrastructure. Kind: L -/
theorem remaining_pos (h : Lifecycle p) (hs : p.state ≠ .CLOSED) : 0 < p.remainingQuantity := by
  have hq := h.quantity_pos
  rw [h.remaining]
  cases hst : p.state with
  | OPEN => exact hq
  | HALF_CLOSED => exact div_pos hq two_pos
  | CLOSED => exact absurd hst hs

theorem remaining_nonneg (h : Lifecycle p) : 0 ≤ p.remainingQuantity := by
  by_cases hs : p.state = .CLOSED
  · rw [h.remaining, hs]
    exact le_refl 0
  · exact (h.remaining_pos hs).le

/-- A new position. Source: `app/repositories/ordering.py`
`OrderingRepository.open_position`. Kind: L -/
theorem opened {args : PositionArgs} (hq : 0 < args.quantity) (id : ℕ) :
    Lifecycle (args.row id) := ⟨hq, rfl⟩

/-- **A close** moves the state forward and takes what it closes off the remaining quantity. The row
it is applied to may have other levels than the snapshot it was decided from.
Source: `app/repositories/ordering.py` `OrderingRepository.apply_transition`. Kind: P -/
theorem close (h : Lifecycle row) (hst : row.state = p.state)
    (hrem : row.remainingQuantity = p.remainingQuantity)
    (htr : tr = PositionStateMachine.decide p.snapshot price atr mult) (hq : 0 < tr.closeQty) :
    Lifecycle (row.apply tr) ∧ row.state.rank < tr.newState.rank ∧
      tr.closeQty ≤ row.remainingQuantity ∧
      (row.apply tr).remainingQuantity = row.remainingQuantity - tr.closeQty := by
  subst htr
  have hsnap : p.snapshot.remainingQuantity = row.remainingQuantity := hrem.symm
  have hpos := h.quantity_pos
  have hnonneg := h.remaining_nonneg
  have hremaining := h.remaining
  rcases PositionStateMachine.close_cases hq with ⟨hopen, hnew, hclose⟩ | ⟨hopen, hnew, hclose, -⟩
  · -- all that remains is closed
    rw [hsnap] at hclose
    have hleft := Position.apply_remaining_of_close hq hclose.le
    refine ⟨⟨hpos, ?_⟩, ?_, hclose.le, hleft⟩
    · rw [hleft, hclose, Position.apply_state, hnew]
      exact sub_self _
    · rw [hnew, hst]
      cases hs : p.state with
      | OPEN => decide
      | HALF_CLOSED => decide
      | CLOSED => exact absurd hs hopen
  · -- half of an open position is closed
    have hs : row.state = .OPEN := hst.trans hopen
    rw [hsnap] at hclose
    have hle : (PositionStateMachine.decide p.snapshot price atr mult).closeQty ≤
        row.remainingQuantity := by
      rw [hclose]
      linarith
    have hleft := Position.apply_remaining_of_close hq hle
    refine ⟨⟨hpos, ?_⟩, ?_, hle, hleft⟩
    · rw [hleft, hclose, Position.apply_state, hnew, hremaining, hs]
      simp only [remainingIn, Position.apply_quantity]
      ring
    · rw [hnew, hs]
      decide

/-- **A hold** keeps the state and the remaining quantity. Source: `app/repositories/ordering.py`
`OrderingRepository.apply_transition`. Kind: P -/
theorem hold (h : Lifecycle row) (hst : row.state = p.state) (hrem : 0 < p.remainingQuantity)
    (htr : tr = PositionStateMachine.decide p.snapshot price atr mult) (hq : ¬ 0 < tr.closeQty) :
    Lifecycle (row.apply tr) ∧ tr.newState = row.state ∧
      (row.apply tr).remainingQuantity = row.remainingQuantity := by
  subst htr
  have hnew : (PositionStateMachine.decide p.snapshot price atr mult).newState = row.state :=
    (PositionStateMachine.newState_of_hold hrem hq).trans hst.symm
  have hleft : (row.apply _).remainingQuantity = row.remainingQuantity :=
    Position.apply_remaining_of_hold hq
  refine ⟨⟨h.quantity_pos, ?_⟩, hnew, hleft⟩
  rw [hleft, Position.apply_state, hnew]
  exact h.remaining

end Lifecycle

/-! ## The order rows of a position -/

/-- The order rows of a position's closes are sells that add up to what was closed, no more of them
than steps forward. Source: `app/loops/loop_a_runtime.py`
`LoopARunner._monitor_positions_once`. Kind: D -/
structure Ledger (w : World) (p : Position) : Prop where
  sum : ((w.closeOrders p.id).map OrderRow.quantity).sum = p.quantity - p.remainingQuantity
  count : (w.closeOrders p.id).length ≤ p.state.rank
  sells : ∀ o ∈ w.closeOrders p.id, o.side = "sell"

/-- Position `pid` was opened with quantity `q`, has come at least to state `s`, and its row and its
orders agree. Source: none: infrastructure. Kind: D -/
def OnBook (q : ℚ) (pid : ℕ) (s : PositionState) (w : World) : Prop :=
  ∃ p, w.positions.get? pid = some p ∧ p.quantity = q ∧ s.rank ≤ p.state.rank ∧ Lifecycle p ∧
    Ledger w p

/-- Every answer of the gateway, and writes that succeed. Source: none: infrastructure. Kind: D -/
def Regime.writesSucceed : Regime := { writesFail := False }

variable {w₀ w w' : World} {l : Option ℕ} {q : ℚ} {pid : ℕ} {s : PositionState}
  {args : PositionArgs}

/-- **What a move does to a row that agrees with its state**: it is about another position, it tries a
close of the row as it stands, or it stores new levels. Source: none: infrastructure. Kind: D -/
inductive RowMove (R : Regime) (l : Option ℕ) (p : Position) (w w' : World) : Prop
  | other (hl : l ≠ some p.id) (row : w'.positions.get? p.id = some p)
  | close {price tr evs r b} (tried : CloseTried R p price tr evs r b w w')
      (life : Lifecycle (p.apply tr)) (rank : p.state.rank < tr.newState.rank)
      (le : tr.closeQty ≤ p.remainingQuantity)
      (left : (p.apply tr).remainingQuantity = p.remainingQuantity - tr.closeQty)
      (row : w'.positions.get? p.id = some (if b = .position then p.apply tr else p))
  | track {price tr} (tracked : Tracked R p price tr w w') (life : Lifecycle (p.apply tr))
      (state : tr.newState = p.state) (left : (p.apply tr).remainingQuantity = p.remainingQuantity)
      (row : w'.positions.get? p.id = some (p.apply tr))

/-- Source: `app/loops/loop_a_runtime.py` `LoopARunner._monitor_positions_once`. Kind: P -/
theorem LoopARunner.Move.onRow {R : Regime} {p : Position} (hm : Move R l w w')
    (hrow : w.positions.get? p.id = some p) (hlife : Lifecycle p) : RowMove R l p w w' := by
  by_cases hl : l = some p.id
  swap
  · exact .other hl (hm.get?_of_ne hrow hl)
  · rw [hl] at hm
    generalize hpid : p.id = pid at hm hrow
    cases hm with
    | @close p' price tr evs r b _ _ hc =>
        obtain rfl : p' = p := Option.some.inj (hc.decided.row.symm.trans hrow)
        obtain ⟨atr, mult, htr⟩ := hc.decided.transition
        obtain ⟨hlife', hrank, hle, hleft⟩ := hlife.close rfl rfl htr hc.asks
        refine .close hc hlife' hrank hle hleft ?_
        rw [hc.positions]
        cases b with
        | nothing => exact hrow
        | order => exact hrow
        | position => simp [Booking.transitioned, get?_applied, hrow]
    | @track p' price tr _ _ ht =>
        obtain rfl : p' = p := Option.some.inj (ht.decided.row.symm.trans hrow)
        obtain ⟨atr, mult, htr⟩ := ht.decided.transition
        obtain ⟨hlife', hnew, hleft⟩ :=
          hlife.hold rfl (hlife.remaining_pos ht.decided.notClosed) htr ht.holds
        exact .track ht hlife' hnew hleft (by simp [ht.positions, get?_applied, hrow])

/-- **One move** keeps the position on the book: a refused close leaves no trace, an accepted one
moves row and ledger together, a new level keeps both. Source: `app/loops/loop_a_runtime.py`
`LoopARunner._monitor_positions_once`. Kind: P -/
theorem OnBook.move (hm : Move .writesSucceed l w w') (h : OnBook q pid s w) :
    OnBook q pid s w' := by
  obtain ⟨p, hrow, hq, hs, hlife, hledger⟩ := h
  obtain rfl : p.id = pid := (Table.get?_eq_some_iff.mp hrow).2
  rcases hm.onRow hrow hlife with
    ⟨hl, hrow'⟩ | @⟨price, tr, evs, r, b, hc, hlife', hrank, -, hleft, hrow'⟩ |
      @⟨price, tr, ht, hlife', hnew, hleft, hrow'⟩
  · -- a move about another position
    refine ⟨p, hrow', hq, hs, hlife, ?_⟩
    constructor <;> rw [hm.closeOrders_of_ne hl]
    exacts [hledger.sum, hledger.count, hledger.sells]
  · have horders := hc.closeOrders
    rcases hc.booked with ⟨-, rfl⟩ | ⟨-, rfl | hf⟩
    · -- the order was refused
      refine ⟨p, hrow', hq, hs, hlife, ?_⟩
      simp only [ne_eq, not_true_eq_false, if_false, List.append_nil] at horders
      constructor <;> rw [horders]
      exacts [hledger.sum, hledger.count, hledger.sells]
    · -- the order was accepted and booked
      simp only [ne_eq, reduceCtorEq, not_false_eq_true, if_true] at horders
      refine ⟨p.apply tr, hrow', hq, hs.trans hrank.le, hlife', ?_⟩
      constructor <;> rw [Position.apply_id, horders]
      · rw [List.map_append, List.sum_append, hledger.sum, hleft]
        simp only [List.map_cons, List.map_nil, List.sum_singleton, OrderArgs.row,
          closeOrderArgs, Position.apply_quantity]
        ring
      · rw [List.length_append]
        exact Nat.succ_le_of_lt (lt_of_le_of_lt hledger.count hrank)
      · intro o ho
        rcases List.mem_append.mp ho with ho | ho
        · exact hledger.sells o ho
        · obtain rfl := List.mem_singleton.mp ho
          rfl
    · exact hf.elim
  · have horders : w'.closeOrders p.id = w.closeOrders p.id := by
      rw [World.closeOrders, ht.orders, World.closeOrders]
    refine ⟨p.apply tr, hrow', hq, by rwa [Position.apply_state, hnew], hlife', ?_⟩
    constructor <;> rw [Position.apply_id, horders]
    · rw [hleft]
      exact hledger.sum
    · rw [Position.apply_state, hnew]
      exact hledger.count
    · exact hledger.sells

/-- A position that was just opened is on the book. Source: `app/repositories/ordering.py`
`OrderingRepository.open_position`. Kind: L -/
theorem OnBook.opened (hq : 0 < args.quantity) (hnew : w.closeOrders w.positions.fresh = []) :
    OnBook args.quantity w.positions.fresh .OPEN (OrderingRepository.openPosition w args) := by
  refine ⟨args.row w.positions.fresh, ?_, rfl, le_refl _, .opened hq _, ?_⟩
  · simp [OrderingRepository.openPosition, Table.get?_add]
  · have horders : (OrderingRepository.openPosition w args).closeOrders
        (args.row w.positions.fresh).id = [] := hnew
    constructor <;> rw [horders]
    · exact (sub_self args.quantity).symm
    · exact Nat.zero_le _
    · exact fun o ho => absurd ho List.not_mem_nil

/-- **A cycle whose close order is refused leaves the row unchanged**: of the moves of the cycle at
most one is about the position, and a refused close changes nothing.
Source: `app/loops/loop_a_runtime.py` `LoopARunner._monitor_positions_once`. Kind: P -/
theorem get?_of_refused {out : Except Exn LoopAResult} {p : Position} {t : Ticket}
    {evs : List GatewayEvent} {r : OrderResult} {R : Regime}
    (hrow : w.positions.get? pid = some p) (h : Exec exec R.ok runOnce w out w')
    (hevs : w'.closeEvents pid = w.closeEvents pid ++ evs) (hrec : Reconciled t evs r)
    (hr : r.ok = false) : w'.positions.get? pid = some p := by
  obtain ⟨ids, hnd, hms⟩ := exec_runOnce h
  by_cases hmem : pid ∈ ids
  swap
  · exact hms.get?_of_notMem hrow hmem
  obtain ⟨w₁, w₂, ids₁, ids₂, h₁, hm, h₂, hn₁, hn₂⟩ := hms.split hnd hmem
  have hrow₁ := h₁.get?_of_notMem hrow hn₁
  rw [h₂.closeEvents_of_notMem hn₂] at hevs
  refine h₂.get?_of_notMem ?_ hn₂
  cases hm with
  | @close p' price tr evs' r' b _ _ hc =>
      rw [hc.closeEvents, h₁.closeEvents_of_notMem hn₁] at hevs
      obtain rfl := List.append_cancel_left hevs
      have hr' : r'.ok = false := by
        rw [← Bool.not_eq_true, ← hc.reconciled.exists_accepts, hrec.exists_accepts, hr]
        exact Bool.false_ne_true
      rcases hc.booked with ⟨-, rfl⟩ | ⟨hok, -⟩
      · rw [hc.positions]
        exact hrow₁
      · rw [hr'] at hok
        cases hok
  | @track p' price tr _ _ ht =>
      rw [closeEvents_congr ht.gateway, h₁.closeEvents_of_notMem hn₁] at hevs
      exact absurd (List.self_eq_append_right.mp hevs) hrec.ne_nil

/-- **The life of a position over a sequential run** whose writes succeed, whatever the prices, ATRs,
multipliers and gateway answers: the remaining quantity is the one of the state, the sell orders
recorded for the position add up to what was closed and are at most two, the state only moves
forward in the rest of the run, and a cycle whose close order is refused leaves the row as it is.
Source: `app/loops/loop_a_runtime.py` `LoopARunner._monitor_positions_once`. Kind: P -/
theorem position_lifecycle (hq : 0 < args.quantity)
    (hnew : w₀.closeOrders w₀.positions.fresh = [])
    (h : Run .writesSucceed (OrderingRepository.openPosition w₀ args) w) :
    ∃ p, w.positions.get? w₀.positions.fresh = some p ∧
      p.remainingQuantity = remainingIn args.quantity p.state ∧
      ((w.closeOrders p.id).map OrderRow.quantity).sum = args.quantity - p.remainingQuantity ∧
      (w.closeOrders p.id).length ≤ 2 ∧ (∀ o ∈ w.closeOrders p.id, o.side = "sell") ∧
      (∀ w', Run .writesSucceed w w' → ∃ p', w'.positions.get? p.id = some p' ∧
        p.state.rank ≤ p'.state.rank) ∧
      (∀ out w' t evs r, Exec exec Regime.writesSucceed.ok runOnce w out w' →
        w'.closeEvents p.id = w.closeEvents p.id ++ evs → Reconciled t evs r → r.ok = false →
        w'.positions.get? p.id = some p) := by
  have hbook := h.invariant (fun _ _ _ hm => OnBook.move hm) (OnBook.opened hq hnew)
  obtain ⟨p, hrow, hqty, -, hlife, hledger⟩ := hbook
  have hid : p.id = w₀.positions.fresh := (Table.get?_eq_some_iff.mp hrow).2
  refine ⟨p, hrow, ?_, ?_, ?_, hledger.sells, ?_, ?_⟩
  · rw [hlife.remaining, hqty]
  · rw [hledger.sum, hqty]
  · exact hledger.count.trans p.state.rank_le_two
  · intro w' hrun
    have hhere : OnBook args.quantity p.id p.state w :=
      ⟨p, by rwa [hid], hqty, le_refl _, hlife, hledger⟩
    obtain ⟨p', hrow', -, hrank, -⟩ := hrun.invariant (fun _ _ _ hm => OnBook.move hm) hhere
    exact ⟨p', hrow', hrank⟩
  · intro out w' t evs r hcycle hevs hrec hr
    exact get?_of_refused (by rwa [hid]) hcycle hevs hrec hr

/-- A position of two shares between a stop of 90 and a take-profit of 110.
Source: none: infrastructure. Kind: D -/
def twoShares : PositionArgs where
  orderId := none
  ticker := "005930"
  strategyId := "1"
  entryPrice := 100
  stopPrice := 90
  takeProfitPrice := 110
  quantity := 2

/-- The take-profit cycle of that position at a price of 120.
Source: none: infrastructure. Kind: D -/
def halved : World :=
  cycleUnder (fun _ _ => { price := 120 }) (OrderingRepository.openPosition {} twoShares)

/-- The theorem at the take-profit of `twoShares`.
Source: none: infrastructure. Kind: C -/
theorem position_lifecycle_halved :
    ∃ p, halved.positions.get? 1 = some p ∧
      ((halved.closeOrders p.id).map OrderRow.quantity).sum = 2 - p.remainingQuantity ∧
      (halved.closeOrders p.id).length ≤ 2 := by
  have hrun : Run .writesSucceed (OrderingRepository.openPosition {} twoShares) halved :=
    .single (Step.of_env fun _ _ => Regime.ok_of (absurd rfl) (fun _ _ _ => ⟨trivial, trivial⟩)
      (fun _ _ _ _ => trivial) (fun _ _ _ => trivial) fun _ _ _ _ _ => trivial)
  obtain ⟨p, hrow, -, hsum, hcount, -⟩ := position_lifecycle (by decide +kernel) rfl hrun
  exact ⟨p, hrow, hsum, hcount⟩

end HaruTrade
