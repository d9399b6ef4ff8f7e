import Mathlib.Logic.Relation
import HaruTrade.Loops.Moves

/-!
# Runs of sequential Loop A cycles

A run is any number of uninterrupted passes of Loop A, with signals queued in between (by Loop B, or
by anything else that holds the queue).

* `Run.invariant` — **the invariant rule**: what every move keeps, every run keeps.
* The lemmas below say what a move does to the gateway events and order rows of one position: a move
  about another position does nothing to them.
-/

namespace HaruTrade

open Coro OrderService TradingService

namespace LoopARunner

variable {R : Regime} {w w' : World} {p : Position} {price : ℚ} {tr : Transition}
  {evs : List GatewayEvent} {r : OrderResult} {b : Booking} {l : Option ℕ} {ids : List ℕ} {pid : ℕ}

/-- One step of a sequential run. Source: `app/loops/loop_a_runtime.py`
`LoopARunner.run_once`. Kind: D -/
inductive Step (R : Regime) : World → World → Prop
  | cycle {w w' : World} {out : Except Exn LoopAResult} (h : Exec exec R.ok runOnce w out w') :
      Step R w w'
  | enqueue (w : World) (signals : List Signal) :
      Step R w { w with queue := w.queue ++ signals }

/-- A run of sequential cycles. Source: none: infrastructure. Kind: D -/
abbrev Run (R : Regime) : World → World → Prop := Relation.ReflTransGen (Step R)

/-- The pass that the answers `env` lead to. Source: none: infrastructure. Kind: D -/
def cycleUnder (env : Op → World → Answer) (w : World) : World := (runOnce.eval exec env w).2

/-- An evaluated pass whose calls all pass a check is a step of a run.
Source: none: infrastructure. Kind: L -/
theorem Step.of_checked {env : Op → World → Answer} {check : Op → World → Bool}
    (hok : ∀ e s, check e s = true → R.ok e (env e s) s)
    (h : runOnce.checked exec env check w = true) : Step R w (cycleUnder env w) :=
  .cycle (exec_of_checked exec hok h)

/-- An evaluated pass is a step of a run. Source: none: infrastructure. Kind: L -/
theorem Step.of_env {env : Op → World → Answer} (hok : ∀ e s, R.ok e (env e s) s) :
    Step R w (cycleUnder env w) := by
  refine .cycle (Exec.mono ?_ ((exec_iff_eval exec).mpr rfl))
  rintro e a s rfl
  exact hok e s

theorem Moves.invariant {I : World → Prop} (hI : ∀ l w w', Move R l w w' → I w → I w')
    (h : Moves R ids w w') (hw : I w) : I w' := by
  induction h with
  | nil => exact hw
  | quiet h _ ih => exact ih (hI _ _ _ h hw)
  | cons h _ ih => exact ih (hI _ _ _ h hw)

theorem Step.invariant {I : World → Prop} (hI : ∀ l w w', Move R l w w' → I w → I w')
    (h : Step R w w') (hw : I w) : I w' := by
  cases h with
  | cycle h =>
      obtain ⟨ids, -, hms⟩ := exec_runOnce h
      exact hms.invariant hI hw
  | enqueue signals => exact hI none w _ (.quiet ⟨rfl, rfl, rfl⟩) hw

/-- **The invariant rule** of sequential runs. Source: none: infrastructure. Kind: P -/
theorem Run.invariant {I : World → Prop} (hI : ∀ l w w', Move R l w w' → I w → I w')
    (h : Run R w w') (hw : I w) : I w' := by
  induction h with
  | refl => exact hw
  | tail _ hs ih => exact hs.invariant hI ih

/-! ## The events and rows of one position -/

/-- The events of one reconcile are all about its ticket's position.
Source: none: infrastructure. Kind: L -/
theorem closeEvents_append {t : Ticket} (hg : w'.gateway = w.gateway ++ evs)
    (ht : ∀ ev ∈ evs, ev.ticket = t) :
    w'.closeEvents pid = w.closeEvents pid ++ if t.intent.closes = some pid then evs else [] := by
  have hfilter : evs.filter (fun ev => ev.ticket.intent.closes = some pid) =
      if t.intent.closes = some pid then evs else [] := by
    split
    · next hc => exact List.filter_eq_self.mpr fun ev hev => by simpa [ht ev hev] using hc
    · next hc => exact List.filter_eq_nil_iff.mpr fun ev hev => by simpa [ht ev hev] using hc
  rw [World.closeEvents, hg, List.filter_append, hfilter, World.closeEvents]

theorem closeEvents_congr (hg : w'.gateway = w.gateway) :
    w'.closeEvents pid = w.closeEvents pid := by
  rw [World.closeEvents, hg, World.closeEvents]

theorem acceptedQty_congr (hg : w'.closeEvents pid = w.closeEvents pid) :
    w'.acceptedQty pid = w.acceptedQty pid := by
  rw [World.acceptedQty, hg, World.acceptedQty]

/-- Source: none: infrastructure. Kind: L -/
theorem closeOrders_orders {args : OrderArgs} (ho : w'.orders = b.orders w.orders args) :
    w'.closeOrders pid = w.closeOrders pid ++
      if b ≠ .nothing ∧ args.closes = some pid then [args.row w.orders.fresh] else [] := by
  cases b with
  | nothing => simp [World.closeOrders, ho, Booking.orders]
  | order =>
      by_cases hc : args.closes = some pid <;>
        simp [World.closeOrders, ho, Booking.orders, Table.select, Table.rows_add, OrderArgs.row, hc]
  | position =>
      by_cases hc : args.closes = some pid <;>
        simp [World.closeOrders, ho, Booking.orders, Table.select, Table.rows_add, OrderArgs.row, hc]

/-- A move about another position leaves the gateway events of this one as they are.
Source: none: infrastructure. Kind: L -/
theorem Move.closeEvents_of_ne (h : Move R l w w') (hne : l ≠ some pid) :
    w'.closeEvents pid = w.closeEvents pid := by
  cases h with
  | quiet h => exact closeEvents_congr h.gateway
  | entry _ h =>
      rw [closeEvents_append h.gateway h.reconciled.ticket,
        if_neg (by simp [entryTicket, Intent.closes]),
        List.append_nil]
  | @close p price tr evs r b _ _ h =>
      have hid : (closeTicket p tr).intent.closes ≠ some pid := hne
      rw [closeEvents_append h.gateway h.reconciled.ticket, if_neg hid, List.append_nil]
  | track h => exact closeEvents_congr h.gateway

/-- A move about another position leaves the order rows of this one's closes as they are.
Source: none: infrastructure. Kind: L -/
theorem Move.closeOrders_of_ne (h : Move R l w w') (hne : l ≠ some pid) :
    w'.closeOrders pid = w.closeOrders pid := by
  cases h with
  | quiet h => rw [World.closeOrders, h.orders, World.closeOrders]
  | entry _ h =>
      obtain ⟨signalId, ho⟩ := h.orders
      rw [closeOrders_orders ho, if_neg (by simp [entryOrderArgs]), List.append_nil]
  | @close p price tr evs r b _ _ h =>
      have hid : (closeOrderArgs p tr price r).closes ≠ some pid := hne
      rw [closeOrders_orders h.orders, if_neg (fun hc => hid hc.2), List.append_nil]
  | track h => rw [World.closeOrders, h.orders, World.closeOrders]

theorem CloseTried.closeEvents (h : CloseTried R p price tr evs r b w w') :
    w'.closeEvents p.id = w.closeEvents p.id ++ evs := by
  have hid : (closeTicket p tr).intent.closes = some p.id := rfl
  rw [closeEvents_append h.gateway h.reconciled.ticket, if_pos hid]

/-- A close adds its quantity to what the gateway accepted exactly when its result is ok.
Source: `app/orders/service.py` `OrderService.place_with_reconcile`. Kind: L -/
theorem CloseTried.acceptedQty (h : CloseTried R p price tr evs r b w w') :
    w'.acceptedQty p.id = w.acceptedQty p.id + if r.ok then tr.closeQty else 0 := by
  have hacc := h.reconciled.accepted
  rw [World.acceptedQty, h.closeEvents, List.map_append, List.sum_append, World.acceptedQty]
  exact congrArg _ hacc

theorem CloseTried.closeOrders (h : CloseTried R p price tr evs r b w w') :
    w'.closeOrders p.id = w.closeOrders p.id ++
      if b ≠ .nothing then [(closeOrderArgs p tr price r).row w.orders.fresh] else [] := by
  rw [closeOrders_orders h.orders]
  simp [closeOrderArgs]

/-! ## The one move of a cycle about a position -/

/-- A chain of moves with at most one about `pid` has none, or splits at that one.
Source: none: infrastructure. Kind: L -/
theorem Moves.split (h : Moves R ids w w') (hnd : ids.Nodup) (hmem : pid ∈ ids) :
    ∃ w₁ w₂ ids₁ ids₂, Moves R ids₁ w w₁ ∧ Move R (some pid) w₁ w₂ ∧ Moves R ids₂ w₂ w' ∧
      pid ∉ ids₁ ∧ pid ∉ ids₂ := by
  induction h with
  | nil => cases hmem
  | @quiet w w₀ w' ids h t ih =>
      obtain ⟨w₁, w₂, ids₁, ids₂, h₁, hm, h₂, hn₁, hn₂⟩ := ih hnd hmem
      exact ⟨w₁, w₂, ids₁, ids₂, .quiet h h₁, hm, h₂, hn₁, hn₂⟩
  | @cons w w₀ w' qid ids h t ih =>
      obtain ⟨hq, hnd⟩ := List.nodup_cons.mp hnd
      rcases List.mem_cons.mp hmem with rfl | hmem
      · exact ⟨w, w₀, [], ids, .nil, h, t, List.not_mem_nil, hq⟩
      · obtain ⟨w₁, w₂, ids₁, ids₂, h₁, hm, h₂, hn₁, hn₂⟩ := ih hnd hmem
        have hne : pid ≠ qid := fun he => hq (he ▸ hmem)
        exact ⟨w₁, w₂, qid :: ids₁, ids₂, .cons h h₁, hm, h₂,
          fun hc => (List.mem_cons.mp hc).elim hne hn₁, hn₂⟩

theorem Moves.closeEvents_of_notMem (h : Moves R ids w w') (hn : pid ∉ ids) :
    w'.closeEvents pid = w.closeEvents pid := by
  induction h with
  | nil => rfl
  | quiet h _ ih => exact (ih hn).trans (h.closeEvents_of_ne nofun)
  | cons h _ ih =>
      obtain ⟨hne, hn⟩ := not_or.mp (List.mem_cons.not.mp hn)
      exact (ih hn).trans (h.closeEvents_of_ne fun he => hne (Option.some.inj he).symm)

end LoopARunner

end HaruTrade
