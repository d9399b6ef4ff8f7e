import HaruTrade.Book.LostBookings
import HaruTrade.Services.Permission

/-!
# Orders while the runtime is paused

No part of a cycle reads the flags that `/pause`, `/pause all` and a critical failure set.

* `run_withFlags` — **the flags change nothing of what cycles do**.
* `orders_respect_flags` — an order is placed only while the flags allow it, as long as no signal is
  popped, no close decided and no flag set that would need them to be read.
* `order_while_paused` — an entry is placed after `/pause all`, and a close after a critical failure.
-/

namespace HaruTrade

open Coro OrderService TradingService LoopARunner LoopRuntimeCoordinator

/-! ## What the flags change -/

/-- The same world with other flags. Source: none: infrastructure. Kind: D -/
def World.withFlags (w : World) (rt : RuntimeState) : World := { w with runtime := rt }

/-- The same event loop with other flags. Source: none: infrastructure. Kind: D -/
def withFlags (rt : RuntimeState) (c : Pool Op Resp Exn CycleReport World Phase) :
    Pool Op Resp Exn CycleReport World Phase :=
  { c with shared := c.shared.withFlags rt }

variable {strategies : List Strategy} {w w' : World} {rt : RuntimeState}
  {c c' : Pool Op Resp Exn CycleReport World Phase} {act : CycleAct}

theorem committed_withFlags {α : Type} (a : Answer) (v : α) (w w' : World) :
    a.committed v (w.withFlags rt) (w'.withFlags rt) =
      ((a.committed v w w').1, (a.committed v w w').2.withFlags rt) := by
  unfold Answer.committed
  split <;> rfl

theorem queried_withFlags {α : Type} (a : Answer) (v : α) (w : World) :
    a.queried v (w.withFlags rt) = ((a.queried v w).1, (a.queried v w).2.withFlags rt) := by
  unfold Answer.queried
  split <;> rfl

/-- **No answer depends on the flags.** Source: none: infrastructure. Kind: L -/
theorem exec_withFlags (e : Op) (a : Answer) (w : World) (rt : RuntimeState) :
    ∃ rt', exec e a (w.withFlags rt) = ((exec e a w).1, (exec e a w).2.withFlags rt') := by
  cases e with
  | popOne =>
      refine ⟨rt, ?_⟩
      cases hqueue : w.queue <;> simp [exec, World.withFlags, hqueue]
  | critical code message => exact ⟨rt.critical code message, rfl⟩
  | applyTransition pid tr =>
      refine ⟨rt, ?_⟩
      cases hrow : w.positions.get? pid with
      | none => simp [exec, World.withFlags, hrow]
      | some row =>
          have hwrite : OrderingRepository.applyTransition (w.withFlags rt) pid tr =
              (OrderingRepository.applyTransition w pid tr).withFlags rt := rfl
          have hrow' : (w.withFlags rt).positions.get? pid = some row := hrow
          simp only [exec, hrow, hrow', hwrite]
          exact committed_withFlags a _ w _
  | configFloat pid key =>
      refine ⟨rt, ?_⟩
      simp only [exec]
      split <;> rfl
  | shouldRunLoopC now =>
      refine ⟨rt, ?_⟩
      by_cases hslot : w.lastLoopCSlot = some ⟨now.day, some (now.hour, now.minute)⟩ <;>
        by_cases hminute : now.minute % 30 = 0 <;>
          simp [exec, HaruTrade.shouldRunLoopC, World.withFlags, hslot, hminute]
  | createSignal args =>
      exact ⟨rt, committed_withFlags a _ w (OrderingRepository.createSignal w args a.time)⟩
  | createOrder args =>
      exact ⟨rt, committed_withFlags a _ w (OrderingRepository.createOrder w args)⟩
  | openPosition args =>
      exact ⟨rt, committed_withFlags a _ w (OrderingRepository.openPosition w args)⟩
  | upsertIncremental ticker timeframe candle =>
      exact ⟨rt, committed_withFlags a _ w
        (CandleRepository.upsertIncremental w ticker timeframe candle)⟩
  | openSession use => exact ⟨rt, queried_withFlags a _ w⟩
  | listOpenPositions use => exact ⟨rt, queried_withFlags a _ w⟩
  | getLatestClose pid ticker => exact ⟨rt, queried_withFlags a _ w⟩
  | listRecent use ticker timeframe limit => exact ⟨rt, queried_withFlags a _ w⟩
  | listRange ticker timeframe start limit => exact ⟨rt, queried_withFlags a _ w⟩
  | getLastCandleTime ticker timeframe => exact ⟨rt, queried_withFlags a _ w⟩
  | listTradingTickers => exact ⟨rt, queried_withFlags a _ w⟩
  | listTrackingTickers => exact ⟨rt, queried_withFlags a _ w⟩
  | listUniverseTickers => exact ⟨rt, queried_withFlags a _ w⟩
  | _ => exact ⟨rt, rfl⟩

theorem handle_withFlags (v : Event) (w : World) (rt : RuntimeState) :
    ∃ rt', v.handle (w.withFlags rt) = (v.handle w).withFlags rt' := by
  cases v with
  | command text => exact ⟨rt.handle text, rfl⟩
  | critical code message => exact ⟨rt.critical code message, rfl⟩
  | setSymbols symbols => exact ⟨rt, rfl⟩
  | setCandles candles => exact ⟨rt, rfl⟩

/-- One step with other flags. Source: none: infrastructure. Kind: L -/
theorem step_withFlags (hs : (cycles strategies).Step c act c') (rt : RuntimeState) :
    ∃ rt', (cycles strategies).Step (withFlags rt c) act (withFlags rt' c') := by
  cases hs with
  | spawn => exact ⟨rt, .spawn _⟩
  | event v =>
      obtain ⟨rt', hv⟩ := handle_withFlags v c.shared rt
      refine ⟨rt', ?_⟩
      have hnext : (cycles strategies).signalled (withFlags rt c) v =
          withFlags rt' ((cycles strategies).signalled c v) := by
        simp only [System.signalled, withFlags, cycles, hv]
      rw [← hnext]
      exact .event _ v
  | @perform i e k m a hrun ht =>
      obtain ⟨rt', he⟩ := exec_withFlags e a c.shared rt
      refine ⟨rt', ?_⟩
      have hnext : (cycles strategies).performed (withFlags rt c) i e k m a =
          withFlags rt' ((cycles strategies).performed c i e k m a) := by
        simp only [System.performed, withFlags, cycles, he]
        rfl
      rw [← hnext]
      exact .perform a hrun ht

/-- **The flags change nothing of what cycles do**: with other flags the same calls are made, with the
same answers, and leave the same queue, tables and orders.
Source: `app/services/loop_runtime.py` `LoopRuntimeCoordinator.run_cycle`. Kind: P -/
theorem run_withFlags (h : (cycles strategies).Run (fun _ _ _ => True) c c') (rt : RuntimeState) :
    ∃ rt', (cycles strategies).Run (fun _ _ _ => True) (withFlags rt c) (withFlags rt' c') := by
  induction h with
  | refl => exact ⟨rt, .refl _⟩
  | tail _ _ hs ih =>
      obtain ⟨rt₁, hrun⟩ := ih
      obtain ⟨rt', hs'⟩ := step_withFlags hs rt₁
      exact ⟨rt', .tail hrun trivial hs'⟩

/-! ## What the flags are meant to stop -/

/-- Orders are permitted as the flags are documented to allow them.
Source: `docs/functional-spec-v0.1.md` FR-08. Kind: D -/
def allowedByFlags : Permission := fun rt _ t =>
  match t.intent with
  | .entry _ => decide rt.AllowsEntry
  | .close _ _ => decide rt.AllowsClose

/-- **Orders and flags.** As long as every step respects the flags, an entry is placed only while no
flag is set, and a close only while the runtime is neither paused as a whole nor halted. What cycles
do is the same with any flags, so that closes go on while only entries are paused.
Source: `app/loops/loop_a_runtime.py` `LoopARunner.run_once`. Kind: P -/
theorem orders_respect_flags (strategies : List Strategy) (w : World) :
    (∀ c act c' t, (cycles strategies).Run (fun s ms act => respects allowedByFlags s ms act = true)
        (pool w) c → (cycles strategies).Step c act c' → t ∈ placing act →
        (∀ signal, t.intent = .entry signal → c.shared.runtime.AllowsEntry) ∧
          ∀ p tr, t.intent = .close p tr → c.shared.runtime.AllowsClose) ∧
      ∀ c c' rt, (cycles strategies).Run (fun _ _ _ => True) c c' →
        ∃ rt', (cycles strategies).Run (fun _ _ _ => True) (withFlags rt c) (withFlags rt' c') := by
  refine ⟨fun c act c' t h hs ht => ?_, fun c c' rt h => run_withFlags h rt⟩
  have hpermits := placed_permitted h hs ht
  unfold allowedByFlags at hpermits
  refine ⟨fun signal hentry => ?_, fun p tr hclose => ?_⟩
  · rw [hentry] at hpermits
    exact of_decide_eq_true hpermits
  · rw [hclose] at hpermits
    exact of_decide_eq_true hpermits

/-- The theorem at a queued buy with no flag set. Source: none: infrastructure. Kind: C -/
theorem orders_respect_flags_resumed :
    ∃ c, (cycles []).replay (respects allowedByFlags)
        (pool { queue := [queuedBuy], runtime := { entryPaused := true } })
        ([.event (.command "/resume"), .spawn] ++ List.replicate 3 (.resume 0 {})) = some c ∧
      nextPlaced [] 0 c = some (entryTicket queuedBuy) ∧ c.shared.runtime.AllowsEntry := by
  have hany : ((cycles []).replay (respects allowedByFlags)
      (pool { queue := [queuedBuy], runtime := { entryPaused := true } })
      ([.event (.command "/resume"), .spawn] ++ List.replicate 3 (.resume 0 {}))).any
        (fun c => nextPlaced [] 0 c = some (entryTicket queuedBuy)) = true := by decide +kernel
  obtain ⟨c, hc, hplaced⟩ := (Option.any_eq_true _ _).mp hany
  obtain ⟨act, c', hs, ht⟩ := exists_step_of_nextPlaced (of_decide_eq_true hplaced)
  exact ⟨c, hc, of_decide_eq_true hplaced,
    ((orders_respect_flags [] _).1 c act c' _ (System.run_of_replay hc) hs ht).1 queuedBuy rfl⟩

/-- **Orders while paused**: a queued signal is placed after `/pause all`, and a position is closed
after a critical failure. Source: `app/loops/loop_a_runtime.py` `LoopARunner.run_once`. Kind: C -/
theorem order_while_paused :
    (∃ c act c' t, (cycles []).Run (fun _ _ _ => True) (pool { queue := [queuedBuy] }) c ∧
      (cycles []).Step c act c' ∧ t ∈ placing act ∧ t.intent = .entry queuedBuy ∧
        c.shared.runtime.allPaused = true) ∧
      ∃ c act c' t, (cycles []).Run (fun _ _ _ => True)
          (pool (OrderingRepository.openPosition {} oneShare)) c ∧
        (cycles []).Step c act c' ∧ t ∈ placing act ∧ t.intent.closes = some 1 ∧
          c.shared.runtime.halted = true := by
  refine ⟨?_, ?_⟩
  · have hplaces : placesAfter [] { queue := [queuedBuy] }
        ([.event (.command "/pause all"), .spawn] ++ List.replicate 3 (.resume 0 {})) 0
        (fun s t => decide (t.intent = .entry queuedBuy ∧ s.runtime.allPaused = true)) = true := by
      decide +kernel
    obtain ⟨c, act, c', t, hrun, hs, hplacing, htest⟩ := exists_of_placesAfter hplaces
    exact ⟨c, act, c', t, hrun, hs, hplacing, of_decide_eq_true htest⟩
  · have hplaces : placesAfter [] (OrderingRepository.openPosition {} oneShare)
        ([.event (.critical "websocket" "closed"), .spawn] ++
          List.replicate 9 (.resume 0 { price := 90 })) 0
        (fun s t => decide (t.intent.closes = some 1 ∧ s.runtime.halted = true)) = true := by
      decide +kernel
    obtain ⟨c, act, c', t, hrun, hs, hplacing, htest⟩ := exists_of_placesAfter hplaces
    exact ⟨c, act, c', t, hrun, hs, hplacing, of_decide_eq_true htest⟩

end HaruTrade
