import HaruTrade.Book.LostBookings

/-!
# The limit on open positions

The setting `max_positions` and `RiskEngine.can_open_new_position` exist, but nothing on the way from
a queued signal to an open position asks them.

* `openCount` — the positions that are not closed; a cycle opens at most one (`cycle_le`), and only if
  a signal is queued.
* `openCount_le_maxPositions` — **the limit holds in every run** in which Loop A takes up a signal only
  while the risk engine would allow another position.
* `openCount_exceeds` — a run in which it does not hold.
-/

namespace HaruTrade

open Coro OrderService TradingService LoopARunner

/-! ## Open positions -/

/-- The number of positions whose state is not CLOSED. Source: `app/repositories/ordering.py`
`OrderingRepository.list_open_positions`. Kind: D -/
def openCount (w : World) : ℕ := (OrderingRepository.listOpenPositions w).length

variable {R : Regime} {w w' : World} {l : Option ℕ} {ids : List ℕ}

theorem openCount_congr (h : w'.positions = w.positions) : openCount w' = openCount w := by
  unfold openCount OrderingRepository.listOpenPositions
  rw [h]

/-- A transition of a position that is open opens none. Source: `app/repositories/ordering.py`
`OrderingRepository.apply_transition`. Kind: L -/
theorem openCount_applied {p : Position} {tr : Transition} (hrow : w.positions.get? p.id = some p)
    (hopen : p.state ≠ .CLOSED) (h : w'.positions = applied w.positions p.id tr) :
    openCount w' ≤ openCount w := by
  unfold openCount OrderingRepository.listOpenPositions
  rw [h]
  unfold applied Table.modify Table.select
  rw [← List.countP_eq_length_filter, ← List.countP_eq_length_filter, List.countP_map]
  refine List.countP_mono_left fun q hq hstill => ?_
  by_cases hid : q.id = p.id
  · -- the row that changes was open
    have hp : p ∈ w.positions.rows := (Table.get?_eq_some_iff.mp hrow).1
    rw [Table.eq_of_key_eq hq hp hid]
    exact decide_eq_true hopen
  · rwa [Function.comp_apply, if_neg hid] at hstill

/-- An entry opens at most one position. Source: `app/services/trading_service.py`
`TradingService.execute_from_signal`. Kind: L -/
theorem openCount_opened {b : Booking} {args : PositionArgs}
    (h : w'.positions = b.opened w.positions args) : openCount w' ≤ openCount w + 1 := by
  cases b with
  | nothing => exact (openCount_congr h).le.trans (Nat.le_succ _)
  | order => exact (openCount_congr h).le.trans (Nat.le_succ _)
  | position =>
      unfold openCount OrderingRepository.listOpenPositions
      rw [h]
      unfold Booking.opened Table.select
      rw [Table.rows_add, List.filter_append, List.length_append]
      exact Nat.add_le_add_left (List.length_filter_le _ _) _

/-- A move that is no entry opens no position. Source: `app/loops/loop_a_runtime.py`
`LoopARunner._monitor_positions_once`. Kind: L -/
theorem Move.openCount_le (hR : ∀ signal, ¬ R.take signal) (h : Move R l w w') :
    openCount w' ≤ openCount w := by
  cases h with
  | quiet h => exact (openCount_congr h.positions).le
  | entry hs _ => exact absurd hs (hR _)
  | @close p price tr evs r b _ _ h =>
      have hpositions := h.positions
      cases b with
      | nothing => exact (openCount_congr hpositions).le
      | order => exact (openCount_congr hpositions).le
      | position => exact openCount_applied h.decided.row h.decided.notClosed hpositions
  | track h => exact openCount_applied h.decided.row h.decided.notClosed h.positions

theorem Moves.openCount_le (hR : ∀ signal, ¬ R.take signal) (h : Moves R ids w w') :
    openCount w' ≤ openCount w :=
  h.invariant (fun _ _ _ hm hle => (Move.openCount_le hR hm).trans hle) le_rfl

/-! ## A cycle -/

/-- The monitor opens no position. Source: `app/loops/loop_a_runtime.py`
`LoopARunner._monitor_positions_once`. Kind: L -/
theorem openCount_monitorPositionsOnce {out : Except Exn Tally}
    (h : Exec exec R.ok monitorPositionsOnce w out w') : openCount w' ≤ openCount w := by
  have hno : Exec exec ({ R with take := fun _ => False } : Regime).ok monitorPositionsOnce w out
      w' := by
    refine uses_monitorPositionsOnce.exec_mono ?_ h
    -- the monitor takes up no signal
    intro e a s hcall hok
    cases e with
    | popOne => exact hcall.elim
    | _ => exact hok
  obtain ⟨ids, -, hmoves⟩ := exec_monitorPositionsOnce hno
  exact Moves.openCount_le (fun _ => id) hmoves

/-- **A cycle** opens at most one position, and none when no signal is queued.
Source: `app/loops/loop_a_runtime.py` `LoopARunner.run_once`. Kind: P -/
theorem openCount_runOnce {out : Except Exn LoopAResult}
    (h : Exec exec R.ok runOnce w out w') :
    openCount w' ≤ openCount w + if w.queue = [] then 0 else 1 := by
  have hconsume : ∀ {out₁ w₁}, Exec exec R.ok consumeSignalOnce w out₁ w₁ →
      openCount w₁ ≤ openCount w + if w.queue = [] then 0 else 1 := by
    intro out₁ w₁ h
    rcases exec_consumeSignalOnce h with hu | ⟨signal, rest, _, _, _, hqueue, -, he⟩
    · exact (openCount_congr hu.positions).le.trans (Nat.le_add_right _ _)
    · obtain ⟨orderId, hpositions⟩ := he.positions
      rw [hqueue, if_neg (List.cons_ne_nil _ _)]
      exact openCount_opened hpositions
  simp only [runOnce, bind_eq, exec_bind_iff, exec_ret_iff, pure_eq] at h
  rcases h with ⟨_, w₁, h₁, h⟩ | ⟨x, -, h₁⟩
  · rcases h with ⟨_, w₂, h₂, -, rfl⟩ | ⟨x, -, h₂⟩
    · exact (openCount_monitorPositionsOnce h₂).trans (hconsume h₁)
    · exact (openCount_monitorPositionsOnce h₂).trans (hconsume h₁)
  · exact hconsume h₁

/-! ## Runs -/

/-- A value of the setting `max_positions`: `Rule(min_value=1, max_value=30, as_int=True)`.
Source: `app/core/config.py` `ConfigManager.__init__`. Kind: D -/
structure MaxPositions where
  value : ℕ
  one_le : 1 ≤ value
  le_thirty : value ≤ 30

/-- The runtime and the setting. Source: none: infrastructure. Kind: D -/
structure Account where
  world : World
  maxPositions : MaxPositions

/-- One step of a run: a cycle of Loop A from a state that satisfies `C`, signals that are queued, or
a setting that is not lowered. Source: `app/loops/loop_a_runtime.py` `LoopARunner.run_once`,
`app/core/config.py` `ConfigManager.set`. Kind: D -/
inductive Account.Step (C : Account → Prop) : Account → Account → Prop
  | cycle {acc : Account} {w' : World} {out : Except Exn LoopAResult} (hC : C acc)
      (h : Exec exec Regime.anything.ok runOnce acc.world out w') :
      Step C acc { acc with world := w' }
  | enqueue (acc : Account) (signals : List Signal) :
      Step C acc { acc with world := { acc.world with queue := acc.world.queue ++ signals } }
  | configure (acc : Account) (maxPositions : MaxPositions)
      (h : acc.maxPositions.value ≤ maxPositions.value) : Step C acc { acc with maxPositions }

/-- A run. Source: none: infrastructure. Kind: D -/
abbrev Account.Run (C : Account → Prop) : Account → Account → Prop :=
  Relation.ReflTransGen (Account.Step C)

/-- The number of open positions is within the setting. Source: `app/core/config.py`
`ConfigManager.__init__`. Kind: D -/
def Account.WithinLimit (acc : Account) : Prop :=
  openCount acc.world ≤ acc.maxPositions.value

/-- No signal is queued, or the risk engine would allow another position.
Source: `app/risk/engine.py` `RiskEngine.can_open_new_position`. Kind: D -/
def Account.MayEnter (acc : Account) : Prop :=
  acc.world.queue = [] ∨
    RiskEngine.canOpenNewPosition (openCount acc.world) acc.maxPositions.value = true

/-- **One step.** Source: `app/loops/loop_a_runtime.py` `LoopARunner.run_once`. Kind: L -/
theorem Account.WithinLimit.step {acc acc' : Account} (h : acc.WithinLimit)
    (hs : Account.Step Account.MayEnter acc acc') : acc'.WithinLimit := by
  cases hs with
  | cycle hmay hcycle =>
      have hcount := openCount_runOnce hcycle
      unfold WithinLimit at h ⊢
      rcases hmay with hempty | hallowed
      · rw [if_pos hempty] at hcount
        exact hcount.trans h
      · have hlt : openCount acc.world < acc.maxPositions.value := of_decide_eq_true hallowed
        refine hcount.trans ?_
        show openCount acc.world + _ ≤ acc.maxPositions.value
        split
        · omega
        · omega
  | enqueue signals => exact h
  | configure maxPositions hle => exact h.trans hle

/-- **The limit holds in every run** from no open positions in which every cycle starts without a
queued signal or with fewer open positions than the setting allows.
Source: `app/services/trading_service.py` `TradingService.execute_from_signal`. Kind: P -/
theorem openCount_le_maxPositions (acc acc' : Account) (hnone : openCount acc.world = 0)
    (h : Account.Run Account.MayEnter acc acc') :
    openCount acc'.world ≤ acc'.maxPositions.value := by
  suffices hlimit : acc'.WithinLimit from hlimit
  induction h with
  | refl => exact hnone.le.trans (Nat.zero_le _)
  | tail _ hs ih => exact ih.step hs

/-- Two signals to buy at 100 and a limit. Source: none: infrastructure. Kind: D -/
def twoSignals (maxPositions : MaxPositions) : Account where
  world := { queue := [
    { index := 1, side := "buy", ticker := "005930", price := some 100 },
    { index := 1, side := "buy", ticker := "000660", price := some 100 }] }
  maxPositions := maxPositions

/-- The account after a cycle at a price of 100. Source: none: infrastructure. Kind: D -/
def Account.cycledAt100 (acc : Account) : Account :=
  { acc with world := cycleUnder (fun _ _ => { price := 100 }) acc.world }

/-- Source: none: infrastructure. Kind: L -/
theorem Account.Step.cycledAt100 {C : Account → Prop} {acc : Account} (hC : C acc) :
    Account.Step C acc acc.cycledAt100 := by
  refine .cycle hC (Exec.mono ?_ ((exec_iff_eval exec).mpr rfl))
  intro e a s _
  exact Regime.ok_of (fun _ => trivial) (fun _ _ _ => ⟨trivial, trivial⟩) (fun _ _ _ _ => trivial)
    (fun _ _ _ => trivial) fun _ _ _ _ _ => trivial

/-- The theorem at two signals and a limit of two. Source: none: infrastructure. Kind: C -/
theorem openCount_le_maxPositions_two :
    openCount (twoSignals ⟨2, by decide, by decide⟩).cycledAt100.cycledAt100.world ≤ 2 :=
  openCount_le_maxPositions (twoSignals ⟨2, by decide, by decide⟩) _ (by decide +kernel)
    (.tail (.single (.cycledAt100 (Or.inr (by decide +kernel))))
      (.cycledAt100 (Or.inr (by decide +kernel))))

/-- **The limit is exceeded** by two signals under a limit of one. Source:
`app/services/trading_service.py` `TradingService.execute_from_signal`. Kind: C -/
theorem openCount_exceeds :
    ¬ ∀ acc acc' : Account, openCount acc.world = 0 → Account.Run (fun _ => True) acc acc' →
      openCount acc'.world ≤ acc'.maxPositions.value := by
  intro h
  have hle := h (twoSignals ⟨1, by decide, by decide⟩)
    (twoSignals ⟨1, by decide, by decide⟩).cycledAt100.cycledAt100 (by decide +kernel)
    (.tail (.single (.cycledAt100 trivial)) (.cycledAt100 trivial))
  exact absurd hle (by decide +kernel)

end HaruTrade
