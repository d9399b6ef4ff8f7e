import Mathlib.Data.List.Chain
import Mathlib.Logic.Relation
import HaruTrade.Loops.Polls

/-!
# Runs and their polls

* `PollRun` — any number of sequential passes of Loop A, whatever the gateway, the database and the
  market data answer, and whatever else than the positions changes between two passes.
* `Told` — every poll of a position reads the row that the poll before it left, and the last one
  left the row that is in the table.
* **`PollRun.told`** — this holds after every run from where the position is open or not there.
-/

namespace HaruTrade

open Coro OrderService TradingService

namespace LoopARunner

variable {s s₁ s' : Recorded} {p q : Position} {ps : List Poll} {a : Poll} {pid : ℕ} {c : Tally}

/-! ## What the polls tell -/

/-- **The polls tell the story of the row.** Source: `app/loops/loop_a_runtime.py`
`LoopARunner._monitor_positions_once`. Kind: D -/
structure Told (ps : List Poll) (row : Option Position) : Prop where
  /-- A poll reads what the one before it left. -/
  chain : ps.IsChain fun a b => a.Leaves b.row
  live : ∀ a ∈ ps, a.row.state ≠ .CLOSED ∧ 0 < a.row.remainingQuantity
  first : ∀ a rest, ps = a :: rest → a.row.state = .OPEN
  last : ∀ a, ps.getLast? = some a → ∃ q, row = some q ∧ a.Leaves q
  unpolled : ps = [] → ∀ q, row = some q → q.state = .OPEN ∧ 0 < q.remainingQuantity

/-- A poll that leaves a live row leaves something in it. Source: `app/orders/state_machine.py`
`PositionStateMachine.decide`. Kind: L -/
theorem Poll.Leaves.remaining_pos (h : a.Leaves q) (hrow : 0 < a.row.remainingQuantity)
    (hlive : q.state ≠ .CLOSED) : 0 < q.remainingQuantity := by
  rcases h with ⟨rfl, -⟩ | ⟨rfl, -⟩
  · by_cases hclose : 0 < a.transition.closeQty
    · have hle := PositionStateMachine.closeQty_le hclose
      rw [Position.apply_remaining_of_close hclose hle]
      rcases PositionStateMachine.close_cases hclose with ⟨-, hclosed, -⟩ | ⟨-, -, hhalf, -⟩
      · exact absurd hclosed hlive
      · have hq : a.transition.closeQty = a.row.remainingQuantity / 2 := hhalf
        rw [hq]
        linarith
    · rw [Position.apply_remaining_of_hold hclose]
      exact hrow
  · exact hrow

/-- **Another poll** of the row that the polls tell of. Source: `app/loops/loop_a_runtime.py`
`LoopARunner._monitor_positions_once`. Kind: L -/
theorem Told.poll (h : Told ps (some p)) (hlive : p.state ≠ .CLOSED) (hrow : a.row = p)
    (hleaves : a.Leaves q) : Told (ps ++ [a]) (some q) := by
  have hlast : ∀ b, ps.getLast? = some b → b.Leaves p := by
    intro b hb
    obtain ⟨p', hp', hleft⟩ := h.last b hb
    rwa [Option.some.inj hp']
  refine ⟨?_, ?_, ?_, ?_, ?_⟩
  · refine h.chain.append (List.isChain_singleton a) ?_
    intro b hb a' ha'
    obtain rfl : a = a' := by simpa using ha'
    rw [hrow]
    exact hlast b hb
  · intro b hb
    rcases List.mem_append.mp hb with hb | hb
    · exact h.live b hb
    · obtain rfl := List.mem_singleton.mp hb
      rw [hrow]
      refine ⟨hlive, ?_⟩
      cases hps : ps.getLast? with
      | none => exact (h.unpolled (List.getLast?_eq_none_iff.mp hps) p rfl).2
      | some b =>
          exact (hlast b hps).remaining_pos (h.live b (List.mem_of_getLast? hps)).2 hlive
  · intro b rest hb
    cases ps with
    | nil =>
        obtain ⟨rfl, -⟩ := List.cons.inj hb
        rw [hrow]
        exact (h.unpolled rfl p rfl).1
    | cons b' ps =>
        obtain ⟨rfl, -⟩ := List.cons.inj hb
        exact h.first b' ps rfl
  · intro b hb
    obtain rfl : a = b := by simpa using hb
    exact ⟨q, rfl, hleaves⟩
  · intro hnil
    exact absurd hnil (by simp)

/-- A position that is entered has no polls. Source: `app/services/trading_service.py`
`TradingService.execute_from_signal`. Kind: L -/
theorem Told.entered (h : Told ps none) (hq : q.state = .OPEN ∧ 0 < q.remainingQuantity) :
    Told ps (some q) := by
  obtain rfl : ps = [] := by
    cases hps : ps.getLast? with
    | none => exact List.getLast?_eq_none_iff.mp hps
    | some b =>
        obtain ⟨q', hq', -⟩ := h.last b hps
        exact absurd hq' (by simp)
  refine ⟨h.chain, h.live, h.first, by simp, ?_⟩
  rintro - q' hq'
  rwa [← Option.some.inj hq']

/-! ## A pass -/

/-- The polls of the record tell the story of the row in the table. Source: none: infrastructure.
Kind: D -/
def ToldOf (pid : ℕ) (s : Recorded) : Prop := Told (polls pid s.2) (s.1.positions.get? pid)

theorem ToldOf.quiet (h : ToldOf pid s) (hquiet : Quiet s s') : ToldOf pid s' := by
  unfold ToldOf
  rw [hquiet.polls, hquiet.positions]
  exact h

/-- A poll writes no other position. Source: `app/loops/loop_a_runtime.py`
`LoopARunner._monitor_positions_once`. Kind: L -/
theorem PolledOnce.get?_of_ne (h : PolledOnce p a s s') (hne : pid ≠ p.id) :
    s'.1.positions.get? pid = s.1.positions.get? pid := by
  rcases h.positions with ⟨happlied, -⟩ | ⟨hsame, -⟩
  · rw [happlied, get?_applied, if_neg hne]
  · rw [hsame]

/-- **A poll goes on with the story.** Source: `app/loops/loop_a_runtime.py`
`LoopARunner._monitor_positions_once`. Kind: L -/
theorem ToldOf.polledOnce (h : ToldOf pid s) (hrow : s.1.positions.get? p.id = some p)
    (hlive : p.state ≠ .CLOSED) (hpoll : PolledOnce p a s s') : ToldOf pid s' := by
  unfold ToldOf at h ⊢
  by_cases hid : pid = p.id
  · rw [hid, hrow] at h
    rw [hid, hpoll.polls]
    rcases hpoll.positions with ⟨happlied, haccepted⟩ | ⟨hsame, hunwritten⟩
    · rw [happlied, get?_applied, if_pos rfl, hrow]
      refine h.poll hlive hpoll.row (.inl ⟨?_, haccepted⟩)
      rw [hpoll.row]
    · rw [hsame, hrow]
      exact h.poll hlive hpoll.row (.inr ⟨hpoll.row.symm, hunwritten⟩)
  · rw [hpoll.others pid hid, hpoll.get?_of_ne hid]
    exact h

/-- **The monitoring loop.** The rows still to come are in the table as they were read.
Source: `app/loops/loop_a_runtime.py` `LoopARunner._monitor_positions_once`. Kind: L -/
theorem ToldOf.monitorLoop {rows : List Position} {out : Except Exn Tally} (h : ToldOf pid s)
    (hrows : ∀ p ∈ rows, s.1.positions.get? p.id = some p ∧ p.state ≠ .CLOSED)
    (hnd : (rows.map Position.id).Nodup) (hrun : Runs (LoopARunner.monitorLoop rows c) s out s') :
    ToldOf pid s' := by
  induction rows generalizing c s with
  | nil =>
      obtain ⟨-, rfl⟩ := exec_ret_iff.mp hrun
      exact h
  | cons p rows ih =>
      obtain ⟨hrow, hlive⟩ := hrows p List.mem_cons_self
      obtain ⟨hnew, hnd⟩ := List.nodup_cons.mp hnd
      have hmonitor : ∀ {out s₁}, Runs (monitorPosition p c) s out s₁ → ToldOf pid s₁ ∧
          ∀ p' ∈ rows, s₁.1.positions.get? p'.id = s.1.positions.get? p'.id := by
        intro out s₁ h₁
        rcases runs_monitorPosition hrow h₁ with hquiet | ⟨a, hpoll⟩
        · exact ⟨h.quiet hquiet, fun p' _ => by rw [hquiet.positions]⟩
        · refine ⟨h.polledOnce hrow hlive hpoll, fun p' hp' => hpoll.get?_of_ne ?_⟩
          intro hid
          exact hnew (hid ▸ List.mem_map_of_mem hp')
      rcases exec_bind_iff.mp hrun with ⟨c', s₁, h₁, hrest⟩ | ⟨x, -, h₁⟩
      · obtain ⟨htold, hsame⟩ := hmonitor h₁
        refine ih htold (fun p' hp' => ?_) hnd hrest
        rw [hsame p' hp']
        exact hrows p' (List.mem_cons_of_mem p hp')
      · exact (hmonitor h₁).1

theorem hushed_critical {code message : String} : hushed (.critical code message) :=
  ⟨rfl, fun _ => id⟩

/-- Source: `app/loops/loop_a_runtime.py` `LoopARunner._monitor_positions_once`. Kind: L -/
theorem uses_hushed_queryPositions : Uses hushed queryPositions := by
  refine uses_catchSql ?_ fun _ => Uses.bind (uses_perform.mpr hushed_critical) fun _ => uses_ret
  refine Uses.bind (uses_orRaise (uses_perform.mpr ⟨rfl, fun _ => id⟩)) fun _ => ?_
  exact Uses.bind (uses_orRaise (uses_perform.mpr ⟨rfl, fun _ => id⟩)) fun _ => uses_ret

/-- Source: `app/loops/loop_a_runtime.py` `LoopARunner._monitor_positions_once`. Kind: L -/
theorem ToldOf.monitorPositionsOnce {out : Except Exn Tally} (h : ToldOf pid s)
    (hrun : Runs LoopARunner.monitorPositionsOnce s out s') : ToldOf pid s' := by
  rcases exec_bind_iff.mp hrun with ⟨rows, s₁, h₁, hrest⟩ | ⟨x, -, h₁⟩
  swap
  · exact h.quiet (quiet_of_uses uses_hushed_queryPositions h₁)
  have htold : ToldOf pid s₁ := h.quiet (quiet_of_uses uses_hushed_queryPositions h₁)
  obtain ⟨hworld, hrows⟩ := exec_queryPositions (Runs.plain h₁)
  cases rows with
  | none =>
      obtain ⟨-, rfl⟩ := exec_ret_iff.mp hrest
      exact htold
  | some rows =>
      obtain rfl := hrows rows rfl
      refine htold.monitorLoop ?_ OrderingRepository.nodup_listOpenPositions hrest
      intro p hp
      rw [hworld.positions]
      exact OrderingRepository.mem_listOpenPositions.mp hp

/-! ## A signal -/

/-- An entry concerns no position that is there. Source: `app/services/trading_service.py`
`TradingService.execute_from_signal`. Kind: D -/
def aside (e : Op) : Prop := ∀ pid, ¬ concerns pid e

theorem uses_aside_executeFromSignal {signal : Signal} : Uses aside (executeFromSignal signal) := by
  refine Uses.bind (uses_orRaise (uses_perform.mpr fun _ => id)) fun _ => ?_
  refine Uses.bind (uses_orRaise (uses_perform.mpr fun _ => id)) fun row => ?_
  have hticket : ∀ pid, ¬ (entryTicket signal).intent.closes = some pid := by
    intro pid h
    exact absurd h (by simp [entryTicket, Intent.closes])
  refine Uses.bind (uses_placeWithReconcile (fun _ => hticket) (fun _ _ => hticket)
    fun _ _ _ => id) fun r => ?_
  refine Uses.bind (uses_orRaise (uses_perform.mpr fun _ => id)) fun order => ?_
  split_ifs
  · exact Uses.bind (uses_orRaise (uses_perform.mpr fun _ => id)) fun _ => uses_ret
  · exact uses_ret

theorem uses_aside_consumeSignalOnce : Uses aside consumeSignalOnce := by
  refine Uses.bind (uses_perform.mpr fun _ => id) fun signal => ?_
  cases signal with
  | none => exact uses_ret
  | some signal =>
      refine Uses.tryCatch (Uses.bind uses_aside_executeFromSignal fun _ => uses_ret) fun x => ?_
      exact Uses.bind (uses_perform.mpr fun _ => id) fun _ => uses_ret

theorem polls_of_aside {α : Type} {prog : Prog α} {out : Except Exn α} (hp : Uses aside prog)
    (h : Runs prog s out s') : polls pid s'.2 = polls pid s.2 := by
  obtain ⟨l, hl, hcalls⟩ := hp.exists_record h
  rw [hl, polls_append]
  exact foldl_note_of_not_concerns fun x hx => hcalls x hx pid

/-- **An entry opens a position at most**, one share of it. Source:
`app/services/trading_service.py` `TradingService.execute_from_signal`. Kind: L -/
theorem ToldOf.consumeSignalOnce {out : Except Exn Bool} (h : ToldOf pid s)
    (hrun : Runs LoopARunner.consumeSignalOnce s out s') : ToldOf pid s' := by
  unfold ToldOf at h ⊢
  rw [polls_of_aside uses_aside_consumeSignalOnce hrun]
  rcases exec_consumeSignalOnce (Runs.plain hrun) with hsame | hentry
  · rw [hsame.positions]
    exact h
  · obtain ⟨signal, -, evs, r, b, -, -, hentered⟩ := hentry
    obtain ⟨orderId, hopened⟩ := hentered.positions
    rw [hopened]
    cases b with
    | nothing => exact h
    | order => exact h
    | position =>
        rw [Booking.opened, Table.get?_add]
        split_ifs with hfresh
        · have hnone : s.1.positions.get? pid = none := by rw [hfresh, Table.get?_fresh]
          rw [hnone] at h
          apply h.entered
          exact ⟨rfl, show (0 : ℚ) < 1 from zero_lt_one⟩
        · exact h

/-- **A pass goes on with the story.** Source: `app/loops/loop_a_runtime.py`
`LoopARunner.run_once`. Kind: P -/
theorem ToldOf.runOnce {out : Except Exn LoopAResult} (h : ToldOf pid s)
    (hrun : Runs LoopARunner.runOnce s out s') : ToldOf pid s' := by
  rcases exec_bind_iff.mp hrun with ⟨b, s₁, h₁, hrest⟩ | ⟨x, -, h₁⟩
  swap
  · exact h.consumeSignalOnce h₁
  rcases exec_bind_iff.mp hrest with ⟨c, s₂, h₂, hret⟩ | ⟨x, -, h₂⟩
  · obtain ⟨-, rfl⟩ := exec_ret_iff.mp hret
    exact (h.consumeSignalOnce h₁).monitorPositionsOnce h₂
  · exact (h.consumeSignalOnce h₁).monitorPositionsOnce h₂

/-! ## Runs -/

/-- **A step of a run with its record**: a pass, whatever is answered, or anything else that leaves
the positions as they are. Source: `app/loops/loop_a_runtime.py` `LoopARunner.run_once`. Kind: D -/
inductive PollStep : Recorded → Recorded → Prop
  | cycle {s s' : Recorded} {out : Except Exn LoopAResult} (h : Runs runOnce s out s') :
      PollStep s s'
  | outside {w w' : World} (l : List (Exchange Resp)) (h : w'.positions = w.positions) :
      PollStep (w, l) (w', l)

/-- A run of sequential passes. Source: none: infrastructure. Kind: D -/
abbrev PollRun : Recorded → Recorded → Prop := Relation.ReflTransGen PollStep

/-- **After every run the polls tell the story of the row**, from where the position is open or not
there. Source: `app/loops/loop_a_runtime.py` `LoopARunner.run_once`. Kind: P -/
theorem PollRun.told {w : World} (hrun : PollRun (w, []) s')
    (hstart : ∀ q, w.positions.get? pid = some q → q.state = .OPEN ∧ 0 < q.remainingQuantity) :
    ToldOf pid s' := by
  induction hrun with
  | refl =>
      exact ⟨List.IsChain.nil, by simp [polls], by simp [polls], by simp [polls], fun _ => hstart⟩
  | tail _ hstep ih =>
      cases hstep with
      | cycle h => exact ih.runOnce h
      | outside l h =>
          unfold ToldOf at ih ⊢
          rw [h]
          exact ih

end LoopARunner

end HaruTrade
