import HaruTrade.Loops.SlotRuns

/-!
# The polls that the coroutine makes

`SlotRuns` follows a ticker through polls whose syncs succeed or fail as a given pattern says. Here the
coroutine of Loop B runs on a record of the syncs that it completes, and every run of it is such a run
of polls.

* `SlotLog` — the world with a record of each `_sync_and_scan` that was completed.
* `exec_syncAndScan` — a sync is recorded exactly when it returns.
* `exec_runOnceForTicker` — a call of the coroutine is a poll under some pattern.
* `tickerRuns_pollAll` — hence a run of calls is a run of polls, and `completed_at_most_once` follows.
-/

namespace HaruTrade

open Coro

/-! ## The record -/

/-- The calls that set a slot. Source: none: infrastructure. Kind: D -/
def Op.writesSlots : Op → Bool
  | .setProcessedSlot _ _ _ => true
  | _ => false

theorem exec_processedSlots {e : Op} {a : Answer} {w : World} (h : e.writesSlots = false) :
    (exec e a w).2.processedSlots = w.processedSlots := by
  cases e <;> simp only [Op.writesSlots, Bool.true_eq_false] at h <;>
    simp only [exec, queried_snd, shouldRunLoopC]
  all_goals first
    | rfl
    | exact committed_frame _ World.processedSlots rfl
    | (split <;> first | rfl | exact committed_frame _ World.processedSlots rfl | (split <;> rfl))

/-- The world, with the last reading of the clock, the bars that are being scanned and a record of the
completed syncs. Source: `app/loops/loop_b_runtime.py` `LoopBRunner.run_once_for_ticker`. Kind: D -/
structure SlotLog where
  world : World
  now : Time := 0
  reading : Option (String × Timeframe) := none
  completed : List (String × Timeframe × Time) := []

namespace SlotLog

/-- The record after an answered call; the last call of a sync puts the signals into the queue.
Source: `app/loops/loop_b_runtime.py` `LoopBRunner._sync_and_scan`. Kind: D -/
def next (s : SlotLog) (w : World) : (e : Op) → Resp e → SlotLog
  | .now, t => { s with world := w, now := t }
  | .listRecent .scan ticker timeframe _, .ok _ =>
      { s with world := w, reading := some (ticker, timeframe) }
  | .putMany _, _ =>
      { s with
        world := w
        completed := s.completed ++ (s.reading.map fun read => (read.1, read.2, s.now)).toList }
  | _, _ => { s with world := w }

/-- A call is answered from the world alone, and recorded. Source: none: infrastructure. Kind: D -/
def exec (e : Op) (a : Answer) (s : SlotLog) : Resp e × SlotLog :=
  let r := HaruTrade.exec e a s.world
  (r.1, s.next r.2 e r.1)

/-- The minutes at which a timeframe of a ticker was completed. Source: none: infrastructure.
Kind: D -/
def minutesOf (s : SlotLog) (ticker : String) (timeframe : Timeframe) : List ℕ :=
  ((s.completed.filterMap fun done => if done.1 = ticker then some done.2 else none).filter
    fun done => done.1 = timeframe).map fun done => done.2 / 60

/-- The slots, the clock and the record stay as they are. Source: none: infrastructure. Kind: D -/
structure Quiet (s s' : SlotLog) : Prop where
  slots : s'.world.processedSlots = s.world.processedSlots
  now : s'.now = s.now
  completed : s'.completed = s.completed

theorem Quiet.refl (s : SlotLog) : Quiet s s := ⟨rfl, rfl, rfl⟩

theorem Quiet.trans {s₁ s₂ s₃ : SlotLog} (h : Quiet s₁ s₂) (h' : Quiet s₂ s₃) : Quiet s₁ s₃ :=
  ⟨h'.slots.trans h.slots, h'.now.trans h.now, h'.completed.trans h.completed⟩

/-- The calls of a sync before it reads the candles to scan. Source: none: infrastructure. Kind: D -/
def isQuiet : Op → Bool
  | .now => false
  | .putMany _ => false
  | .setProcessedSlot _ _ _ => false
  | .listRecent _ _ _ _ => false
  | _ => true

variable {s s' : SlotLog} {e : Op} {a : Answer}

theorem quiet_exec (h : isQuiet e = true) : Quiet s (exec e a s).2 := by
  have hslots : (HaruTrade.exec e a s.world).2.processedSlots = s.world.processedSlots := by
    refine exec_processedSlots ?_
    cases e <;> first | rfl | exact absurd h Bool.false_ne_true
  have hnext : (exec e a s).2 = { s with world := (HaruTrade.exec e a s.world).2 } := by
    cases e <;> first | rfl | exact absurd h Bool.false_ne_true
  rw [hnext]
  exact ⟨hslots, rfl, rfl⟩

end SlotLog

/-! ## One sync -/

namespace LoopBRunner

variable {ok : Op → Answer → SlotLog → Prop} {strategies : List Strategy} {ticker : String}
  {timeframe : Timeframe} {now : Time} {s s' : SlotLog}

/-- What a sync leaves: it is recorded when it returns, and not when it raises.
Source: `app/loops/loop_b_runtime.py` `LoopBRunner._sync_and_scan`. Kind: D -/
structure Synced (ticker : String) (timeframe : Timeframe) (s : SlotLog) (out : Except Exn ℕ)
    (s' : SlotLog) : Prop where
  slots : s'.world.processedSlots = s.world.processedSlots
  now : s'.now = s.now
  completed : s'.completed = s.completed ++
    if out.isOk then [(ticker, timeframe, s.now)] else []

theorem Synced.of_quiet {out : Except Exn ℕ} {s₁ : SlotLog} (h : s.Quiet s₁)
    (hrest : Synced ticker timeframe s₁ out s') : Synced ticker timeframe s out s' where
  slots := hrest.slots.trans h.slots
  now := hrest.now.trans h.now
  completed := by rw [hrest.completed, h.completed, h.now]

/-- A part of a sync that makes quiet calls only. Source: none: infrastructure. Kind: L -/
theorem synced_bind {α : Type} {p : Prog α} {f : α → Prog ℕ} {out : Except Exn ℕ}
    (h : Exec SlotLog.exec ok (p.bind f) s out s')
    (huses : Uses (fun e => SlotLog.isQuiet e = true) p)
    (hf : ∀ v s₁, Exec SlotLog.exec ok (f v) s₁ out s' → Synced ticker timeframe s₁ out s') :
    Synced ticker timeframe s out s' := by
  have hquiet : ∀ {s₁ : SlotLog} {r : Except Exn α}, Exec SlotLog.exec ok p s r s₁ → s.Quiet s₁ :=
    fun hp => huses.exec_rel SlotLog.Quiet.refl (fun _ _ _ => SlotLog.Quiet.trans)
      (fun _ _ _ he _ => SlotLog.quiet_exec he) hp
  rcases exec_bind_iff.mp h with ⟨v, s₁, hp, hrest⟩ | ⟨x, rfl, hp⟩
  · exact .of_quiet (hquiet hp) (hf v s₁ hrest)
  · refine .of_quiet (hquiet hp) ⟨rfl, rfl, ?_⟩
    exact (List.append_nil _).symm

/-- **A sync is recorded exactly when it returns.** Source: `app/loops/loop_b_runtime.py`
`LoopBRunner._sync_and_scan`. Kind: L -/
theorem exec_syncAndScan {out : Except Exn ℕ}
    (h : Exec SlotLog.exec ok (syncAndScan strategies ticker timeframe now) s out s') :
    Synced ticker timeframe s out s' := by
  have hfetch : ∀ since, Uses (fun e => SlotLog.isQuiet e = true)
      (ResilientCandleFetcher.fetchIncremental ticker timeframe since 2) := by
    intro since
    apply uses_fetchIncremental <;> rfl
  refine synced_bind h (uses_orRaise (uses_perform.mpr rfl)) fun _ s₁ h => ?_
  refine synced_bind h (uses_orRaise (uses_perform.mpr rfl)) fun lastTs s₂ h => ?_
  refine synced_bind h (hfetch lastTs) fun fresh s₃ h => ?_
  refine synced_bind h (uses_orRaise (uses_perform.mpr rfl)) fun _ s₄ h => ?_
  refine synced_bind h (uses_upsertAll (fun _ => rfl) fresh) fun _ s₅ h => ?_
  obtain ⟨a, -, h⟩ := exec_call_iff.mp h
  have hslots := exec_processedSlots (e := .listRecent .scan ticker timeframe 240) (a := a)
    (w := s₅.world) rfl
  have hnext : (SlotLog.exec (.listRecent .scan ticker timeframe 240) a s₅).2 =
      s₅.next (exec (.listRecent .scan ticker timeframe 240) a s₅.world).2
        (.listRecent .scan ticker timeframe 240)
        (SlotLog.exec (.listRecent .scan ticker timeframe 240) a s₅).1 := rfl
  cases hrows : (SlotLog.exec (.listRecent .scan ticker timeframe 240) a s₅).1 with
  | error x =>
      rw [hrows] at h hnext
      obtain ⟨rfl, rfl⟩ := exec_raise_iff.mp h
      rw [hnext]
      exact ⟨hslots, rfl, (List.append_nil _).symm⟩
  | ok rows =>
      rw [hrows] at h hnext
      obtain ⟨b, -, h⟩ := exec_call_iff.mp h
      obtain ⟨rfl, rfl⟩ := exec_ret_iff.mp h
      rw [hnext]
      exact ⟨hslots, rfl, rfl⟩

/-! ## One call -/

/-- The record agrees with what is remembered of a ticker. Source: none: infrastructure. Kind: D -/
structure Remembers (ticker : String) (s : SlotLog) (m : SlotMemory) : Prop where
  slots : ∀ tf, s.world.processedSlots.lookup (ticker, tf) = m.processed tf
  completed : s.completed.filterMap
    (fun done => if done.1 = ticker then some done.2 else none) = m.completed

variable {m : SlotMemory} {due : List Timeframe} {produced n : ℕ}

theorem Remembers.of_quiet (h : Remembers ticker s m) (hq : s.Quiet s') : Remembers ticker s' m where
  slots := fun tf => by rw [hq.slots]; exact h.slots tf
  completed := by rw [hq.completed]; exact h.completed

/-- The poll of the due timeframes looks at no other sync. Source: none: infrastructure. Kind: L -/
theorem pollTimeframes_congr {sync sync' : Timeframe → Option ℕ}
    (h : ∀ tf ∈ due, sync tf = sync' tf) :
    pollTimeframes ⟨now, sync⟩ due m produced = pollTimeframes ⟨now, sync'⟩ due m produced := by
  induction due generalizing m produced with
  | nil => rfl
  | cons first due ih =>
      have hrest : ∀ tf ∈ due, sync tf = sync' tf := fun tf htf => h tf (List.mem_cons_of_mem _ htf)
      unfold pollTimeframes
      dsimp only
      rw [h first List.mem_cons_self]
      split_ifs
      · exact ih hrest
      · cases sync' first with
        | none => exact ih hrest
        | some n => exact ih hrest

/-- A sync of the first timeframe and a pattern of the rest make a pattern of a poll.
Source: `app/loops/loop_b_runtime.py` `LoopBRunner.run_once_for_ticker`. Kind: L -/
theorem pollTimeframes_update {sync : Timeframe → Option ℕ} {found : Option ℕ} {first : Timeframe}
    (hfirst : first ∉ due) (hskip : m.processed first ≠ some (MarketSchedule.slotKey now first)) :
    pollTimeframes ⟨now, Function.update sync first found⟩ (first :: due) m produced =
      found.elim (pollTimeframes ⟨now, sync⟩ due m produced) fun k =>
        pollTimeframes ⟨now, sync⟩ due (m.complete first now) (produced + k) := by
  have hrest : ∀ m' k, pollTimeframes ⟨now, Function.update sync first found⟩ due m' k =
      pollTimeframes ⟨now, sync⟩ due m' k := by
    intro m' k
    apply pollTimeframes_congr
    rintro tf htf
    apply Function.update_of_ne
    rintro rfl
    exact hfirst htf
  rw [pollTimeframes, if_neg hskip]
  dsimp only
  rw [Function.update_self]
  cases found with
  | none => exact hrest m produced
  | some k => exact hrest (m.complete first now) (produced + k)

/-- What the guarded sync of a timeframe comes to: the number of its signals, or nothing for a database
failure. Source: `app/loops/loop_b_runtime.py` `LoopBRunner.run_once_for_ticker`. Kind: L -/
theorem exec_guarded_sync {found : Option ℕ}
    (h : Exec SlotLog.exec ok (catchSql (some <$> syncAndScan strategies ticker timeframe now)
      fun _ => return none) s (.ok found) s') :
    s'.world.processedSlots = s.world.processedSlots ∧ s'.now = s.now ∧
      s'.completed = s.completed ++ if found.isSome then [(ticker, timeframe, s.now)] else [] := by
  rcases exec_tryCatch_iff.mp h with ⟨found', hfound, hsync⟩ | ⟨x, s₁, hsync, hhandler⟩
  · rcases exec_bind_iff.mp hsync with ⟨n, s₁, hsync, hret⟩ | ⟨x, hx, -⟩
    · obtain ⟨hn, rfl⟩ := exec_ret_iff.mp hret
      obtain rfl : found = some n := (Except.ok.inj hfound).trans (Except.ok.inj hn)
      have hdone := exec_syncAndScan hsync
      exact ⟨hdone.slots, hdone.now, hdone.completed⟩
    · exact absurd hx (by simp)
  · rcases exec_bind_iff.mp hsync with ⟨n, s₂, -, hret⟩ | ⟨x', hx, hsync⟩
    · exact absurd (exec_ret_iff.mp hret).1 (by simp)
    · have hdone := exec_syncAndScan hsync
      cases x with
      | sqlalchemy text =>
          obtain ⟨hfound, rfl⟩ := exec_ret_iff.mp hhandler
          obtain rfl := Except.ok.inj hfound
          have hout : x' = .sqlalchemy text := (Except.error.inj hx).symm
          subst hout
          exact ⟨hdone.slots, hdone.now, hdone.completed⟩
      | lookup text => exact absurd (exec_raise_iff.mp hhandler).1 (by simp)
      | other text => exact absurd (exec_raise_iff.mp hhandler).1 (by simp)

/-- A slot that is set is remembered. Source: `app/loops/loop_b_runtime.py`
`LoopBRunner.run_once_for_ticker`. Kind: L -/
theorem Remembers.complete {s₁ : SlotLog} {a : Answer} (h : Remembers ticker s m)
    (hslots : s₁.world.processedSlots = s.world.processedSlots)
    (hcompleted : s₁.completed = s.completed ++ [(ticker, timeframe, now)]) :
    Remembers ticker
      (SlotLog.exec (.setProcessedSlot ticker timeframe (MarketSchedule.slotKey now timeframe)) a
        s₁).2 (m.complete timeframe now) where
  slots := fun tf => by
    show List.lookup (ticker, tf) (((ticker, timeframe), MarketSchedule.slotKey now timeframe) ::
      s₁.world.processedSlots) = _
    by_cases htf : tf = timeframe
    · subst htf
      rw [List.lookup_cons_self, SlotMemory.processed_complete_self]
    · have hne : ((ticker, tf) == (ticker, timeframe)) = false := by simpa using htf
      rw [List.lookup_cons, hne, SlotMemory.processed_complete_of_ne htf, hslots]
      exact h.slots tf
  completed := by
    show s₁.completed.filterMap _ = m.completed ++ [(timeframe, now)]
    rw [hcompleted, List.filterMap_append, h.completed]
    simp

/-- **The due timeframes of a call are polled under some pattern.**
Source: `app/loops/loop_b_runtime.py` `LoopBRunner.run_once_for_ticker`. Kind: L -/
theorem exec_runTimeframes (hnodup : due.Nodup) (hnow : s.now = now) (hm : Remembers ticker s m)
    (h : Exec SlotLog.exec ok (runTimeframes strategies ticker now due produced) s (.ok n) s') :
    ∃ sync : Timeframe → Option ℕ, (pollTimeframes ⟨now, sync⟩ due m produced).1 = n ∧
      Remembers ticker s' (pollTimeframes ⟨now, sync⟩ due m produced).2 := by
  induction due generalizing s m produced with
  | nil =>
      obtain ⟨hn, rfl⟩ := exec_ret_iff.mp h
      exact ⟨fun _ => none, (Except.ok.inj hn).symm, hm⟩
  | cons first due ih =>
      obtain ⟨hfirst, hnodup⟩ := List.nodup_cons.mp hnodup
      obtain ⟨a, -, h⟩ := exec_call_iff.mp h
      have hasked : SlotLog.exec (.processedSlot ticker first) a s =
          (s.world.processedSlots.lookup (ticker, first), s) := rfl
      rw [hasked] at h
      dsimp only at h
      rw [hm.slots first] at h
      simp only [ret_bind] at h
      by_cases hskip : m.processed first = some (MarketSchedule.slotKey now first)
      · rw [if_pos hskip] at h
        obtain ⟨sync, hn, hrest⟩ := ih hnodup hnow hm h
        refine ⟨sync, ?_⟩
        unfold pollTimeframes
        rw [if_pos hskip]
        exact ⟨hn, hrest⟩
      · rw [if_neg hskip] at h
        rcases exec_bind_iff.mp h with ⟨found, s₁, hsync, h⟩ | ⟨x, hx, -⟩
        · obtain ⟨hslots, hnow₁, hcompleted⟩ := exec_guarded_sync hsync
          cases found with
          | none =>
              have hrest : Remembers ticker s₁ m :=
                hm.of_quiet ⟨hslots, hnow₁, hcompleted.trans (List.append_nil _)⟩
              obtain ⟨sync, hsync⟩ := ih hnodup (hnow₁.trans hnow) hrest h
              refine ⟨Function.update sync first none, ?_⟩
              rw [pollTimeframes_update hfirst hskip]
              exact hsync
          | some k =>
              obtain ⟨b, -, h⟩ := exec_call_iff.mp h
              rw [hnow] at hcompleted
              have hrest := hm.complete (a := b) hslots hcompleted
              have hnow₂ : (SlotLog.exec (.setProcessedSlot ticker first
                  (MarketSchedule.slotKey now first)) b s₁).2.now = now := hnow₁.trans hnow
              obtain ⟨sync, hsync⟩ := ih hnodup hnow₂ hrest h
              refine ⟨Function.update sync first (some k), ?_⟩
              rw [pollTimeframes_update hfirst hskip]
              exact hsync
        · exact absurd hx (by simp)

/-- **A call for a ticker is a poll under some pattern.** Source: `app/loops/loop_b_runtime.py`
`LoopBRunner.run_once_for_ticker`. Kind: L -/
theorem exec_runOnceForTicker (hm : Remembers ticker s m)
    (hclock : ∀ a s, ok .now a s → a.time = now)
    (h : Exec SlotLog.exec ok (runOnceForTicker strategies ticker) s (.ok n) s') :
    ∃ sync : Timeframe → Option ℕ, (pollOnce m ⟨now, sync⟩).1 = n ∧
      Remembers ticker s' (pollOnce m ⟨now, sync⟩).2 := by
  obtain ⟨a, ha, h⟩ := exec_call_iff.mp h
  have hread : SlotLog.exec .now a s = (now, { s with now := now }) := by
    show (a.time, { s with now := a.time }) = _
    rw [hclock a s ha]
  rw [hread] at h
  have hstart : Remembers ticker { s with now := now } m := ⟨hm.slots, hm.completed⟩
  exact exec_runTimeframes MarketSchedule.nodup_dueTimeframes rfl hstart h

/-! ## Runs -/

/-- **A run of calls for a ticker** at given times, in which no call raises: every failure of a sync is a
`SQLAlchemyError`. Source: `app/loops/loop_b_runtime.py` `LoopBRunner.run_once_for_ticker`. Kind: D -/
inductive TickerRuns (strategies : List Strategy) (ticker : String) :
    List Time → SlotLog → SlotLog → Prop
  | nil (s : SlotLog) : TickerRuns strategies ticker [] s s
  | cons {now : Time} {times : List Time} {s s₁ s' : SlotLog} {n : ℕ}
      (hcall : Exec SlotLog.exec (fun e a _ => e = .now → a.time = now)
        (runOnceForTicker strategies ticker) s (.ok n) s₁)
      (hrest : TickerRuns strategies ticker times s₁ s') :
      TickerRuns strategies ticker (now :: times) s s'

/-- **A run of calls is a run of polls.** Source: `app/loops/loop_b_runtime.py`
`LoopBRunner.run_once_for_ticker`. Kind: P -/
theorem tickerRuns_pollAll {times : List Time} (hm : Remembers ticker s m)
    (h : TickerRuns strategies ticker times s s') :
    ∃ ps : List Poll, ps.map Poll.now = times ∧ Remembers ticker s' (pollAll ps m) := by
  induction h generalizing m with
  | nil => exact ⟨[], rfl, hm⟩
  | @cons now times s s₁ s' n hcall _ ih =>
      obtain ⟨sync, -, hnext⟩ := exec_runOnceForTicker hm (fun a s ha => ha rfl) hcall
      obtain ⟨ps, htimes, hrest⟩ := ih hnext
      exact ⟨⟨now, sync⟩ :: ps, congrArg (now :: ·) htimes, hrest⟩

/-- **A run of the coroutine completes no sync twice for one minute**, and none for a minute at which no
bar closes. Source: `app/loops/loop_b_runtime.py` `LoopBRunner.run_once_for_ticker`. Kind: P -/
theorem completed_at_most_once {times : List Time} {w : World} (hslots : w.processedSlots = [])
    (hmono : times.Pairwise (· ≤ ·))
    (h : TickerRuns strategies ticker times { world := w } s') (minute : ℕ) :
    (s'.minutesOf ticker timeframe).count minute ≤ 1 ∧
      (¬ Closes timeframe minute → (s'.minutesOf ticker timeframe).count minute = 0) := by
  have hstart : Remembers ticker { world := w } {} := by
    refine ⟨fun tf => ?_, rfl⟩
    show w.processedSlots.lookup (ticker, tf) = none
    rw [hslots]
    rfl
  obtain ⟨ps, htimes, hm⟩ := tickerRuns_pollAll hstart h
  have hpolls : ps.Pairwise fun p q => p.now ≤ q.now := by
    rw [← htimes] at hmono
    exact List.pairwise_map.mp hmono
  classical
  have hminutes : s'.minutesOf ticker timeframe = (pollAll ps {}).minutesOf timeframe := by
    unfold SlotLog.minutesOf SlotMemory.minutesOf
    rw [hm.completed]
  rw [hminutes, count_minutesOf hpolls minute]
  refine ⟨?_, fun hcloses => if_neg fun hboth => hcloses hboth.1⟩
  split_ifs
  · exact le_rfl
  · exact Nat.zero_le 1

end LoopBRunner

end HaruTrade
