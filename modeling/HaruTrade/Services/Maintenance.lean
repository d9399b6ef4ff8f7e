import HaruTrade.Data.History
import HaruTrade.Data.Latest
import HaruTrade.Data.Machine
import HaruTrade.Data.Ordinal
import HaruTrade.Services.CandleBackfill

/-!
# Loop C and the post-market backfill

Loop C runs every 30 minutes. Once a day, in the hours after the market closes, it starts the daily backfill in
a task of its own; the task may still go on when the next Loop C runs, on the same day or on a later one.

* `machine` — the maintenance service: runs of Loop C, ends of backfills, and the counts of tickers.
* `Regular` — what holds at every event; `MaintenanceInv`, and one lemma for each kind of step.
* `post_market_runs` — **one backfill a day, never two at once, and none is left out**: a run of Loop C in
  the window that finds no backfill going on leaves its day handled.
-/

namespace HaruTrade

namespace RuntimeMaintenanceService

/-! ## The service -/

/-- A task that runs the backfill. Source: `app/services/runtime_factory.py`
`RuntimeMaintenanceService._run_post_market_backfill_task`. Kind: D -/
structure BackfillTask where
  slot : String
  done : Bool := false

/-- `last_post_market_backfill`. Source: `app/services/runtime_factory.py`
`RuntimeMaintenanceService.schedule_post_market_backfill_if_due`. Kind: D -/
inductive PostMarketBackfill where
  | runnerNotConfigured (slot : String) (startedAt : DateTime)
  | running (slot : String) (startedAt : DateTime)
  | completed (slot : String) (report : CandleBackfill.Report) (completedAt : DateTime)
  | failed (slot : String) (exc : Exn) (completedAt : DateTime)

namespace PostMarketBackfill

/-- Source: `app/services/runtime_factory.py`
`RuntimeMaintenanceService.schedule_post_market_backfill_if_due`. Kind: D -/
def slot : PostMarketBackfill → String
  | runnerNotConfigured slot _ => slot
  | running slot _ => slot
  | completed slot _ _ => slot
  | failed slot _ _ => slot

/-- Source: `app/services/runtime_factory.py`
`RuntimeMaintenanceService.schedule_post_market_backfill_if_due`. Kind: D -/
def ok : PostMarketBackfill → Bool
  | completed _ report _ => report.ok
  | _ => false

/-- Source: `app/services/runtime_factory.py`
`RuntimeMaintenanceService.schedule_post_market_backfill_if_due`. Kind: D -/
def message : PostMarketBackfill → String
  | runnerNotConfigured _ _ => "runner_not_configured"
  | running _ _ => "running"
  | completed _ report _ => report.message
  | failed _ exc _ => s!"backfill_failed:{exc.str}"

end PostMarketBackfill

/-- The service with all tasks that it created, oldest first; `postMarketTask` is the one it remembers.
Source: `app/services/runtime_factory.py` `RuntimeMaintenanceService.__init__`. Kind: D -/
structure State where
  lastRefreshAt : Option DateTime := none
  lastOptimizeAt : Option DateTime := none
  lastAggregateAt : Option DateTime := none
  lastTradingTickerCount : ℤ := 0
  lastTrackingTickerCount : ℤ := 0
  lastUniverseTickerCount : ℤ := 0
  lastPostMarketBackfill : Option PostMarketBackfill := none
  lastPostMarketSlot : Option String := none
  tasks : List BackfillTask := []
  postMarketTask : Option ℕ := none

/-- What a run of Loop C reads: the clock, again and again, and whether it runs in an event loop.
Source: `app/loops/core.py` `LoopCMaintainer.run_once`. Kind: D -/
structure LoopCReadings where
  now : DateTime
  startedAt : DateTime
  runningLoop : Bool
  refreshedAt : DateTime
  optimizedAt : DateTime
  aggregatedAt : DateTime

/-- How a backfill ends: with its report, by an exception, or cancelled.
Source: `app/services/runtime_factory.py`
`RuntimeMaintenanceService._run_post_market_backfill_task`. Kind: D -/
inductive Outcome where
  | report (payload : CandleBackfill.Report)
  | raised (exc : Exn)
  | cancelled

/-- Source: `app/services/runtime_factory.py` `RuntimeMaintenanceService`. Kind: D -/
inductive Input where
  | loopC (r : LoopCReadings)
  | ended (i : ℕ) (outcome : Outcome) (completedAt : DateTime)
  | setTickerCounts (trading tracking «universe» : ℤ)

/-- What a step has done. Source: none: infrastructure. Kind: D -/
inductive Did where
  | notDue
  | sameSlot (slot : String)
  | busy (slot : String)
  | notConfigured (slot : String) (startedAt : DateTime)
  | noLoop (slot : String)
  | started (slot : String) (startedAt : DateTime)
  | ended (i : ℕ) (slot : String) (outcome : Outcome) (completedAt : DateTime)

/-- From 15:40 to 20:00. Source: `app/services/runtime_factory.py`
`RuntimeMaintenanceService._is_post_market_window`. Kind: D -/
def isPostMarketWindow (nowLocal : DateTime) : Bool :=
  let totalMinutes := nowLocal.hour * 60 + nowLocal.minute
  15 * 60 + 40 ≤ totalMinutes && totalMinutes ≤ 20 * 60

/-- `now_local.strftime("%Y-%m-%d")`. Source: `app/services/runtime_factory.py`
`RuntimeMaintenanceService.schedule_post_market_backfill_if_due`. Kind: D -/
def slotOf (nowLocal : DateTime) : String := String.ofList nowLocal.isoDate

/-- `configured`: there is a `post_market_backfill_runner`. Source: `app/services/runtime_factory.py`
`RuntimeMaintenanceService.schedule_post_market_backfill_if_due`. Kind: D -/
def schedulePostMarketBackfillIfDue (configured : Bool) (s : State) (r : LoopCReadings) :
    State × List Did :=
  if !isPostMarketWindow r.now then (s, [.notDue])
  else
    let slot := slotOf r.now
    if s.lastPostMarketSlot = some slot then (s, [.sameSlot slot])
    else if goingOn BackfillTask.done s.tasks s.postMarketTask then (s, [.busy slot])
    else
      let s := { s with lastPostMarketSlot := some slot }
      if !configured then
        ({ s with lastPostMarketBackfill := some (.runnerNotConfigured slot r.startedAt) },
          [.notConfigured slot r.startedAt])
      else if !r.runningLoop then
        -- without an event loop the next run tries again
        ({ s with lastPostMarketSlot := none }, [.noLoop slot])
      else
        ({ s with
          lastPostMarketBackfill := some (.running slot r.startedAt)
          tasks := s.tasks ++ [⟨slot, false⟩]
          postMarketTask := some s.tasks.length }, [.started slot r.startedAt])

/-- Source: `app/loops/core.py` `LoopCMaintainer.run_once`. Kind: D -/
def runOnce (configured : Bool) (s : State) (r : LoopCReadings) : State × List Did :=
  let (s, done) := schedulePostMarketBackfillIfDue configured s r
  ({ s with
    lastRefreshAt := some r.refreshedAt
    lastOptimizeAt := some r.optimizedAt
    lastAggregateAt := some r.aggregatedAt }, done)

/-- The end of a task. Source: `app/services/runtime_factory.py`
`RuntimeMaintenanceService._run_post_market_backfill_task`. Kind: D -/
def endTask (s : State) (i : ℕ) (outcome : Outcome) (completedAt : DateTime) : State × List Did :=
  match s.tasks[i]? with
  | some ⟨slot, false⟩ =>
      let s := { s with tasks := s.tasks.set i ⟨slot, true⟩ }
      let s := match outcome with
        | .report payload =>
            { s with lastPostMarketBackfill := some (.completed slot payload completedAt) }
        | .raised exc => { s with lastPostMarketBackfill := some (.failed slot exc completedAt) }
        | .cancelled => s
      (s, [.ended i slot outcome completedAt])
  | _ => (s, [])

/-- Source: `app/services/runtime_factory.py` `RuntimeMaintenanceService.set_ticker_counts`. Kind: D -/
def setTickerCounts (s : State) (trading tracking «universe» : ℤ) : State :=
  { s with
    lastTradingTickerCount := max trading 0
    lastTrackingTickerCount := max tracking 0
    lastUniverseTickerCount := max «universe» 0 }

/-- Source: `app/services/runtime_factory.py` `RuntimeMaintenanceService`. Kind: D -/
def machine (configured : Bool) : Machine State Input (List Did) where
  step s
    | .loopC r => runOnce configured s r
    | .ended i outcome completedAt => endTask s i outcome completedAt
    | .setTickerCounts trading tracking «universe» =>
        (setTickerCounts s trading tracking «universe», [])

/-- Source: `app/services/runtime_factory.py` `RuntimeMaintenanceService.runtime_metrics_snapshot`.
Kind: D -/
structure RuntimeMetrics where
  trading : ℤ
  tracking : ℤ
  «universe» : ℤ
  postMarketBackfill : Option PostMarketBackfill

/-- Source: `app/services/runtime_factory.py` `RuntimeMaintenanceService.runtime_metrics_snapshot`.
Kind: D -/
def runtimeMetricsSnapshot (s : State) : RuntimeMetrics :=
  ⟨s.lastTradingTickerCount, s.lastTrackingTickerCount, s.lastUniverseTickerCount,
    s.lastPostMarketBackfill⟩

/-- The events of a run. Source: none: infrastructure. Kind: D -/
def events (log : List (Input × List Did)) : List Did := log.flatMap Prod.snd

/-! ## What holds at every event -/

/-- The day of a backfill that is started. Source: none: infrastructure. Kind: D -/
def Did.started? : Did → Option String
  | .started slot _ => some slot
  | _ => none

/-- The day that is handled: its backfill is started, or the service has none to start.
Source: none: infrastructure. Kind: D -/
def Did.handled? : Did → Option String
  | .started slot _ => some slot
  | .notConfigured slot _ => some slot
  | _ => none

/-- Source: none: infrastructure. Kind: D -/
def Did.isEnd : Did → Bool
  | .ended _ _ _ _ => true
  | _ => false

/-- What the snapshot says after an event. Source: `app/services/runtime_factory.py`
`RuntimeMaintenanceService.runtime_metrics_snapshot`. Kind: D -/
def Did.note? : Did → Option PostMarketBackfill
  | .started slot startedAt => some (.running slot startedAt)
  | .notConfigured slot startedAt => some (.runnerNotConfigured slot startedAt)
  | .ended _ slot (.report payload) completedAt => some (.completed slot payload completedAt)
  | .ended _ slot (.raised exc) completedAt => some (.failed slot exc completedAt)
  | _ => none

/-- The days of the backfills, in their order. Source: none: infrastructure. Kind: D -/
def starts (before : List Did) : List String := before.filterMap Did.started?

/-- The days that are handled. Source: none: infrastructure. Kind: D -/
def handled (before : List Did) : List String := before.filterMap Did.handled?

/-- A backfill goes on. Source: none: infrastructure. Kind: D -/
def Busy (before : List Did) : Prop := before.countP Did.isEnd + 1 = (starts before).length

/-- Every backfill has ended. Source: none: infrastructure. Kind: D -/
def Quiet (before : List Did) : Prop := before.countP Did.isEnd = (starts before).length

/-- **What holds at an event**, given the ones before it: a day is passed over when it is handled already,
or when a backfill goes on; it is handled, or missed for want of an event loop, when it was not handled
before and no backfill goes on; and it is the last backfill that ends. Source:
`app/services/runtime_factory.py` `RuntimeMaintenanceService`. Kind: D -/
def Regular (before : List Did) : Did → Prop
  | .notDue => True
  | .sameSlot slot => slot ∈ handled before
  | .busy slot => Busy before ∧ slot ∉ handled before
  | .notConfigured slot _ => Quiet before ∧ slot ∉ handled before
  | .noLoop slot => Quiet before ∧ slot ∉ handled before
  | .started slot _ => Quiet before ∧ slot ∉ handled before
  | .ended i slot _ _ => Busy before ∧ i + 1 = (starts before).length ∧ (starts before)[i]? = some slot

theorem slotOf_eq_iff {d e : DateTime} : slotOf d = slotOf e ↔ d.toOrdinal = e.toOrdinal := by
  unfold slotOf
  rw [String.ofList_inj, DateTime.isoDate_eq_iff]

/-! ## The invariant -/

/-- **The state and what happened before.** `seen` are the readings of the runs of Loop C: a day that is
handled is the one that the service remembers, or it is over. Source:
`app/services/runtime_factory.py` `RuntimeMaintenanceService`. Kind: D -/
structure MaintenanceInv (before : List Did) (seen : List DateTime) (s : State)
    (front : List BackfillTask) (last : Option BackfillTask) : Prop where
  latest : Latest BackfillTask.done s.tasks s.postMarketTask front last
  starts : s.tasks.map BackfillTask.slot = starts before
  ends : before.countP Did.isEnd = front.length + last.toList.countP BackfillTask.done
  remembered : ∀ slot, s.lastPostMarketSlot = some slot → slot ∈ handled before
  past : ∀ slot ∈ handled before, ∃ d ∈ seen, slotOf d = slot ∧
    (s.lastPostMarketSlot = some slot ∨ ∃ e ∈ seen, d.toOrdinal < e.toOrdinal)
  note : s.lastPostMarketBackfill = lastOf Did.note? before
  days : (handled before).Nodup
  regular : AtEvery Regular before

variable {before : List Did} {seen : List DateTime} {s : State} {front : List BackfillTask}
  {last : Option BackfillTask} {configured : Bool} {r : LoopCReadings} {slot : String} {e : Did}
  {i : ℕ}

theorem maintenanceInv_new : MaintenanceInv [] [] {} [] none where
  latest := latest_nil
  starts := rfl
  ends := rfl
  remembered _ h := absurd h (by simp)
  past _ h := absurd h (by simp [handled])
  note := rfl
  days := List.nodup_nil
  regular := atEvery_nil

namespace MaintenanceInv

theorem length_starts (h : MaintenanceInv before seen s front last) :
    (RuntimeMaintenanceService.starts before).length = front.length + last.toList.length := by
  rw [← h.starts, List.length_map, h.latest.length_eq]

theorem busy (h : MaintenanceInv before seen s front last)
    (hrun : goingOn BackfillTask.done s.tasks s.postMarketTask = true) : Busy before := by
  obtain ⟨x, rfl, halive⟩ := h.latest.goingOn_iff.mp hrun
  unfold Busy
  rw [h.ends, h.length_starts, Option.toList_some, List.countP_singleton, halive]
  rfl

theorem quiet (h : MaintenanceInv before seen s front last)
    (hrun : ¬ goingOn BackfillTask.done s.tasks s.postMarketTask = true) : Quiet before := by
  have hdone : ∀ x, last = some x → x.done = true := fun _ => h.latest.isDone_of_not_goingOn hrun
  unfold Quiet
  rw [h.ends, h.length_starts]
  cases last with
  | none => rfl
  | some x => rw [Option.toList_some, List.countP_singleton, if_pos (hdone x rfl)]; rfl

/-- A day that is not the remembered one was not handled before, as the days come in their order.
Source: `app/services/runtime_factory.py`
`RuntimeMaintenanceService.schedule_post_market_backfill_if_due`. Kind: L -/
theorem fresh (h : MaintenanceInv before seen s front last)
    (hclock : ∀ d ∈ seen, d.toOrdinal ≤ r.now.toOrdinal)
    (hnew : s.lastPostMarketSlot ≠ some (slotOf r.now)) : slotOf r.now ∉ handled before := by
  intro hmem
  obtain ⟨d, -, hd, hlast | ⟨e, he, hlt⟩⟩ := h.past _ hmem
  · exact hnew hlast
  · rw [← slotOf_eq_iff.mp hd] at hclock
    exact absurd hlt (not_lt.mpr (hclock e he))

/-- The days that are handled lie in the past of a reading of another day.
Source: `app/services/runtime_factory.py`
`RuntimeMaintenanceService.schedule_post_market_backfill_if_due`. Kind: L -/
theorem past_of_new (h : MaintenanceInv before seen s front last)
    (hclock : ∀ d ∈ seen, d.toOrdinal ≤ r.now.toOrdinal) (hslot : slot ∈ handled before)
    (hne : slot ≠ slotOf r.now) :
    ∃ d ∈ seen ++ [r.now], slotOf d = slot ∧ ∃ e ∈ seen ++ [r.now], d.toOrdinal < e.toOrdinal := by
  obtain ⟨d, hd, rfl, -⟩ := h.past slot hslot
  refine ⟨d, List.mem_append_left _ hd, rfl, r.now, List.mem_append_right _ List.mem_cons_self, ?_⟩
  exact lt_of_le_of_ne (hclock d hd) fun heq => hne (slotOf_eq_iff.mpr heq)

/-- A run of Loop C that handles no day: `forget` says whether the remembered day is forgotten.
Source: `app/services/runtime_factory.py`
`RuntimeMaintenanceService.schedule_post_market_backfill_if_due`. Kind: L -/
theorem pass (h : MaintenanceInv before seen s front last) {s' : State}
    (htasks : s'.tasks = s.tasks) (htask : s'.postMarketTask = s.postMarketTask)
    (hnote : s'.lastPostMarketBackfill = s.lastPostMarketBackfill)
    (hslot : s'.lastPostMarketSlot = s.lastPostMarketSlot ∨ s'.lastPostMarketSlot = none ∧
      (∀ d ∈ seen, d.toOrdinal ≤ r.now.toOrdinal) ∧ slotOf r.now ∉ handled before)
    (he : Regular before e) (hstarted : e.started? = none) (hhandled : e.handled? = none)
    (hend : e.isEnd = false) (hnoted : e.note? = none) :
    MaintenanceInv (before ++ [e]) (seen ++ [r.now]) s' front last := by
  have hsame : handled (before ++ [e]) = handled before := by
    unfold handled
    rw [List.filterMap_append, List.filterMap_cons_none hhandled, List.filterMap_nil,
      List.append_nil]
  refine ⟨htasks ▸ htask ▸ h.latest, ?_, ?_, ?_, ?_, ?_, hsame ▸ h.days,
    atEvery_append_singleton.mpr ⟨h.regular, he⟩⟩
  · unfold RuntimeMaintenanceService.starts
    rw [List.filterMap_append, List.filterMap_cons_none hstarted, List.filterMap_nil,
      List.append_nil, htasks]
    exact h.starts
  · rw [List.countP_append, List.countP_singleton, hend, h.ends]
    rfl
  · intro slot hlast
    rw [hsame]
    rcases hslot with hslot | ⟨hslot, -⟩
    · exact h.remembered slot (hslot ▸ hlast)
    · exact absurd (hslot.symm.trans hlast) (by simp)
  · intro slot hmem
    rw [hsame] at hmem
    rcases hslot with hslot | ⟨-, hclock, hnew⟩
    · obtain ⟨d, hd, hds, hpast⟩ := h.past slot hmem
      refine ⟨d, List.mem_append_left _ hd, hds, hpast.imp (fun hlast => hslot.trans hlast) ?_⟩
      rintro ⟨e, he, hlt⟩
      exact ⟨e, List.mem_append_left _ he, hlt⟩
    · obtain ⟨d, hd, hds, hlt⟩ := h.past_of_new hclock hmem fun heq => hnew (heq ▸ hmem)
      exact ⟨d, hd, hds, .inr hlt⟩
  · rw [hnote, h.note, lastOf_append_singleton, hnoted, Option.none_or]

/-- The days after one more was handled. Source: `app/services/runtime_factory.py`
`RuntimeMaintenanceService.schedule_post_market_backfill_if_due`. Kind: L -/
theorem past_of_handled (h : MaintenanceInv before seen s front last)
    (hclock : ∀ d ∈ seen, d.toOrdinal ≤ r.now.toOrdinal) (hnew : slotOf r.now ∉ handled before)
    (hslot : slot ∈ handled before ++ [slotOf r.now]) :
    ∃ d ∈ seen ++ [r.now], slotOf d = slot ∧ (some (slotOf r.now) = some slot ∨
      ∃ e ∈ seen ++ [r.now], d.toOrdinal < e.toOrdinal) := by
  rcases List.mem_append.mp hslot with hslot | hslot
  · obtain ⟨d, hd, hds, hlt⟩ := h.past_of_new hclock hslot fun heq => hnew (heq ▸ hslot)
    exact ⟨d, hd, hds, .inr hlt⟩
  · obtain rfl := List.mem_singleton.mp hslot
    exact ⟨r.now, List.mem_append_right _ List.mem_cons_self, rfl, .inl rfl⟩

theorem nodup_of_handled (h : MaintenanceInv before seen s front last)
    (hnew : slotOf r.now ∉ handled before) : (handled before ++ [slotOf r.now]).Nodup := by
  refine List.Nodup.append h.days (List.nodup_singleton _) fun slot hslot hone => ?_
  exact hnew (List.mem_singleton.mp hone ▸ hslot)

/-- A day without a backfill to start. Source: `app/services/runtime_factory.py`
`RuntimeMaintenanceService.schedule_post_market_backfill_if_due`. Kind: L -/
theorem skips (h : MaintenanceInv before seen s front last) (hquiet : Quiet before)
    (hclock : ∀ d ∈ seen, d.toOrdinal ≤ r.now.toOrdinal) (hnew : slotOf r.now ∉ handled before) :
    MaintenanceInv (before ++ [.notConfigured (slotOf r.now) r.startedAt]) (seen ++ [r.now])
      { s with
        lastPostMarketSlot := some (slotOf r.now)
        lastPostMarketBackfill := some (.runnerNotConfigured (slotOf r.now) r.startedAt) }
      front last := by
  have hmore : handled (before ++ [.notConfigured (slotOf r.now) r.startedAt]) =
      handled before ++ [slotOf r.now] := List.filterMap_append
  refine ⟨h.latest, ?_, ?_, ?_, ?_, ?_, ?_,
    atEvery_append_singleton.mpr ⟨h.regular, hquiet, hnew⟩⟩
  · refine h.starts.trans ?_
    unfold RuntimeMaintenanceService.starts
    rw [List.filterMap_append]
    exact (List.append_nil _).symm
  · rw [List.countP_append, h.ends]
    rfl
  · rintro slot ⟨⟩
    rw [hmore]
    exact List.mem_append_right _ List.mem_cons_self
  · intro slot hmem
    rw [hmore] at hmem
    exact h.past_of_handled hclock hnew hmem
  · rw [lastOf_append_singleton]
    rfl
  · rw [hmore]
    exact h.nodup_of_handled hnew

/-- A backfill is started. Source: `app/services/runtime_factory.py`
`RuntimeMaintenanceService.schedule_post_market_backfill_if_due`. Kind: L -/
theorem starts_backfill (h : MaintenanceInv before seen s front last)
    (hrun : ¬ goingOn BackfillTask.done s.tasks s.postMarketTask = true)
    (hclock : ∀ d ∈ seen, d.toOrdinal ≤ r.now.toOrdinal) (hnew : slotOf r.now ∉ handled before) :
    MaintenanceInv (before ++ [.started (slotOf r.now) r.startedAt]) (seen ++ [r.now])
      { s with
        lastPostMarketSlot := some (slotOf r.now)
        lastPostMarketBackfill := some (.running (slotOf r.now) r.startedAt)
        tasks := s.tasks ++ [⟨slotOf r.now, false⟩]
        postMarketTask := some s.tasks.length }
      (front ++ last.toList) (some ⟨slotOf r.now, false⟩) := by
  have hmore : handled (before ++ [.started (slotOf r.now) r.startedAt]) =
      handled before ++ [slotOf r.now] := List.filterMap_append
  have hdone : ∀ x, last = some x → x.done = true := fun _ => h.latest.isDone_of_not_goingOn hrun
  refine ⟨h.latest.start hdone, ?_, ?_, ?_, ?_, ?_, ?_,
    atEvery_append_singleton.mpr ⟨h.regular, h.quiet hrun, hnew⟩⟩
  · unfold RuntimeMaintenanceService.starts
    rw [List.filterMap_append, List.map_append, h.starts]
    rfl
  · have hquiet := h.quiet hrun
    unfold Quiet at hquiet
    rw [List.countP_append, hquiet, h.length_starts, List.length_append]
    rfl
  · rintro slot ⟨⟩
    rw [hmore]
    exact List.mem_append_right _ List.mem_cons_self
  · intro slot hmem
    rw [hmore] at hmem
    exact h.past_of_handled hclock hnew hmem
  · rw [lastOf_append_singleton]
    rfl
  · rw [hmore]
    exact h.nodup_of_handled hnew

/-- A run of Loop C. Source: `app/loops/core.py` `LoopCMaintainer.run_once`. Kind: L -/
theorem loopC (configured : Bool) (h : MaintenanceInv before seen s front last)
    (hclock : ∀ d ∈ seen, d.toOrdinal ≤ r.now.toOrdinal) :
    ∃ front' last', MaintenanceInv (before ++ (schedulePostMarketBackfillIfDue configured s r).2)
      (seen ++ [r.now]) (schedulePostMarketBackfillIfDue configured s r).1 front' last' := by
  unfold schedulePostMarketBackfillIfDue
  by_cases hwindow : (!isPostMarketWindow r.now) = true
  · rw [if_pos hwindow]
    exact ⟨front, last, h.pass rfl rfl rfl (.inl rfl) trivial rfl rfl rfl rfl⟩
  rw [if_neg hwindow]
  by_cases hsame : s.lastPostMarketSlot = some (slotOf r.now)
  · simp only [if_pos hsame]
    exact ⟨front, last, h.pass rfl rfl rfl (.inl rfl) (h.remembered _ hsame) rfl rfl rfl rfl⟩
  have hnew := h.fresh hclock hsame
  simp only [if_neg hsame]
  by_cases hrun : goingOn BackfillTask.done s.tasks s.postMarketTask = true
  · rw [if_pos hrun]
    exact ⟨front, last, h.pass rfl rfl rfl (.inl rfl) ⟨h.busy hrun, hnew⟩ rfl rfl rfl rfl⟩
  rw [if_neg hrun]
  by_cases hconfigured : (!configured) = true
  · rw [if_pos hconfigured]
    exact ⟨front, last, h.skips (h.quiet hrun) hclock hnew⟩
  rw [if_neg hconfigured]
  by_cases hloop : (!r.runningLoop) = true
  · rw [if_pos hloop]
    exact ⟨front, last, h.pass rfl rfl rfl (.inr ⟨rfl, hclock, hnew⟩) ⟨h.quiet hrun, hnew⟩
      rfl rfl rfl rfl⟩
  · rw [if_neg hloop]
    exact ⟨_, _, h.starts_backfill hrun hclock hnew⟩

/-- A backfill ends. Source: `app/services/runtime_factory.py`
`RuntimeMaintenanceService._run_post_market_backfill_task`. Kind: L -/
theorem ends_backfill (h : MaintenanceInv before seen s front (some ⟨slot, false⟩))
    (outcome : Outcome) (completedAt : DateTime) {s' : State}
    (htasks : s'.tasks = s.tasks.set front.length ⟨slot, true⟩)
    (htask : s'.postMarketTask = s.postMarketTask)
    (hslot : s'.lastPostMarketSlot = s.lastPostMarketSlot)
    (hnote : s'.lastPostMarketBackfill =
      (Did.note? (.ended front.length slot outcome completedAt)).or s.lastPostMarketBackfill) :
    MaintenanceInv (before ++ [.ended front.length slot outcome completedAt]) seen s' front
      (some ⟨slot, true⟩) := by
  have hstarts : RuntimeMaintenanceService.starts before = front.map BackfillTask.slot ++ [slot] := by
    rw [← h.starts, h.latest.tasks_eq, List.map_append]
    rfl
  have hregular : Regular before (.ended front.length slot outcome completedAt) := by
    refine ⟨h.busy (h.latest.goingOn_iff.mpr ⟨_, rfl, rfl⟩), ?_, ?_⟩
    · rw [hstarts, List.length_append, List.length_map]
      rfl
    · rw [hstarts, ← List.length_map BackfillTask.slot, List.getElem?_concat_length]
  have hsame : handled (before ++ [.ended front.length slot outcome completedAt]) = handled before := by
    unfold handled
    rw [List.filterMap_append]
    exact List.append_nil _
  refine ⟨htasks ▸ htask ▸ h.latest.set, ?_, ?_, ?_, ?_, ?_, hsame ▸ h.days,
    atEvery_append_singleton.mpr ⟨h.regular, hregular⟩⟩
  · have hmap : s'.tasks.map BackfillTask.slot = s.tasks.map BackfillTask.slot := by
      rw [htasks, h.latest.set.tasks_eq, h.latest.tasks_eq, List.map_append, List.map_append]
      rfl
    rw [hmap, h.starts]
    unfold RuntimeMaintenanceService.starts
    rw [List.filterMap_append]
    exact (List.append_nil _).symm
  · rw [List.countP_append, h.ends]
    rfl
  · intro x hx
    rw [hsame]
    exact h.remembered x (hslot ▸ hx)
  · intro x hx
    rw [hsame] at hx
    rw [hslot]
    exact h.past x hx
  · rw [hnote, h.note, lastOf_append_singleton]

theorem endTask (h : MaintenanceInv before seen s front last) (outcome : Outcome)
    (completedAt : DateTime) :
    ∃ last', MaintenanceInv (before ++ (endTask s i outcome completedAt).2) seen
      (endTask s i outcome completedAt).1 front last' := by
  have hstays : ∃ last', MaintenanceInv (before ++ []) seen s front last' := by
    rw [List.append_nil]
    exact ⟨last, h⟩
  unfold RuntimeMaintenanceService.endTask
  cases ht : s.tasks[i]? with
  | none => exact hstays
  | some task =>
      obtain ⟨slot, done⟩ := task
      cases done with
      | true => exact hstays
      | false =>
          obtain ⟨rfl, rfl⟩ := h.latest.alone ht rfl
          cases outcome with
          | report payload => exact ⟨_, h.ends_backfill (.report payload) completedAt rfl rfl rfl rfl⟩
          | raised exc => exact ⟨_, h.ends_backfill (.raised exc) completedAt rfl rfl rfl rfl⟩
          | cancelled => exact ⟨_, h.ends_backfill .cancelled completedAt rfl rfl rfl rfl⟩

end MaintenanceInv

/-- **A run in the window handles its day**, when no backfill goes on. Source:
`app/services/runtime_factory.py` `RuntimeMaintenanceService.schedule_post_market_backfill_if_due`.
Kind: L -/
theorem MaintenanceInv.due (configured : Bool) (h : MaintenanceInv before seen s front last)
    (hwindow : isPostMarketWindow r.now = true) (hloop : r.runningLoop = true)
    (hidle : ¬ Busy before) :
    slotOf r.now ∈ handled (before ++ (schedulePostMarketBackfillIfDue configured s r).2) := by
  have hrun : ¬ goingOn BackfillTask.done s.tasks s.postMarketTask = true := fun hrun =>
    hidle (h.busy hrun)
  have hlast {e : Did} (he : e.handled? = some (slotOf r.now)) :
      slotOf r.now ∈ handled (before ++ [e]) := by
    unfold handled
    rw [List.filterMap_append, List.filterMap_cons_some he]
    exact List.mem_append_right _ List.mem_cons_self
  unfold schedulePostMarketBackfillIfDue
  rw [hwindow, hloop]
  by_cases hsame : s.lastPostMarketSlot = some (slotOf r.now)
  · simp only [Bool.not_true, Bool.false_eq_true, if_false, if_pos hsame]
    unfold handled
    rw [List.filterMap_append]
    exact List.mem_append_left _ (h.remembered _ hsame)
  · simp only [Bool.not_true, Bool.false_eq_true, if_false, if_neg hsame, if_neg hrun]
    by_cases hconfigured : (!configured) = true
    · rw [if_pos hconfigured]
      exact hlast rfl
    · rw [if_neg hconfigured]
      exact hlast rfl

/-! ## Runs -/

/-- The reading of a run of Loop C. Source: none: infrastructure. Kind: D -/
def Input.now? : Input → Option DateTime
  | .loopC r => some r.now
  | _ => none

/-- The readings of Loop C come in the order of their days. Source: none: infrastructure. Kind: D -/
def Clocked (is : List Input) : Prop :=
  (is.filterMap Input.now?).Pairwise fun d e => d.toOrdinal ≤ e.toOrdinal

instance (is : List Input) : Decidable (Clocked is) :=
  inferInstanceAs (Decidable (List.Pairwise _ _))

theorem events_append {log : List (Input × List Did)} {input : Input} {dids : List Did} :
    events (log ++ [(input, dids)]) = events log ++ dids := by
  unfold events
  rw [List.flatMap_append, List.flatMap_singleton]

/-- **The step lemma.** Source: `app/services/runtime_factory.py` `RuntimeMaintenanceService`. Kind: L -/
theorem MaintenanceInv.step (configured : Bool) (h : MaintenanceInv before seen s front last)
    (input : Input)
    (hclock : ∀ e ∈ input.now?, ∀ d ∈ seen, d.toOrdinal ≤ e.toOrdinal) :
    ∃ front' last', MaintenanceInv (before ++ ((machine configured).step s input).2)
      (seen ++ input.now?.toList) ((machine configured).step s input).1 front' last' := by
  cases input with
  | loopC r =>
      obtain ⟨front', last', h'⟩ := h.loopC configured (hclock r.now rfl)
      exact ⟨front', last', ⟨h'.latest, h'.starts, h'.ends, h'.remembered, h'.past, h'.note, h'.days,
        h'.regular⟩⟩
  | ended i outcome completedAt =>
      obtain ⟨last', h'⟩ := h.endTask outcome completedAt
      refine ⟨front, last', ?_⟩
      show MaintenanceInv _ (seen ++ []) _ front last'
      rw [List.append_nil]
      exact h'
  | setTickerCounts trading tracking «universe» =>
      refine ⟨front, last, ?_⟩
      show MaintenanceInv (before ++ []) (seen ++ []) _ front last
      rw [List.append_nil, List.append_nil]
      exact ⟨h.latest, h.starts, h.ends, h.remembered, h.past, h.note, h.days, h.regular⟩

/-- **The run lemma.** Source: `app/services/runtime_factory.py` `RuntimeMaintenanceService`. Kind: L -/
theorem exists_inv (configured : Bool) {is : List Input} (hclock : Clocked is) :
    ∃ front last, MaintenanceInv (events ((machine configured).log {} is)) (is.filterMap Input.now?)
      ((machine configured).after {} is) front last := by
  have hseen : ((machine configured).log {} is).map Prod.fst = is := Machine.map_fst_log is
  suffices h : ∃ front last, MaintenanceInv (events ((machine configured).log {} is))
      ((((machine configured).log {} is).map Prod.fst).filterMap Input.now?)
      ((machine configured).after {} is) front last by rwa [hseen] at h
  refine Machine.invariant (I := fun log s => ∃ front last,
      MaintenanceInv (events log) ((log.map Prod.fst).filterMap Input.now?) s front last)
    (C := fun log _ input => ∀ e ∈ input.now?, ∀ d ∈ (log.map Prod.fst).filterMap Input.now?,
      d.toOrdinal ≤ e.toOrdinal) ?_ ?_ ?_
  · exact ⟨[], none, maintenanceInv_new⟩
  · rintro log s input hside ⟨front, last, h⟩
    obtain ⟨front', last', h'⟩ := h.step configured input hside
    refine ⟨front', last', ?_⟩
    rw [events_append, List.map_append, List.filterMap_append]
    have hone : ([(input, ((machine configured).step s input).2)].map Prod.fst).filterMap Input.now? =
        input.now?.toList := by
      cases input with
      | loopC r => rfl
      | ended i outcome completedAt => rfl
      | setTickerCounts trading tracking «universe» => rfl
    rw [hone]
    exact h'
  · intro pre input post his e he d hd
    rw [Machine.map_fst_log] at hd
    unfold Clocked at hclock
    rw [his, List.filterMap_append, List.pairwise_append] at hclock
    refine hclock.2.2 d hd e ?_
    rw [List.filterMap_cons_some he]
    exact List.mem_cons_self

/-- **The post-market backfill.** In every run in which Loop C reads the days in their order, every event is
regular: no day is handled twice, no backfill is started while another one goes on, and a day is passed over
only when it is handled or a backfill goes on. The metrics show the last event of a backfill. And every run
of Loop C in the window that finds an event loop and no backfill going on leaves its day handled.
Source: `app/services/runtime_factory.py`
`RuntimeMaintenanceService.schedule_post_market_backfill_if_due`. Kind: P -/
theorem post_market_runs (configured : Bool) {is : List Input} (hclock : Clocked is) :
    AtEvery Regular (events ((machine configured).log {} is)) ∧
      (handled (events ((machine configured).log {} is))).Nodup ∧
      (runtimeMetricsSnapshot ((machine configured).after {} is)).postMarketBackfill =
        lastOf Did.note? (events ((machine configured).log {} is)) ∧
      ∀ pre r post, is = pre ++ .loopC r :: post → isPostMarketWindow r.now = true →
        r.runningLoop = true → ¬ Busy (events ((machine configured).log {} pre)) →
          slotOf r.now ∈ handled (events ((machine configured).log {} (pre ++ [.loopC r]))) := by
  obtain ⟨front, last, h⟩ := exists_inv configured hclock
  refine ⟨h.regular, h.days, h.note, ?_⟩
  intro pre r post his hwindow hloop hidle
  have hpre : Clocked pre := by
    unfold Clocked at hclock ⊢
    rw [his, List.filterMap_append, List.pairwise_append] at hclock
    exact hclock.1
  obtain ⟨front', last', h'⟩ := exists_inv configured hpre
  rw [Machine.log_append]
  exact events_append ▸ h'.due configured hwindow hloop hidle

/-- Source: `app/services/runtime_factory.py` `RuntimeMaintenanceService`. Kind: D -/
def evening : DateTime := { year := 2026, month := 1, day := 2, hour := 16, valid := by decide }

/-- Source: `app/services/runtime_factory.py` `RuntimeMaintenanceService`. Kind: D -/
def nextEvening : DateTime := { year := 2026, month := 1, day := 3, hour := 16, valid := by decide }

/-- Source: `app/loops/core.py` `LoopCMaintainer.run_once`. Kind: D -/
def loopCAt (now : DateTime) : Input := .loopC ⟨now, now, true, now, now, now⟩

/-- A backfill that takes a day: the next day is passed over until it ends. Source:
`app/services/runtime_factory.py` `RuntimeMaintenanceService.schedule_post_market_backfill_if_due`.
Kind: C -/
theorem post_market_runs_long :
    (handled (events ((machine true).log {} [loopCAt evening, loopCAt nextEvening,
      .ended 0 .cancelled nextEvening, loopCAt nextEvening]))).Nodup ∧
    slotOf nextEvening ∉ handled (events ((machine true).log {} [loopCAt evening,
      loopCAt nextEvening])) :=
  ⟨(post_market_runs true (by decide)).2.1, by decide⟩

end RuntimeMaintenanceService

end HaruTrade
