import HaruTrade.Backtest.Jobs
import HaruTrade.Data.LastKey
import HaruTrade.Data.Ordinal

/-!
# The daily backtest

`AutoBacktestScheduler` starts a backtest job when it is asked at or after an hour of the day on which
none was started yet. It reads the clock when it checks, and again after the job was started; the
date that it remembers is that of the second reading.

* `triggerIfDue`, `triggerNow` — a call, with what it reads.
* `machine` — the scheduler over the store of jobs, whose tasks go on between the calls.
* `MidnightSafe` — no run that starts a date's job is booked on a later date that still has a due call.
* `daily_job_iff` — **each date with a due call has exactly one job, and every other none, if and only
  if the calls are `MidnightSafe`.**
* `midnight_drops_run` — a run that crosses midnight takes the job of the next day.
-/

namespace HaruTrade

open BacktestJobService

/-- Source: `app/services/backtest_scheduler.py` `AutoBacktestScheduler.__init__`. Kind: D -/
structure AutoBacktestScheduler where
  service : BacktestJobService
  enabled : Bool := false
  runHour : ℤ := 16
  maxSignals : ℤ := 80

/-- The store of jobs, and what the scheduler remembers. Source: `app/services/backtest_scheduler.py`
`AutoBacktestScheduler.__init__`. Kind: D -/
structure SchedulerState where
  jobs : JobStore := {}
  lastRunDate : Option String := none
  lastJobId : Option String := none
  lastStatus : Option String := none
  lastReason : Option String := none
  lastCheckedAt : Option DateTime := none

/-- What a call reads: the clock, the candles, the slippage, the time of the new row as a text, and
the clock again. Source: `app/services/backtest_scheduler.py` `AutoBacktestScheduler.trigger_if_due`.
Kind: D -/
structure TriggerReadings where
  now : DateTime
  candles : List (Candle PyNum)
  slippagePct : PyNum := 5 / 100
  createdAt : String
  later : DateTime

/-- The date that the check reads. Source: `app/services/backtest_scheduler.py`
`AutoBacktestScheduler.trigger_if_due`. Kind: D -/
def TriggerReadings.checked (r : TriggerReadings) : ℕ := r.now.toOrdinal

/-- The date that a run is booked on. Source: `app/services/backtest_scheduler.py`
`AutoBacktestScheduler.trigger_now`. Kind: D -/
def TriggerReadings.booked (r : TriggerReadings) : ℕ := r.later.toOrdinal

/-- What a call returns. Source: `app/services/backtest_scheduler.py`
`AutoBacktestScheduler.trigger_now`. Kind: D -/
inductive TriggerReply where
  | skipped (reason : String)
  | triggered (reason jobId : String) (signalCount candleCount : ℕ) (slippagePct : PyNum)
      (triggeredAt : DateTime)

namespace AutoBacktestScheduler

/-- `date().isoformat()`. Source: `app/services/backtest_scheduler.py`
`AutoBacktestScheduler.trigger_if_due`. Kind: D -/
def dateText (now : DateTime) : String := String.ofList now.isoDate

/-- Source: `app/services/backtest_scheduler.py` `AutoBacktestScheduler._skip`. Kind: D -/
def skip (s : SchedulerState) (reason : String) : SchedulerState × TriggerReply :=
  ({ s with lastStatus := some "skipped", lastReason := some reason }, .skipped reason)

section scheduler

variable (cfg : AutoBacktestScheduler)

/-- A signal on each of the last candles but one. Source: `app/services/backtest_scheduler.py`
`AutoBacktestScheduler._build_signals`. Kind: D -/
def buildSignals (candles : List (Candle PyNum)) : List BacktestSignal :=
  let last := candles.length - 1
  let start := (max 0 ((last : ℤ) - cfg.maxSignals)).toNat
  ((candles.take last).zipIdx.drop start).map fun (c, idx) =>
    ⟨idx, if c.open ≤ c.close then "buy" else "sell"⟩

/-- **Start a job**, and then remember the date. Source: `app/services/backtest_scheduler.py`
`AutoBacktestScheduler.trigger_now`. Kind: D -/
def triggerNow (s : SchedulerState) (r : TriggerReadings) (reason : String) :
    SchedulerState × TriggerReply :=
  if r.candles.length < 2 then skip s "insufficient_candles"
  else
    let signals := cfg.buildSignals r.candles
    if signals.isEmpty then skip s "no_signals"
    else
      let slippagePct := min (max r.slippagePct 0) (1 / 2)
      let jobId := cfg.service.uuid4 s.jobs.drawn
      let request : JobRequest := { candles := r.candles, signals, slippagePct }
      ({ s with
          jobs := cfg.service.startJob s.jobs request r.createdAt
          lastRunDate := some (dateText r.later)
          lastJobId := some jobId
          lastStatus := some "triggered"
          lastReason := some reason },
        .triggered reason jobId signals.length r.candles.length slippagePct r.later)

/-- **A call.** Source: `app/services/backtest_scheduler.py`
`AutoBacktestScheduler.trigger_if_due`. Kind: D -/
def triggerIfDue (s : SchedulerState) (r : TriggerReadings) : SchedulerState × TriggerReply :=
  let s := { s with lastCheckedAt := some r.now }
  if !cfg.enabled then skip s "disabled"
  else if r.now.hour < cfg.runHour then skip s s!"before_run_hour({cfg.runHour})"
  else if s.lastRunDate = some (dateText r.now) then skip s "already_ran_today"
  else cfg.triggerNow s r "scheduled"

/-! ## Runs -/

/-- A call of the scheduler, or a step of the service of the jobs between the calls.
Source: none: infrastructure. Kind: D -/
inductive SchedulerEvent where
  | triggerIfDue (r : TriggerReadings)
  | job (event : JobEvent)

/-- Source: `app/services/backtest_scheduler.py` `AutoBacktestScheduler`. Kind: D -/
def step (s : SchedulerState) : SchedulerEvent → SchedulerState × Option TriggerReply
  | .triggerIfDue r => ((cfg.triggerIfDue s r).1, some (cfg.triggerIfDue s r).2)
  | .job event => ({ s with jobs := (cfg.service.step s.jobs event).1 }, none)

/-- Source: none: infrastructure. Kind: D -/
def machine : Machine SchedulerState SchedulerEvent (Option TriggerReply) := ⟨cfg.step⟩

/-- The calls of a run. Source: none: infrastructure. Kind: D -/
def calls (events : List SchedulerEvent) : List TriggerReadings :=
  events.filterMap fun
    | .triggerIfDue r => some r
    | .job _ => none

/-- A call whose check read the day has started a job. Source: none: infrastructure. Kind: D -/
def startedOn (day : ℕ) : SchedulerEvent × Option TriggerReply → Bool
  | (.triggerIfDue r, some (.triggered _ _ _ _ _ _)) => r.checked = day
  | _ => false

/-- How many jobs the calls of a day have started. Source: none: infrastructure. Kind: D -/
def jobsOn (log : List (SchedulerEvent × Option TriggerReply)) (day : ℕ) : ℕ :=
  log.countP (startedOn day)

/-- The hour of the check has been reached. Source: `app/services/backtest_scheduler.py`
`AutoBacktestScheduler.trigger_if_due`. Kind: D -/
def reachesHour (r : TriggerReadings) : Bool := cfg.runHour ≤ r.now.hour

/-- The readings of the clock do not fall. Source: none: infrastructure. Kind: D -/
def Clock (calls : List TriggerReadings) : Prop :=
  (calls.flatMap fun r => [r.now.toMicros, r.later.toMicros]).Pairwise (· ≤ ·)

instance (calls : List TriggerReadings) : Decidable (Clock calls) :=
  inferInstanceAs (Decidable (List.Pairwise _ _))

/-- **No job is booked on the wrong day**: when the first call of a date at or after the hour reads a
later date at its end, then no later call checks that date at or after the hour.
Source: `app/services/backtest_scheduler.py` `AutoBacktestScheduler.trigger_now`. Kind: D -/
def MidnightSafe (calls : List TriggerReadings) : Prop :=
  ∀ pre r post, calls = pre ++ r :: post → cfg.reachesHour r = true →
    (∀ q ∈ pre, cfg.reachesHour q = true → q.checked ≠ r.checked) →
      r.booked = r.checked ∨ ∀ q ∈ post, cfg.reachesHour q = true → q.checked ≠ r.booked

end scheduler

/-! ## Calls -/

section calls

variable {cfg : AutoBacktestScheduler} {s : SchedulerState} {r : TriggerReadings}
  {events : List SchedulerEvent} {day : ℕ}

theorem buildSignals_ne_nil {candles : List (Candle PyNum)} (hsignals : 0 < cfg.maxSignals)
    (hcandles : 2 ≤ candles.length) : cfg.buildSignals candles ≠ [] := by
  intro h
  have hlen := congrArg List.length h
  simp only [buildSignals, List.length_map, List.length_drop, List.length_zipIdx, List.length_take,
    List.length_nil] at hlen
  omega

/-- **A call that is due** starts a job. Source: `app/services/backtest_scheduler.py`
`AutoBacktestScheduler.trigger_if_due`. Kind: L -/
theorem triggerIfDue_of_due (henabled : cfg.enabled = true) (hsignals : 0 < cfg.maxSignals)
    (hcandles : 2 ≤ r.candles.length) (hhour : cfg.reachesHour r = true)
    (hnew : s.lastRunDate ≠ some (dateText r.now)) :
    (∃ reason jobId signalCount candleCount slippagePct triggeredAt,
      (cfg.triggerIfDue s r).2 =
        .triggered reason jobId signalCount candleCount slippagePct triggeredAt) ∧
      (cfg.triggerIfDue s r).1.lastRunDate = some (dateText r.later) := by
  have hle : ¬ (r.now.hour : ℤ) < cfg.runHour := not_lt.mpr (of_decide_eq_true hhour)
  have hsome : ¬ (cfg.buildSignals r.candles).isEmpty = true := by
    rw [List.isEmpty_iff]
    exact buildSignals_ne_nil hsignals hcandles
  unfold triggerIfDue triggerNow
  simp only [henabled, Bool.not_true, Bool.false_eq_true, if_false, if_neg hle, if_neg hnew,
    if_neg (not_lt.mpr hcandles), if_neg hsome]
  exact ⟨⟨_, _, _, _, _, _, rfl⟩, trivial⟩

/-- **A call that is not due** is skipped. Source: `app/services/backtest_scheduler.py`
`AutoBacktestScheduler.trigger_if_due`. Kind: L -/
theorem triggerIfDue_of_not_due
    (h : ¬ (cfg.reachesHour r = true ∧ s.lastRunDate ≠ some (dateText r.now))) :
    (∃ reason, (cfg.triggerIfDue s r).2 = .skipped reason) ∧
      (cfg.triggerIfDue s r).1.lastRunDate = s.lastRunDate := by
  unfold triggerIfDue
  dsimp only
  split_ifs with henabled hhour hran
  · exact ⟨⟨_, rfl⟩, rfl⟩
  · exact ⟨⟨_, rfl⟩, rfl⟩
  · exact ⟨⟨_, rfl⟩, rfl⟩
  · exact absurd ⟨decide_eq_true (not_lt.mp hhour), hran⟩ h

/-- What a state remembers: the date of a reading of the clock, or nothing.
Source: `app/services/backtest_scheduler.py` `AutoBacktestScheduler`. Kind: D -/
def Recalls (s : SchedulerState) (last : Option ℕ) : Prop :=
  ∃ now : Option DateTime, s.lastRunDate = now.map dateText ∧ last = now.map DateTime.toOrdinal

theorem recalls_some_iff {last : Option ℕ} (h : Recalls s last) {now : DateTime} :
    s.lastRunDate = some (dateText now) ↔ last = some now.toOrdinal := by
  obtain ⟨old, hdate, rfl⟩ := h
  rw [hdate]
  cases old with
  | none => simp
  | some old =>
      rw [Option.map_some, Option.map_some, Option.some_inj, Option.some_inj, dateText, dateText,
        String.ofList_inj, DateTime.isoDate_eq_iff]

/-- **The jobs of a run** are those of a loop that remembers the date that it reads late.
Source: `app/services/backtest_scheduler.py` `AutoBacktestScheduler`. Kind: L -/
theorem jobsOn_log (henabled : cfg.enabled = true) (hsignals : 0 < cfg.maxSignals)
    (hcandles : ∀ r ∈ calls events, 2 ≤ r.candles.length) {last : Option ℕ} (h : Recalls s last) :
    jobsOn (cfg.machine.log s events) day =
      (doneLate TriggerReadings.checked TriggerReadings.booked cfg.reachesHour last
        (calls events)).countP fun r => r.checked = day := by
  induction events generalizing s last with
  | nil => rfl
  | cons event events ih =>
      cases event with
      | job event => exact ih hcandles h
      | triggerIfDue r =>
          have hrest : ∀ q ∈ calls events, 2 ≤ q.candles.length :=
            fun q hq => hcandles q (List.mem_cons_of_mem r hq)
          have hlog : jobsOn (cfg.machine.log s (.triggerIfDue r :: events)) day =
              jobsOn (cfg.machine.log (cfg.triggerIfDue s r).1 events) day +
                if startedOn day (.triggerIfDue r, some (cfg.triggerIfDue s r).2) = true
                  then 1 else 0 := List.countP_cons
          have hcalls : calls (.triggerIfDue r :: events) = r :: calls events := rfl
          have hsame : s.lastRunDate = some (dateText r.now) ↔ last = some r.checked :=
            recalls_some_iff h
          rw [hlog, hcalls, doneLate]
          by_cases hdue : cfg.reachesHour r = true ∧ last ≠ some r.checked
          · obtain ⟨⟨_, _, _, _, _, _, hreply⟩, hdate⟩ :=
              triggerIfDue_of_due henabled hsignals (hcandles r List.mem_cons_self) hdue.1
                (mt hsame.mp hdue.2)
            rw [if_pos hdue, hreply, List.countP_cons, ih hrest ⟨some r.later, hdate, rfl⟩]
            rfl
          · obtain ⟨⟨_, hreply⟩, hdate⟩ :=
              triggerIfDue_of_not_due fun h => hdue ⟨h.1, mt hsame.mpr h.2⟩
            obtain ⟨old, hold, hlast⟩ := h
            rw [if_neg hdue, hreply, ih hrest ⟨old, hdate.trans hold, hlast⟩]
            rfl

end calls

/-- **One job for each date.** For every enabled scheduler with any hour, every run over any store of
jobs whose calls all have candles, and every clock that does not fall: the calls that check a date
start exactly one job if one of them reaches the hour, and none otherwise, if and only if no run is
booked on the wrong day. Source: `app/services/backtest_scheduler.py`
`AutoBacktestScheduler.trigger_if_due`. Kind: P -/
theorem daily_job_iff (cfg : AutoBacktestScheduler) (jobs : JobStore)
    (events : List SchedulerEvent) (henabled : cfg.enabled = true) (hsignals : 0 < cfg.maxSignals)
    (hcandles : ∀ r ∈ calls events, 2 ≤ r.candles.length) (hclock : Clock (calls events)) :
    (∀ day, jobsOn (cfg.machine.log { jobs } events) day =
        if ∃ r ∈ calls events, cfg.reachesHour r = true ∧ r.checked = day then 1 else 0) ↔
      cfg.MidnightSafe (calls events) := by
  have hreadings := List.pairwise_flatMap.mp hclock
  have hmark : ∀ r ∈ calls events, r.checked ≤ r.booked := by
    intro r hr
    have hpair := hreadings.1 r hr
    rw [List.pairwise_pair] at hpair
    exact DateTime.toOrdinal_mono hpair
  have hsorted : (calls events).Pairwise fun q r => q.booked ≤ r.checked :=
    hreadings.2.imp fun h => DateTime.toOrdinal_mono (h _ (by simp) _ (by simp))
  have hstart : Recalls { jobs } none := ⟨none, rfl, rfl⟩
  have hsafe : cfg.MidnightSafe (calls events) ↔
      InTime TriggerReadings.checked TriggerReadings.booked cfg.reachesHour none (calls events) := by
    simp [MidnightSafe, InTime]
  rw [hsafe, ← doneOnce_doneLate_iff hmark hsorted]
  refine forall_congr' fun day => ?_
  rw [jobsOn_log henabled hsignals hcandles hstart]
  simp

/-! ## A run across midnight -/

/-- A scheduler for the last hour of the day. Source: none: infrastructure. Kind: D -/
def eveningScheduler : AutoBacktestScheduler where
  service := {
    alertSink := false
    uuid4 := ⟨fun n => String.ofList (List.replicate n 'a'), fun m n h => by
      simpa using congrArg List.length (String.ofList_inj.mp h)⟩
    round := OrderHom.id
    sqrt := id }
  enabled := true
  runHour := 23

/-- A call on a day of January 2026, from one time to another. Source: none: infrastructure.
Kind: D -/
def callBetween (now later : DateTime) : SchedulerEvent :=
  .triggerIfDue
    { now, candles := [flatCandle 100, flatCandle 101].map Candle.toDouble, createdAt := "", later }

/-- The last hour of the first of January. Source: none: infrastructure. Kind: D -/
def evening : DateTime := { year := 2026, month := 1, day := 1, hour := 23, valid := by decide }

/-- One second before midnight. Source: none: infrastructure. Kind: D -/
def beforeMidnight : DateTime :=
  { year := 2026, month := 1, day := 1, hour := 23, minute := 59, second := 59,
    valid := by decide }

/-- The midnight after it. Source: none: infrastructure. Kind: D -/
def afterMidnight : DateTime := { year := 2026, month := 1, day := 2, valid := by decide }

/-- The last hour of the next day. Source: none: infrastructure. Kind: D -/
def nextEvening : DateTime :=
  { year := 2026, month := 1, day := 2, hour := 23, valid := by decide }

/-- Two calls on one evening and one on the next start one job each evening. Source:
`app/services/backtest_scheduler.py` `AutoBacktestScheduler.trigger_if_due`. Kind: C -/
theorem daily_job_iff_evening :
    let events := [callBetween evening evening, callBetween evening beforeMidnight,
      callBetween nextEvening nextEvening]
    jobsOn (eveningScheduler.machine.log {} events) evening.toOrdinal = 1 ∧
      jobsOn (eveningScheduler.machine.log {} events) nextEvening.toOrdinal = 1 := by
  intro events
  have hsame : ∀ r ∈ calls events, r.booked = r.checked := by decide
  have hsafe : eveningScheduler.MidnightSafe (calls events) := by
    intro pre r post hcut _ _
    exact Or.inl (hsame r (hcut ▸ by simp))
  have hdaily := (daily_job_iff eveningScheduler {} events rfl (by decide) (by decide)
    (by decide)).mpr hsafe
  constructor
  · rw [hdaily]
    exact if_pos (by decide)
  · rw [hdaily]
    exact if_pos (by decide)

/-- **A run that is booked on the next day takes its job.** Source:
`app/services/backtest_scheduler.py` `AutoBacktestScheduler.trigger_now`. Kind: C -/
theorem midnight_drops_run :
    let events := [callBetween beforeMidnight afterMidnight, callBetween nextEvening nextEvening]
    Clock (calls events) ∧
      (∃ r ∈ calls events, eveningScheduler.reachesHour r = true ∧
        r.checked = nextEvening.toOrdinal) ∧
      jobsOn (eveningScheduler.machine.log {} events) nextEvening.toOrdinal = 0 := by
  decide

end AutoBacktestScheduler

end HaruTrade
