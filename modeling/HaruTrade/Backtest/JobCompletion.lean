import HaruTrade.Backtest.JobRuns
import HaruTrade.Backtest.SignalIndices

/-!
# Jobs that complete

A task goes on when it is resumed, and other tasks go on between its steps. As long as its row is
stored, a job ends after a number of turns that its request determines.

* `turnsLeft` — how many more turns a task needs at most; a turn makes it smaller.
* `OnTrack` — a job whose computation does not fail, with the turns that it needs.
* `completed_of_turns` — **a job whose backtest goes through is completed with its result**.
* **`reportsAll_iff`** — the requests whose jobs complete and account for their signals, in all runs.
-/

namespace HaruTrade

namespace BacktestJobService

/-- How many more turns a task needs until its job has ended, at most. Source:
`app/services/backtest_jobs.py` `BacktestJobService._run_job`. Kind: D -/
def turnsLeft : JobTask → ℕ
  | .created args => args.signals.length + 2
  | .looping _ _ _ _ rest => rest.length + 1
  | .failing _ => 1
  | .announcing => 0
  | .reporting => 0
  | .ended => 0

/-- How many turns the task of a job gets. Source: none: infrastructure. Kind: D -/
def turnsOf (jobId : String) (events : List JobEvent) : ℕ :=
  events.countP fun
    | .turn k _ => k = jobId
    | _ => false

/-- **A job on track**: its row and its task fit, it has not failed and is not about to, and its task
needs at most `n` more turns. Source: `app/services/backtest_jobs.py`
`BacktestJobService._run_job`. Kind: D -/
structure OnTrack (service : BacktestJobService) (request : JobRequest) (n : ℕ) (row : JobRow)
    (task : JobTask) : Prop where
  fits : Fits service request row task
  notFailed : row.status ≠ .failed
  notFailing : ∀ exc, task ≠ .failing exc
  turns : turnsLeft task ≤ n

variable {service : BacktestJobService} {request : JobRequest} {row row' : JobRow} {task : JobTask}
  {jobId k now : String} {result : BacktestResult} {n : ℕ}

/-! ## A step of the task -/

theorem exists_jobSettings (h : backtest service.sqrt request = .ok result) :
    ∃ cfg, jobSettings request.slippagePct request.«meta» = .ok cfg := by
  unfold backtest at h
  obtain ⟨cfg, hcfg, -⟩ := ok_of_bind h
  exact ⟨cfg, hcfg⟩

/-- The first step of a task on track begins its loop. Source: `app/services/backtest_jobs.py`
`BacktestJobService._run_job`. Kind: L -/
theorem begin_task {args : JobArgs} (now : String) (h : backtest service.sqrt request = .ok result)
    (hfits : Fits service request row (.created args)) :
    ∃ cfg, (begin now args (some row)).task = .looping args cfg 0 {} args.signals := by
  obtain ⟨cfg, hcfg⟩ := exists_jobSettings h
  obtain ⟨-, rfl, hmeta, -⟩ := hfits
  refine ⟨cfg, ?_⟩
  unfold begin
  dsimp only
  rw [hmeta, hcfg]

/-- A round of the loop of a backtest that goes through. Source: `app/services/backtest_jobs.py`
`BacktestJobService._run_job`. Kind: L -/
theorem exists_next {args : JobArgs} {cfg : BacktestSettings PyNum} {idx : ℕ} {tally : Tally}
    {signal : BacktestSignal} {rest : List BacktestSignal}
    (h : backtest service.sqrt request = .ok result)
    (hfits : Fits service request row (.looping args cfg idx tally (signal :: rest))) :
    ∃ next, tally.next cfg args.candles signal = .ok next := by
  obtain ⟨-, rfl, -, -, -, hcfg, hrest⟩ := hfits
  obtain ⟨whole, hwhole, -⟩ := (backtest_eq_ok_iff hcfg).mp h
  rw [hwhole, List.foldlM_cons] at hrest
  obtain ⟨next, hnext, -⟩ := ok_of_bind hrest
  exact ⟨next, hnext⟩

/-- The critical section after the loop leaves a task that waits for nothing of the computation.
Source: `app/services/backtest_jobs.py` `BacktestJobService._run_job`. Kind: L -/
theorem complete_task (jobId now : String) (result : BacktestResult) (row : JobRow) :
    (service.complete jobId now result (some row)).task = .announcing ∨
      (service.complete jobId now result (some row)).task = .ended := by
  unfold complete
  dsimp only
  split_ifs
  · exact Or.inl rfl
  · exact Or.inr rfl

/-- The last turn of a task on track completes its job. Source: `app/services/backtest_jobs.py`
`BacktestJobService._run_job`. Kind: L -/
theorem OnTrack.finish {args : JobArgs} {cfg : BacktestSettings PyNum} {idx : ℕ} {tally : Tally}
    (jobId now : String) (hb : backtest service.sqrt request = .ok result)
    (hfits : Fits service request row (.looping args cfg idx tally [])) :
    ∃ row', (service.finish jobId now cfg tally (some row)).row = some row' ∧
      OnTrack service request n row' (service.finish jobId now cfg tally (some row)).task := by
  obtain ⟨hsound, rfl, hrunning, herror, -, hcfg, hrest⟩ := hfits
  rw [List.foldlM_nil] at hrest
  have hresult := backtest_of_loop service.sqrt hcfg hrest.symm
  have hfinish : service.finish jobId now cfg tally (some row) =
      service.complete jobId now result (some row) := by
    unfold BacktestJobService.finish
    rw [← hresult, hb]
  rw [hfinish]
  obtain ⟨row', hrow', hfits', hcompleted, -⟩ := complete_fits jobId now herror hb
  refine ⟨row', hrow', hfits', ?_, ?_, ?_⟩
  · rw [hcompleted]
    decide
  · intro exc hfailing
    rcases complete_task jobId now result row with htask | htask
    · exact JobTask.noConfusion (htask.symm.trans hfailing)
    · exact JobTask.noConfusion (htask.symm.trans hfailing)
  · rcases complete_task jobId now result row with htask | htask
    · rw [htask]
      exact Nat.zero_le n
    · rw [htask]
      exact Nat.zero_le n

/-- A task in its loop is on track. Source: `app/services/backtest_jobs.py`
`BacktestJobService._run_job`. Kind: L -/
theorem OnTrack.looping {args : JobArgs} {cfg : BacktestSettings PyNum} {idx : ℕ} {tally : Tally}
    {rest : List BacktestSignal}
    (hfits : Fits service request row (.looping args cfg idx tally rest))
    (hturns : rest.length + 1 ≤ n) :
    OnTrack service request n row (.looping args cfg idx tally rest) where
  fits := hfits
  notFailed := by
    rw [hfits.2.2.1]
    decide
  notFailing _ hfailing := JobTask.noConfusion hfailing
  turns := hturns

/-- **A turn takes a job on track one turn further.** Source: `app/services/backtest_jobs.py`
`BacktestJobService._run_job`. Kind: L -/
theorem OnTrack.turn (jobId now : String) (hb : backtest service.sqrt request = .ok result)
    (h : OnTrack service request (n + 1) row task) :
    ∃ row', (service.turn jobId now (some row) task).row = some row' ∧
      OnTrack service request n row' (service.turn jobId now (some row) task).task := by
  obtain ⟨hfits, hnot, hfailing, hturns⟩ := h
  obtain ⟨row', hrow', hfits', -⟩ := turn_fits jobId now hfits
  -- a task that waits, or has ended, leaves its row as it is
  have hidle : service.turn jobId now (some row) task = { row := some row, task } →
      turnsLeft task = 0 → OnTrack service request n row' task := by
    intro hturn hzero
    rw [hturn] at hrow' hfits'
    obtain rfl : row = row' := Option.some.inj hrow'
    exact ⟨hfits, hnot, hfailing, hzero.trans_le (Nat.zero_le n)⟩
  cases task with
  | created args =>
      refine ⟨row', hrow', ?_⟩
      obtain ⟨cfg, htask⟩ := begin_task now hb hfits
      have hturn : (service.turn jobId now (some row) (.created args)).task =
          .looping args cfg 0 {} args.signals := htask
      rw [hturn] at hfits' ⊢
      exact OnTrack.looping hfits' (Nat.le_of_succ_le_succ hturns)
  | looping args cfg idx tally rest =>
      cases rest with
      | cons signal rest =>
          refine ⟨row', hrow', ?_⟩
          obtain ⟨next, hnext⟩ := exists_next hb hfits
          have hturn : (service.turn jobId now (some row)
              (.looping args cfg idx tally (signal :: rest))).task =
              .looping args cfg (idx + 1) next rest := by
            unfold BacktestJobService.turn loopRound
            dsimp only
            rw [hnext]
          rw [hturn] at hfits' ⊢
          exact OnTrack.looping hfits' (Nat.le_of_succ_le_succ hturns)
      | nil =>
          have hturn : service.turn jobId now (some row) (.looping args cfg idx tally []) =
              service.finish jobId now cfg tally (some row) := rfl
          rw [hturn]
          exact OnTrack.finish jobId now hb hfits
  | failing exc => exact absurd rfl (hfailing exc)
  | announcing => exact ⟨row', hrow', hidle rfl rfl⟩
  | reporting => exact ⟨row', hrow', hidle rfl rfl⟩
  | ended => exact ⟨row', hrow', hidle rfl rfl⟩

/-- **An answer of the sink leaves a job on track**, unless it is an exception for a completed job.
Source: `app/services/backtest_jobs.py` `BacktestJobService._run_job`. Kind: L -/
theorem OnTrack.answered (jobId now : String) {outcome : Except Exn Bool}
    (hok : task = .announcing → outcome.isOk) (h : OnTrack service request n row task) :
    ∃ row', (service.answered jobId now outcome (some row) task).row = some row' ∧
      OnTrack service request n row' (service.answered jobId now outcome (some row) task).task := by
  obtain ⟨hfits, hnot, hfailing, hturns⟩ := h
  cases task with
  | announcing =>
      cases outcome with
      | error exc => exact absurd (hok rfl) Bool.false_ne_true
      | ok sent =>
          exact ⟨row, rfl, ⟨hfits.1, .inl hfits.2⟩, hnot, fun exc hne => JobTask.noConfusion hne,
            Nat.zero_le n⟩
  | reporting =>
      exact ⟨row, rfl, ⟨hfits.1, .inr hfits.2⟩, hnot, fun exc hne => JobTask.noConfusion hne,
        Nat.zero_le n⟩
  | created args => exact ⟨row, rfl, hfits, hnot, hfailing, hturns⟩
  | looping args cfg idx tally rest => exact ⟨row, rfl, hfits, hnot, hfailing, hturns⟩
  | failing exc => exact ⟨row, rfl, hfits, hnot, hfailing, hturns⟩
  | ended => exact ⟨row, rfl, hfits, hnot, hfailing, hturns⟩

/-! ## Runs -/

section runs

variable {us vs ws : List JobEvent} {e : JobEvent}

theorem turnsOf_append_singleton :
    turnsOf jobId (ws ++ [e]) = turnsOf jobId ws + turnsOf jobId [e] := List.countP_append

/-- The turn of a task whose row is stored. Source: `app/services/backtest_jobs.py`
`BacktestJobService`. Kind: L -/
theorem reached_turn (now : String) (hrow : service.rowAfter us jobId = some row)
    (htask : (service.reached us).tasks jobId = some task) :
    service.rowAfter (us ++ [.turn jobId now]) jobId = (service.turn jobId now (some row) task).row ∧
      (service.reached (us ++ [.turn jobId now])).tasks jobId =
        some (service.turn jobId now (some row) task).task := by
  have hfound : Dict.find? (service.reached us).jobs jobId = some row := hrow
  have hstep : service.reached (us ++ [.turn jobId now]) =
      (service.reached us).commit jobId (service.turn jobId now (some row) task) := by
    rw [reached_append_singleton, ← hfound]
    exact fst_resume htask
  obtain ⟨row', hrow'⟩ : ∃ row', (service.turn jobId now (some row) task).row = some row' :=
    Option.isSome_iff_exists.mp (isSome_turn (some row) task)
  unfold rowAfter
  rw [hstep, hrow']
  exact ⟨find?_commit_self hrow', Function.update_self _ _ _⟩

/-- A row that is stored after a step, and was not started by it, was stored before it.
Source: `app/services/backtest_jobs.py` `BacktestJobService`. Kind: L -/
theorem exists_rowAfter (hid : jobId ≠ service.uuid4 (service.reached us).drawn)
    (h : service.rowAfter (us ++ [e]) jobId = some row') :
    ∃ row, service.rowAfter us jobId = some row := by
  rcases row_step h with ⟨heq, -⟩ | ⟨row, hrow, -⟩
  · exact absurd heq hid
  · exact ⟨row, hrow⟩

theorem OnTrack.mono {m : ℕ} (hle : n ≤ m) (h : OnTrack service request n row task) :
    OnTrack service request m row task :=
  ⟨h.fits, h.notFailed, h.notFailing, h.turns.trans hle⟩

/-- A new job is on track. Source: `app/services/backtest_jobs.py`
`BacktestJobService.start_job`. Kind: L -/
theorem OnTrack.start (hid : jobId = service.uuid4 (service.reached us).drawn)
    (hrow : service.rowAfter (us ++ [.start request now]) jobId = some row) :
    ∃ task, (service.reached (us ++ [.start request now])).tasks jobId = some task ∧
      OnTrack service request (request.signals.length + 2) row task := by
  unfold rowAfter at hrow
  rw [reached_append_singleton] at hrow ⊢
  rcases find?_step hrow with ⟨hold, -⟩ | ⟨request', now', heq, -, rfl, htask⟩ |
    ⟨_, _, -, -, ⟨_, heq, -⟩ | ⟨_, _, heq, -⟩⟩
  · have hne : jobId ≠ service.uuid4 (service.reached (us ++ [])).drawn :=
      ne_uuid4_of_rowAfter [] hold
    rw [List.append_nil] at hne
    exact absurd hid hne
  · obtain ⟨rfl, rfl⟩ := JobEvent.start.inj heq
    refine ⟨_, htask, newRow_fits service jobId now request, ?_, ?_, le_rfl⟩
    · exact fun hfailed => JobStatus.noConfusion hfailed
    · exact fun exc hne => JobTask.noConfusion hne
  · exact JobEvent.noConfusion heq
  · exact JobEvent.noConfusion heq

/-- Every event leaves a job on track, and a turn of its task takes it one further. Source:
`app/services/backtest_jobs.py` `BacktestJobService`. Kind: L -/
theorem OnTrack.event (hb : backtest service.sqrt request = .ok result)
    (hid : jobId ≠ service.uuid4 (service.reached us).drawn)
    (hann : ¬ CompletionAlertFails (service.reached us) e)
    (hrow : service.rowAfter us jobId = some row)
    (htask : (service.reached us).tasks jobId = some task)
    (h : OnTrack service request n row task)
    (hrow' : service.rowAfter (us ++ [e]) jobId = some row') :
    ∃ task', (service.reached (us ++ [e])).tasks jobId = some task' ∧
      OnTrack service request (n - turnsOf jobId [e]) row' task' := by
  by_cases hturn : ∃ now, e = .turn jobId now
  · obtain ⟨now, rfl⟩ := hturn
    obtain ⟨hnext, hgoes⟩ := reached_turn now hrow htask
    have hone : turnsOf jobId [.turn jobId now] = 1 := by simp [turnsOf]
    have hle : n ≤ n - 1 + 1 := by omega
    obtain ⟨row'', hrow'', hon⟩ := OnTrack.turn jobId now hb (h.mono hle)
    obtain rfl : row'' = row' := Option.some.inj (hrow''.symm.trans (hnext.symm.trans hrow'))
    rw [hone]
    exact ⟨_, hgoes, hon⟩
  · have hnone : turnsOf jobId [e] = 0 := by
      cases e with
      | turn k now =>
          have hk : k ≠ jobId := fun hk => hturn ⟨now, hk ▸ rfl⟩
          simp [turnsOf, hk]
      | start request now => rfl
      | answer k outcome now => rfl
    rw [hnone, Nat.sub_zero]
    unfold rowAfter at hrow hrow'
    rw [reached_append_singleton] at hrow' ⊢
    rcases find?_step hrow' with ⟨hsame, hkeeps⟩ | ⟨_, _, -, hnew, -⟩ |
      ⟨old, old', hold, hold', ⟨now, heq, -⟩ | ⟨outcome, now, rfl, hnext, hgoes⟩⟩
    · obtain rfl : row' = row := Option.some.inj (hsame.symm.trans hrow)
      exact ⟨task, hkeeps.trans htask, h⟩
    · exact absurd hnew hid
    · exact absurd ⟨now, heq⟩ hturn
    · obtain rfl : old = row := Option.some.inj (hold.symm.trans hrow)
      obtain rfl : old' = task := Option.some.inj (hold'.symm.trans htask)
      have hok : old' = .announcing → outcome.isOk := by
        rintro rfl
        cases outcome with
        | ok sent => rfl
        | error exc => exact absurd ⟨jobId, exc, now, rfl, htask, by simp [hrow]⟩ hann
      obtain ⟨row'', hrow'', hon⟩ := OnTrack.answered jobId now hok h
      obtain rfl : row'' = row' := Option.some.inj (hrow''.symm.trans hnext)
      exact ⟨_, hgoes, hon⟩

/-- The identifier of a job is not drawn again after its start. Source:
`app/services/backtest_jobs.py` `BacktestJobService.start_job`. Kind: L -/
theorem ne_uuid4_after_start (us ws : List JobEvent) (request : JobRequest) (now : String) :
    service.uuid4 (service.reached us).drawn ≠
      service.uuid4 (service.reached (us ++ .start request now :: ws)).drawn := by
  intro heq
  have hdrawn := service.uuid4.injective heq
  rw [(kept service us).drawn, (kept service _).drawn, requests_append, List.length_append] at hdrawn
  have hone : (requests (.start request now :: ws)).length = (requests ws).length + 1 := rfl
  omega

/-- **A job that is stored stays on track.** Source: `app/services/backtest_jobs.py`
`BacktestJobService`. Kind: P -/
theorem onTrack_run (hb : backtest service.sqrt request = .ok result)
    (hid : jobId = service.uuid4 (service.reached us).drawn)
    (hann : CompletionsAnnounced service (us ++ .start request now :: vs))
    (hrow : service.rowAfter (us ++ .start request now :: vs) jobId = some row) :
    ∃ task, (service.reached (us ++ .start request now :: vs)).tasks jobId = some task ∧
      OnTrack service request (request.signals.length + 2 - turnsOf jobId vs) row task := by
  induction vs using List.reverseRecOn generalizing row with
  | nil => exact OnTrack.start hid hrow
  | append_singleton ws e ih =>
      have hcut : us ++ .start request now :: (ws ++ [e]) =
          (us ++ .start request now :: ws) ++ [e] := by simp
      have hne : jobId ≠ service.uuid4 (service.reached (us ++ .start request now :: ws)).drawn := by
        rw [hid]
        exact ne_uuid4_after_start us ws request now
      rw [hcut] at hann hrow ⊢
      obtain ⟨mid, hmid⟩ := exists_rowAfter hne hrow
      obtain ⟨task, htask, hon⟩ := ih (fun xs f ys hxs => hann xs f (ys ++ [e]) (by rw [hxs]; simp))
        hmid
      obtain ⟨task', htask', hon'⟩ :=
        OnTrack.event hb hne (hann _ e [] rfl) hmid htask hon hrow
      rw [turnsOf_append_singleton, ← Nat.sub_sub]
      exact ⟨task', htask', hon'⟩

/-- **A job whose backtest goes through is completed with its result**, once its task has had two
turns more than it has signals. Source: `app/services/backtest_jobs.py`
`BacktestJobService._run_job`. Kind: P -/
theorem completed_of_turns (hb : backtest service.sqrt request = .ok result)
    (hid : jobId = service.uuid4 (service.reached us).drawn)
    (hann : CompletionsAnnounced service (us ++ .start request now :: vs))
    (hturns : request.signals.length + 2 ≤ turnsOf jobId vs)
    (hrow : service.rowAfter (us ++ .start request now :: vs) jobId = some row) :
    row.status = .completed ∧ row.result = some result := by
  obtain ⟨task, -, hon⟩ := onTrack_run hb hid hann hrow
  rw [Nat.sub_eq_zero_of_le hturns] at hon
  obtain ⟨⟨hsound, hat⟩, hnot, hfailing, hzero⟩ := hon
  have hcompleted : row.status = .completed := by
    cases task with
    | created args => exact absurd hzero (Nat.not_succ_le_zero _)
    | looping args cfg idx tally rest => exact absurd hzero (Nat.not_succ_le_zero _)
    | failing exc => exact absurd rfl (hfailing exc)
    | announcing => exact hat
    | reporting => exact absurd hat hnot
    | ended => exact hat.resolve_right hnot
  obtain ⟨own, hown⟩ := Option.ne_none_iff_exists'.mp (hsound.completed hcompleted).2.1
  refine ⟨hcompleted, ?_⟩
  rw [hown, Except.ok.inj ((hsound.own own hown).symm.trans hb)]

/-! ## Requests whose jobs report -/

/-- **A job reports on all signals**, in every run in which no completion alert fails: when it is
stored and its task has had its turns, it is completed, and its result accounts for the signals.
Source: `app/services/backtest_jobs.py` `BacktestJobService._run_job`. Kind: D -/
def ReportsAll (service : BacktestJobService) (request : JobRequest) : Prop :=
  ∀ us now vs row, CompletionsAnnounced service (us ++ .start request now :: vs) →
    service.rowAfter (us ++ .start request now :: vs) (service.uuid4 (service.reached us).drawn) =
        some row →
    request.signals.length + 2 ≤ turnsOf (service.uuid4 (service.reached us).drawn) vs →
    row.status = .completed ∧ ∃ result, row.result = some result ∧
      Accounts service.sqrt request result

/-- A run of one job that is resumed again and again. Source: none: infrastructure. Kind: D -/
def soloRun (service : BacktestJobService) (request : JobRequest) (n : ℕ) : List JobEvent :=
  .start request "" :: List.replicate n (.turn (service.uuid4 0) "")

/-- A single job of a service that stores at least one row stays stored. Source:
`app/services/backtest_jobs.py` `BacktestJobService._trim_jobs`. Kind: L -/
theorem exists_row_soloRun (hmax : 0 < service.maxJobs) (request : JobRequest) (n : ℕ) :
    ∃ row task, service.rowAfter (service.soloRun request n) (service.uuid4 0) = some row ∧
      (service.reached (service.soloRun request n)).tasks (service.uuid4 0) = some task := by
  induction n with
  | zero =>
      have hone : (Dict.set (Table.empty : Dict String JobRow) (service.uuid4 0)
          (newRow (service.uuid4 0) request "")).rows.length = 1 := rfl
      have htrim : trimJobs service.maxJobs (Dict.set Table.empty (service.uuid4 0)
          (newRow (service.uuid4 0) request "")) =
          Dict.set Table.empty (service.uuid4 0) (newRow (service.uuid4 0) request "") := by
        unfold trimJobs
        dsimp only
        rw [hone, if_pos (by omega)]
      have hreached : service.reached (service.soloRun request 0) =
          service.startJob {} request "" := rfl
      unfold rowAfter
      rw [hreached]
      unfold startJob
      dsimp only
      rw [htrim]
      exact ⟨_, _, Dict.find?_set_self, Function.update_self _ _ _⟩
  | succ n ih =>
      obtain ⟨row, task, hrow, htask⟩ := ih
      have hsnoc : service.soloRun request (n + 1) =
          service.soloRun request n ++ [.turn (service.uuid4 0) ""] := by
        unfold soloRun
        rw [List.replicate_succ', List.cons_append]
      obtain ⟨hnext, hgoes⟩ := reached_turn "" hrow htask
      have hsome : (service.turn (service.uuid4 0) "" (some row) task).row.isSome :=
        isSome_turn (some row) task
      obtain ⟨row', hrow'⟩ := Option.isSome_iff_exists.mp hsome
      rw [hsnoc]
      exact ⟨row', _, hnext.trans hrow', hgoes⟩

/-- What a request whose jobs report has for a backtest. Source: `app/services/backtest_jobs.py`
`BacktestJobService._run_job`. Kind: L -/
theorem ReportsAll.exists_accounts (hmax : 0 < service.maxJobs) (h : ReportsAll service request) :
    ∃ result, backtest service.sqrt request = .ok result ∧
      Accounts service.sqrt request result := by
  let turns := request.signals.length + 2
  obtain ⟨row, -, hrow, -⟩ := exists_row_soloRun hmax request turns
  have hann : CompletionsAnnounced service (service.soloRun request turns) := by
    rintro us e vs hcut ⟨k, exc, now, rfl, -⟩
    have hmem : JobEvent.answer k (.error exc) now ∈ service.soloRun request turns := by
      rw [hcut]
      simp
    rcases List.mem_cons.mp hmem with heq | hmem
    · exact JobEvent.noConfusion heq
    · exact JobEvent.noConfusion (List.eq_of_mem_replicate hmem)
  have hturns : turns ≤ turnsOf (service.uuid4 0) (List.replicate turns (.turn (service.uuid4 0) "")) := by
    unfold turnsOf
    rw [List.countP_replicate, if_pos (by simp)]
  obtain ⟨hcompleted, result, hresult, haccounts⟩ := h [] "" _ row hann hrow hturns
  obtain ⟨n, request', task, hid, hreq, -, hsound, -⟩ :=
    (kept service (service.soloRun request turns)).rows (service.uuid4 0) row hrow
  obtain rfl : 0 = n := service.uuid4.injective hid
  have hfirst : (requests (service.soloRun request turns))[0]? = some request := rfl
  obtain rfl : request = request' := Option.some.inj (hfirst.symm.trans hreq)
  exact ⟨result, hsound.own result hresult, haccounts⟩

end runs

/-- **Which jobs report on all signals**: for every service that stores at least one row and every
request with well-formed settings, its jobs complete in all runs and account for their signals exactly
when every signal with a negative index is skipped and the returns of the signals in range have a
Sharpe ratio. Source: `app/services/backtest_jobs.py` `BacktestJobService._run_job`. Kind: P -/
theorem reportsAll_iff (service : BacktestJobService) (request : JobRequest)
    (cfg : BacktestSettings PyNum) (hmax : 0 < service.maxJobs)
    (hcfg : jobSettings request.slippagePct request.«meta» = .ok cfg) :
    ReportsAll service request ↔ NegativesSkip request ∧ RatioFits cfg request := by
  rw [← backtest_accounts_iff service.sqrt hcfg]
  constructor
  · intro h
    exact h.exists_accounts hmax
  · rintro ⟨result, hb, haccounts⟩ us now vs row hann hrow hturns
    obtain ⟨hcompleted, hresult⟩ := completed_of_turns hb rfl hann hturns hrow
    exact ⟨hcompleted, result, hresult, haccounts⟩

/-- A signal with index -1 on two bars. Source: none: infrastructure. Kind: D -/
def negativeRequest : JobRequest where
  candles := [flatCandle 100, flatCandle 100].map Candle.toDouble
  signals := [⟨-1, "buy"⟩]

/-- Two trades, the second from a price of 10 to the power of -200 up to 1.
Source: none: infrastructure. Kind: D -/
def steepRequest : JobRequest where
  candles := [flatCandle 1, ⟨1 / 10 ^ 200, 1, 1 / 10 ^ 200, 1, 0, 0⟩, flatCandle 1].map Candle.toDouble
  signals := [⟨0, "buy"⟩, ⟨1, "buy"⟩]

/-- **Jobs that do not report**: a signal with index -1 is traded on the first bar, and a return that
is too large to be squared ends a job whose signals are all in range. Source:
`app/services/backtest_jobs.py` `BacktestJobService._simulate_trade`,
`BacktestJobService._sharpe_ratio`. Kind: C -/
theorem not_reportsAll_negative_and_steep :
    ¬ ReportsAll announcedService negativeRequest ∧ ¬ ReportsAll announcedService steepRequest := by
  have hsettings : jobSettings (5 / 100) Table.empty = .ok {} := eq_ok_of_toOption (by decide +kernel)
  constructor
  · intro h
    obtain ⟨hskip, -⟩ := (backtest_accounts_iff announcedService.sqrt hsettings).mp
      (h.exists_accounts (by decide))
    rcases hskip ⟨-1, "buy"⟩ List.mem_cons_self (by decide) with hlen | ⟨entry, hentry, hnot⟩
    · exact absurd hlen (by decide)
    · have hpos : ∀ entry ∈ (BacktestCore.entryPriceNPlusOneOpen negativeRequest.slippagePct
          negativeRequest.candles ⟨-1, "buy"⟩).toOption, ¬ entry ≤ 0 := by decide +kernel
      exact hpos entry (by rw [hentry]; rfl) hnot
  · intro h
    obtain ⟨-, hratio⟩ := (backtest_accounts_iff announcedService.sqrt hsettings).mp
      (h.exists_accounts (by decide))
    exact absurd hratio (by decide +kernel)

/-- Three signals on prices that move: two are traded, the last has no next bar. Source:
`app/services/backtest_jobs.py` `BacktestJobService._run_job`. Kind: P -/
theorem reportsAll_iff_three_signals :
    ReportsAll announcedService
      { candles := [flatCandle 100, flatCandle 104, flatCandle 99].map Candle.toDouble
        signals := [⟨0, "buy"⟩, ⟨1, "sell"⟩, ⟨2, "buy"⟩] } := by
  refine (reportsAll_iff announcedService _ {} (by decide)
    (eq_ok_of_toOption (by decide +kernel))).mpr ⟨?_, by decide +kernel⟩
  intro s hs hneg
  have hnonneg : ∀ s ∈ [(⟨0, "buy"⟩ : BacktestSignal), ⟨1, "sell"⟩, ⟨2, "buy"⟩], ¬ s.index < 0 := by
    decide
  exact absurd hneg (hnonneg s hs)

end BacktestJobService

end HaruTrade
