import Mathlib.Data.List.Induction
import HaruTrade.Backtest.Jobs

/-!
# Runs of backtest jobs

Tasks share the store of rows, and a row may be dropped at any time; each task writes its own row only.

* `Fits` — a row and the place where its task goes on.
* `turn_fits`, `answered_fits` — a step of a task keeps it, and says how the row moves.
* `find?_step` — everything that a step of the service can do to a row.
* `Orderly` — rows of a run start queued, move forward, are sound, and are not too many.
* **`orderly_iff`** — a run is orderly if and only if no exception of the alert sink meets the row of
  a completed job.
-/

namespace HaruTrade

/-! ## Statuses and rows -/

namespace JobStatus

/-- From queued over running to completed or failed. Source: `app/services/backtest_jobs.py`
`BacktestJobService._run_job`. Kind: D -/
def Next : JobStatus → JobStatus → Prop
  | .queued, .running => True
  | .running, .completed => True
  | .running, .failed => True
  | _, _ => False

/-- Source: `app/services/backtest_jobs.py` `BacktestJobService._run_job`. Kind: D -/
def Final (status : JobStatus) : Prop := status = .completed ∨ status = .failed

theorem not_next_of_final {a b : JobStatus} (h : a.Final) : ¬ Next a b := by
  rcases h with rfl | rfl <;> exact id

end JobStatus

namespace BacktestJobService

/-- A row says nothing wrong of its job, and its result is the backtest of the job's own request.
Source: `app/services/backtest_jobs.py` `BacktestJobService._run_job`. Kind: D -/
structure Sound (sqrt : PyNum → PyNum) (request : JobRequest) (row : JobRow) : Prop where
  range : 0 ≤ row.progress ∧ row.progress ≤ 100
  completed : row.status = .completed →
    row.progress = 100 ∧ row.result ≠ none ∧ row.error = none
  failed : row.status = .failed → row.error ≠ none
  own : ∀ result, row.result = some result → backtest sqrt request = .ok result

section tasks

variable (service : BacktestJobService) (request : JobRequest)

/-- The progress that a round of the loop shows. Source: `app/services/backtest_jobs.py`
`BacktestJobService._update_progress`. Kind: D -/
def shown (idx : ℕ) : ℤ :=
  max 0 (min (service.percent idx (max request.signals.length 1)) 100)

/-- **A task and its row.** What is left of the loop gives what the whole loop gives.
Source: `app/services/backtest_jobs.py` `BacktestJobService._run_job`. Kind: D -/
def AtTask (row : JobRow) : JobTask → Prop
  | .created args =>
    args = request.toJobArgs ∧ row.«meta» = request.«meta» ∧ row.status = .queued ∧
      row.progress = 0 ∧ row.error = none
  | .looping args cfg idx tally rest =>
    args = request.toJobArgs ∧ row.status = .running ∧ row.error = none ∧
      row.progress ≤ shown service request idx ∧
      jobSettings request.slippagePct request.«meta» = .ok cfg ∧
      rest.foldlM (Tally.next cfg request.candles) tally =
        request.signals.foldlM (Tally.next cfg request.candles) {}
  | .failing _ => row.status = .running
  | .announcing => row.status = .completed
  | .reporting => row.status = .failed
  | .ended => row.status.Final

/-- Source: `app/services/backtest_jobs.py` `BacktestJobService._run_job`. Kind: D -/
def Fits (row : JobRow) (task : JobTask) : Prop :=
  Sound service.sqrt request row ∧ AtTask service request row task

end tasks

variable {service : BacktestJobService} {request : JobRequest} {row row' : JobRow} {task : JobTask}
  {jobId k now : String}

/-! ## A step of a task -/

section steps

theorem isSome_fail {exc : Exn} (row : Option JobRow) :
    (service.fail jobId now exc row).row.isSome = row.isSome := by
  cases row with
  | none => rfl
  | some row =>
      unfold fail
      dsimp only
      split_ifs <;> rfl

theorem isSome_loopRound {args : JobArgs} {cfg : BacktestSettings PyNum} {idx : ℕ} {tally : Tally}
    {signal : BacktestSignal} {rest : List BacktestSignal} (row : Option JobRow) :
    (service.loopRound args cfg idx tally signal rest row).row.isSome = row.isSome := by
  unfold loopRound
  cases tally.next cfg args.candles signal with
  | ok tally => exact Option.isSome_map
  | error exc => rfl

theorem isSome_complete {result : BacktestResult} (row : Option JobRow) :
    (service.complete jobId now result row).row.isSome = row.isSome := by
  cases row with
  | none => rfl
  | some row =>
      unfold complete
      dsimp only
      split_ifs <;> rfl

theorem isSome_finish {cfg : BacktestSettings PyNum} {tally : Tally} (row : Option JobRow) :
    (service.finish jobId now cfg tally row).row.isSome = row.isSome := by
  unfold finish
  cases resultOf service.sqrt cfg tally with
  | ok result => exact isSome_complete row
  | error exc => rfl

/-- A step of a task neither drops its row nor brings it back.
Source: `app/services/backtest_jobs.py` `BacktestJobService._run_job`. Kind: L -/
theorem isSome_turn (row : Option JobRow) (task : JobTask) :
    (service.turn jobId now row task).row.isSome = row.isSome := by
  cases task with
  | created args => cases row <;> rfl
  | looping args cfg idx tally rest =>
      cases rest with
      | nil => exact isSome_finish row
      | cons signal rest => exact isSome_loopRound row
  | failing exc => exact isSome_fail row
  | announcing => rfl
  | reporting => rfl
  | ended => rfl

theorem isSome_answered {outcome : Except Exn Bool} (row : Option JobRow) (task : JobTask) :
    (service.answered jobId now outcome row task).row.isSome = row.isSome := by
  cases task with
  | announcing =>
      cases outcome with
      | ok sent => rfl
      | error exc => exact isSome_fail row
  | created args => rfl
  | looping args cfg idx tally rest => rfl
  | failing exc => rfl
  | reporting => rfl
  | ended => rfl

/-- The handler ends the job as failed, and keeps the rest of its row.
Source: `app/services/backtest_jobs.py` `BacktestJobService._run_job`. Kind: L -/
theorem fail_fits (jobId now : String) (exc : Exn) (h : Sound service.sqrt request row) :
    ∃ row', (service.fail jobId now exc (some row)).row = some row' ∧
      Fits service request row' (service.fail jobId now exc (some row)).task ∧
      row'.status = .failed ∧ row'.progress = row.progress := by
  have hsound : Sound service.sqrt request
      { row with status := .failed, error := some exc.str, completedAt := some now } :=
    ⟨h.range, nofun, fun _ => Option.some_ne_none _, h.own⟩
  unfold fail
  dsimp only
  split_ifs
  · exact ⟨_, rfl, ⟨hsound, rfl⟩, rfl, rfl⟩
  · exact ⟨_, rfl, ⟨hsound, .inr rfl⟩, rfl, rfl⟩

/-- The loop ends with the result of the backtest. Source: `app/services/backtest_jobs.py`
`BacktestJobService._run_job`. Kind: L -/
theorem complete_fits (jobId now : String) {result : BacktestResult} (herror : row.error = none)
    (hresult : backtest service.sqrt request = .ok result) :
    ∃ row', (service.complete jobId now result (some row)).row = some row' ∧
      Fits service request row' (service.complete jobId now result (some row)).task ∧
      row'.status = .completed ∧ row'.progress = 100 := by
  have hsound : Sound service.sqrt request
      { row with
        status := .completed, progress := 100, result := some result, completedAt := some now } :=
    ⟨⟨by norm_num, le_refl _⟩, fun _ => ⟨rfl, Option.some_ne_none _, herror⟩, nofun, by
      rintro _ ⟨⟩
      exact hresult⟩
  unfold complete
  dsimp only
  split_ifs
  · exact ⟨_, rfl, ⟨hsound, rfl⟩, rfl, rfl⟩
  · exact ⟨_, rfl, ⟨hsound, .inl rfl⟩, rfl, rfl⟩

theorem begin_fits (now : String) {args : JobArgs} (h : Fits service request row (.created args)) :
    ∃ row', (begin now args (some row)).row = some row' ∧
      Fits service request row' (begin now args (some row)).task ∧
      JobStatus.Next row.status row'.status ∧ row'.progress = row.progress := by
  obtain ⟨hsound, rfl, hmeta, hqueued, hzero, herror⟩ := h
  refine ⟨{ row with status := .running, startedAt := some now }, rfl, ⟨?_, ?_⟩, ?_, rfl⟩
  · exact ⟨hsound.range, nofun, nofun, hsound.own⟩
  · cases hcfg : jobSettings request.slippagePct request.«meta» with
    | error exc =>
        have htask : (begin now request.toJobArgs (some row)).task = .failing exc := by
          unfold begin
          dsimp only
          rw [hmeta, hcfg]
        rw [htask]
        rfl
    | ok cfg =>
        have htask : (begin now request.toJobArgs (some row)).task =
            .looping request.toJobArgs cfg 0 {} request.signals := by
          unfold begin
          dsimp only
          rw [hmeta, hcfg]
        rw [htask]
        exact ⟨rfl, rfl, herror, hzero.trans_le (le_max_left _ _), hcfg, rfl⟩
  · rw [hqueued]
    trivial

/-- The percentage that is shown never falls. Source: `app/services/backtest_jobs.py`
`BacktestJobService._run_job`. Kind: L -/
theorem shown_le_succ (service : BacktestJobService) (request : JobRequest) (idx : ℕ) :
    shown service request idx ≤ shown service request (idx + 1) := by
  unfold shown percent
  refine max_le_max le_rfl (min_le_min_right _ (truncInt_mono (service.round.monotone ?_)))
  refine mul_le_mul_of_nonneg_right (service.round.monotone ?_) (by norm_num)
  exact div_le_div_of_nonneg_right (by exact_mod_cast Nat.le_succ _) (Nat.cast_nonneg _)

theorem loopRound_fits {args : JobArgs} {cfg : BacktestSettings PyNum} {idx : ℕ} {tally : Tally}
    {signal : BacktestSignal} {rest : List BacktestSignal}
    (h : Fits service request row (.looping args cfg idx tally (signal :: rest))) :
    ∃ row', (service.loopRound args cfg idx tally signal rest (some row)).row = some row' ∧
      Fits service request row'
        (service.loopRound args cfg idx tally signal rest (some row)).task ∧
      row'.status = row.status ∧ row.progress ≤ row'.progress := by
  obtain ⟨hsound, rfl, hrunning, herror, hle, hcfg, hrest⟩ := h
  unfold loopRound
  cases htally : tally.next cfg request.candles signal with
  | error exc => exact ⟨row, rfl, ⟨hsound, hrunning⟩, rfl, le_rfl⟩
  | ok next =>
      refine ⟨_, rfl, ⟨?_, ?_⟩, rfl, hle⟩
      · have hnot : ∀ {p : Prop}, row.status ≠ .running → p := fun hne => absurd hrunning hne
        refine ⟨⟨le_max_left _ _, max_le (by decide) (min_le_right _ _)⟩, ?_, ?_, hsound.own⟩
        · intro hcompleted
          exact hnot (by rw [show row.status = _ from hcompleted]; decide)
        · intro hfailed
          exact hnot (by rw [show row.status = _ from hfailed]; decide)
      · rw [List.foldlM_cons, htally] at hrest
        exact ⟨rfl, hrunning, herror, shown_le_succ service request idx, hcfg, hrest⟩

/-- What the loop has added up is the backtest. Source: `app/services/backtest_jobs.py`
`BacktestJobService._run_job`. Kind: L -/
theorem backtest_of_loop (sqrt : PyNum → PyNum) {cfg : BacktestSettings PyNum} {tally : Tally}
    (hcfg : jobSettings request.slippagePct request.«meta» = .ok cfg)
    (hloop : request.signals.foldlM (Tally.next cfg request.candles) {} = .ok tally) :
    backtest sqrt request = resultOf sqrt cfg tally := by
  unfold backtest
  rw [hcfg]
  show (request.signals.foldlM (Tally.next cfg request.candles) {} >>= resultOf sqrt cfg) = _
  rw [hloop]
  rfl

/-- The step after the last round completes the job, or goes on with the handler. Source:
`app/services/backtest_jobs.py` `BacktestJobService._run_job`. Kind: L -/
theorem finish_fits (jobId now : String) {args : JobArgs} {cfg : BacktestSettings PyNum} {idx : ℕ}
    {tally : Tally} (h : Fits service request row (.looping args cfg idx tally [])) :
    ∃ row', (service.finish jobId now cfg tally (some row)).row = some row' ∧
      Fits service request row' (service.finish jobId now cfg tally (some row)).task ∧
      (row'.status = row.status ∨ JobStatus.Next row.status row'.status) ∧
      row.progress ≤ row'.progress := by
  obtain ⟨hsound, rfl, hrunning, herror, -, hcfg, hrest⟩ := h
  rw [List.foldlM_nil] at hrest
  have hbacktest := backtest_of_loop service.sqrt hcfg hrest.symm
  unfold finish
  cases hresult : resultOf service.sqrt cfg tally with
  | ok result =>
      obtain ⟨row', hrow, hfits, hstatus, hprogress⟩ :=
        complete_fits jobId now herror (hbacktest.trans hresult)
      refine ⟨row', hrow, hfits, .inr ?_, hsound.range.2.trans hprogress.ge⟩
      rw [hrunning, hstatus]
      trivial
  | error exc => exact ⟨row, rfl, ⟨hsound, hrunning⟩, .inl rfl, le_rfl⟩

/-- **The next step of a task** keeps the row sound, and moves it forward.
Source: `app/services/backtest_jobs.py` `BacktestJobService._run_job`. Kind: P -/
theorem turn_fits (jobId now : String) (h : Fits service request row task) :
    ∃ row', (service.turn jobId now (some row) task).row = some row' ∧
      Fits service request row' (service.turn jobId now (some row) task).task ∧
      (row'.status = row.status ∨ JobStatus.Next row.status row'.status) ∧
      row.progress ≤ row'.progress := by
  cases task with
  | created args =>
      obtain ⟨row', hrow, hfits, hnext, hprogress⟩ := begin_fits now h
      exact ⟨row', hrow, hfits, .inr hnext, hprogress.ge⟩
  | looping args cfg idx tally rest =>
      cases rest with
      | cons signal rest =>
          obtain ⟨row', hrow, hfits, hsame, hle⟩ := loopRound_fits h
          exact ⟨row', hrow, hfits, .inl hsame, hle⟩
      | nil => exact finish_fits jobId now h
  | failing exc =>
      obtain ⟨hsound, hrunning⟩ := h
      obtain ⟨row', hrow, hfits, hstatus, hprogress⟩ := fail_fits jobId now exc hsound
      refine ⟨row', hrow, hfits, .inr ?_, hprogress.ge⟩
      rw [show row.status = _ from hrunning, hstatus]
      trivial
  | announcing => exact ⟨row, rfl, h, .inl rfl, le_rfl⟩
  | reporting => exact ⟨row, rfl, h, .inl rfl, le_rfl⟩
  | ended => exact ⟨row, rfl, h, .inl rfl, le_rfl⟩

/-- **An answer of the sink** keeps the row sound; an exception that meets a completed job makes it a
failed one. Source: `app/services/backtest_jobs.py` `BacktestJobService._run_job`. Kind: P -/
theorem answered_fits (jobId now : String) (outcome : Except Exn Bool)
    (h : Fits service request row task) :
    ∃ row', (service.answered jobId now outcome (some row) task).row = some row' ∧
      Fits service request row' (service.answered jobId now outcome (some row) task).task ∧
      (row'.status = row.status ∨
        task = .announcing ∧ outcome.isOk = false ∧ row'.status = .failed) ∧
      row'.progress = row.progress := by
  cases task with
  | announcing =>
      cases outcome with
      | ok sent => exact ⟨row, rfl, ⟨h.1, .inl h.2⟩, .inl rfl, rfl⟩
      | error exc =>
          -- the handler of the computation's errors takes a row that is completed already
          obtain ⟨row', hrow, hfits, hstatus, hprogress⟩ := fail_fits jobId now exc h.1
          exact ⟨row', hrow, hfits, .inr ⟨rfl, rfl, hstatus⟩, hprogress⟩
  | reporting => exact ⟨row, rfl, ⟨h.1, .inr h.2⟩, .inl rfl, rfl⟩
  | created args => exact ⟨row, rfl, h, .inl rfl, rfl⟩
  | looping args cfg idx tally rest => exact ⟨row, rfl, h, .inl rfl, rfl⟩
  | failing exc => exact ⟨row, rfl, h, .inl rfl, rfl⟩
  | ended => exact ⟨row, rfl, h, .inl rfl, rfl⟩

end steps

/-! ## A step of the service -/

section service

variable {s : JobStore} {e : JobEvent} {go : Option JobRow → JobTask → Segment}

theorem length_trimJobs (maxJobs : ℤ) (jobs : Dict String JobRow) :
    (trimJobs maxJobs jobs).rows.length ≤ maxJobs.toNat := by
  unfold trimJobs
  dsimp only
  split_ifs with h
  · omega
  · let sorted := jobs.rows.insertionSort fun a b => a.2.createdAt ≤ b.2.createdAt
    have hperm : (sorted.map Prod.fst).Perm (jobs.rows.map Prod.fst) :=
      (List.perm_insertionSort _ _).map Prod.fst
    let oldest := (sorted.map Prod.fst).take (jobs.rows.length - maxJobs).toNat
    have hnodup : oldest.Nodup :=
      (hperm.nodup_iff.mpr jobs.nodup).sublist (List.take_sublist _ _)
    have hmem : ∀ key ∈ oldest, key ∈ jobs.rows.map Prod.fst :=
      fun key hkey => hperm.mem_iff.mp (List.mem_of_mem_take hkey)
    have hlen := Dict.length_popAll hnodup hmem
    rw [List.length_take, List.length_map, List.length_insertionSort] at hlen
    show (Dict.popAll jobs oldest).rows.length ≤ _
    omega

theorem find?_of_trimJobs {maxJobs : ℤ} {jobs : Dict String JobRow}
    (h : Dict.find? (trimJobs maxJobs jobs) jobId = some row) :
    Dict.find? jobs jobId = some row := by
  unfold trimJobs at h
  dsimp only at h
  split_ifs at h
  · exact h
  · exact Dict.find?_of_popAll h

theorem find?_commit_self {seg : Segment} (h : seg.row = some row) :
    Dict.find? (s.commit jobId seg).jobs jobId = some row := by
  unfold JobStore.commit
  dsimp only
  rw [h, Option.elim_some, Dict.find?_set_self]

theorem fst_resume (h : s.tasks jobId = some task) :
    (s.resume jobId go).1 = s.commit jobId (go (Dict.find? s.jobs jobId) task) := by
  unfold JobStore.resume
  rw [h]

/-- A step of one task leaves every other row alone. Source: `app/services/backtest_jobs.py`
`BacktestJobService._run_job`. Kind: L -/
theorem find?_resume (hgo : ∀ row task, (go row task).row.isSome = row.isSome)
    (h : Dict.find? (s.resume k go).1.jobs jobId = some row') :
    Dict.find? s.jobs jobId = some row' ∧ (s.resume k go).1.tasks jobId = s.tasks jobId ∨
      jobId = k ∧ ∃ row task, Dict.find? s.jobs k = some row ∧ s.tasks k = some task ∧
        (go (some row) task).row = some row' ∧
        (s.resume k go).1.tasks k = some (go (some row) task).task := by
  unfold JobStore.resume at h ⊢
  cases htask : s.tasks k with
  | none =>
      rw [htask] at h
      exact .inl ⟨h, rfl⟩
  | some task =>
      rw [htask] at h
      dsimp only [JobStore.commit] at h ⊢
      by_cases hk : jobId = k
      · subst hk
        have hsome := hgo (Dict.find? s.jobs jobId) task
        cases hrow : (go (Dict.find? s.jobs jobId) task).row with
        | none =>
            rw [hrow, Option.elim_none] at h
            rw [hrow, h] at hsome
            cases hsome
        | some new =>
            rw [hrow, Option.elim_some, Dict.find?_set_self] at h
            obtain rfl : new = row' := Option.some.inj h
            rw [hrow] at hsome
            obtain ⟨row, hfound⟩ := Option.isSome_iff_exists.mp hsome.symm
            rw [hfound] at hrow ⊢
            exact .inr ⟨rfl, row, task, rfl, rfl, hrow, Function.update_self _ _ _⟩
      · refine .inl ⟨?_, Function.update_of_ne hk _ _⟩
        cases hrow : (go (Dict.find? s.jobs k) task).row with
        | none =>
            rw [hrow] at h
            exact h
        | some new =>
            rw [hrow, Option.elim_some, Dict.find?_set_of_ne hk] at h
            exact h

theorem length_resume (hgo : ∀ row task, (go row task).row.isSome = row.isSome) :
    (s.resume k go).1.jobs.rows.length = s.jobs.rows.length := by
  unfold JobStore.resume
  cases s.tasks k with
  | none => rfl
  | some task =>
      dsimp only [JobStore.commit]
      cases hrow : (go (Dict.find? s.jobs k) task).row with
      | none => rfl
      | some new =>
          refine Dict.length_set ?_
          intro hgone
          have hsome := hgo (Dict.find? s.jobs k) task
          rw [hrow, hgone] at hsome
          cases hsome

theorem drawn_resume : (s.resume k go).1.drawn = s.drawn := by
  unfold JobStore.resume
  cases s.tasks k <;> rfl

/-- **What a step can do to a row**: nothing, create it, or let its own task write it.
Source: `app/services/backtest_jobs.py` `BacktestJobService`. Kind: L -/
theorem find?_step (h : Dict.find? (service.step s e).1.jobs jobId = some row') :
    Dict.find? s.jobs jobId = some row' ∧ (service.step s e).1.tasks jobId = s.tasks jobId ∨
      (∃ request now, e = .start request now ∧ jobId = service.uuid4 s.drawn ∧
        row' = newRow jobId request now ∧
        (service.step s e).1.tasks jobId = some (.created request.toJobArgs)) ∨
      ∃ row task, Dict.find? s.jobs jobId = some row ∧ s.tasks jobId = some task ∧
        ((∃ now, e = .turn jobId now ∧
            (service.turn jobId now (some row) task).row = some row' ∧
            (service.step s e).1.tasks jobId =
              some (service.turn jobId now (some row) task).task) ∨
          ∃ outcome now, e = .answer jobId outcome now ∧
            (service.answered jobId now outcome (some row) task).row = some row' ∧
            (service.step s e).1.tasks jobId =
              some (service.answered jobId now outcome (some row) task).task) := by
  cases e with
  | start request now =>
      have hset := find?_of_trimJobs h
      by_cases hk : jobId = service.uuid4 s.drawn
      · subst hk
        rw [Dict.find?_set_self] at hset
        exact .inr (.inl ⟨request, now, rfl, rfl, (Option.some.inj hset).symm,
          Function.update_self _ _ _⟩)
      · rw [Dict.find?_set_of_ne hk] at hset
        exact .inl ⟨hset, Function.update_of_ne hk _ _⟩
  | turn k now =>
      rcases find?_resume isSome_turn h with hsame | ⟨rfl, row, task, hrow, htask, hnew, hnext⟩
      · exact .inl hsame
      · exact .inr (.inr ⟨row, task, hrow, htask, .inl ⟨now, rfl, hnew, hnext⟩⟩)
  | answer k outcome now =>
      rcases find?_resume isSome_answered h with hsame | ⟨rfl, row, task, hrow, htask, hnew, hnext⟩
      · exact .inl hsame
      · exact .inr (.inr ⟨row, task, hrow, htask, .inr ⟨outcome, now, rfl, hnew, hnext⟩⟩)

end service

/-! ## The invariant -/

/-- The requests of the jobs that were started, in their order. Source: none: infrastructure.
Kind: D -/
def requests (events : List JobEvent) : List JobRequest :=
  events.filterMap fun
    | .start request _ => some request
    | _ => none

/-- **The store and its tasks** after some events: every row belongs to a job that was started, and
fits the place where its task goes on. Source: `app/services/backtest_jobs.py`
`BacktestJobService`. Kind: D -/
structure Kept (service : BacktestJobService) (events : List JobEvent) (s : JobStore) : Prop where
  drawn : s.drawn = (requests events).length
  size : s.jobs.rows.length ≤ service.maxJobs.toNat
  rows : ∀ jobId row, Dict.find? s.jobs jobId = some row → ∃ n request task,
    jobId = service.uuid4 n ∧ (requests events)[n]? = some request ∧
      s.tasks jobId = some task ∧ Fits service request row task

/-- The alert sink raises for the completion of a job whose row is still stored.
Source: `app/services/backtest_jobs.py` `BacktestJobService._run_job`. Kind: D -/
def CompletionAlertFails (s : JobStore) (e : JobEvent) : Prop :=
  ∃ jobId exc now, e = .answer jobId (.error exc) now ∧
    s.tasks jobId = some .announcing ∧ Dict.find? s.jobs jobId ≠ none

section invariant

variable {s : JobStore} {e : JobEvent} {events : List JobEvent}

theorem requests_append (us vs : List JobEvent) :
    requests (us ++ vs) = requests us ++ requests vs := List.filterMap_append

theorem requests_getElem?_append {us vs : List JobEvent} {n : ℕ}
    (h : (requests us)[n]? = some request) : (requests (us ++ vs))[n]? = some request := by
  obtain ⟨hn, -⟩ := List.getElem?_eq_some_iff.mp h
  rw [requests_append, List.getElem?_append_left hn, h]

theorem newRow_fits (service : BacktestJobService) (jobId now : String) (request : JobRequest) :
    Fits service request (newRow jobId request now) (.created request.toJobArgs) := by
  refine ⟨⟨⟨le_rfl, by norm_num [newRow]⟩, ?_, ?_, ?_⟩, rfl, rfl, rfl, rfl, rfl⟩
  · show JobStatus.queued = .completed → _
    intro h
    cases h
  · show JobStatus.queued = .failed → _
    intro h
    cases h
  · intro result
    show none = some result → _
    intro h
    cases h

theorem Kept.init (service : BacktestJobService) : Kept service [] {} where
  drawn := rfl
  size := Nat.zero_le _
  rows jobId row h := absurd h (by simp)

/-- **A step keeps the store.** Source: `app/services/backtest_jobs.py` `BacktestJobService`.
Kind: L -/
theorem Kept.step (h : Kept service events s) (e : JobEvent) :
    Kept service (events ++ [e]) (service.step s e).1 where
  drawn := by
    rw [requests_append, List.length_append, ← h.drawn]
    cases e with
    | start request now => rfl
    | turn jobId now => exact drawn_resume
    | answer jobId outcome now => exact drawn_resume
  size := by
    cases e with
    | start request now => exact length_trimJobs _ _
    | turn jobId now => exact (length_resume isSome_turn).trans_le h.size
    | answer jobId outcome now => exact (length_resume isSome_answered).trans_le h.size
  rows jobId row' hrow' := by
    rcases find?_step hrow' with ⟨hrow, htask⟩ | ⟨request, now, rfl, rfl, rfl, htask⟩ |
      ⟨row, task, hrow, htask, hown⟩
    · obtain ⟨n, request, task, hid, hreq, htask', hfits⟩ := h.rows jobId row' hrow
      exact ⟨n, request, task, hid, requests_getElem?_append hreq, htask.trans htask', hfits⟩
    · refine ⟨s.drawn, request, _, rfl, ?_, htask, newRow_fits service _ now request⟩
      rw [requests_append, h.drawn, List.getElem?_append_right le_rfl, Nat.sub_self]
      rfl
    · obtain ⟨n, request, task', hid, hreq, htask', hfits⟩ := h.rows jobId row hrow
      obtain rfl : task' = task := Option.some.inj (htask'.symm.trans htask)
      suffices hgoes : ∃ next, (service.step s e).1.tasks jobId = some next ∧
          Fits service request row' next by
        obtain ⟨next, hnext, hfits'⟩ := hgoes
        exact ⟨n, request, next, hid, requests_getElem?_append hreq, hnext, hfits'⟩
      rcases hown with ⟨now, rfl, hnew, hnext⟩ | ⟨outcome, now, rfl, hnew, hnext⟩
      · obtain ⟨row'', hrow'', hfits', -⟩ := turn_fits jobId now hfits
        obtain rfl : row'' = row' := Option.some.inj (hrow''.symm.trans hnew)
        exact ⟨_, hnext, hfits'⟩
      · obtain ⟨row'', hrow'', hfits', -⟩ := answered_fits jobId now outcome hfits
        obtain rfl : row'' = row' := Option.some.inj (hrow''.symm.trans hnew)
        exact ⟨_, hnext, hfits'⟩

/-- **How a row moves in a step**: it is new and queued, or it was there and moves forward, unless the
alert of its completion fails. Source: `app/services/backtest_jobs.py` `BacktestJobService`.
Kind: L -/
theorem Kept.row_step (h : Kept service events s)
    (hrow' : Dict.find? (service.step s e).1.jobs jobId = some row') :
    (jobId = service.uuid4 s.drawn ∧ row'.status = .queued ∧ row'.progress = 0) ∨
      ∃ row, Dict.find? s.jobs jobId = some row ∧ row.progress ≤ row'.progress ∧
        (row'.status = row.status ∨ JobStatus.Next row.status row'.status ∨
          CompletionAlertFails s e) := by
  rcases find?_step hrow' with ⟨hrow, -⟩ | ⟨request, now, -, hid, rfl, -⟩ |
    ⟨row, task, hrow, htask, hown⟩
  · exact .inr ⟨row', hrow, le_rfl, .inl rfl⟩
  · exact .inl ⟨hid, rfl, rfl⟩
  · obtain ⟨n, request, task', -, -, htask', hfits⟩ := h.rows jobId row hrow
    obtain rfl : task' = task := Option.some.inj (htask'.symm.trans htask)
    refine .inr ⟨row, hrow, ?_⟩
    rcases hown with ⟨now, rfl, hnew, -⟩ | ⟨outcome, now, rfl, hnew, -⟩
    · obtain ⟨row'', hrow'', -, hstatus, hle⟩ := turn_fits jobId now hfits
      obtain rfl : row'' = row' := Option.some.inj (hrow''.symm.trans hnew)
      exact ⟨hle, hstatus.imp_right .inl⟩
    · obtain ⟨row'', hrow'', -, hstatus, hprogress⟩ := answered_fits jobId now outcome hfits
      obtain rfl : row'' = row' := Option.some.inj (hrow''.symm.trans hnew)
      refine ⟨hprogress.ge, hstatus.imp_right ?_⟩
      rintro ⟨rfl, herror, -⟩
      cases outcome with
      | ok sent => cases herror
      | error exc => exact .inr ⟨jobId, exc, now, rfl, htask, by simp [hrow]⟩

end invariant

/-! ## Runs -/

section runs

variable (service : BacktestJobService)

/-- The store after some events. Source: none: infrastructure. Kind: D -/
def reached (events : List JobEvent) : JobStore := service.machine.after {} events

/-- The row of a job after some events. Source: none: infrastructure. Kind: D -/
def rowAfter (events : List JobEvent) (jobId : String) : Option JobRow :=
  Dict.find? (service.reached events).jobs jobId

/-- **An orderly run.** Rows appear queued, move forward step by step, never leave a final status and
never lose progress; every row that is stored is sound for the request of its own job; and the store
is no larger than `max_jobs`. Source: `app/services/backtest_jobs.py` `BacktestJobService`.
Kind: D -/
structure Orderly (events : List JobEvent) : Prop where
  appears : ∀ us e vs, events = us ++ e :: vs → ∀ jobId row',
    service.rowAfter us jobId = none → service.rowAfter (us ++ [e]) jobId = some row' →
    row'.status = .queued ∧ row'.progress = 0
  moves : ∀ us e vs, events = us ++ e :: vs → ∀ jobId row row',
    service.rowAfter us jobId = some row → service.rowAfter (us ++ [e]) jobId = some row' →
    row'.status = row.status ∨ JobStatus.Next row.status row'.status
  final : ∀ us vs ws, events = us ++ vs ++ ws → ∀ jobId row row',
    service.rowAfter us jobId = some row → service.rowAfter (us ++ vs) jobId = some row' →
    row.status.Final → row'.status = row.status
  progress : ∀ us vs ws, events = us ++ vs ++ ws → ∀ jobId row row',
    service.rowAfter us jobId = some row → service.rowAfter (us ++ vs) jobId = some row' →
    row.progress ≤ row'.progress
  sound : ∀ us vs, events = us ++ vs → ∀ jobId row, service.rowAfter us jobId = some row →
    ∃ n request, jobId = service.uuid4 n ∧ (requests us)[n]? = some request ∧
      Sound service.sqrt request row
  size : ∀ us vs, events = us ++ vs →
    (service.reached us).jobs.rows.length ≤ service.maxJobs.toNat

/-- No exception of the alert sink meets the row of a completed job.
Source: `app/services/backtest_jobs.py` `BacktestJobService._run_job`. Kind: D -/
def CompletionsAnnounced (events : List JobEvent) : Prop :=
  ∀ us e vs, events = us ++ e :: vs → ¬ CompletionAlertFails (service.reached us) e

variable {us vs : List JobEvent} {e : JobEvent}

theorem reached_append_singleton :
    service.reached (us ++ [e]) = (service.step (service.reached us) e).1 :=
  Machine.after_append us [e]

/-- **The invariant of runs.** Source: `app/services/backtest_jobs.py` `BacktestJobService`.
Kind: P -/
theorem kept (events : List JobEvent) : Kept service events (service.reached events) := by
  induction events using List.reverseRecOn with
  | nil => exact Kept.init service
  | append_singleton us e ih =>
      rw [reached_append_singleton]
      exact ih.step e

variable {service}

/-- How a row moves in a step of a run. Source: `app/services/backtest_jobs.py`
`BacktestJobService`. Kind: L -/
theorem row_step (h : service.rowAfter (us ++ [e]) jobId = some row') :
    (jobId = service.uuid4 (service.reached us).drawn ∧ row'.status = .queued ∧
        row'.progress = 0) ∨
      ∃ row, service.rowAfter us jobId = some row ∧ row.progress ≤ row'.progress ∧
        (row'.status = row.status ∨ JobStatus.Next row.status row'.status ∨
          CompletionAlertFails (service.reached us) e) := by
  unfold rowAfter at h
  rw [reached_append_singleton] at h
  exact (kept service us).row_step h

/-- An identifier that was drawn is not drawn again. Source: `app/services/backtest_jobs.py`
`BacktestJobService.start_job`. Kind: L -/
theorem ne_uuid4_of_rowAfter (vs : List JobEvent) (h : service.rowAfter us jobId = some row) :
    jobId ≠ service.uuid4 (service.reached (us ++ vs)).drawn := by
  obtain ⟨n, request, -, rfl, hreq, -⟩ := (kept service us).rows jobId row h
  obtain ⟨hn, -⟩ := List.getElem?_eq_some_iff.mp hreq
  intro heq
  have hn' := service.uuid4.injective heq
  rw [(kept service (us ++ vs)).drawn, requests_append, List.length_append] at hn'
  omega

/-- **A row that is still stored** is related to what it was, by whatever the steps keep.
Source: none: infrastructure. Kind: L -/
theorem rowAfter_related {R : JobRow → JobRow → Prop} (refl : ∀ a, R a a)
    (trans : ∀ a b c, R a b → R b c → R a c)
    (step : ∀ ws e, (∃ xs, vs = ws ++ e :: xs) → ∀ row row',
      service.rowAfter (us ++ ws) jobId = some row →
      service.rowAfter (us ++ ws ++ [e]) jobId = some row' → R row row')
    (h : service.rowAfter us jobId = some row)
    (h' : service.rowAfter (us ++ vs) jobId = some row') : R row row' := by
  induction vs using List.reverseRecOn generalizing row' with
  | nil =>
      rw [List.append_nil, h] at h'
      cases h'
      exact refl row
  | append_singleton ws e ih =>
      rw [← List.append_assoc] at h'
      -- a row that was dropped never comes back, so this one was there before the last step
      rcases row_step h' with ⟨hnew, -⟩ | ⟨mid, hmid, -⟩
      · exact absurd hnew (ne_uuid4_of_rowAfter ws h)
      · refine trans _ mid _ (ih ?_ hmid) (step ws e ⟨[], rfl⟩ mid row' hmid h')
        rintro xs f ⟨ys, rfl⟩
        exact step xs f ⟨ys ++ [e], by simp⟩

/-- How a row moves in a step that it is stored before and after.
Source: `app/services/backtest_jobs.py` `BacktestJobService`. Kind: L -/
theorem row_step_of_stored (h : service.rowAfter us jobId = some row)
    (h' : service.rowAfter (us ++ [e]) jobId = some row') :
    row.progress ≤ row'.progress ∧
      (row'.status = row.status ∨ JobStatus.Next row.status row'.status ∨
        CompletionAlertFails (service.reached us) e) := by
  rcases row_step h' with ⟨hnew, -⟩ | ⟨old, hold, hmoved⟩
  · have hne := ne_uuid4_of_rowAfter [] h
    rw [List.append_nil] at hne
    exact absurd hnew hne
  · obtain rfl : old = row := Option.some.inj (hold.symm.trans h)
    exact hmoved

theorem progress_le (h : service.rowAfter us jobId = some row)
    (h' : service.rowAfter (us ++ vs) jobId = some row') : row.progress ≤ row'.progress := by
  refine rowAfter_related (R := fun a b => a.progress ≤ b.progress) (fun _ => le_rfl)
    (fun _ _ _ => le_trans) ?_ h h'
  intro ws e _ mid mid' hmid hmid'
  exact (row_step_of_stored hmid hmid').1

theorem status_moves (hfails : ¬ CompletionAlertFails (service.reached us) e)
    (h : service.rowAfter us jobId = some row)
    (h' : service.rowAfter (us ++ [e]) jobId = some row') :
    row'.status = row.status ∨ JobStatus.Next row.status row'.status := by
  rcases (row_step_of_stored h h').2 with hsame | hnext | hfails'
  · exact .inl hsame
  · exact .inr hnext
  · exact absurd hfails' hfails

/-- A completed job whose alert fails is failed. Source: `app/services/backtest_jobs.py`
`BacktestJobService._run_job`. Kind: L -/
theorem failed_of_completionAlertFails (h : CompletionAlertFails (service.reached us) e) :
    ∃ jobId row row', service.rowAfter us jobId = some row ∧ row.status = .completed ∧
      service.rowAfter (us ++ [e]) jobId = some row' ∧ row'.status = .failed := by
  obtain ⟨jobId, exc, now, rfl, htask, hstored⟩ := h
  obtain ⟨row, hrow⟩ := Option.ne_none_iff_exists'.mp hstored
  obtain ⟨n, request, task, -, -, htask', hfits⟩ := (kept service us).rows jobId row hrow
  obtain rfl : .announcing = task := Option.some.inj (htask.symm.trans htask')
  obtain ⟨row', hrow', -, hfailed, -⟩ := fail_fits jobId now exc hfits.1
  refine ⟨jobId, row, row', hrow, hfits.2, ?_, hfailed⟩
  have hfound : Dict.find? (service.reached us).jobs jobId = some row := hrow
  have hstep : (service.step (service.reached us) (.answer jobId (.error exc) now)).1 =
      (service.reached us).commit jobId (service.fail jobId now exc (some row)) := by
    rw [← hfound]
    exact fst_resume htask
  unfold rowAfter
  rw [reached_append_singleton, hstep]
  exact find?_commit_self hrow'

end runs

/-- **Backtest jobs are orderly if and only if no completion alert fails.** The computation, the store
and the other jobs never break the order; an exception of the sink that meets a completed job does.
Source: `app/services/backtest_jobs.py` `BacktestJobService`. Kind: P -/
theorem orderly_iff (service : BacktestJobService) (events : List JobEvent) :
    Orderly service events ↔ CompletionsAnnounced service events := by
  constructor
  · intro h us e vs hcut hfails
    obtain ⟨jobId, row, row', hrow, hcompleted, hrow', hfailed⟩ :=
      failed_of_completionAlertFails hfails
    have hmoved := h.moves us e vs hcut jobId row row' hrow hrow'
    rw [hcompleted, hfailed] at hmoved
    exact hmoved.elim (by decide) id
  · intro h
    refine ⟨?_, ?_, ?_, ?_, ?_, ?_⟩
    · intro us e vs _ jobId row' hgone hrow'
      rcases row_step hrow' with ⟨-, hqueued⟩ | ⟨row, hrow, -⟩
      · exact hqueued
      · rw [hgone] at hrow
        cases hrow
    · intro us e vs hcut jobId row row'
      exact status_moves (h us e vs hcut)
    · intro us vs ws hcut jobId row row' hrow hrow'
      refine rowAfter_related (R := fun a b => a.status.Final → b.status = a.status)
        (fun _ _ => rfl) ?_ ?_ hrow hrow'
      · intro a b c hab hbc ha
        rw [hbc (by rw [hab ha]; exact ha), hab ha]
      · rintro xs e ⟨ys, rfl⟩ mid mid' hmid hmid' hfinal
        have hfails := h (us ++ xs) e (ys ++ ws) (by rw [hcut]; simp)
        exact (status_moves hfails hmid hmid').resolve_right (JobStatus.not_next_of_final hfinal)
    · intro us vs _ _ jobId row row'
      exact progress_le
    · intro us vs _ jobId row hrow
      obtain ⟨n, request, -, hid, hreq, -, hsound, -⟩ := (kept service us).rows jobId row hrow
      exact ⟨n, request, hid, hreq, hsound⟩
    · intro us vs _
      exact (kept service us).size

/-- A service whose sink raises. Source: none: infrastructure. Kind: D -/
def announcedService : BacktestJobService where
  alertSink := true
  uuid4 :=
    { toFun := fun n => String.ofList (List.replicate (n + 8) '0')
      inj' := fun m n h => by
        have hlen := congrArg List.length (String.ofList_injective h)
        simpa using hlen }
  round := OrderHom.id
  sqrt := id

/-- A job without signals: it starts, completes, and the sink raises.
Source: none: infrastructure. Kind: D -/
def failedAlertRun : List JobEvent :=
  [.start { candles := [], signals := [] } "t0", .turn "00000000" "t1", .turn "00000000" "t2",
    .answer "00000000" (.error (.other "network")) "t3"]

/-- **A completed job that becomes a failed one.** Source: `app/services/backtest_jobs.py`
`BacktestJobService._run_job`. Kind: C -/
theorem completed_then_failed : ¬ Orderly announcedService failedAlertRun := by
  intro h
  have hstatus : ∀ (us : List JobEvent) (status : JobStatus),
      (announcedService.rowAfter us "00000000").map JobRow.status = some status →
        ∃ row, announcedService.rowAfter us "00000000" = some row ∧ row.status = status :=
    fun us status hmap => Option.map_eq_some_iff.mp hmap
  obtain ⟨row, hrow, hcompleted⟩ := hstatus (failedAlertRun.take 3) .completed (by decide +kernel)
  obtain ⟨row', hrow', hfailed⟩ := hstatus failedAlertRun .failed (by decide +kernel)
  have hmoved := h.moves (failedAlertRun.take 3) _ [] rfl "00000000" row row' hrow hrow'
  rw [hcompleted, hfailed] at hmoved
  exact hmoved.elim (by decide) id

end BacktestJobService

end HaruTrade
