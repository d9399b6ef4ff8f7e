import HaruTrade.Coroutine.Recording
import HaruTrade.Core.TimeSync
import HaruTrade.Services.LoopRuntime

/-!
# The synchronisation of the clock inside the cycle

A cycle runs the synchronisation before the market opens between Loop A and Loop B. The synchronisation
itself takes a failed read well: it keeps the offset and waits before it tries again. The cycle does
not: the exception of the read is the exception of the cycle.

* `Kept` — what holds of the reads made so far; `kept_afterCycles`, for every sequence of cycles.
* `Survives` — a cycle goes on after the synchronisation, whatever that did.
* `survives_iff` — **a cycle goes on exactly when the read of the broker's clock succeeds.**
* `clock_sync_iff` — the two together, for every sequence of cycles.
* `clock_sync_fails` — at ten to eight the broker's clock cannot be read, and no ticker is scanned.
-/

namespace HaruTrade

open Coro OrderService LoopRuntimeCoordinator

/-! ## The cycle's calls with the clock -/

namespace ClockReadings

variable (r : ClockReadings)

/-- Did the broker answer? Source: none: infrastructure. Kind: D -/
def succeeded : Bool := r.reply.toOption.isSome

/-- The last reading of the local clock: after the reply, unless the read failed.
Source: `app/core/time_sync.py` `TimeSyncService.sync_offset_seconds`. Kind: D -/
def ended : ℤ := if r.succeeded then r.later else r.now

/-- The read began or ended on the date, in the time zone. Source: none: infrastructure. Kind: D -/
def On (zone date : ℤ) : Prop :=
  localDate (astimezone r.now zone) = date ∨ localDate (astimezone r.later zone) = date

end ClockReadings

/-- The shared state with the service; `clock` is what the local clock showed last, and `reads` are the
reads of the broker's clock, oldest first: ghosts. Source: none: infrastructure. Kind: D -/
structure ClockWorld where
  world : World
  sync : TimeSyncService
  clock : ℤ
  reads : List ClockReadings

/-- What the clocks show at a call, and what other tasks did to the shared state before it.
Source: none: infrastructure. Kind: D -/
structure ClockAnswer where
  answer : Answer := {}
  meanwhile : World → World := id
  readings : ClockReadings

namespace ClockWorld

variable (cfg : PreMarket)

/-- The hook of the cycle. Source: `app/services/runtime_factory.py` `build_runtime_bundle`.
Kind: D -/
def preLoopBHook (r : ClockReadings) (s : ClockWorld) : Except Exn Unit × ClockWorld :=
  let (result, sync) := s.sync.syncIfDuePreMarket cfg r
  (result.map fun _ => (),
    if s.sync.due cfg r.now then
      { s with sync := sync, clock := r.ended, reads := s.reads ++ [r] }
    else
      { s with sync := sync, clock := r.now })

/-- How a call is answered: the hook by the service, the others as ever.
Source: none: infrastructure. Kind: D -/
def exec : (e : Op) → ClockAnswer → ClockWorld → Resp e × ClockWorld
  | .preLoopBHook, a, s => preLoopBHook cfg a.readings { s with world := a.meanwhile s.world }
  | e, a, s =>
      let (r, w) := HaruTrade.exec e a.answer (a.meanwhile s.world)
      (r, { s with world := w })

/-- The state with the record of the calls. Source: none: infrastructure. Kind: D -/
abbrev Recorded : Type := ClockWorld × List (Exchange Resp)

/-- What the surroundings answer: it may depend on everything that was called before.
Source: none: infrastructure. Kind: D -/
abbrev Surroundings : Type := Op → Recorded → ClockAnswer

variable (strategies : List Strategy) (env : Surroundings)

/-- A cycle: how it ends and the state it leaves. Source: `app/services/loop_runtime.py`
`LoopRuntimeCoordinator.run_cycle`. Kind: D -/
def cycle (s : Recorded) : Except Exn CycleReport × Recorded :=
  (runCycle strategies).eval (recording (exec cfg)) env s

/-- **The state after a number of cycles.** Source: `app/services/loop_runtime.py`
`LoopRuntimeCoordinator.run_cycle`. Kind: D -/
def afterCycles (start : Recorded) : ℕ → Recorded
  | 0 => start
  | n + 1 => (cycle cfg strategies env (afterCycles start n)).2

/-- The local clock does not go back at the call. Source: none: infrastructure. Kind: D -/
def Forward (e : Op) (a : ClockAnswer) (s : Recorded) : Prop :=
  e = .preLoopBHook → s.1.clock ≤ a.readings.now ∧ a.readings.now ≤ a.readings.later

/-- The check that decides `Forward`. Source: none: infrastructure. Kind: D -/
def clockForward (e : Op) (s : Recorded) : Bool :=
  match e with
  | .preLoopBHook =>
      s.1.clock ≤ (env e s).readings.now && (env e s).readings.now ≤ (env e s).readings.later
  | _ => true

/-- The local clock does not go back in a cycle. Source: none: infrastructure. Kind: D -/
def ClockForward (s : Recorded) : Prop :=
  (runCycle strategies).checked (recording (exec cfg)) env (clockForward env) s = true

instance (s : Recorded) : Decidable (ClockForward cfg strategies env s) :=
  inferInstanceAs (Decidable (_ = true))

/-- If the cycle reads the broker's clock, the read succeeds. Source: none: infrastructure. Kind: D -/
def ReadSucceeds (s : Recorded) : Prop :=
  ∀ loopA s₁, LoopARunner.runOnce.eval (recording (exec cfg)) env s = (.ok loopA, s₁) →
    s₁.1.sync.due cfg (env .preLoopBHook s₁).readings.now = true →
      (env .preLoopBHook s₁).readings.succeeded = true

/-! ## What is kept -/

/-- The offset that reads leave: what the last one that succeeded made it.
Source: `app/core/time_sync.py` `TimeSyncService.sync_offset_seconds`. Kind: D -/
def offsetAfter (zone : ℤ) (offset : ℤ) (reads : List ClockReadings) : ℤ :=
  reads.foldl (fun offset r => match r.reply with
    | .error _ => offset
    | .ok serverNow => astimezone (serverNow.instant zone) zone - astimezone r.later zone) offset

/-- **What holds of the reads made so far**, when the service was in state `first` before them.
Source: `app/core/time_sync.py` `TimeSyncService`. Kind: D -/
structure Kept (first : TimeSyncService) (s : ClockWorld) : Prop where
  /-- The offset is the one of the last read that succeeded. -/
  offset : s.sync.offset = offsetAfter first.zone first.offset s.reads
  /-- No two reads that succeeded touch one date. -/
  oncePerDate : (s.reads.filter ClockReadings.succeeded).Pairwise fun r r' =>
    ∀ date, ¬ (r.On first.zone date ∧ r'.On first.zone date)
  /-- Reads begin at least the pause apart. -/
  apart : s.reads.Pairwise fun r r' => r.now + cfg.minRetry ≤ r'.now

/-- What carries `Kept` through a run: how the service remembers the reads.
Source: `app/core/time_sync.py` `TimeSyncService`. Kind: D -/
structure Inv (first : TimeSyncService) (s : ClockWorld) : Prop extends Kept cfg first s where
  zone : s.sync.zone = first.zone
  attempted : ∀ r ∈ s.reads, ∃ last, s.sync.lastAttemptAt = some last ∧
    astimezone r.now first.zone ≤ last
  synced : ∀ r ∈ s.reads, r.succeeded = true → ∃ t,
    s.sync.lastSyncedDate = some (localDate (astimezone t first.zone)) ∧
      r.now ≤ t ∧ r.later ≤ t ∧ t ≤ s.clock

variable {cfg strategies env} {first : TimeSyncService} {s : ClockWorld} {r r' : ClockReadings}

theorem offsetAfter_append (zone offset : ℤ) (reads : List ClockReadings) :
    offsetAfter zone offset (reads ++ [r]) = match r.reply with
      | .error _ => offsetAfter zone offset reads
      | .ok serverNow => astimezone (serverNow.instant zone) zone - astimezone r.later zone := by
  rw [offsetAfter, List.foldl_append]
  rfl

theorem localDate_mono {t t' zone : ℤ} (h : t ≤ t') :
    localDate (astimezone t zone) ≤ localDate (astimezone t' zone) := by
  refine Int.ediv_le_ediv (by norm_num) ?_
  rw [astimezone, astimezone]
  omega

theorem Inv.start (world : World) (sync : TimeSyncService) (clock : ℤ) :
    Inv cfg sync ⟨world, sync, clock, []⟩ where
  offset := rfl
  oncePerDate := List.Pairwise.nil
  apart := List.Pairwise.nil
  zone := rfl
  attempted := by simp
  synced := by simp

/-- Only the clock, the reads and the service matter. Source: none: infrastructure. Kind: L -/
theorem Inv.congr {s' : ClockWorld} (h : Inv cfg first s) (hsync : s'.sync = s.sync)
    (hreads : s'.reads = s.reads) (hclock : s.clock ≤ s'.clock) : Inv cfg first s' where
  offset := by rw [hsync, hreads]; exact h.offset
  oncePerDate := by rw [hreads]; exact h.oncePerDate
  apart := by rw [hreads]; exact h.apart
  zone := by rw [hsync]; exact h.zone
  attempted := by rw [hsync, hreads]; exact h.attempted
  synced := by
    rw [hsync, hreads]
    intro r hr hsucceeded
    obtain ⟨t, hdate, hnow, hlater, hle⟩ := h.synced r hr hsucceeded
    exact ⟨t, hdate, hnow, hlater, hle.trans hclock⟩

/-- **A read is at least the pause later** than the ones before it. Source: `app/core/time_sync.py`
`TimeSyncService.sync_if_due_pre_market`. Kind: L -/
theorem Inv.apart_of_due (h : Inv cfg first s) (hdue : s.sync.due cfg r.now = true) :
    ∀ r' ∈ s.reads, r'.now + cfg.minRetry ≤ r.now := by
  intro r' hr'
  obtain ⟨last, hlast, hle⟩ := h.attempted r' hr'
  have hwait := (TimeSyncService.due_iff.mp hdue).2.2 last hlast
  rw [h.zone] at hwait
  rw [astimezone] at hle hwait
  omega

/-- **A read is made on a date on which none succeeded.** Source: `app/core/time_sync.py`
`TimeSyncService.sync_if_due_pre_market`. Kind: L -/
theorem Inv.fresh_of_due (h : Inv cfg first s) (hdue : s.sync.due cfg r.now = true)
    (hnow : s.clock ≤ r.now) (hlater : r.now ≤ r.later) :
    ∀ r' ∈ s.reads, r'.succeeded = true → ∀ date, ¬ (r'.On first.zone date ∧ r.On first.zone date) := by
  rintro r' hr' hsucceeded date ⟨hdate', hdate⟩
  obtain ⟨t, ht, hnow', hlater', hle⟩ := h.synced r' hr' hsucceeded
  have hne := (TimeSyncService.due_iff.mp hdue).2.1
  rw [h.zone, ht] at hne
  -- the earlier read is over by `t`, whose date is not the one of the new read
  have hbefore : localDate (astimezone t first.zone) < localDate (astimezone r.now first.zone) := by
    refine lt_of_le_of_ne (localDate_mono (hle.trans hnow)) fun heq => hne ?_
    rw [heq]
  have hle' : date ≤ localDate (astimezone t first.zone) := by
    rcases hdate' with rfl | rfl
    · exact localDate_mono hnow'
    · exact localDate_mono hlater'
  have hge : localDate (astimezone r.now first.zone) ≤ date := by
    rcases hdate with rfl | rfl
    · exact le_refl _
    · exact localDate_mono hlater
  omega

/-- The read is appended to reads that are all at least the pause before it.
Source: none: infrastructure. Kind: L -/
theorem Inv.apart_append (h : Inv cfg first s) (hdue : s.sync.due cfg r.now = true) :
    (s.reads ++ [r]).Pairwise fun r r' => r.now + cfg.minRetry ≤ r'.now := by
  rw [List.pairwise_append]
  refine ⟨h.apart, List.pairwise_singleton _ _, fun r' hr' r'' hr'' => ?_⟩
  rw [List.mem_singleton.mp hr'']
  exact h.apart_of_due hdue r' hr'

/-- No read began after the new one. Source: none: infrastructure. Kind: L -/
theorem Inv.now_le (h : Inv cfg first s) (hdue : s.sync.due cfg r.now = true) :
    ∀ r' ∈ s.reads ++ [r], r'.now ≤ r.now := by
  intro r' hr'
  rcases List.mem_append.mp hr' with hr' | hr'
  · have hpause := h.apart_of_due hdue r' hr'
    have hpos := cfg.minRetry_pos
    omega
  · rw [List.mem_singleton.mp hr']

/-- **A failed read** is remembered as an attempt, and changes nothing else.
Source: `app/core/time_sync.py` `TimeSyncService.sync_if_due_pre_market`. Kind: L -/
theorem Inv.failed {x : Exn} (h : Inv cfg first s) (hdue : s.sync.due cfg r.now = true)
    (hnow : s.clock ≤ r.now) (hreply : r.reply = .error x) :
    Inv cfg first { s with
      sync := { s.sync with lastAttemptAt := some (astimezone r.now s.sync.zone) }
      clock := r.ended, reads := s.reads ++ [r] } := by
  have hfailed : r.succeeded = false := by rw [ClockReadings.succeeded, hreply]; rfl
  have hended : r.ended = r.now := by rw [ClockReadings.ended, hfailed]; rfl
  refine ⟨⟨?_, ?_, h.apart_append hdue⟩, h.zone, ?_, ?_⟩
  · rw [offsetAfter_append, hreply]
    exact h.offset
  · rw [List.filter_append, List.filter_cons_of_neg (by simp [hfailed]), List.filter_nil,
      List.append_nil]
    exact h.oncePerDate
  · intro r' hr'
    have hle := h.now_le hdue r' hr'
    refine ⟨astimezone r.now s.sync.zone, rfl, ?_⟩
    rw [h.zone, astimezone, astimezone]
    omega
  · intro r' hr' hsucceeded
    rcases List.mem_append.mp hr' with hr' | hr'
    · obtain ⟨t, hdate, hnow', hlater', hle⟩ := h.synced r' hr' hsucceeded
      exact ⟨t, hdate, hnow', hlater', hended.ge.trans' (hle.trans hnow)⟩
    · rw [List.mem_singleton.mp hr', hfailed] at hsucceeded
      exact absurd hsucceeded (by simp)

/-- **A read that succeeds** is remembered with its date. Source: `app/core/time_sync.py`
`TimeSyncService.sync_offset_seconds`. Kind: L -/
theorem Inv.taken {serverNow : PyDatetime} (h : Inv cfg first s)
    (hdue : s.sync.due cfg r.now = true) (hnow : s.clock ≤ r.now) (hlater : r.now ≤ r.later)
    (hreply : r.reply = .ok serverNow) :
    Inv cfg first { s with
      sync := s.sync.syncOffsetSeconds serverNow r.later
      clock := r.ended, reads := s.reads ++ [r] } := by
  have hok : r.succeeded = true := by rw [ClockReadings.succeeded, hreply]; rfl
  have hended : r.ended = r.later := by rw [ClockReadings.ended, hok]; rfl
  refine ⟨⟨?_, ?_, h.apart_append hdue⟩, h.zone, ?_, ?_⟩
  · rw [offsetAfter_append, hreply, ← h.zone]
    rfl
  · rw [List.filter_append, List.filter_cons_of_pos (by simp [hok]), List.filter_nil,
      List.pairwise_append]
    refine ⟨h.oncePerDate, List.pairwise_singleton _ _, fun r' hr' r'' hr'' => ?_⟩
    rw [List.mem_filter] at hr'
    rw [List.mem_singleton.mp hr'']
    exact h.fresh_of_due hdue hnow hlater r' hr'.1 hr'.2
  · intro r' hr'
    have hle := h.now_le hdue r' hr'
    refine ⟨astimezone r.later s.sync.zone, rfl, ?_⟩
    rw [h.zone, astimezone, astimezone]
    omega
  · intro r' hr' hsucceeded
    refine ⟨r.later, ?_, (h.now_le hdue r' hr').trans hlater, ?_, hended.ge⟩
    · show some (localDate (astimezone r.later s.sync.zone)) = _
      rw [h.zone]
    · rcases List.mem_append.mp hr' with hr' | hr'
      · obtain ⟨t, -, -, hlater', hle⟩ := h.synced r' hr' hsucceeded
        omega
      · rw [List.mem_singleton.mp hr']

/-- **The hook keeps the invariant** when the local clock does not go back.
Source: `app/core/time_sync.py` `TimeSyncService.sync_if_due_pre_market`. Kind: P -/
theorem Inv.preLoopBHook (h : Inv cfg first s) (hnow : s.clock ≤ r.now) (hlater : r.now ≤ r.later) :
    Inv cfg first (ClockWorld.preLoopBHook cfg r s).2 := by
  rw [ClockWorld.preLoopBHook]
  by_cases hdue : s.sync.due cfg r.now = true
  · rw [TimeSyncService.syncIfDuePreMarket_of_due hdue]
    simp only [hdue, if_true]
    cases hreply : r.reply with
    | error x => exact h.failed hdue hnow hreply
    | ok serverNow => exact h.taken hdue hnow hlater hreply
  · obtain ⟨offset, hres⟩ := TimeSyncService.syncIfDuePreMarket_of_not_due (r := r)
      (Bool.eq_false_iff.mpr hdue)
    rw [hres]
    simp only [if_neg hdue]
    exact h.congr rfl rfl hnow

/-- **Every call keeps the invariant**, the hook when the local clock does not go back.
Source: none: infrastructure. Kind: L -/
theorem Inv.exec {e : Op} {a : ClockAnswer} (h : Inv cfg first s)
    (hclock : e = .preLoopBHook → s.clock ≤ a.readings.now ∧ a.readings.now ≤ a.readings.later) :
    Inv cfg first (ClockWorld.exec cfg e a s).2 := by
  cases e with
  | preLoopBHook =>
      obtain ⟨hnow, hlater⟩ := hclock rfl
      have hmoved : Inv cfg first { s with world := a.meanwhile s.world } :=
        h.congr rfl rfl (le_refl _)
      exact hmoved.preLoopBHook hnow hlater
  | _ => exact h.congr rfl rfl (le_refl _)

variable {s₀ : Recorded} {n : ℕ}

theorem forward_of_check {e : Op} {s : Recorded} (h : clockForward env e s = true) :
    Forward e (env e s) s := by
  rintro rfl
  simpa [clockForward] using h

/-- **The invariant holds after every sequence of cycles** in which the local clock does not go back.
Source: `app/core/time_sync.py` `TimeSyncService`. Kind: P -/
theorem inv_afterCycles (hstart : Inv cfg first s₀.1)
    (hclock : ∀ k < n, ClockForward cfg strategies env (afterCycles cfg strategies env s₀ k)) :
    Inv cfg first (afterCycles cfg strategies env s₀ n).1 := by
  induction n with
  | zero => exact hstart
  | succ n ih =>
      have hbefore := ih fun k hk => hclock k (hk.trans n.lt_succ_self)
      have hforward : ∀ (e : Op) (s : Recorded), clockForward env e s = true →
          Forward e (env e s) s := fun _ _ => forward_of_check
      have hrun := exec_of_checked (recording (ClockWorld.exec cfg)) hforward
        (hclock n n.lt_succ_self)
      exact Exec.invariant (I := fun s : Recorded => Inv cfg first s.1) (fun e a s ha h => h.exec ha)
        hrun hbefore

/-! ## The rest of the cycle -/

/-- What a cycle does after the hook: Loop B for every tracked ticker, Loop C when it is due, and the
report with what Loop A found. Source: `app/services/loop_runtime.py`
`LoopRuntimeCoordinator.run_cycle`. Kind: D -/
def afterHook (strategies : List Strategy) (loopA : LoopAResult) : Prog CycleReport := do
  let tickers ← loadTrackingTickers
  let loopBSignals ← runLoopB strategies tickers 0
  let now ← ask .now
  let loopCRan ← ask (.shouldRunLoopC now)
  if loopCRan then
    orRaise (ask .loopC)
  return { ok := true, loopA, loopBSignals, loopCRan }

/-- The report of a cycle that raised. Source: `app/services/loop_runtime.py`
`LoopRuntimeCoordinator.run_cycle`. Kind: D -/
def failed (x : Exn) : Prog CycleReport := do
  critical "loop_cycle_failed" x.str
  return {
    ok := false
    loopA := { executedSignal := false, monitoredPositions := 0, closedPositions := 0,
               failedCloseOrders := 0 }
    loopBSignals := 0
    loopCRan := false
    error := some x.str }

/-- A cycle is Loop A, the hook and the rest. Source: `app/services/loop_runtime.py`
`LoopRuntimeCoordinator.run_cycle`. Kind: L -/
theorem runCycle_eq : runCycle strategies =
    (LoopARunner.runOnce.bind fun loopA =>
      (orRaise (ask .preLoopBHook)).bind fun _ => afterHook strategies loopA).tryCatch failed := rfl

/-- **A cycle goes on after the synchronisation**, whatever that did: after Loop A it does what the rest
of a cycle does from the state that the hook leaves, and unless the rest raises, it reports a success
with what Loop A found. Source: `app/services/loop_runtime.py` `LoopRuntimeCoordinator.run_cycle`.
Kind: D -/
def Survives (cfg : PreMarket) (strategies : List Strategy) (env : Surroundings) (s : Recorded) :
    Prop :=
  ∀ loopA s₁, LoopARunner.runOnce.eval (recording (exec cfg)) env s = (.ok loopA, s₁) →
    let s₂ := (recording (exec cfg) .preLoopBHook (env .preLoopBHook s₁) s₁).2
    cycle cfg strategies env s =
        ((afterHook strategies loopA).tryCatch failed).eval (recording (exec cfg)) env s₂ ∧
      ∀ report s', (afterHook strategies loopA).eval (recording (exec cfg)) env s₂ =
          (.ok report, s') →
        cycle cfg strategies env s = (.ok report, s') ∧ report.ok = true ∧ report.loopA = loopA

variable {s : Recorded}

/-- The hook's answer and the state it leaves. Source: none: infrastructure. Kind: D -/
def hooked (cfg : PreMarket) (env : Surroundings) (s : Recorded) : Except Exn Unit × Recorded :=
  recording (exec cfg) .preLoopBHook (env .preLoopBHook s) s

/-- **The hook raises exactly when the read fails.** Source: `app/core/time_sync.py`
`TimeSyncService.sync_if_due_pre_market`. Kind: L -/
theorem hooked_ok_iff : (hooked cfg env s).1 = .ok () ↔
    (s.1.sync.due cfg (env .preLoopBHook s).readings.now = true →
      (env .preLoopBHook s).readings.succeeded = true) := by
  show ((s.1.sync.syncIfDuePreMarket cfg (env .preLoopBHook s).readings).1.map fun _ => ()) = .ok () ↔ _
  by_cases hdue : s.1.sync.due cfg (env .preLoopBHook s).readings.now = true
  · rw [TimeSyncService.syncIfDuePreMarket_of_due hdue, ClockReadings.succeeded]
    cases (env .preLoopBHook s).readings.reply with
    | error x => simp [hdue, Except.map, Except.toOption]
    | ok serverNow => simp [Except.map, Except.toOption]
  · obtain ⟨offset, hres⟩ := TimeSyncService.syncIfDuePreMarket_of_not_due
      (r := (env .preLoopBHook s).readings) (Bool.eq_false_iff.mpr hdue)
    rw [hres]
    simp [hdue, Except.map]

/-- **A cycle whose Loop A returns** goes on with the rest, or fails with the exception of the hook.
Source: `app/services/loop_runtime.py` `LoopRuntimeCoordinator.run_cycle`. Kind: L -/
theorem cycle_of_loopA {loopA : LoopAResult} {s₁ : Recorded}
    (hA : LoopARunner.runOnce.eval (recording (exec cfg)) env s = (.ok loopA, s₁)) :
    cycle cfg strategies env s = match (hooked cfg env s₁).1 with
      | .ok _ => ((afterHook strategies loopA).tryCatch failed).eval (recording (exec cfg)) env
          (hooked cfg env s₁).2
      | .error x => (failed x).eval (recording (exec cfg)) env (hooked cfg env s₁).2 := by
  rw [cycle, runCycle_eq, eval_tryCatch, eval_bind, hA]
  simp only [orRaise, perform_bind, call_bind, eval_call, hooked]
  generalize recording (exec cfg) .preLoopBHook (env .preLoopBHook s₁) s₁ = answered
  obtain ⟨result, s₂⟩ := answered
  cases result with
  | error x => rfl
  | ok _ =>
      rw [ofExcept_ok_bind, eval_tryCatch]

/-- What the rest returns is a success with what Loop A found. Source: `app/services/loop_runtime.py`
`LoopRuntimeCoordinator.run_cycle`. Kind: L -/
theorem afterHook_reports {loopA : LoopAResult} {report : CycleReport} {s' : Recorded}
    (h : (afterHook strategies loopA).eval (recording (exec cfg)) env s = (.ok report, s')) :
    report.ok = true ∧ report.loopA = loopA := by
  have hrun := (exec_iff_eval (recording (exec cfg))).mpr h
  rcases exec_bind_iff.mp hrun with ⟨tickers, s₁, -, hloopB⟩ | ⟨x, hx, -⟩
  · rcases exec_bind_iff.mp hloopB with ⟨n, s₂, -, hnow⟩ | ⟨x, hx, -⟩
    · obtain ⟨a, -, hdue⟩ := exec_call_iff.mp hnow
      obtain ⟨b, -, hloopC⟩ := exec_call_iff.mp hdue
      simp only [ret_bind] at hloopC
      split at hloopC
      · rcases exec_bind_iff.mp hloopC with ⟨u, s₃, -, hret⟩ | ⟨x, hx, -⟩
        · obtain ⟨hreport, -⟩ := exec_ret_iff.mp hret
          rw [Except.ok.inj hreport]
          exact ⟨rfl, rfl⟩
        · exact absurd hx (by simp)
      · obtain ⟨hreport, -⟩ := exec_ret_iff.mp hloopC
        rw [Except.ok.inj hreport]
        exact ⟨rfl, rfl⟩
    · exact absurd hx (by simp)
  · exact absurd hx (by simp)

/-- A cycle that failed is not one that went on: it calls the safety service and not the database.
Source: `app/services/loop_runtime.py` `LoopRuntimeCoordinator.run_cycle`. Kind: L -/
theorem failed_ne_afterHook {loopA : LoopAResult} {x : Exn} :
    (failed x).eval (recording (exec cfg)) env s ≠
      ((afterHook strategies loopA).tryCatch failed).eval (recording (exec cfg)) env s := by
  intro heq
  obtain ⟨r, l, hfailed⟩ : ∃ r l, ((failed x).eval (recording (exec cfg)) env s).2.2 =
      s.2 ++ ⟨.critical "loop_cycle_failed" x.str, r⟩ :: l := exists_record_call
  obtain ⟨r', l', hrest⟩ : ∃ r l, (((afterHook strategies loopA).tryCatch failed).eval
      (recording (exec cfg)) env s).2.2 = s.2 ++ ⟨.openSession .tickers, r⟩ :: l := exists_record_call
  rw [heq, hrest] at hfailed
  have hcalls := List.append_cancel_left hfailed
  injection hcalls with hcall
  injection hcall with hop
  cases hop

/-- **A cycle goes on exactly when the read of the broker's clock succeeds.**
Source: `app/services/loop_runtime.py` `LoopRuntimeCoordinator.run_cycle`. Kind: P -/
theorem survives_iff : Survives cfg strategies env s ↔ ReadSucceeds cfg env s := by
  constructor
  · intro h loopA s₁ hA hdue
    by_contra hfails
    have hraised : (hooked cfg env s₁).1 ≠ .ok () := fun hok => hfails (hooked_ok_iff.mp hok hdue)
    have hcycle : cycle cfg strategies env s = _ := cycle_of_loopA hA
    cases hhook : (hooked cfg env s₁).1 with
    | ok _ => exact hraised hhook
    | error x =>
        rw [hhook, (h loopA s₁ hA).1] at hcycle
        exact failed_ne_afterHook hcycle.symm
  · intro h loopA s₁ hA
    have hcycle : cycle cfg strategies env s = _ := cycle_of_loopA hA
    rw [hooked_ok_iff.mpr (h loopA s₁ hA)] at hcycle
    refine ⟨hcycle, fun report s' hrest => ⟨hcycle.trans ?_, afterHook_reports hrest⟩⟩
    rw [eval_tryCatch]
    change (afterHook strategies loopA).eval (recording (exec cfg)) env (hooked cfg env s₁).2 = _
      at hrest
    rw [hrest]

/-! ## Every sequence of cycles -/

/-- The state before the first cycle. Source: none: infrastructure. Kind: D -/
def start (world : World) (sync : TimeSyncService) (clock : ℤ) : Recorded :=
  (⟨world, sync, clock, []⟩, [])

/-- **The synchronisation over every sequence of cycles**, whatever fails, when the local clock does not
go back: the offset, the dates and the pauses are kept, and a cycle goes on exactly when its read of the
broker's clock succeeds. Source: `app/services/loop_runtime.py` `LoopRuntimeCoordinator.run_cycle`,
with `app/core/time_sync.py` `TimeSyncService`. Kind: P -/
theorem clock_sync_iff (cfg : PreMarket) (strategies : List Strategy) (env : Surroundings)
    (world : World) (sync : TimeSyncService) (clock : ℤ) (n : ℕ)
    (hclock : ∀ k < n,
      ClockForward cfg strategies env (afterCycles cfg strategies env (start world sync clock) k)) :
    Kept cfg sync (afterCycles cfg strategies env (start world sync clock) n).1 ∧
      ∀ k < n,
        (Survives cfg strategies env (afterCycles cfg strategies env (start world sync clock) k) ↔
          ReadSucceeds cfg env (afterCycles cfg strategies env (start world sync clock) k)) :=
  ⟨(inv_afterCycles (Inv.start world sync clock) hclock).toKept, fun _ _ => survives_iff⟩

/-- Ten to eight in Seoul on the second of March 2026. Source: `docs/prd.md`. Kind: D -/
def tenToEight : DateTime where
  year := 2026
  month := 3
  day := 1
  hour := 22
  minute := 50
  valid := by decide

/-- A symbol that Loop B scans. Source: none: infrastructure. Kind: D -/
def oneTracked : World where
  symbols := Table.empty.insert { ticker := "005930", isActive := true } rfl

/-- At ten to eight the broker answers as given. Source: none: infrastructure. Kind: D -/
def atTenToEight (reply : Except Exn PyDatetime) : Surroundings := fun _ _ =>
  { readings := ⟨tenToEight.toMicros, reply, tenToEight.toMicros⟩ }

/-- The same at a cycle that reads the broker's clock and one that need not.
Source: none: infrastructure. Kind: P -/
theorem clock_sync_two :
    let env := atTenToEight (.ok ⟨tenToEight, some 0⟩)
    let s := start oneTracked {} tenToEight.toMicros
    Kept {} {} (afterCycles {} [] env s 2).1 ∧
      ∀ k < 2, Survives {} [] env (afterCycles {} [] env s k) := by
  intro env s
  obtain ⟨hkept, hsurvives⟩ := clock_sync_iff {} [] env oneTracked {} tenToEight.toMicros 2
    (by decide +kernel)
  exact ⟨hkept, fun k hk => (hsurvives k hk).mpr fun _ _ _ _ => rfl⟩

/-- **A failed read ends the cycle**: at ten to eight the broker's clock cannot be read, no ticker is
scanned, and the report is that of a failure. Source: `app/services/loop_runtime.py`
`LoopRuntimeCoordinator.run_cycle`. Kind: P -/
theorem clock_sync_fails :
    ¬ ∀ (cfg : PreMarket) (strategies : List Strategy) (env : Surroundings) (world : World)
      (sync : TimeSyncService) (clock : ℤ) (n : ℕ),
      (∀ k < n, ClockForward cfg strategies env
        (afterCycles cfg strategies env (start world sync clock) k)) →
      Kept cfg sync (afterCycles cfg strategies env (start world sync clock) n).1 ∧
        ∀ k < n, Survives cfg strategies env
          (afterCycles cfg strategies env (start world sync clock) k) := by
  intro h
  let env := atTenToEight (.error (.other "timeout"))
  let s := start oneTracked {} tenToEight.toMicros
  have hclock : ∀ k < 1, ClockForward {} [] env (afterCycles {} [] env s k) := by
    decide +kernel
  have hsurvives : Survives {} [] env s :=
    (h {} [] env oneTracked {} tenToEight.toMicros 1 hclock).2 0 (by norm_num)
  have hloopA : (LoopARunner.runOnce.eval (recording (exec {})) env s).1 =
      .ok ⟨false, 0, 0, 0⟩ := by decide +kernel
  have hgoes := (hsurvives ⟨false, 0, 0, 0⟩ (LoopARunner.runOnce.eval (recording (exec {})) env s).2
    (Prod.ext hloopA rfl)).1
  have hreport := congrArg (fun r => r.1.toOption.map CycleReport.ok) hgoes
  exact absurd hreport (by decide +kernel)

end ClockWorld

end HaruTrade
