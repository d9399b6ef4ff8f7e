import Mathlib.Tactic.Linarith
import HaruTrade.Core.RateLimited

/-!
# The spacing of executions

The worker waits until the interval since the last *success* is over; an execution that raises
leaves no trace in `_last_ts`. Here the client runs against a clock.

* `clocked` — the client with the time, and with the end of its last execution.
* `Timely` — the clock never goes back, and a sleep takes at least as long as it was asked for.
* `Spaced` — no execution starts within the interval after the end of the one before.
* `RestsAfterFailure` — no job is taken within the interval after an execution that failed.
* **`spaced_iff`** — in every timely run the two are the same.
-/

namespace HaruTrade

namespace RateLimitedClient

variable {φ ρ ε : Type}

/-- The client with the time of its last step, the start of its last sleep, and the end of its last
execution with whether the function returned. Source: none: infrastructure. Kind: D -/
structure Clocked (φ ρ ε : Type) where
  state : State φ ρ ε
  clock : ℚ
  asleepAt : ℚ
  ended : Option (ℚ × Bool) := none

namespace Clocked

/-- Source: `app/core/rate_limited_client.py` `RateLimitedClient.__init__`. Kind: D -/
def init (now : ℚ) (minInterval : ℚ := 1 / 5) : Clocked φ ρ ε :=
  { state := RateLimitedClient.init minInterval, clock := now, asleepAt := now }

/-- A cancellation ends the execution too. Source: none: infrastructure. Kind: D -/
def endedBy (c : Clocked φ ρ ε) (now : ℚ) : Act φ ρ ε → Option (ℚ × Bool)
  | .finished _ outcome => some (now, outcome.isOk)
  | .cancelled =>
      match c.state.worker with
      | .calling _ => some (now, false)
      | _ => c.ended
  | _ => c.ended

/-- Source: none: infrastructure. Kind: D -/
def asleepBy (c : Clocked φ ρ ε) (now : ℚ) : Act φ ρ ε → ℚ
  | .took _ true => now
  | _ => c.asleepAt

/-- A step of the client, at a time. Source: none: infrastructure. Kind: D -/
def next (c : Clocked φ ρ ε) (now : ℚ) (r : State φ ρ ε × Act φ ρ ε) : Clocked φ ρ ε where
  state := r.1
  clock := now
  asleepAt := c.asleepBy now r.2
  ended := c.endedBy now r.2

end Clocked

/-- Each event has its time. Source: none: infrastructure. Kind: D -/
def clocked : Machine (Clocked φ ρ ε) (ℚ × Event φ ρ ε) (Act φ ρ ε) where
  step c i := (c.next i.1 (machine.step c.state i.2), (machine.step c.state i.2).2)

/-- What the event reads off the clock. Source: none: infrastructure. Kind: D -/
def Event.now? : Event φ ρ ε → Option ℚ
  | .take now => some now
  | .finish _ now => some now
  | _ => none

/-- `time.monotonic` never goes back, and `asyncio.sleep` never returns early.
Source: none: infrastructure. Kind: D -/
structure OnTime (c : Clocked φ ρ ε) (i : ℚ × Event φ ρ ε) : Prop where
  later : c.clock ≤ i.1
  reads : ∀ now, i.2.now? = some now → now = i.1
  sleeps : ∀ job delay, i.2 = .wake → c.state.worker = .sleeping job delay →
    c.asleepAt + delay ≤ i.1

/-- Source: none: infrastructure. Kind: D -/
def Timely (c : Clocked φ ρ ε) (run : List (ℚ × Event φ ρ ε)) : Prop := clocked.Along OnTime c run

theorem onTime_of_ne_wake {c : Clocked φ ρ ε} {now : ℚ} {e : Event φ ρ ε} (hlater : c.clock ≤ now)
    (hreads : ∀ t, e.now? = some t → t = now) (hwake : e ≠ .wake) : OnTime c (now, e) where
  later := hlater
  reads := hreads
  sleeps _ _ h := absurd h hwake

/-- **An execution that starts** is at least the interval after the end of the one before.
Source: `docs/functional-spec-v0.1.md` FR-02. Kind: D -/
def Spaced (minInterval : ℚ) (c : Clocked φ ρ ε) (run : List (ℚ × Event φ ρ ε)) : Prop :=
  clocked.Along (fun c i => ∀ job, (clocked.step c i).2.started? = some job →
    ∀ last returned, c.ended = some (last, returned) → last + minInterval ≤ i.1) c run

/-- **A job that is taken after a failure** is taken at least the interval after it.
Source: none: infrastructure. Kind: D -/
def RestsAfterFailure (minInterval : ℚ) (c : Clocked φ ρ ε) (run : List (ℚ × Event φ ρ ε)) : Prop :=
  clocked.Along (fun c i => ∀ now, i.2 = .take now → c.state.worker = .waiting →
    c.state.queue ≠ [] → ∀ last, c.ended = some (last, false) → last + minInterval ≤ i.1) c run

section rules

variable {s : State φ ρ ε} {c c' : Clocked φ ρ ε} {i : ℚ × Event φ ρ ε} {job : Job φ}
  {minInterval now : ℚ} {run : List (ℚ × Event φ ρ ε)}

/-! ## What the worker does with the time -/

/-- **The worker takes a job** and sleeps until the interval since the last success is over.
Source: `app/core/rate_limited_client.py` `RateLimitedClient._worker`. Kind: L -/
theorem take_cases (s : State φ ρ ε) (now : ℚ) :
    take s now = (s, .nothing) ∧ (s.worker = .waiting → s.queue = []) ∨
      s.worker = .waiting ∧ s.queue ≠ [] ∧ ∃ job rest,
        (now < s.lastTs + s.minInterval ∧ take s now =
          ({ s with queue := rest, worker := .sleeping job (s.minInterval - (now - s.lastTs)) },
            .took job true) ∨
        s.lastTs + s.minInterval ≤ now ∧ take s now =
          ({ s with queue := rest, worker := .calling job }, .took job false)) := by
  unfold take
  split
  · next job rest hwaiting hpop =>
      refine .inr ⟨hwaiting, ?_, job, rest, ?_⟩
      · rintro hqueue
        rw [hqueue] at hpop
        exact absurd hpop (by simp [popLeast])
      · dsimp only
        split_ifs with helapsed
        · exact .inl ⟨by linarith, rfl⟩
        · exact .inr ⟨by linarith, rfl⟩
  · next hother =>
      refine .inl ⟨rfl, fun hwaiting => ?_⟩
      cases hpop : popLeast Job.key s.queue with
      | none => exact popLeast_eq_none_iff.mp hpop
      | some popped => exact absurd hpop (hother popped.1 popped.2 hwaiting)

/-- **What the worker knows of the time.** Source: `app/core/rate_limited_client.py`
`RateLimitedClient._worker`. Kind: D -/
structure Paced (minInterval : ℚ) (c : Clocked φ ρ ε) : Prop where
  interval : c.state.minInterval = minInterval
  past : ∀ last returned, c.ended = some (last, returned) → last ≤ c.clock
  returned : ∀ last, c.ended = some (last, true) → c.state.lastTs = last
  /-- The execution that failed had itself waited for the interval. -/
  failed : ∀ last, c.ended = some (last, false) → c.state.lastTs + minInterval ≤ last
  asleep : ∀ job delay, c.state.worker = .sleeping job delay →
    c.asleepAt + delay = c.state.lastTs + minInterval ∧ c.asleepAt < c.state.lastTs + minInterval ∧
      ∀ last returned, c.ended = some (last, returned) → last ≤ c.asleepAt
  calling : ∀ job, c.state.worker = .calling job → c.state.lastTs + minInterval ≤ c.clock

theorem paced_init : Paced minInterval (Clocked.init now minInterval : Clocked φ ρ ε) where
  interval := rfl
  past _ _ h := absurd h (by simp [Clocked.init])
  returned _ h := absurd h (by simp [Clocked.init])
  failed _ h := absurd h (by simp [Clocked.init])
  asleep _ _ h := absurd h (by simp [Clocked.init, RateLimitedClient.init])
  calling _ h := absurd h (by simp [Clocked.init, RateLimitedClient.init])

/-- A step that ends no execution. Source: none: infrastructure. Kind: L -/
theorem Paced.keeps (h : Paced minInterval c) (hclock : c.clock ≤ c'.clock)
    (hinterval : c'.state.minInterval = c.state.minInterval)
    (hlast : c'.state.lastTs = c.state.lastTs) (hended : c'.ended = c.ended)
    (hasleep : ∀ job delay, c'.state.worker = .sleeping job delay →
      c'.asleepAt + delay = c.state.lastTs + minInterval ∧
        c'.asleepAt < c.state.lastTs + minInterval ∧
        ∀ last returned, c.ended = some (last, returned) → last ≤ c'.asleepAt)
    (hcalling : ∀ job, c'.state.worker = .calling job →
      c.state.lastTs + minInterval ≤ c'.clock) :
    Paced minInterval c' where
  interval := hinterval.trans h.interval
  past last returned hl := (h.past last returned (hended ▸ hl)).trans hclock
  returned last hl := hlast.trans (h.returned last (hended ▸ hl))
  failed last hl := by
    rw [hlast]
    exact h.failed last (hended ▸ hl)
  asleep job delay hs := by
    rw [hlast, hended]
    exact hasleep job delay hs
  calling job hs := by
    rw [hlast]
    exact hcalling job hs

/-- A step that ends no execution and starts no sleep and no call. Source: none: infrastructure.
Kind: L -/
theorem Paced.frame (h : Paced minInterval c) (hclock : c.clock ≤ c'.clock)
    (hinterval : c'.state.minInterval = c.state.minInterval)
    (hlast : c'.state.lastTs = c.state.lastTs) (hended : c'.ended = c.ended)
    (hasleep : ∀ job delay, c'.state.worker = .sleeping job delay →
      c.state.worker = .sleeping job delay ∧ c'.asleepAt = c.asleepAt)
    (hcalling : ∀ job, c'.state.worker = .calling job → c.state.worker = .calling job) :
    Paced minInterval c' := by
  refine h.keeps hclock hinterval hlast hended ?_ ?_
  · intro job delay hs
    obtain ⟨hbefore, hsame⟩ := hasleep job delay hs
    rw [hsame]
    exact h.asleep job delay hbefore
  · intro job hs
    exact (h.calling job (hcalling job hs)).trans hclock

/-- What ends an execution leaves the worker idle, and the time of the last success as it was.
Source: `app/core/rate_limited_client.py` `RateLimitedClient._worker`. Kind: D -/
structure Idle (s' : State φ ρ ε) (minInterval lastTs : ℚ) : Prop where
  interval : s'.minInterval = minInterval
  lastTs : s'.lastTs = lastTs
  asleep : ∀ job delay, s'.worker ≠ .sleeping job delay
  calling : ∀ job, s'.worker ≠ .calling job

theorem idle_taskDone (s : State φ ρ ε) : Idle (taskDone s) s.minInterval s.lastTs := by
  unfold taskDone
  split_ifs
  · exact ⟨rfl, rfl, fun _ _ => by simp, fun _ => by simp⟩
  · exact ⟨rfl, rfl, fun _ _ => by simp, fun _ => by simp⟩

theorem idle_cancel (s : State φ ρ ε) : Idle (cancel s).1 s.minInterval s.lastTs := by
  unfold cancel
  split
  · next habsent => exact ⟨rfl, rfl, fun _ _ => by simp [habsent], fun _ => by simp [habsent]⟩
  · exact ⟨rfl, rfl, fun _ _ => by simp, fun _ => by simp⟩
  · have hidle := idle_taskDone s
    exact ⟨hidle.interval, hidle.lastTs, fun _ _ => by simp, fun _ => by simp⟩

/-- **An execution ends**, and its end is noted when the function has returned.
Source: `app/core/rate_limited_client.py` `RateLimitedClient._worker`. Kind: L -/
theorem finish_cases (s : State φ ρ ε) (outcome : Except ε ρ) (now : ℚ) :
    finish s outcome now = (s, .nothing) ∨ ∃ job s', s.worker = .calling job ∧
      finish s outcome now = (s', .finished job outcome) ∧
      Idle s' s.minInterval (if outcome.isOk then now else s.lastTs) := by
  unfold finish
  split
  · next job hcalling =>
      refine .inr ⟨job, _, hcalling, rfl, ?_⟩
      cases outcome with
      | ok result => exact idle_taskDone _
      | error exc => exact idle_taskDone _
  · exact .inl rfl

/-- **Ending an execution** that had waited for the interval. Source:
`app/core/rate_limited_client.py` `RateLimitedClient._worker`. Kind: L -/
theorem Paced.ends (h : Paced minInterval c) (hclock : c.clock ≤ c'.clock)
    (hcalling : c.state.worker = .calling job) (returned : Bool)
    (hidle : Idle c'.state c.state.minInterval (if returned then c'.clock else c.state.lastTs))
    (hended : c'.ended = some (c'.clock, returned)) : Paced minInterval c' where
  interval := hidle.interval.trans h.interval
  past last returned hl := by
    rw [hended] at hl
    obtain ⟨rfl, -⟩ := Prod.mk.inj (Option.some.inj hl)
    exact le_refl _
  returned last hl := by
    rw [hended] at hl
    obtain ⟨rfl, rfl⟩ := Prod.mk.inj (Option.some.inj hl)
    exact hidle.lastTs
  failed last hl := by
    rw [hended] at hl
    obtain ⟨rfl, rfl⟩ := Prod.mk.inj (Option.some.inj hl)
    rw [hidle.lastTs, if_neg Bool.false_ne_true]
    exact (h.calling job hcalling).trans hclock
  asleep job delay hs := absurd hs (hidle.asleep job delay)
  calling job hs := absurd hs (hidle.calling job)

/-- **Taking a job** starts a sleep until the interval is over, or a call when it is.
Source: `app/core/rate_limited_client.py` `RateLimitedClient._worker`. Kind: L -/
theorem Paced.take (h : Paced minInterval c) (hlater : c.clock ≤ now) :
    Paced minInterval (c.next now (RateLimitedClient.take c.state now)) := by
  rcases take_cases c.state now with
    ⟨htake, -⟩ | ⟨-, -, job, rest, ⟨hsoon, htake⟩ | ⟨hrested, htake⟩⟩
  · rw [htake]
    exact h.frame hlater rfl rfl rfl (fun _ _ hs => ⟨hs, rfl⟩) fun _ hs => hs
  · rw [htake]
    refine h.keeps hlater rfl rfl rfl ?_ fun _ hs => absurd hs (by simp [Clocked.next])
    intro job' delay' hs
    obtain ⟨-, rfl⟩ := Worker.sleeping.inj hs
    refine ⟨?_, h.interval ▸ hsoon, ?_⟩
    · show now + (c.state.minInterval - (now - c.state.lastTs)) = c.state.lastTs + minInterval
      rw [h.interval]
      linarith
    · exact fun last returned hl => (h.past last returned hl).trans hlater
  · rw [htake]
    refine h.keeps hlater rfl rfl rfl (fun _ _ hs => absurd hs (by simp [Clocked.next])) ?_
    exact fun _ _ => h.interval ▸ hrested

/-- **A step on time keeps what the worker knows**, whatever it submits, raises or cancels.
Source: `app/core/rate_limited_client.py` `RateLimitedClient._worker`. Kind: L -/
theorem paced_step (h : Paced minInterval c) (htime : OnTime c i) :
    Paced minInterval (clocked.step c i).1 := by
  obtain ⟨t, e⟩ := i
  have hlater : c.clock ≤ t := htime.later
  cases e with
  | submit fn isOrder =>
      refine h.frame hlater rfl rfl rfl ?_ ?_
      · intro job delay hs
        exact ⟨sleeping_of_ensureWorker hs, rfl⟩
      · intro job hs
        exact calling_of_ensureWorker hs
  | abandon seq =>
      show Paced minInterval (c.next t _)
      unfold machine
      dsimp only
      split
      · exact h.frame hlater rfl rfl rfl (fun _ _ hs => ⟨hs, rfl⟩) fun _ hs => hs
      · exact h.frame hlater rfl rfl rfl (fun _ _ hs => ⟨hs, rfl⟩) fun _ hs => hs
  | wake =>
      show Paced minInterval (c.next t _)
      unfold machine
      dsimp only
      split
      · next job delay hsleeping =>
          obtain ⟨hdue, -, -⟩ := h.asleep job delay hsleeping
          have hslept : c.asleepAt + delay ≤ t := htime.sleeps job delay rfl hsleeping
          refine h.keeps hlater rfl rfl rfl (fun _ _ hs => absurd hs (by simp [Clocked.next])) ?_
          exact fun _ _ => hdue ▸ hslept
      · exact h.frame hlater rfl rfl rfl (fun _ _ hs => ⟨hs, rfl⟩) fun _ hs => hs
  | take now =>
      obtain rfl : now = t := htime.reads now rfl
      exact h.take hlater
  | finish outcome now =>
      obtain rfl : now = t := htime.reads now rfl
      show Paced minInterval (c.next now (finish c.state outcome now))
      rcases finish_cases c.state outcome now with hnone | ⟨job, s', hcalling, hfinish, hidle⟩
      · rw [hnone]
        exact h.frame hlater rfl rfl rfl (fun _ _ hs => ⟨hs, rfl⟩) fun _ hs => hs
      · rw [hfinish]
        exact h.ends hlater hcalling _ hidle rfl
  | cancel =>
      have hidle := idle_cancel c.state
      show Paced minInterval (c.next t (cancel c.state))
      by_cases hcalling : ∃ job, c.state.worker = .calling job
      · obtain ⟨job, hcalling⟩ := hcalling
        refine h.ends hlater hcalling false hidle ?_
        simp [Clocked.next, Clocked.endedBy, cancel, hcalling]
      · refine h.frame hlater hidle.interval hidle.lastTs ?_
          (fun job delay hs => absurd hs (hidle.asleep job delay))
          fun job hs => absurd hs (hidle.calling job)
        cases hworker : c.state.worker with
        | absent => simp [Clocked.next, Clocked.endedBy, cancel, hworker]
        | waiting => simp [Clocked.next, Clocked.endedBy, cancel, hworker]
        | sleeping job delay => simp [Clocked.next, Clocked.endedBy, cancel, hworker]
        | calling job => exact absurd ⟨job, hworker⟩ hcalling

/-- **A start, by what the worker knows.** A job that is taken after a success starts when the
interval is over, and so does a job that has slept. Source: `app/core/rate_limited_client.py`
`RateLimitedClient._worker`. Kind: L -/
theorem spaced_step_iff (h : Paced minInterval c) (htime : OnTime c i) :
    (∀ job, (clocked.step c i).2.started? = some job →
      ∀ last returned, c.ended = some (last, returned) → last + minInterval ≤ i.1) ↔
    ∀ now, i.2 = .take now → c.state.worker = .waiting → c.state.queue ≠ [] →
      ∀ last, c.ended = some (last, false) → last + minInterval ≤ i.1 := by
  obtain ⟨t, e⟩ := i
  constructor
  · rintro hspaced now rfl hwaiting hqueue last hended
    obtain rfl : now = t := htime.reads now rfl
    -- the interval since the last success was over when the failed execution started
    have hrested : c.state.lastTs + c.state.minInterval ≤ now := by
      rw [h.interval]
      exact ((h.failed last hended).trans (h.past last false hended)).trans htime.later
    rcases take_cases c.state now with ⟨-, hempty⟩ | ⟨-, -, job, rest, ⟨hsoon, -⟩ | ⟨-, htake⟩⟩
    · exact absurd (hempty hwaiting) hqueue
    · exact absurd hsoon (not_lt.mpr hrested)
    · refine hspaced job ?_ last false hended
      show (take c.state now).2.started? = some job
      rw [htake]
      rfl
  · intro hrests job hstart last returned hended
    rcases started_cases hstart with ⟨now, rest, rfl, hpop, -⟩ | ⟨rfl, ⟨delay, hsleeping⟩, -⟩
    · obtain rfl : now = t := htime.reads now rfl
      change (take c.state now).2.started? = some job at hstart
      rcases take_cases c.state now with ⟨hnone, -⟩ | ⟨hwaiting, hqueue, job', rest, hcase⟩
      · rw [hnone] at hstart
        exact absurd hstart (by simp)
      · rcases hcase with ⟨-, htake⟩ | ⟨hrested, -⟩
        · rw [htake] at hstart
          exact absurd hstart (by simp)
        · cases returned with
          | true =>
              rw [h.interval, h.returned last hended] at hrested
              exact hrested
          | false => exact hrests now rfl hwaiting hqueue last hended
    · obtain ⟨hdue, hsoon, hbefore⟩ := h.asleep job delay hsleeping
      have hslept : c.asleepAt + delay ≤ t := htime.sleeps job delay rfl hsleeping
      cases returned with
      | true =>
          rw [hdue, h.returned last hended] at hslept
          exact hslept
      | false =>
          -- after a failure the worker does not sleep
          have hrested := (h.failed last hended).trans (hbefore last false hended)
          exact absurd hsoon (not_lt.mpr hrested)

end rules

/-- **When executions are spaced.** In every timely run of the client, from any submissions,
outcomes and cancellations, each execution starts at least the interval after the end of the one
before exactly when no job is taken within the interval after an execution that did not return.
Source: `app/core/rate_limited_client.py` `RateLimitedClient._worker`. Kind: P -/
theorem spaced_iff (minInterval now : ℚ) (run : List (ℚ × Event φ ρ ε))
    (h : Timely (Clocked.init now minInterval) run) :
    Spaced minInterval (Clocked.init now minInterval) run ↔
      RestsAfterFailure minInterval (Clocked.init now minInterval) run := by
  unfold Spaced RestsAfterFailure
  apply Machine.along_congr (I := Paced minInterval) paced_init
  · intro c i hpaced htime
    exact paced_step hpaced htime
  · intro c i hpaced htime
    exact spaced_step_iff hpaced htime
  · exact h

/-- Two orders are submitted at 100; the first call ends at 101, and the second job is taken at
once. Source: none: infrastructure. Kind: D -/
def twoOrders (outcome : Except Unit Unit) : List (ℚ × Event Unit Unit Unit) :=
  [(100, .submit () true), (100, .submit () true), (100, .take 100), (101, .finish outcome 101),
    (101, .take 101), (102, .wake)]

theorem timely_twoOrders (outcome : Except Unit Unit) :
    Timely (Clocked.init 100 (1 / 5)) (twoOrders outcome) := by
  have hend : (100 : ℚ) ≤ 101 := by norm_num
  have hlast : (101 : ℚ) ≤ 102 := by norm_num
  refine ⟨onTime_of_ne_wake (le_refl _) (by simp [Event.now?]) (by simp),
    onTime_of_ne_wake (le_refl _) (by simp [Event.now?]) (by simp),
    onTime_of_ne_wake (le_refl _) (by simp [Event.now?]) (by simp),
    onTime_of_ne_wake hend (by simp [Event.now?]) (by simp),
    onTime_of_ne_wake (le_refl _) (by simp [Event.now?]) (by simp),
    ⟨hlast, by simp [Event.now?], ?_⟩, trivial⟩
  intro job delay _ hs
  cases outcome with
  | ok result =>
      obtain ⟨-, rfl⟩ : (⟨0, 2, ()⟩ : Job Unit) = job ∧ (1 / 5 : ℚ) = delay := by
        apply Worker.sleeping.inj
        rw [← hs]
        with_unfolding_all rfl
      have hslept : (101 : ℚ) + 1 / 5 ≤ 102 := by norm_num
      with_unfolding_all exact hslept
  | error exc =>
      have hcalling : Worker.calling (⟨0, 2, ()⟩ : Job Unit) = .sleeping job delay := by
        rw [← hs]
        with_unfolding_all rfl
      exact absurd hcalling (by simp)

/-- After a success the second call waits. Source: `tests/test_rate_limited_client_phase3.py`
`test_rate_limited_client_spacing`. Kind: C -/
theorem spaced_after_success : Spaced (1 / 5) (Clocked.init 100 (1 / 5)) (twoOrders (.ok ())) := by
  apply (spaced_iff (1 / 5) 100 (twoOrders (.ok ())) (timely_twoOrders (.ok ()))).mpr
  refine ⟨by simp, by simp, ?_, by simp, ?_, by simp, trivial⟩
  · intro now _ _ _ last hended
    exact absurd hended (by simp [Clocked.init, clocked, Clocked.next, Clocked.endedBy, machine])
  · intro now _ _ _ last hended
    have hreturned : some ((101 : ℚ), true) = some (last, false) := by
      with_unfolding_all exact hended
    exact absurd hreturned (by simp)

/-- **After a failure it does not**: it starts the moment the failed one has ended.
Source: `app/core/rate_limited_client.py` `RateLimitedClient._worker`. Kind: C -/
theorem unspaced_after_failure : Timely (Clocked.init 100 (1 / 5)) (twoOrders (.error ())) ∧
    ¬ Spaced (1 / 5) (Clocked.init 100 (1 / 5)) (twoOrders (.error ())) := by
  refine ⟨timely_twoOrders (.error ()), ?_⟩
  rintro ⟨-, -, -, -, hspaced, -⟩
  have hlate : (101 : ℚ) + 1 / 5 ≤ 101 :=
    hspaced ⟨0, 2, ()⟩ (by with_unfolding_all rfl) 101 false (by with_unfolding_all rfl)
  norm_num at hlate

end RateLimitedClient

end HaruTrade
