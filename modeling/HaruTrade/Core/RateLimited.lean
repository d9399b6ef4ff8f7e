import Mathlib.Data.List.Nodup
import Mathlib.Data.List.Range
import Mathlib.Data.Prod.Lex
import Mathlib.Algebra.Order.Ring.Rat
import HaruTrade.Data.Machine
import HaruTrade.Data.PriorityQueue

/-!
# The rate-limited client

Calls are submitted as jobs to one queue; one worker takes the least job, waits until the interval
since the last success is over, calls the function and settles the submitter's future.

A submission runs up to its `await` without a switch, and so do the parts of the worker between its
awaits, so these parts are the steps. A submitter may give up, which cancels its future. The worker
ends when it is cancelled, or when a function raises what is no `Exception`; the next submission
starts another.

* `machine` — one step for each event, with what it did.
* `Sound`, `Logged` — the invariants of the state, and of the log with the state.
* `sound_step`, `logged_step` — **a step keeps them**, unless it ends the worker.
-/

namespace HaruTrade

namespace RateLimitedClient

/-! ## Steps -/

/-- `seq` stands for the future too: each job has its own. Source:
`app/core/rate_limited_client.py` `Job`. Kind: D -/
structure Job (φ : Type) where
  priority : ℕ
  seq : ℕ
  fn : φ

/-- The fields that jobs are compared by; no two jobs have the same `seq`, so `fn` is never reached.
Source: `app/core/rate_limited_client.py` `Job`. Kind: D -/
def Job.key {φ : Type} (job : Job φ) : ℕ ×ₗ ℕ := toLex (job.priority, job.seq)

/-- A future. Source: none: infrastructure. Kind: D -/
inductive Fate (ρ ε : Type) where
  | pending
  | done (outcome : Except ε ρ)
  | cancelled

/-- Where the worker stands: not there, at `queue.get`, at `asyncio.sleep`, or at `job.fn`.
Source: `app/core/rate_limited_client.py` `RateLimitedClient._worker`. Kind: D -/
inductive Worker (φ : Type) where
  | absent
  | waiting
  | sleeping (job : Job φ) (delay : ℚ)
  | calling (job : Job φ)

/-- Source: `app/core/rate_limited_client.py` `RateLimitedClient`. Kind: D -/
structure State (φ ρ ε : Type) where
  minInterval : ℚ
  lastTs : ℚ := 0
  seq : ℕ := 0
  queue : List (Job φ) := []
  /-- The count of the queue that `task_done` decreases. -/
  unfinished : ℕ := 0
  worker : Worker φ := .absent
  fate : ℕ → Option (Fate ρ ε) := fun _ => none

/-- Source: `app/core/rate_limited_client.py` `RateLimitedClient.__init__`. Kind: D -/
def init {φ ρ ε : Type} (minInterval : ℚ := 1 / 5) : State φ ρ ε := { minInterval }

/-- Source: `app/core/rate_limited_client.py` `RateLimitedClient`. Kind: D -/
inductive Event (φ ρ ε : Type) where
  | submit (fn : φ) (isOrder : Bool)
  | take (now : ℚ)
  | wake
  | finish (outcome : Except ε ρ) (now : ℚ)
  /-- The submitter's `await` is cancelled. -/
  | abandon (seq : ℕ)
  /-- The worker is cancelled, or the function raises what is no `Exception`. -/
  | cancel

/-- What a step has done. Source: none: infrastructure. Kind: D -/
inductive Act (φ ρ ε : Type) where
  | submitted (job : Job φ)
  | took (job : Job φ) (sleeps : Bool)
  | woke (job : Job φ)
  | finished (job : Job φ) (outcome : Except ε ρ)
  | abandoned (seq : ℕ)
  | cancelled
  | nothing

variable {φ ρ ε : Type}

/-- Source: `app/core/rate_limited_client.py` `RateLimitedClient._ensure_worker`. Kind: D -/
def ensureWorker : Worker φ → Worker φ
  | .absent => .waiting
  | worker => worker

/-- `if not job.future.done(): job.future.set_result(...)`, and so with an exception.
Source: `app/core/rate_limited_client.py` `RateLimitedClient._worker`. Kind: D -/
def settle (fate : ℕ → Option (Fate ρ ε)) (seq : ℕ) (outcome : Except ε ρ) :
    ℕ → Option (Fate ρ ε) :=
  match fate seq with
  | some .pending => Function.update fate seq (some (.done outcome))
  | _ => fate

/-- `task_done()` raises when no task is unfinished, which ends the worker.
Source: `app/core/rate_limited_client.py` `RateLimitedClient._worker`. Kind: D -/
def taskDone (s : State φ ρ ε) : State φ ρ ε :=
  if s.unfinished = 0 then { s with worker := .absent }
  else { s with worker := .waiting, unfinished := s.unfinished - 1 }

/-- `submit` up to its `await`. Source: `app/core/rate_limited_client.py`
`RateLimitedClient.submit`. Kind: D -/
def submit (s : State φ ρ ε) (fn : φ) (isOrder : Bool) : State φ ρ ε × Job φ :=
  let seq := s.seq + 1
  let job : Job φ := ⟨if isOrder then 0 else 1, seq, fn⟩
  ({ s with
      seq
      fate := Function.update s.fate seq (some .pending)
      queue := s.queue ++ [job]
      unfinished := s.unfinished + 1
      worker := ensureWorker s.worker }, job)

/-- From `queue.get` to the next `await`. Source: `app/core/rate_limited_client.py`
`RateLimitedClient._worker`. Kind: D -/
def take (s : State φ ρ ε) (now : ℚ) : State φ ρ ε × Act φ ρ ε :=
  match s.worker, popLeast Job.key s.queue with
  | .waiting, some (job, rest) =>
      let elapsed := now - s.lastTs
      if elapsed < s.minInterval then
        ({ s with queue := rest, worker := .sleeping job (s.minInterval - elapsed) },
          .took job true)
      else ({ s with queue := rest, worker := .calling job }, .took job false)
  | _, _ => (s, .nothing)

/-- From the return of `job.fn` to `task_done`. Source: `app/core/rate_limited_client.py`
`RateLimitedClient._worker`. Kind: D -/
def finish (s : State φ ρ ε) (outcome : Except ε ρ) (now : ℚ) : State φ ρ ε × Act φ ρ ε :=
  match s.worker with
  | .calling job =>
      let lastTs :=
        match outcome with
        | .ok _ => now
        | .error _ => s.lastTs
      (taskDone { s with lastTs, fate := settle s.fate job.seq outcome }, .finished job outcome)
  | _ => (s, .nothing)

/-- The worker ends; a job that it has is lost, and its future stays.
Source: `app/core/rate_limited_client.py` `RateLimitedClient._worker`. Kind: D -/
def cancel (s : State φ ρ ε) : State φ ρ ε × Act φ ρ ε :=
  match s.worker with
  | .absent => (s, .nothing)
  | .waiting => ({ s with worker := .absent }, .cancelled)
  | _ => ({ taskDone s with worker := .absent }, .cancelled)

/-- An event that cannot happen does nothing. Source: `app/core/rate_limited_client.py`
`RateLimitedClient`. Kind: D -/
def machine : Machine (State φ ρ ε) (Event φ ρ ε) (Act φ ρ ε) where
  step s e :=
    match e with
    | .submit fn isOrder =>
        let (s', job) := submit s fn isOrder
        (s', .submitted job)
    | .take now => take s now
    | .wake =>
        match s.worker with
        | .sleeping job _ => ({ s with worker := .calling job }, .woke job)
        | _ => (s, .nothing)
    | .finish outcome now => finish s outcome now
    | .abandon seq =>
        match s.fate seq with
        | some .pending =>
            ({ s with fate := Function.update s.fate seq (some .cancelled) }, .abandoned seq)
        | _ => (s, .nothing)
    | .cancel => cancel s

/-- The job that sleeps. Source: none: infrastructure. Kind: D -/
def Worker.asleep : Worker φ → List (Job φ)
  | .sleeping job _ => [job]
  | _ => []

/-- The job whose function is called. Source: none: infrastructure. Kind: D -/
def Worker.running : Worker φ → List (Job φ)
  | .calling job => [job]
  | _ => []

@[simp] theorem asleep_ensureWorker {worker : Worker φ} :
    (ensureWorker worker).asleep = worker.asleep := by
  cases worker with
  | absent => rfl
  | waiting => rfl
  | sleeping job delay => rfl
  | calling job => rfl

@[simp] theorem running_ensureWorker {worker : Worker φ} :
    (ensureWorker worker).running = worker.running := by
  cases worker with
  | absent => rfl
  | waiting => rfl
  | sleeping job delay => rfl
  | calling job => rfl

theorem ensureWorker_ne_absent {worker : Worker φ} : ensureWorker worker ≠ .absent := by
  cases worker with
  | absent => simp [ensureWorker]
  | waiting => simp [ensureWorker]
  | sleeping job delay => simp [ensureWorker]
  | calling job => simp [ensureWorker]

/-- A worker that sleeps after a submission slept before it. Source:
`app/core/rate_limited_client.py` `RateLimitedClient._ensure_worker`. Kind: L -/
theorem sleeping_of_ensureWorker {worker : Worker φ} {job : Job φ} {delay : ℚ}
    (h : ensureWorker worker = .sleeping job delay) : worker = .sleeping job delay := by
  cases worker with
  | absent => exact absurd h (by simp [ensureWorker])
  | waiting => exact absurd h (by simp [ensureWorker])
  | sleeping job' delay' => exact h
  | calling job' => exact absurd h (by simp [ensureWorker])

/-- A worker that calls after a submission called before it. Source:
`app/core/rate_limited_client.py` `RateLimitedClient._ensure_worker`. Kind: L -/
theorem calling_of_ensureWorker {worker : Worker φ} {job : Job φ}
    (h : ensureWorker worker = .calling job) : worker = .calling job := by
  cases worker with
  | absent => exact absurd h (by simp [ensureWorker])
  | waiting => exact absurd h (by simp [ensureWorker])
  | sleeping job' delay' => exact absurd h (by simp [ensureWorker])
  | calling job' => exact h

/-! ## What a log tells -/

/-- Source: none: infrastructure. Kind: D -/
def Act.submitted? : Act φ ρ ε → Option (Job φ)
  | .submitted job => some job
  | _ => none

/-- Source: none: infrastructure. Kind: D -/
def Act.taken? : Act φ ρ ε → Option (Job φ)
  | .took job _ => some job
  | _ => none

/-- The function is called, at once or after the sleep. Source: none: infrastructure. Kind: D -/
def Act.started? : Act φ ρ ε → Option (Job φ)
  | .took job false => some job
  | .woke job => some job
  | _ => none

/-- Source: none: infrastructure. Kind: D -/
def Act.finished? : Act φ ρ ε → Option (Job φ × Except ε ρ)
  | .finished job outcome => some (job, outcome)
  | _ => none

/-- Source: none: infrastructure. Kind: D -/
def Act.abandoned? : Act φ ρ ε → Option ℕ
  | .abandoned seq => some seq
  | _ => none

attribute [simp] Act.submitted? Act.taken? Act.started? Act.finished? Act.abandoned?

/-- Inputs with what they did. Source: none: infrastructure. Kind: D -/
abbrev Log (φ ρ ε : Type) := List (Event φ ρ ε × Act φ ρ ε)

/-- The jobs in the order of their submission. Source: none: infrastructure. Kind: D -/
def submitted (l : Log φ ρ ε) : List (Job φ) := l.filterMap fun x => x.2.submitted?

/-- The jobs that the worker has taken. Source: none: infrastructure. Kind: D -/
def taken (l : Log φ ρ ε) : List (Job φ) := l.filterMap fun x => x.2.taken?

/-- The jobs whose functions were called. Source: none: infrastructure. Kind: D -/
def started (l : Log φ ρ ε) : List (Job φ) := l.filterMap fun x => x.2.started?

/-- The jobs whose functions have ended, with their outcomes. Source: none: infrastructure.
Kind: D -/
def finished (l : Log φ ρ ε) : List (Job φ × Except ε ρ) := l.filterMap fun x => x.2.finished?

/-- The futures whose submitters gave up. Source: none: infrastructure. Kind: D -/
def abandoned (l : Log φ ρ ε) : List ℕ := l.filterMap fun x => x.2.abandoned?

section append

variable {l : Log φ ρ ε} {e : Event φ ρ ε} {act : Act φ ρ ε}

theorem filterMap_append_one {α β γ : Type} {f : β → Option γ} {l : List (α × β)} {a : α} {b : β} :
    (l ++ [(a, b)]).filterMap (fun x => f x.2) = l.filterMap (fun x => f x.2) ++ (f b).toList := by
  rw [List.filterMap_append]
  cases h : f b with
  | none => simp [h]
  | some c => simp [h]

@[simp] theorem submitted_append :
    submitted (l ++ [(e, act)]) = submitted l ++ act.submitted?.toList :=
  filterMap_append_one

@[simp] theorem taken_append : taken (l ++ [(e, act)]) = taken l ++ act.taken?.toList :=
  filterMap_append_one

@[simp] theorem started_append : started (l ++ [(e, act)]) = started l ++ act.started?.toList :=
  filterMap_append_one

@[simp] theorem finished_append : finished (l ++ [(e, act)]) = finished l ++ act.finished?.toList :=
  filterMap_append_one

@[simp] theorem abandoned_append :
    abandoned (l ++ [(e, act)]) = abandoned l ++ act.abandoned?.toList :=
  filterMap_append_one

end append

/-! ## What a step can do -/

variable {s s' : State φ ρ ε} {e : Event φ ρ ε} {act : Act φ ρ ε} {l : Log φ ρ ε}

/-- The effective steps of an event. Source: `app/core/rate_limited_client.py`
`RateLimitedClient`. Kind: D -/
inductive Move (s : State φ ρ ε) : Event φ ρ ε → State φ ρ ε → Act φ ρ ε → Prop where
  | submit (fn : φ) (isOrder : Bool) :
      Move s (.submit fn isOrder) (RateLimitedClient.submit s fn isOrder).1
        (.submitted (RateLimitedClient.submit s fn isOrder).2)
  | sleep {now delay : ℚ} {job : Job φ} {rest : List (Job φ)} (waiting : s.worker = .waiting)
      (pop : popLeast Job.key s.queue = some (job, rest)) :
      Move s (.take now) { s with queue := rest, worker := .sleeping job delay } (.took job true)
  | call {now : ℚ} {job : Job φ} {rest : List (Job φ)} (waiting : s.worker = .waiting)
      (pop : popLeast Job.key s.queue = some (job, rest)) :
      Move s (.take now) { s with queue := rest, worker := .calling job } (.took job false)
  | wake {delay : ℚ} {job : Job φ} (sleeping : s.worker = .sleeping job delay) :
      Move s .wake { s with worker := .calling job } (.woke job)
  | finish {now lastTs : ℚ} {job : Job φ} {outcome : Except ε ρ}
      (calling : s.worker = .calling job) :
      Move s (.finish outcome now)
        (taskDone { s with lastTs, fate := settle s.fate job.seq outcome }) (.finished job outcome)
  | abandon {n : ℕ} (pending : s.fate n = some .pending) :
      Move s (.abandon n) { s with fate := Function.update s.fate n (some .cancelled) }
        (.abandoned n)
  | cancel : Move s .cancel (RateLimitedClient.cancel s).1 (RateLimitedClient.cancel s).2
  | nothing (e : Event φ ρ ε) : Move s e s .nothing

/-- **What a step can do.** Source: `app/core/rate_limited_client.py` `RateLimitedClient`.
Kind: L -/
theorem move_step (s : State φ ρ ε) (e : Event φ ρ ε) :
    Move s e (machine.step s e).1 (machine.step s e).2 := by
  cases e with
  | submit fn isOrder => exact .submit fn isOrder
  | take now =>
      show Move s _ (take s now).1 (take s now).2
      unfold take
      split
      · next job rest hwaiting hpop =>
          dsimp only
          split_ifs
          · exact .sleep hwaiting hpop
          · exact .call hwaiting hpop
      · exact .nothing _
  | wake =>
      unfold machine
      dsimp only
      split
      · next job delay hsleeping => exact .wake hsleeping
      · exact .nothing _
  | finish outcome now =>
      show Move s _ (finish s outcome now).1 (finish s outcome now).2
      unfold finish
      split
      · next job hcalling => exact .finish hcalling
      · exact .nothing _
  | abandon n =>
      unfold machine
      dsimp only
      split
      · next hpending => exact .abandon hpending
      · exact .nothing _
  | cancel => exact .cancel

/-- **A job starts** when it is taken without a sleep, or when its sleep ends.
Source: `app/core/rate_limited_client.py` `RateLimitedClient._worker`. Kind: L -/
theorem started_cases {job : Job φ} (h : (machine.step s e).2.started? = some job) :
    (∃ now rest, e = .take now ∧ popLeast Job.key s.queue = some (job, rest) ∧
        (machine.step s e).1.queue = rest) ∨
      e = .wake ∧ (∃ delay, s.worker = .sleeping job delay) ∧
        (machine.step s e).1.queue = s.queue := by
  have hmove := move_step s e
  generalize (machine.step s e).1 = s' at hmove ⊢
  generalize (machine.step s e).2 = act at hmove h
  cases hmove with
  | call _ hpop =>
      obtain rfl := Option.some.inj h
      exact .inl ⟨_, _, rfl, hpop, rfl⟩
  | wake hsleeping =>
      obtain rfl := Option.some.inj h
      exact .inr ⟨rfl, ⟨_, hsleeping⟩, rfl⟩
  | submit => exact absurd h (by simp)
  | sleep => exact absurd h (by simp)
  | finish => exact absurd h (by simp)
  | abandon => exact absurd h (by simp)
  | nothing => exact absurd h (by simp)
  | cancel =>
      unfold cancel at h
      split at h
      · exact absurd h (by simp)
      · exact absurd h (by simp)
      · exact absurd h (by simp)

/-! ## The invariant of the state -/

/-- The worker is there when jobs wait, and the count of the queue is right.
Source: `app/core/rate_limited_client.py` `RateLimitedClient`. Kind: D -/
structure Sound (s : State φ ρ ε) : Prop where
  unfinished : s.unfinished =
    s.queue.length + s.worker.asleep.length + s.worker.running.length
  alive : s.worker = .absent → s.queue = []

theorem sound_init {minInterval : ℚ} : Sound (init minInterval : State φ ρ ε) :=
  ⟨rfl, fun _ => rfl⟩

theorem taskDone_of_calling (h : Sound s) {job : Job φ} (hcalling : s.worker = .calling job)
    {lastTs : ℚ} {fate : ℕ → Option (Fate ρ ε)} :
    taskDone { s with lastTs, fate } =
      { s with lastTs, fate, worker := .waiting, unfinished := s.queue.length } := by
  have hcount : s.unfinished = s.queue.length + 1 := by
    have hunfinished := h.unfinished
    rw [hcalling] at hunfinished
    simpa [Worker.asleep, Worker.running] using hunfinished
  unfold taskDone
  rw [if_neg (by simp [hcount])]
  simp [hcount]

/-- A job that is taken from the queue is not finished yet. Source:
`app/core/rate_limited_client.py` `RateLimitedClient._worker`. Kind: L -/
theorem unfinished_popped (h : Sound s) (hwaiting : s.worker = .waiting) {job : Job φ}
    {rest : List (Job φ)} (hpop : popLeast Job.key s.queue = some (job, rest)) :
    s.unfinished = rest.length + 1 := by
  have hlen := (popLeast_eq_some hpop).1.length_eq
  have hunfinished := h.unfinished
  rw [hwaiting] at hunfinished
  simp only [Worker.asleep, Worker.running, List.length_nil, List.length_cons] at hunfinished hlen
  omega

/-- **A step that does not end the worker** keeps the state sound.
Source: `app/core/rate_limited_client.py` `RateLimitedClient`. Kind: L -/
theorem sound_step (h : Sound s) (he : e ≠ .cancel) : Sound (machine.step s e).1 := by
  have hmove := move_step s e
  generalize (machine.step s e).1 = s' at hmove
  generalize (machine.step s e).2 = act at hmove
  have hunfinished := h.unfinished
  cases hmove with
  | submit fn isOrder =>
      refine ⟨?_, ?_⟩
      · show s.unfinished + 1 = (s.queue ++ [_]).length + (ensureWorker s.worker).asleep.length +
          (ensureWorker s.worker).running.length
        rw [hunfinished, asleep_ensureWorker, running_ensureWorker, List.length_append,
          List.length_singleton]
        omega
      · intro habsent
        exact absurd habsent ensureWorker_ne_absent
  | sleep hwaiting hpop =>
      exact ⟨unfinished_popped h hwaiting hpop, fun habsent => absurd habsent (by simp)⟩
  | call hwaiting hpop =>
      exact ⟨unfinished_popped h hwaiting hpop, fun habsent => absurd habsent (by simp)⟩
  | wake hsleeping =>
      rw [hsleeping] at hunfinished
      exact ⟨hunfinished, fun habsent => absurd habsent (by simp)⟩
  | finish hcalling =>
      rw [taskDone_of_calling h hcalling]
      exact ⟨by simp [Worker.asleep, Worker.running], fun habsent => absurd habsent (by simp)⟩
  | abandon => exact ⟨hunfinished, h.alive⟩
  | cancel => exact absurd rfl he
  | nothing => exact h

/-! ## The invariant of the log -/

/-- The futures are as the log says. Source: `app/core/rate_limited_client.py`
`RateLimitedClient`. Kind: D -/
structure Settled (l : Log φ ρ ε) (fate : ℕ → Option (Fate ρ ε)) : Prop where
  known : ∀ n, fate n ≠ none ↔ n ∈ (submitted l).map Job.seq
  pending : ∀ n, fate n = some .pending → ∀ x ∈ finished l, x.1.seq ≠ n
  done : ∀ n outcome, fate n = some (.done outcome) → ∃ x ∈ finished l, x.1.seq = n ∧ x.2 = outcome
  cancelled : ∀ n, fate n = some .cancelled → n ∈ abandoned l

/-- Queue, worker and futures are as the log says. Source: `app/core/rate_limited_client.py`
`RateLimitedClient`. Kind: D -/
structure Logged (l : Log φ ρ ε) (s : State φ ρ ε) : Prop extends Settled l s.fate where
  seqs : (submitted l).map Job.seq = List.range' 1 s.seq
  queued : (submitted l).Perm (s.queue ++ taken l)
  asleep : taken l = started l ++ s.worker.asleep
  running : started l = (finished l).map Prod.fst ++ s.worker.running

/-- A step that is about no future. Source: none: infrastructure. Kind: L -/
theorem Settled.frame {fate : ℕ → Option (Fate ρ ε)} (h : Settled l fate)
    (hsubmitted : act.submitted? = none) (hfinished : act.finished? = none)
    (habandoned : act.abandoned? = none) : Settled (l ++ [(e, act)]) fate := by
  have hs : submitted (l ++ [(e, act)]) = submitted l := by
    rw [submitted_append, hsubmitted, Option.toList_none, List.append_nil]
  have hf : finished (l ++ [(e, act)]) = finished l := by
    rw [finished_append, hfinished, Option.toList_none, List.append_nil]
  have ha : abandoned (l ++ [(e, act)]) = abandoned l := by
    rw [abandoned_append, habandoned, Option.toList_none, List.append_nil]
  refine ⟨?_, ?_, ?_, ?_⟩
  · rw [hs]
    exact h.known
  · rw [hf]
    exact h.pending
  · rw [hf]
    exact h.done
  · rw [ha]
    exact h.cancelled

theorem Logged.nodup_submitted (h : Logged l s) : ((submitted l).map Job.seq).Nodup := by
  rw [h.seqs]
  exact List.nodup_range'

theorem Logged.nodup (h : Logged l s) : ((s.queue ++ taken l).map Job.seq).Nodup :=
  (h.queued.map Job.seq).nodup_iff.mp h.nodup_submitted

theorem Logged.nodup_started (h : Logged l s) : ((started l).map Job.seq).Nodup := by
  have htaken : ((taken l).map Job.seq).Nodup := by
    have hnodup := h.nodup
    rw [List.map_append] at hnodup
    exact (List.nodup_append.mp hnodup).2.1
  rw [h.asleep, List.map_append] at htaken
  exact (List.nodup_append.mp htaken).1

theorem Logged.mem_submitted_of_started (h : Logged l s) {job : Job φ} (hjob : job ∈ started l) :
    job ∈ submitted l := by
  apply h.queued.mem_iff.mpr
  rw [h.asleep]
  exact List.mem_append_right _ (List.mem_append_left _ hjob)

theorem Logged.mem_started_of_finished (h : Logged l s) {x : Job φ × Except ε ρ}
    (hx : x ∈ finished l) : x.1 ∈ started l := by
  rw [h.running]
  exact List.mem_append_left _ (List.mem_map_of_mem hx)

/-- A finished job is one outcome only. Source: none: infrastructure. Kind: L -/
theorem Logged.eq_of_finished (h : Logged l s) {x y : Job φ × Except ε ρ} (hx : x ∈ finished l)
    (hy : y ∈ finished l) (hseq : x.1.seq = y.1.seq) : x = y := by
  have hnodup := h.nodup_started
  rw [h.running, List.map_append, List.map_map] at hnodup
  exact List.inj_on_of_nodup_map (List.nodup_append.mp hnodup).1 hx hy hseq

theorem logged_init {minInterval : ℚ} : Logged [] (init minInterval : State φ ρ ε) where
  seqs := rfl
  queued := List.Perm.refl _
  asleep := rfl
  running := rfl
  known n := by simp [init, submitted]
  pending _ h := absurd h (Option.some_ne_none _).symm
  done _ _ h := absurd h (Option.some_ne_none _).symm
  cancelled _ h := absurd h (Option.some_ne_none _).symm

/-- A future is settled when it is pending. Source: `app/core/rate_limited_client.py`
`RateLimitedClient._worker`. Kind: L -/
theorem settle_cases (fate : ℕ → Option (Fate ρ ε)) (seq : ℕ) (outcome : Except ε ρ) :
    (fate seq = some .pending ∧
      settle fate seq outcome = Function.update fate seq (some (.done outcome))) ∨
    (fate seq ≠ some .pending ∧ settle fate seq outcome = fate) := by
  unfold settle
  split
  · next hpending => exact .inl ⟨hpending, rfl⟩
  · next hsettled => exact .inr ⟨fun hpending => hsettled hpending, rfl⟩

theorem Logged.fresh (h : Logged l s) : s.seq + 1 ∉ (submitted l).map Job.seq := by
  rw [h.seqs, List.mem_range'_1]
  omega

theorem fate_submit {fn : φ} {isOrder : Bool} {n : ℕ} :
    (submit s fn isOrder).1.fate n =
      if n = s.seq + 1 then some .pending else s.fate n := by
  show Function.update s.fate (s.seq + 1) (some .pending) n = _
  rw [Function.update_apply]

/-- Source: `app/core/rate_limited_client.py` `RateLimitedClient.submit`. Kind: L -/
theorem Logged.submit (h : Logged l s) (fn : φ) (isOrder : Bool) :
    Logged (l ++ [(e, .submitted (RateLimitedClient.submit s fn isOrder).2)])
      (RateLimitedClient.submit s fn isOrder).1 where
  seqs := by
    rw [submitted_append, List.map_append, h.seqs]
    show List.range' 1 s.seq ++ [s.seq + 1] = List.range' 1 (s.seq + 1)
    rw [List.range'_1_concat, Nat.add_comm]
  queued := by
    rw [submitted_append, taken_append]
    simp only [Act.submitted?, Act.taken?, Option.toList_some, Option.toList_none, List.append_nil]
    refine (h.queued.append_right _).trans ?_
    show (s.queue ++ taken l ++ [_]).Perm (s.queue ++ [_] ++ taken l)
    rw [List.append_assoc, List.append_assoc]
    exact List.perm_append_comm.append_left _
  asleep := by
    rw [taken_append, started_append]
    simp only [Act.taken?, Act.started?, Option.toList_none, List.append_nil]
    exact h.asleep.trans (congrArg _ asleep_ensureWorker.symm)
  running := by
    rw [started_append, finished_append]
    simp only [Act.started?, Act.finished?, Option.toList_none, List.append_nil]
    exact h.running.trans (congrArg _ running_ensureWorker.symm)
  known n := by
    rw [submitted_append, List.map_append, fate_submit]
    by_cases hn : n = s.seq + 1
    · rw [if_pos hn]
      simp [RateLimitedClient.submit, hn]
    · rw [if_neg hn, h.known]
      simp [RateLimitedClient.submit, hn]
  pending n hpending x hx := by
    rw [finished_append] at hx
    simp only [Act.finished?, Option.toList_none, List.append_nil] at hx
    rw [fate_submit] at hpending
    by_cases hn : n = s.seq + 1
    · rintro hseq
      apply h.fresh
      rw [← hn, ← hseq]
      exact List.mem_map_of_mem (h.mem_submitted_of_started (h.mem_started_of_finished hx))
    · rw [if_neg hn] at hpending
      exact h.pending n hpending x hx
  done n outcome hdone := by
    rw [finished_append]
    simp only [Act.finished?, Option.toList_none, List.append_nil]
    rw [fate_submit] at hdone
    by_cases hn : n = s.seq + 1
    · rw [if_pos hn] at hdone
      exact absurd (Option.some_inj.mp hdone) (by simp)
    · rw [if_neg hn] at hdone
      exact h.done n outcome hdone
  cancelled n hcancelled := by
    rw [abandoned_append]
    simp only [Act.abandoned?, Option.toList_none, List.append_nil]
    rw [fate_submit] at hcancelled
    by_cases hn : n = s.seq + 1
    · rw [if_pos hn] at hcancelled
      exact absurd (Option.some_inj.mp hcancelled) (by simp)
    · rw [if_neg hn] at hcancelled
      exact h.cancelled n hcancelled

/-- A job moves from the queue to the worker. Source: none: infrastructure. Kind: L -/
theorem perm_take {queue rest before : List (Job φ)} {job : Job φ} (h : queue.Perm (job :: rest)) :
    (queue ++ before).Perm (rest ++ (before ++ [job])) := by
  refine (h.append_right before).trans ?_
  show ([job] ++ (rest ++ before)).Perm _
  refine List.perm_append_comm.trans ?_
  rw [List.append_assoc]

/-- Source: `app/core/rate_limited_client.py` `RateLimitedClient._worker`. Kind: L -/
theorem Logged.take (h : Logged l s) {job : Job φ} {rest : List (Job φ)} {sleeps : Bool}
    {worker : Worker φ} (hwaiting : s.worker = .waiting)
    (hpop : popLeast Job.key s.queue = some (job, rest))
    (hasleep : worker.asleep = if sleeps then [job] else [])
    (hrunning : worker.running = if sleeps then [] else [job]) :
    Logged (l ++ [(e, .took job sleeps)]) { s with queue := rest, worker } where
  seqs := by
    simpa using h.seqs
  queued := by
    rw [submitted_append, taken_append]
    simp only [Act.submitted?, Act.taken?, Option.toList_some, Option.toList_none, List.append_nil]
    exact h.queued.trans (perm_take (popLeast_eq_some hpop).1)
  asleep := by
    have hbefore := h.asleep
    rw [hwaiting] at hbefore
    rw [taken_append, started_append, hasleep, hbefore]
    cases sleeps with
    | true => simp [Worker.asleep]
    | false => simp [Worker.asleep]
  running := by
    have hbefore := h.running
    rw [hwaiting] at hbefore
    rw [started_append, finished_append, hrunning, hbefore]
    cases sleeps with
    | true => simp [Worker.running]
    | false => simp [Worker.running]
  toSettled := h.toSettled.frame rfl rfl rfl

/-- Source: `app/core/rate_limited_client.py` `RateLimitedClient._worker`. Kind: L -/
theorem Logged.wake (h : Logged l s) {job : Job φ} {delay : ℚ}
    (hsleeping : s.worker = .sleeping job delay) :
    Logged (l ++ [(e, .woke job)]) { s with worker := .calling job } where
  seqs := by
    simpa using h.seqs
  queued := by
    simpa using h.queued
  asleep := by
    have hbefore := h.asleep
    rw [hsleeping] at hbefore
    rw [taken_append, started_append, hbefore]
    simp [Worker.asleep]
  running := by
    have hbefore := h.running
    rw [hsleeping] at hbefore
    rw [started_append, finished_append, hbefore]
    simp [Worker.running]
  toSettled := h.toSettled.frame rfl rfl rfl

/-- Source: `app/core/rate_limited_client.py` `RateLimitedClient._worker`. Kind: L -/
theorem Logged.finish (h : Logged l s) {job : Job φ} {outcome : Except ε ρ} {lastTs : ℚ}
    {unfinished : ℕ} (hcalling : s.worker = .calling job) :
    Logged (l ++ [(e, .finished job outcome)])
      { s with
        lastTs, unfinished, worker := .waiting, fate := settle s.fate job.seq outcome } where
  seqs := by
    simpa using h.seqs
  queued := by
    simpa using h.queued
  asleep := by
    have hbefore := h.asleep
    rw [hcalling] at hbefore
    rw [taken_append, started_append, hbefore]
    simp [Worker.asleep]
  running := by
    have hbefore := h.running
    rw [hcalling] at hbefore
    rw [started_append, finished_append, hbefore]
    simp [Worker.running]
  known n := by
    rw [submitted_append]
    simp only [Act.submitted?, Option.toList_none, List.append_nil]
    rw [← h.known]
    rcases settle_cases s.fate job.seq outcome with ⟨hpending, hsettle⟩ | ⟨-, hsettle⟩
    · rw [hsettle, Function.update_apply]
      by_cases hn : n = job.seq
      · subst hn
        simp [hpending]
      · rw [if_neg hn]
    · rw [hsettle]
  pending n hpending x hx := by
    rw [finished_append] at hx
    have hother : n ≠ job.seq ∧ s.fate n = some .pending := by
      rcases settle_cases s.fate job.seq outcome with ⟨-, hsettle⟩ | ⟨hsettled, hsettle⟩
      · simp only [hsettle, Function.update_apply] at hpending
        by_cases hn : n = job.seq
        · rw [if_pos hn] at hpending
          exact absurd (Option.some_inj.mp hpending) (by simp)
        · rw [if_neg hn] at hpending
          exact ⟨hn, hpending⟩
      · simp only [hsettle] at hpending
        exact ⟨fun hn => hsettled (hn ▸ hpending), hpending⟩
    rcases List.mem_append.mp hx with hx | hx
    · exact h.pending n hother.2 x hx
    · obtain rfl : x = (job, outcome) := by simpa using hx
      exact hother.1.symm
  done n found hdone := by
    rw [finished_append]
    rcases settle_cases s.fate job.seq outcome with ⟨-, hsettle⟩ | ⟨-, hsettle⟩
    · simp only [hsettle, Function.update_apply] at hdone
      by_cases hn : n = job.seq
      · rw [if_pos hn] at hdone
        obtain rfl := Fate.done.inj (Option.some_inj.mp hdone)
        exact ⟨(job, outcome), List.mem_append_right _ (by simp), hn.symm, rfl⟩
      · rw [if_neg hn] at hdone
        obtain ⟨x, hx, hseq, hout⟩ := h.done n found hdone
        exact ⟨x, List.mem_append_left _ hx, hseq, hout⟩
    · simp only [hsettle] at hdone
      obtain ⟨x, hx, hseq, hout⟩ := h.done n found hdone
      exact ⟨x, List.mem_append_left _ hx, hseq, hout⟩
  cancelled n hcancelled := by
    rw [abandoned_append]
    simp only [Act.abandoned?, Option.toList_none, List.append_nil]
    rcases settle_cases s.fate job.seq outcome with ⟨-, hsettle⟩ | ⟨-, hsettle⟩
    · simp only [hsettle, Function.update_apply] at hcancelled
      by_cases hn : n = job.seq
      · rw [if_pos hn] at hcancelled
        exact absurd (Option.some_inj.mp hcancelled) (by simp)
      · rw [if_neg hn] at hcancelled
        exact h.cancelled n hcancelled
    · simp only [hsettle] at hcancelled
      exact h.cancelled n hcancelled

/-- Source: `app/core/rate_limited_client.py` `RateLimitedClient.submit`. Kind: L -/
theorem Logged.abandon (h : Logged l s) {n : ℕ} (hpending : s.fate n = some .pending) :
    Logged (l ++ [(e, .abandoned n)])
      { s with fate := Function.update s.fate n (some .cancelled) } where
  seqs := by
    simpa using h.seqs
  queued := by
    simpa using h.queued
  asleep := by
    simpa using h.asleep
  running := by
    simpa using h.running
  known m := by
    rw [submitted_append]
    simp only [Act.submitted?, Option.toList_none, List.append_nil, Function.update_apply]
    rw [← h.known]
    by_cases hm : m = n
    · subst hm
      simp [hpending]
    · rw [if_neg hm]
  pending m hm := by
    rw [finished_append]
    simp only [Act.finished?, Option.toList_none, List.append_nil]
    simp only [Function.update_apply] at hm
    split_ifs at hm with hmn
    · exact absurd (Option.some_inj.mp hm) (by simp)
    · exact h.pending m hm
  done m outcome hm := by
    rw [finished_append]
    simp only [Act.finished?, Option.toList_none, List.append_nil]
    simp only [Function.update_apply] at hm
    split_ifs at hm with hmn
    · exact absurd (Option.some_inj.mp hm) (by simp)
    · exact h.done m outcome hm
  cancelled m hm := by
    rw [abandoned_append]
    simp only [Function.update_apply] at hm
    split_ifs at hm with hmn
    · subst hmn
      exact List.mem_append_right _ (by simp)
    · exact List.mem_append_left _ (h.cancelled m hm)

/-- A step that does nothing. Source: none: infrastructure. Kind: L -/
theorem Logged.nothing (h : Logged l s) : Logged (l ++ [(e, .nothing)]) s where
  seqs := by
    simpa using h.seqs
  queued := by
    simpa using h.queued
  asleep := by
    simpa using h.asleep
  running := by
    simpa using h.running
  toSettled := h.toSettled.frame rfl rfl rfl

/-- **A step that does not end the worker** keeps what the log says of the state.
Source: `app/core/rate_limited_client.py` `RateLimitedClient`. Kind: L -/
theorem logged_step (h : Logged l s) (hsound : Sound s) (he : e ≠ .cancel) :
    Logged (l ++ [(e, (machine.step s e).2)]) (machine.step s e).1 := by
  have hmove := move_step s e
  generalize (machine.step s e).1 = s' at hmove ⊢
  generalize (machine.step s e).2 = act at hmove ⊢
  cases hmove with
  | submit fn isOrder => exact h.submit fn isOrder
  | sleep hwaiting hpop => exact h.take hwaiting hpop rfl rfl
  | call hwaiting hpop => exact h.take hwaiting hpop rfl rfl
  | wake hsleeping => exact h.wake hsleeping
  | finish hcalling =>
      rw [taskDone_of_calling hsound hcalling]
      exact h.finish hcalling
  | abandon hpending => exact h.abandon hpending
  | cancel => exact absurd rfl he
  | nothing => exact h.nothing

end RateLimitedClient

end HaruTrade
