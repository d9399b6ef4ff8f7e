import HaruTrade.Core.RateLimited

/-!
# Runs of the rate-limited client

What holds of every run whose worker is not ended, whatever is submitted when and whatever the
functions return or raise.

* `logged_log` — the invariants hold after every such run.
* `next_decreases`, `after_drive` — **the worker gets on**: it has a next step until every job is
  done, and each step leaves less to do.
* `served` — every function runs exactly once and alone, its submitter gets its own outcome, and
  the worker takes the least job that waits.
-/

namespace HaruTrade

namespace RateLimitedClient

variable {φ ρ ε : Type} {s : State φ ρ ε} {e : Event φ ρ ε} {is : List (Event φ ρ ε)}
  {minInterval : ℚ}

/-! ## The invariants of a run -/

theorem invariant_log (h : ∀ e ∈ is, e ≠ .cancel) :
    Sound (machine.after (init minInterval) is) ∧
      Logged (machine.log (init minInterval) is) (machine.after (init minInterval) is) := by
  refine Machine.invariant (I := fun l s => Sound s ∧ Logged l s) (C := fun _ _ e => e ≠ .cancel)
    ⟨sound_init, logged_init⟩ ?_ ?_
  · rintro l t e he ⟨hsound, hlogged⟩
    exact ⟨sound_step hsound he, logged_step hlogged hsound he⟩
  · intro pre e post his
    apply h
    rw [his]
    exact List.mem_append_right _ List.mem_cons_self

/-- **A run that does not end the worker** leaves a sound state.
Source: `app/core/rate_limited_client.py` `RateLimitedClient`. Kind: L -/
theorem sound_after (h : ∀ e ∈ is, e ≠ .cancel) :
    Sound (machine.after (init minInterval) is) :=
  (invariant_log h).1

/-- **A run that does not end the worker** leaves what its log says.
Source: `app/core/rate_limited_client.py` `RateLimitedClient`. Kind: L -/
theorem logged_log (h : ∀ e ∈ is, e ≠ .cancel) :
    Logged (machine.log (init minInterval) is) (machine.after (init minInterval) is) :=
  (invariant_log h).2

/-! ## The worker gets on -/

section progress

variable {outcome : Job φ → Except ε ρ} {now : ℚ}

/-- What the worker does next, when the functions end with `outcome`; nothing when it waits for a
job. Source: `app/core/rate_limited_client.py` `RateLimitedClient._worker`. Kind: D -/
def next (outcome : Job φ → Except ε ρ) (now : ℚ) (s : State φ ρ ε) : Option (Event φ ρ ε) :=
  match s.worker, s.queue with
  | .waiting, _ :: _ => some (.take now)
  | .sleeping _ _, _ => some .wake
  | .calling job, _ => some (.finish (outcome job) now)
  | _, _ => none

/-- The steps that the worker has left, at most. Source: none: infrastructure. Kind: D -/
def work (s : State φ ρ ε) : ℕ :=
  3 * s.queue.length + 2 * s.worker.asleep.length + s.worker.running.length

/-- The worker has nothing to do. Source: none: infrastructure. Kind: D -/
structure Drained (s : State φ ρ ε) : Prop where
  queue : s.queue = []
  asleep : s.worker.asleep = []
  running : s.worker.running = []

theorem drained_of_work (h : work s = 0) : Drained s := by
  unfold work at h
  refine ⟨?_, ?_, ?_⟩
  · apply List.length_eq_zero_iff.mp
    omega
  · apply List.length_eq_zero_iff.mp
    omega
  · apply List.length_eq_zero_iff.mp
    omega

/-- **A worker with no next step** has done everything. Source: `app/core/rate_limited_client.py`
`RateLimitedClient._worker`. Kind: L -/
theorem drained_of_next (h : Sound s) (hnext : next outcome now s = none) : Drained s := by
  cases hworker : s.worker with
  | absent => exact ⟨h.alive hworker, by rw [hworker]; rfl, by rw [hworker]; rfl⟩
  | waiting =>
      refine ⟨?_, by rw [hworker]; rfl, by rw [hworker]; rfl⟩
      cases hqueue : s.queue with
      | nil => rfl
      | cons job rest => exact absurd hnext (by simp [next, hworker, hqueue])
  | sleeping job delay => exact absurd hnext (by simp [next, hworker])
  | calling job => exact absurd hnext (by simp [next, hworker])

/-- **Each step of the worker leaves less to do**, whatever the function returns or raises.
Source: `app/core/rate_limited_client.py` `RateLimitedClient._worker`. Kind: L -/
theorem next_decreases (h : Sound s) (hnext : next outcome now s = some e) :
    work (machine.step s e).1 < work s := by
  unfold next at hnext
  split at hnext
  · next job rest hwaiting hqueue =>
      obtain rfl := Option.some.inj hnext
      show work (take s now).1 < work s
      have hpop : popLeast Job.key s.queue ≠ none := by
        rw [Ne, popLeast_eq_none_iff, hqueue]
        exact List.cons_ne_nil job rest
      obtain ⟨⟨least, others⟩, hleast⟩ := Option.ne_none_iff_exists'.mp hpop
      have hlen := (popLeast_eq_some hleast).1.length_eq
      rw [List.length_cons] at hlen
      unfold take
      rw [hwaiting, hleast]
      dsimp only
      split_ifs
      · simp only [work, hwaiting, Worker.asleep, Worker.running, List.length_nil,
          List.length_singleton]
        omega
      · simp only [work, hwaiting, Worker.asleep, Worker.running, List.length_nil,
          List.length_singleton]
        omega
  · next job delay hsleeping =>
      obtain rfl := Option.some.inj hnext
      simp only [machine, work, hsleeping, Worker.asleep, Worker.running, List.length_nil,
        List.length_singleton]
      omega
  · next job hcalling =>
      obtain rfl := Option.some.inj hnext
      show work (finish s (outcome job) now).1 < work s
      unfold finish
      split
      · next called hcalled =>
          dsimp only
          rw [taskDone_of_calling h hcalled]
          simp only [work, hcalled, Worker.asleep, Worker.running, List.length_nil,
            List.length_singleton]
          omega
      · next hother => exact absurd hcalling (hother job)
  · exact absurd hnext (by simp)

/-- The worker goes on alone for `n` steps; `clock` is what it reads.
Source: `app/core/rate_limited_client.py` `RateLimitedClient._worker`. Kind: D -/
def drive (outcome : Job φ → Except ε ρ) (clock : ℕ → ℚ) : ℕ → State φ ρ ε → List (Event φ ρ ε)
  | 0, _ => []
  | n + 1, s =>
    match next outcome (clock n) s with
    | none => []
    | some e => e :: drive outcome clock n (machine.step s e).1

/-- A step of the worker: it submits nothing, and functions end with their outcomes.
Source: none: infrastructure. Kind: D -/
def ByWorker (outcome : Job φ → Except ε ρ) (x : Event φ ρ ε × Act φ ρ ε) : Prop :=
  x.1 ≠ .cancel ∧ x.2.submitted? = none ∧ x.2.abandoned? = none ∧
    ∀ y, x.2.finished? = some y → y.2 = outcome y.1

theorem byWorker_next (hnext : next outcome now s = some e) :
    ByWorker outcome (e, (machine.step s e).2) := by
  unfold next at hnext
  split at hnext
  · obtain rfl := Option.some.inj hnext
    have hmove := move_step s (.take now)
    generalize (machine.step s (.take now)).1 = s' at hmove
    generalize (machine.step s (.take now)).2 = act at hmove ⊢
    cases hmove with
    | sleep => exact ⟨by simp, rfl, rfl, fun y hy => absurd hy (by simp)⟩
    | call => exact ⟨by simp, rfl, rfl, fun y hy => absurd hy (by simp)⟩
    | nothing => exact ⟨by simp, rfl, rfl, fun y hy => absurd hy (by simp)⟩
  · next job delay hsleeping =>
      obtain rfl := Option.some.inj hnext
      simp [ByWorker, machine, hsleeping]
  · next job hcalling =>
      obtain rfl := Option.some.inj hnext
      have hact : (machine.step s (.finish (outcome job) now)).2 = .finished job (outcome job) := by
        show (finish s (outcome job) now).2 = _
        unfold finish
        rw [hcalling]
      rw [hact]
      simp [ByWorker]
  · exact absurd hnext (by simp)

variable {clock : ℕ → ℚ} {n : ℕ}

theorem byWorker_drive : ∀ x ∈ machine.log s (drive outcome clock n s), ByWorker outcome x := by
  induction n generalizing s with
  | zero => exact fun x hx => absurd hx List.not_mem_nil
  | succ n ih =>
      intro x hx
      unfold drive at hx
      split at hx
      · exact absurd hx List.not_mem_nil
      · next e hnext =>
          rcases List.mem_cons.mp hx with rfl | hx
          · exact byWorker_next hnext
          · exact ih x hx

theorem ne_cancel_of_mem_drive (he : e ∈ drive outcome clock n s) : e ≠ .cancel := by
  rw [← Machine.map_fst_log (m := machine) (s := s) (drive outcome clock n s)] at he
  obtain ⟨x, hx, rfl⟩ := List.mem_map.mp he
  exact (byWorker_drive x hx).1

/-- **A worker that goes on** ends with nothing to do. Source:
`app/core/rate_limited_client.py` `RateLimitedClient._worker`. Kind: P -/
theorem after_drive (h : Sound s) (hn : work s ≤ n) :
    Drained (machine.after s (drive outcome clock n s)) := by
  induction n generalizing s with
  | zero => exact drained_of_work (Nat.le_zero.mp hn)
  | succ n ih =>
      unfold drive
      cases hnext : next outcome (clock n) s with
      | none => exact drained_of_next h hnext
      | some e =>
          have he : e ≠ .cancel := (byWorker_next hnext).1
          apply ih (sound_step h he)
          have hless := next_decreases h hnext
          omega

end progress

/-! ## What the steps of the worker are -/

variable {l : Log φ ρ ε} {act : Act φ ρ ε} {job : Job φ}

/-- **The worker takes the least job that waits.** Source: `app/core/rate_limited_client.py`
`RateLimitedClient._worker`. Kind: L -/
theorem popLeast_of_taken (he : e ≠ .cancel) (htaken : (machine.step s e).2.taken? = some job) :
    ∃ rest, popLeast Job.key s.queue = some (job, rest) := by
  have hmove := move_step s e
  generalize (machine.step s e).1 = s' at hmove
  generalize (machine.step s e).2 = act at hmove htaken
  cases hmove with
  | sleep hwaiting hpop =>
      obtain rfl := Option.some.inj htaken
      exact ⟨_, hpop⟩
  | call hwaiting hpop =>
      obtain rfl := Option.some.inj htaken
      exact ⟨_, hpop⟩
  | submit => exact absurd htaken (by simp)
  | wake => exact absurd htaken (by simp)
  | finish => exact absurd htaken (by simp)
  | abandon => exact absurd htaken (by simp)
  | cancel => exact absurd rfl he
  | nothing => exact absurd htaken (by simp)

/-- A function is called when no other runs. Source: `app/core/rate_limited_client.py`
`RateLimitedClient._worker`. Kind: L -/
theorem running_of_started (he : e ≠ .cancel)
    (hstarted : (machine.step s e).2.started? = some job) : s.worker.running = [] := by
  have hmove := move_step s e
  generalize (machine.step s e).1 = s' at hmove
  generalize (machine.step s e).2 = act at hmove hstarted
  cases hmove with
  | call hwaiting hpop =>
      rw [hwaiting]
      rfl
  | wake hsleeping =>
      rw [hsleeping]
      rfl
  | submit => exact absurd hstarted (by simp)
  | sleep => exact absurd hstarted (by simp)
  | finish => exact absurd hstarted (by simp)
  | abandon => exact absurd hstarted (by simp)
  | cancel => exact absurd rfl he
  | nothing => exact absurd hstarted (by simp)

/-! ## What the log says of the futures -/

theorem Logged.length_submitted (h : Logged l s) : (submitted l).length = s.seq := by
  have hlen := congrArg List.length h.seqs
  rwa [List.length_map, List.length_range'] at hlen

/-- **A job that is done has told its submitter**, unless that one gave up.
Source: `app/core/rate_limited_client.py` `RateLimitedClient._worker`. Kind: L -/
theorem Logged.fate_of_finished (h : Logged l s) {outcome : Except ε ρ}
    (hfinished : (job, outcome) ∈ finished l) :
    s.fate job.seq = some (.done outcome) ∨
      s.fate job.seq = some .cancelled ∧ job.seq ∈ abandoned l := by
  have hsubmitted := h.mem_submitted_of_started (h.mem_started_of_finished hfinished)
  have hknown : s.fate job.seq ≠ none := (h.known job.seq).mpr (List.mem_map_of_mem hsubmitted)
  cases hfate : s.fate job.seq with
  | none => exact absurd hfate hknown
  | some fate =>
      cases fate with
      | pending => exact absurd rfl (h.pending job.seq hfate _ hfinished)
      | done found =>
          left
          obtain ⟨x, hx, hseq, rfl⟩ := h.done job.seq found hfate
          rw [h.eq_of_finished hx hfinished hseq]
      | cancelled => exact .inr ⟨rfl, h.cancelled job.seq hfate⟩

theorem Logged.not_mem_taken (h : Logged l s) (hqueue : job ∈ s.queue) : job ∉ taken l := by
  intro htaken
  have hnodup := h.nodup
  rw [List.map_append] at hnodup
  exact (List.nodup_append.mp hnodup).2.2 _ (List.mem_map_of_mem hqueue) _
    (List.mem_map_of_mem htaken) rfl

/-- **Nothing to do means that everything is done.** Source: `app/core/rate_limited_client.py`
`RateLimitedClient._worker`. Kind: L -/
theorem Logged.perm_of_drained (h : Logged l s) (hdrained : Drained s) :
    ((finished l).map Prod.fst).Perm (submitted l) := by
  have hqueued := h.queued
  rw [h.asleep, h.running, hdrained.queue, hdrained.asleep, hdrained.running, List.nil_append,
    List.append_nil, List.append_nil] at hqueued
  exact hqueued.symm

/-! ## The contract -/

/-- What submitters rely on: the log and the state of a run.
Source: `app/core/rate_limited_client.py` `RateLimitedClient`. Kind: D -/
structure Served (l : Log φ ρ ε) (s : State φ ρ ε) : Prop where
  /-- A call of `submit` is a job, an order before data, with the number of the call. -/
  submits : ∀ pre fn isOrder act post, l = pre ++ (.submit fn isOrder, act) :: post →
    act = .submitted ⟨if isOrder then 0 else 1, (submitted pre).length + 1, fn⟩
  /-- No function is called twice. -/
  once : ((started l).map Job.seq).Nodup
  /-- What is called was submitted. -/
  asked : started l ⊆ submitted l
  /-- When a function is called, all those called before have ended. -/
  alone : ∀ pre e act post job, l = pre ++ (e, act) :: post → act.started? = some job →
    started pre = (finished pre).map Prod.fst
  /-- The outcome of a function reaches its submitter, unless that one has given up. -/
  told : ∀ job outcome, (job, outcome) ∈ finished l →
    s.fate job.seq = some (.done outcome) ∨
      s.fate job.seq = some .cancelled ∧ job.seq ∈ abandoned l
  /-- A submitter gets no other outcome. -/
  own : ∀ job outcome, job ∈ submitted l → s.fate job.seq = some (.done outcome) →
    (job, outcome) ∈ finished l
  /-- The worker takes the least job of those that wait. -/
  least : ∀ pre e act post job, l = pre ++ (e, act) :: post → act.taken? = some job →
    (job ∈ submitted pre ∧ job ∉ taken pre) ∧
      ∀ other ∈ submitted pre, other ∉ taken pre → job.key ≤ other.key
  /-- When the worker goes on, every function is called, whatever the others return or raise. -/
  complete : ∀ (outcome : Job φ → Except ε ρ) (clock : ℕ → ℚ),
    let more := drive outcome clock (work s) s
    ((finished (l ++ machine.log s more)).map Prod.fst).Perm (submitted l) ∧
      (∀ x ∈ finished (machine.log s more), x.2 = outcome x.1) ∧
      ∀ job ∈ submitted l, job.seq ∉ abandoned l → ∃ found,
        (job, found) ∈ finished (l ++ machine.log s more) ∧
          (machine.after s more).fate job.seq = some (.done found)

theorem eq_of_seq (h : Logged l s) {other : Job φ} (hjob : job ∈ submitted l)
    (hother : other ∈ submitted l) (hseq : other.seq = job.seq) : other = job :=
  List.inj_on_of_nodup_map h.nodup_submitted hother hjob hseq

/-- A log of the worker alone submits nothing and gives nothing up.
Source: none: infrastructure. Kind: L -/
theorem submitted_eq_nil {outcome : Job φ → Except ε ρ} (h : ∀ x ∈ l, ByWorker outcome x) :
    submitted l = [] ∧ abandoned l = [] :=
  ⟨List.filterMap_eq_nil_iff.mpr fun x hx => (h x hx).2.1,
    List.filterMap_eq_nil_iff.mpr fun x hx => (h x hx).2.2.1⟩

/-- **The worker finishes what was submitted.** Source: `app/core/rate_limited_client.py`
`RateLimitedClient._worker`. Kind: L -/
theorem complete_drive (h : ∀ e ∈ is, e ≠ .cancel) (outcome : Job φ → Except ε ρ) (clock : ℕ → ℚ) :
    let l := machine.log (init minInterval) is
    let s := machine.after (init minInterval) is
    let more := drive outcome clock (work s) s
    ((finished (l ++ machine.log s more)).map Prod.fst).Perm (submitted l) ∧
      (∀ x ∈ finished (machine.log s more), x.2 = outcome x.1) ∧
      ∀ job ∈ submitted l, job.seq ∉ abandoned l → ∃ found,
        (job, found) ∈ finished (l ++ machine.log s more) ∧
          (machine.after s more).fate job.seq = some (.done found) := by
  intro l s more
  have hworker : ∀ x ∈ machine.log s more, ByWorker outcome x := byWorker_drive
  obtain ⟨hsubmitted, habandoned⟩ := submitted_eq_nil hworker
  have hruns : ∀ e ∈ is ++ more, e ≠ .cancel := by
    intro e he
    rcases List.mem_append.mp he with he | he
    · exact h e he
    · exact ne_cancel_of_mem_drive he
  have hlogged : Logged (l ++ machine.log s more) (machine.after s more) := by
    have hlog : Logged (machine.log (init minInterval) (is ++ more))
        (machine.after (init minInterval) (is ++ more)) := logged_log hruns
    rwa [Machine.log_append, Machine.after_append] at hlog
  have hall : submitted (l ++ machine.log s more) = submitted l := by
    unfold submitted at hsubmitted ⊢
    rw [List.filterMap_append, hsubmitted, List.append_nil]
  have hgiven : abandoned (l ++ machine.log s more) = abandoned l := by
    unfold abandoned at habandoned ⊢
    rw [List.filterMap_append, habandoned, List.append_nil]
  have hperm : ((finished (l ++ machine.log s more)).map Prod.fst).Perm (submitted l) := by
    have hdrained : Drained (machine.after s more) := after_drive (sound_after h) le_rfl
    rw [← hall]
    exact hlogged.perm_of_drained hdrained
  refine ⟨hperm, ?_, ?_⟩
  · intro x hx
    obtain ⟨y, hy, hfinished⟩ := List.mem_filterMap.mp hx
    exact (hworker y hy).2.2.2 x hfinished
  · intro job hjob hkept
    obtain ⟨⟨found, outcome⟩, hfinished, rfl⟩ := List.mem_map.mp (hperm.mem_iff.mpr hjob)
    refine ⟨outcome, hfinished, ?_⟩
    rcases hlogged.fate_of_finished hfinished with hdone | ⟨-, hgone⟩
    · exact hdone
    · rw [hgiven] at hgone
      exact absurd hgone hkept

/-- **Every submitter is served**: whatever is submitted when, and whatever the functions return or
raise, as long as the worker is not ended. Source: `app/core/rate_limited_client.py`
`RateLimitedClient`. Kind: C -/
theorem served (h : ∀ e ∈ is, e ≠ .cancel) :
    Served (machine.log (init minInterval) is) (machine.after (init minInterval) is) where
  submits := by
    intro pre fn isOrder act post hlog
    obtain ⟨js, ks, rfl, rfl, rfl⟩ := Machine.log_eq_append_cons hlog
    have hlogged : Logged (machine.log (init minInterval) js)
        (machine.after (init minInterval) js) :=
      logged_log fun e he => h e (List.mem_append_left _ he)
    rw [hlogged.length_submitted]
    rfl
  once := (logged_log h).nodup_started
  asked job hjob := (logged_log h).mem_submitted_of_started hjob
  alone := by
    intro pre e act post job hlog hstarted
    obtain ⟨js, ks, rfl, rfl, rfl⟩ := Machine.log_eq_append_cons hlog
    have hlogged : Logged (machine.log (init minInterval) js)
        (machine.after (init minInterval) js) :=
      logged_log fun e he => h e (List.mem_append_left _ he)
    have he : e ≠ .cancel := h e (List.mem_append_right _ List.mem_cons_self)
    have hbefore := hlogged.running
    rwa [running_of_started he hstarted, List.append_nil] at hbefore
  told job outcome hfinished := (logged_log h).fate_of_finished hfinished
  own := by
    intro job outcome hjob hfate
    obtain ⟨⟨found, got⟩, hfinished, hseq, rfl⟩ := (logged_log h).done job.seq outcome hfate
    have hfound := (logged_log h).mem_submitted_of_started
      ((logged_log h).mem_started_of_finished hfinished)
    obtain rfl := eq_of_seq (logged_log h) hjob hfound hseq
    exact hfinished
  least := by
    intro pre e act post job hlog htaken
    obtain ⟨js, ks, rfl, rfl, rfl⟩ := Machine.log_eq_append_cons hlog
    have hlogged : Logged (machine.log (init minInterval) js)
        (machine.after (init minInterval) js) :=
      logged_log fun e he => h e (List.mem_append_left _ he)
    have he : e ≠ .cancel := h e (List.mem_append_right _ List.mem_cons_self)
    obtain ⟨rest, hpop⟩ := popLeast_of_taken he htaken
    obtain ⟨hperm, hle⟩ := popLeast_eq_some hpop
    have hqueue : job ∈ (machine.after (init minInterval) js).queue :=
      hperm.mem_iff.mpr List.mem_cons_self
    refine ⟨⟨hlogged.queued.mem_iff.mpr (List.mem_append_left _ hqueue), ?_⟩, ?_⟩
    · exact hlogged.not_mem_taken hqueue
    · intro other hother hwaits
      apply hle
      exact (List.mem_append.mp (hlogged.queued.mem_iff.mp hother)).resolve_right hwaits
  complete := complete_drive h

/-- While a function runs, data and then an order are submitted; the order comes first and fails.
Source: `tests/test_rate_limited_client_phase3.py` `test_order_priority_when_pending_jobs_exist`.
Kind: D -/
def orderWhileRunning : List (Event String ℕ String) :=
  [.submit "data-1" false, .take 100, .submit "data-2" false, .submit "order" true,
    .finish (.ok 1) 101, .take 101, .wake, .finish (.error "rejected") 102, .take 102,
    .finish (.ok 2) 103]

/-- Source: `app/core/rate_limited_client.py` `RateLimitedClient`. Kind: P -/
theorem served_orderWhileRunning :
    Served (machine.log init orderWhileRunning) (machine.after init orderWhileRunning) ∧
      (started (machine.log init orderWhileRunning)).map Job.fn = ["data-1", "order", "data-2"] :=
  ⟨served (by simp [orderWhileRunning]), by decide +kernel⟩

end RateLimitedClient

end HaruTrade
