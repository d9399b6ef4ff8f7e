import HaruTrade.Data.History
import HaruTrade.Data.Latest
import HaruTrade.Data.Machine
import HaruTrade.Domain.Models

/-!
# The background loop

`LoopBackgroundRunner` runs cycles one after the other in a task of its own. The dashboard starts and
stops it at any time: `stop` cancels the task and waits for its end, and between the two another request
may call `start`.

A cancellation reaches the task when the event loop resumes it next: before its first cycle, in the
middle of one, or in the sleep between two. The steps are the calls of `start` and `stop`, the turns that
the event loop gives the tasks, and the returns of `stop`.

* `machine` — the runner, with what each step did.
* `Regular` — what holds at every event; `RunnerInv`, and one lemma for each change of a task.
* `background_runs` — **in every run there is at most one loop, its cycles follow each other, and a loop
  that was stopped has ended when `stop` returns.**
-/

namespace HaruTrade

namespace LoopBackgroundRunner

/-! ## The runner -/

/-- Where a task of the loop stands: not entered yet, in a cycle that began at a reading of the monotonic
clock, in its sleep, or at its end. Source: `app/services/loop_background.py`
`LoopBackgroundRunner._run_loop`. Kind: D -/
inductive Stand where
  | created
  | cycling (started : ℚ)
  | sleeping
  | done

/-- A task of the loop, and whether a cancellation is on its way to it.
Source: `app/services/loop_background.py` `LoopBackgroundRunner._run_loop`. Kind: D -/
structure LoopTask where
  stand : Stand
  cancelling : Bool := false

/-- The runner with all tasks that it created, oldest first; `task` is the one it remembers.
Source: `app/services/loop_background.py` `LoopBackgroundRunner.__init__`. Kind: D -/
structure State where
  intervalSeconds : ℚ := 1
  tasks : List LoopTask := []
  task : Option ℕ := none
  lastStartedAt : Option ℤ := none
  lastCompletedAt : Option ℤ := none
  lastDurationMs : Option ℚ := none
  lastError : Option String := none
  cycles : ℕ := 0

/-- How a cycle ends: with a report, by an exception, or by what is no `Exception`.
Source: `app/services/loop_background.py` `LoopBackgroundRunner._run_loop`. Kind: D -/
inductive Outcome where
  | report (error : Option String)
  | raised (x : Exn)
  | fatal

/-- What a turn reads: how the cycle ends, the clocks at its end, the monotonic clock when the delay is
computed, and both clocks when the next cycle begins. Source: `app/services/loop_background.py`
`LoopBackgroundRunner._run_loop`. Kind: D -/
structure Turn where
  outcome : Outcome := .report none
  ended : ℚ := 0
  completedAt : ℤ := 0
  checked : ℚ := 0
  startedAt : ℤ := 0
  started : ℚ := 0

/-- Source: `app/services/loop_background.py` `LoopBackgroundRunner`. Kind: D -/
inductive Input where
  | start
  | stop
  | turn (i : ℕ) (r : Turn)
  /-- The event loop resumes a `stop` that waits for task `i`. -/
  | stopReturns (i : ℕ)

/-- What a step has done. Source: none: infrastructure. Kind: D -/
inductive Did where
  | started (ok : Bool)
  | notRunning
  | cancels (i : ℕ)
  | stopped (i : ℕ)
  | began (i : ℕ)
  | ended (i : ℕ)
  | left (i : ℕ) (fatal : Bool)

/-- Is the task at its end? Source: `app/services/loop_background.py`
`LoopBackgroundRunner.is_running`. Kind: D -/
def LoopTask.isDone (task : LoopTask) : Bool :=
  match task.stand with
  | .done => true
  | _ => false

/-- Source: `app/services/loop_background.py` `LoopBackgroundRunner.stop`. Kind: D -/
def State.isDone (s : State) (i : ℕ) : Bool := (s.tasks[i]?).any LoopTask.isDone

/-- Source: `app/services/loop_background.py` `LoopBackgroundRunner.is_running`. Kind: D -/
def State.isRunning (s : State) : Bool := goingOn LoopTask.isDone s.tasks s.task

/-- What the dashboard reads of the runner. Source: `app/services/loop_background.py`
`LoopBackgroundStatus`. Kind: D -/
structure LoopBackgroundStatus where
  running : Bool
  intervalSeconds : ℚ
  lastStartedAt : Option ℤ
  lastCompletedAt : Option ℤ
  lastDurationMs : Option ℚ
  lastError : Option String
  cycles : ℕ

/-- Source: `app/services/loop_background.py` `LoopBackgroundRunner.status`. Kind: D -/
def State.status (s : State) : LoopBackgroundStatus :=
  ⟨s.isRunning, s.intervalSeconds, s.lastStartedAt, s.lastCompletedAt, s.lastDurationMs, s.lastError,
    s.cycles⟩

/-- Source: `app/services/loop_background.py` `LoopBackgroundRunner.start`. Kind: D -/
def start (s : State) : State × List Did :=
  if s.isRunning then (s, [.started false])
  else ({ s with tasks := s.tasks ++ [⟨.created, false⟩], task := some s.tasks.length },
    [.started true])

/-- `stop` up to its `await`. Source: `app/services/loop_background.py` `LoopBackgroundRunner.stop`.
Kind: D -/
def stop (s : State) : State × List Did :=
  if s.isRunning then
    match s.task.bind fun i => s.tasks[i]?.map fun task => (i, task) with
    | some (i, task) =>
        ({ s with tasks := s.tasks.set i { task with cancelling := true } }, [.cancels i])
    | none => (s, [])
  else (s, [.notRunning])

/-- `stop` behind its `await`. Source: `app/services/loop_background.py` `LoopBackgroundRunner.stop`.
Kind: D -/
def stopReturns (s : State) (i : ℕ) : State × List Did :=
  if s.isDone i then (s, [.stopped i]) else (s, [])

/-- A task goes on to another place. Source: none: infrastructure. Kind: D -/
def State.move (s : State) (i : ℕ) (stand : Stand) (cancelling : Bool) : State :=
  { s with tasks := s.tasks.set i ⟨stand, cancelling⟩ }

/-- A cycle begins. Source: `app/services/loop_background.py` `LoopBackgroundRunner._run_loop`.
Kind: D -/
def beginCycle (s : State) (i : ℕ) (cancelling : Bool) (r : Turn) : State :=
  { s.move i (.cycling r.started) cancelling with lastStartedAt := some r.startedAt }

/-- The `finally` of a cycle, after which the task sleeps unless it goes on at once.
Source: `app/services/loop_background.py` `LoopBackgroundRunner._run_loop`. Kind: D -/
def finishCycle (s : State) (i : ℕ) (cancelling : Bool) (started : ℚ) (r : Turn) : State :=
  { s.move i .sleeping cancelling with
    cycles := s.cycles + 1
    lastDurationMs := some ((r.ended - started) * 1000)
    lastCompletedAt := some r.completedAt }

/-- **A turn of a task.** Source: `app/services/loop_background.py`
`LoopBackgroundRunner._run_loop`. Kind: D -/
def turn (s : State) (i : ℕ) (r : Turn) : State × List Did :=
  match s.tasks[i]? with
  | none => (s, [])
  | some ⟨.done, _⟩ => (s, [])
  | some ⟨.created, true⟩ => (s.move i .done true, [.left i false])
  | some ⟨.sleeping, true⟩ => (s.move i .done true, [.left i false])
  | some ⟨.cycling started, true⟩ =>
      ((finishCycle s i true started r).move i .done true, [.ended i, .left i false])
  | some ⟨.created, false⟩ => (beginCycle s i false r, [.began i])
  | some ⟨.sleeping, false⟩ => (beginCycle s i false r, [.began i])
  | some ⟨.cycling started, false⟩ =>
      let finished := finishCycle s i false started r
      match r.outcome with
      | .fatal => (finished.move i .done false, [.ended i, .left i true])
      | .report error => next { finished with lastError := error } started
      | .raised x => next { finished with lastError := some x.str } started
where
  next (s : State) (started : ℚ) : State × List Did :=
    if 0 < s.intervalSeconds - (r.checked - started) then (s, [.ended i])
    else (beginCycle s i false r, [.ended i, .began i])

/-- Source: `app/services/loop_background.py` `LoopBackgroundRunner`. Kind: D -/
def machine : Machine State Input (List Did) where
  step s
    | .start => start s
    | .stop => stop s
    | .turn i r => turn s i r
    | .stopReturns i => stopReturns s i

/-- The events of a run. Source: none: infrastructure. Kind: D -/
def events (log : List (Input × List Did)) : List Did := log.flatMap Prod.snd

/-! ## What holds at every event -/

/-- Source: none: infrastructure. Kind: D -/
def Did.isStart : Did → Bool
  | .started true => true
  | _ => false

/-- Source: none: infrastructure. Kind: D -/
def Did.isEnd : Did → Bool
  | .ended _ => true
  | _ => false

/-- Source: none: infrastructure. Kind: D -/
def Did.isBegin : Did → Bool
  | .began _ => true
  | _ => false

/-- Source: none: infrastructure. Kind: D -/
def Did.isLeave : Did → Bool
  | .left _ _ => true
  | _ => false

/-- Source: none: infrastructure. Kind: D -/
def Did.began? : Did → Option ℕ
  | .began i => some i
  | _ => none

/-- The task has ended. Source: none: infrastructure. Kind: D -/
def HasLeft (i : ℕ) (before : List Did) : Prop := ∃ fatal, .left i fatal ∈ before

/-- Every loop that was started has ended. Source: none: infrastructure. Kind: D -/
def Idle (before : List Did) : Prop := before.countP Did.isLeave = before.countP Did.isStart

/-- Exactly one loop has not ended. Source: none: infrastructure. Kind: D -/
def OneLoop (before : List Did) : Prop := before.countP Did.isLeave + 1 = before.countP Did.isStart

/-- **What holds at an event**, given the ones before it: a loop is started when none is left, and refused
when one is; a cycle begins when none is under way, in a loop that has not ended; it ends in the loop it
began in; a loop ends once, after it was cancelled or by what is no `Exception`; and a `stop` returns
when its loop has ended. Source: `app/services/loop_background.py` `LoopBackgroundRunner`. Kind: D -/
def Regular (before : List Did) : Did → Prop
  | .started true => Idle before
  | .started false => OneLoop before
  | .notRunning => Idle before
  | .cancels i => OneLoop before ∧ ¬ HasLeft i before
  | .stopped i => HasLeft i before
  | .began i => before.countP Did.isBegin = before.countP Did.isEnd ∧
      i + 1 = before.countP Did.isStart ∧ OneLoop before ∧ ¬ HasLeft i before
  | .ended i => before.countP Did.isBegin = before.countP Did.isEnd + 1 ∧
      lastOf Did.began? before = some i ∧ ¬ HasLeft i before
  | .left i fatal => OneLoop before ∧ ¬ HasLeft i before ∧ (fatal = true ∨ .cancels i ∈ before)

/-! ## The invariant -/

/-- **The state and what happened before.** All tasks but the last one are at their end.
Source: `app/services/loop_background.py` `LoopBackgroundRunner`. Kind: D -/
structure RunnerInv (before : List Did) (s : State) (front : List LoopTask)
    (last : Option LoopTask) : Prop where
  latest : Latest LoopTask.isDone s.tasks s.task front last
  started : before.countP Did.isStart = front.length + last.toList.length
  left : ∀ i, HasLeft i before ↔
    i < front.length ∨ i = front.length ∧ last.any LoopTask.isDone = true
  leaves : before.countP Did.isLeave = front.length + last.toList.countP LoopTask.isDone
  cancelled : ∀ stand, last = some ⟨stand, true⟩ → .cancels front.length ∈ before
  cycles : s.cycles = before.countP Did.isEnd
  under : ∀ started cancelling, last = some ⟨.cycling started, cancelling⟩ →
    before.countP Did.isBegin = before.countP Did.isEnd + 1 ∧
      lastOf Did.began? before = some front.length
  between : (∀ started cancelling, last ≠ some ⟨.cycling started, cancelling⟩) →
    before.countP Did.isBegin = before.countP Did.isEnd
  regular : AtEvery Regular before

variable {before : List Did} {s s' : State} {front : List LoopTask} {last : Option LoopTask}
  {stand : Stand} {cancelling : Bool} {i : ℕ}

theorem RunnerInv.isDone_iff (h : RunnerInv before s front last) :
    s.isDone i = true ↔ HasLeft i before := h.latest.isDone_iff.trans (h.left i).symm

theorem RunnerInv.oneLoop {x : LoopTask} (h : RunnerInv before s front (some x))
    (halive : x.isDone = false) : OneLoop before ∧ ¬ HasLeft front.length before := by
  constructor
  · have hleaves := h.leaves
    have hstarted := h.started
    simp only [Option.toList_some, List.countP_singleton, halive, List.length_singleton,
      Bool.false_eq_true, if_false] at hleaves hstarted
    unfold OneLoop
    omega
  · rw [h.left]
    rintro (hlt | ⟨-, hdone⟩)
    · exact lt_irrefl _ hlt
    · exact absurd (halive.symm.trans hdone) Bool.false_ne_true

theorem RunnerInv.idle (h : RunnerInv before s front last)
    (hdone : ∀ x, last = some x → x.isDone = true) : Idle before := by
  unfold Idle
  rw [h.leaves, h.started]
  cases last with
  | none => rfl
  | some x => simp [hdone x rfl]

/-! ## Steps -/

theorem hasLeft_append {e : Did} : HasLeft i (before ++ [e]) ↔
    HasLeft i before ∨ ∃ fatal, e = .left i fatal := by
  unfold HasLeft
  simp only [List.mem_append, List.mem_singleton, exists_or, eq_comm]

theorem hasLeft_append_other {e : Did} (he : e.isLeave = false) :
    HasLeft i (before ++ [e]) ↔ HasLeft i before := by
  rw [hasLeft_append, or_iff_left]
  rintro ⟨fatal, rfl⟩
  exact absurd he (by simp [Did.isLeave])

/-- An answer changes nothing. Source: `app/services/loop_background.py` `LoopBackgroundRunner`.
Kind: L -/
theorem RunnerInv.note {e : Did} (h : RunnerInv before s front last) (he : Regular before e)
    (hstart : e.isStart = false) (hend : e.isEnd = false) (hbegin : e.isBegin = false)
    (hleave : e.isLeave = false) (hbegan : e.began? = none) :
    RunnerInv (before ++ [e]) s front last where
  latest := h.latest
  started := by rw [List.countP_append, List.countP_singleton, hstart, h.started]; rfl
  left i := by rw [hasLeft_append_other hleave, h.left]
  leaves := by rw [List.countP_append, List.countP_singleton, hleave, h.leaves]; rfl
  cancelled stand hlast := List.mem_append_left _ (h.cancelled stand hlast)
  cycles := by rw [List.countP_append, List.countP_singleton, hend, h.cycles]; rfl
  under started cancelling hlast := by
    rw [List.countP_append, List.countP_append, List.countP_singleton, List.countP_singleton, hend,
      hbegin, lastOf_append_singleton, hbegan]
    exact h.under started cancelling hlast
  between hlast := by
    rw [List.countP_append, List.countP_append, List.countP_singleton, List.countP_singleton, hend,
      hbegin]
    exact h.between hlast
  regular := atEvery_append_singleton.mpr ⟨h.regular, he⟩

/-- A loop is started. Source: `app/services/loop_background.py` `LoopBackgroundRunner.start`.
Kind: L -/
theorem RunnerInv.startLoop (h : RunnerInv before s front last)
    (hdone : ∀ x, last = some x → x.isDone = true) :
    RunnerInv (before ++ [.started true])
      { s with tasks := s.tasks ++ [⟨.created, false⟩], task := some s.tasks.length }
      (front ++ last.toList) (some ⟨.created, false⟩) := by
  have hcounts : before.countP Did.isBegin = before.countP Did.isEnd := by
    refine h.between ?_
    rintro started cancelling rfl
    exact absurd (hdone _ rfl) (by simp [LoopTask.isDone])
  have hleft : ∀ i, HasLeft i before ↔ i < front.length + last.toList.length := by
    intro i
    rw [h.left]
    cases last with
    | none => simp
    | some x =>
        simp only [Option.any_some, hdone x rfl, and_true, Option.toList_some, List.length_singleton]
        omega
  refine ⟨h.latest.start hdone, ?_, ?_, ?_, ?_, ?_, ?_, ?_,
    atEvery_append_singleton.mpr ⟨h.regular, h.idle hdone⟩⟩
  · rw [List.countP_append, h.started, List.length_append]
    rfl
  · intro i
    rw [hasLeft_append_other rfl, hleft, List.length_append]
    simp [LoopTask.isDone]
  · rw [List.countP_append, h.leaves, List.length_append]
    cases last with
    | none => rfl
    | some x =>
        rw [Option.toList_some, List.countP_singleton, if_pos (hdone x rfl)]
        rfl
  · rintro stand ⟨⟩
  · rw [List.countP_append, h.cycles]
    rfl
  · rintro started cancelling ⟨⟩
  · intro _
    rw [List.countP_append, List.countP_append, hcounts]
    rfl

theorem isDone_cancelling {x : LoopTask} {b : Bool} :
    ({ x with cancelling := b } : LoopTask).isDone = x.isDone := rfl

/-- A cancellation is on its way. Source: `app/services/loop_background.py`
`LoopBackgroundRunner.stop`. Kind: L -/
theorem RunnerInv.cancels {x : LoopTask} (h : RunnerInv before s front (some x))
    (halive : x.isDone = false) :
    RunnerInv (before ++ [.cancels front.length])
      { s with tasks := s.tasks.set front.length { x with cancelling := true } } front
      (some { x with cancelling := true }) where
  latest := h.latest.set
  started := by rw [List.countP_append, h.started]; rfl
  left i := by
    rw [hasLeft_append_other rfl, h.left]
    rfl
  leaves := by
    rw [List.countP_append, h.leaves, Option.toList_some, Option.toList_some, List.countP_singleton,
      List.countP_singleton, List.countP_singleton, isDone_cancelling]
    rfl
  cancelled stand _ := List.mem_append_right _ List.mem_cons_self
  cycles := by rw [List.countP_append, h.cycles]; rfl
  under started cancelling hlast := by
    obtain ⟨hstand, -⟩ := LoopTask.mk.inj (Option.some.inj hlast)
    have hcycling : some x = some ⟨.cycling started, x.cancelling⟩ := by
      rw [← hstand]
    obtain ⟨hcounts, hbegan⟩ := h.under started x.cancelling hcycling
    rw [List.countP_append, List.countP_append, hcounts, lastOf_append_singleton]
    exact ⟨rfl, hbegan⟩
  between hlast := by
    have hcounts := h.between fun started cancelling hx => hlast started true <| by
      rw [Option.some.inj hx]
    rw [List.countP_append, List.countP_append, hcounts]
    rfl
  regular := atEvery_append_singleton.mpr ⟨h.regular, h.oneLoop halive⟩

/-- A cycle begins. Source: `app/services/loop_background.py` `LoopBackgroundRunner._run_loop`.
Kind: L -/
theorem RunnerInv.begins (r : Turn) (h : RunnerInv before s front (some ⟨stand, false⟩))
    (hstand : stand = .created ∨ stand = .sleeping) :
    RunnerInv (before ++ [.began front.length]) (beginCycle s front.length false r) front
      (some ⟨.cycling r.started, false⟩) := by
  have halive : (⟨stand, false⟩ : LoopTask).isDone = false := by
    rcases hstand with rfl | rfl
    · rfl
    · rfl
  have hcounts : before.countP Did.isBegin = before.countP Did.isEnd := by
    refine h.between ?_
    rintro started cancelling hlast
    obtain ⟨rfl, -⟩ := LoopTask.mk.inj (Option.some.inj hlast)
    rcases hstand with hstand | hstand
    · exact Stand.noConfusion hstand
    · exact Stand.noConfusion hstand
  have hone := h.oneLoop halive
  refine ⟨h.latest.set, ?_, ?_, ?_, ?_, ?_, ?_, ?_,
    atEvery_append_singleton.mpr ⟨h.regular, hcounts, ?_, hone⟩⟩
  · rw [List.countP_append, h.started]
    rfl
  · intro i
    rw [hasLeft_append_other rfl, h.left, Option.any_some, Option.any_some,
      halive]
    rfl
  · rw [List.countP_append, h.leaves, Option.toList_some, Option.toList_some, List.countP_singleton,
      List.countP_singleton, halive]
    rfl
  · rintro stand' hlast
    exact absurd (LoopTask.mk.inj (Option.some.inj hlast)).2 (by simp)
  · rw [List.countP_append, show (beginCycle s front.length false r).cycles = s.cycles from rfl,
      h.cycles]
    rfl
  · intro started cancelling _
    rw [List.countP_append, List.countP_append, hcounts, lastOf_append_singleton]
    exact ⟨rfl, rfl⟩
  · intro hlast
    exact absurd rfl (hlast r.started false)
  · rw [h.started]
    rfl

/-- A cycle ends. Source: `app/services/loop_background.py` `LoopBackgroundRunner._run_loop`.
Kind: L -/
theorem RunnerInv.finishes {started : ℚ} (r : Turn) (error : Option String)
    (h : RunnerInv before s front (some ⟨.cycling started, cancelling⟩)) :
    RunnerInv (before ++ [.ended front.length])
      { finishCycle s front.length cancelling started r with lastError := error } front
      (some ⟨.sleeping, cancelling⟩) := by
  obtain ⟨hcounts, hbegan⟩ := h.under started cancelling rfl
  have hone := h.oneLoop rfl
  refine ⟨h.latest.set, ?_, ?_, ?_, ?_, ?_, ?_, ?_,
    atEvery_append_singleton.mpr ⟨h.regular, hcounts, hbegan, hone.2⟩⟩
  · rw [List.countP_append, h.started]
    rfl
  · intro i
    rw [hasLeft_append_other rfl, h.left]
    rfl
  · rw [List.countP_append, h.leaves, Option.toList_some, Option.toList_some, List.countP_singleton,
      List.countP_singleton]
    rfl
  · intro stand' hlast
    obtain ⟨-, rfl⟩ := LoopTask.mk.inj (Option.some.inj hlast)
    exact List.mem_append_left _ (h.cancelled _ rfl)
  · show s.cycles + 1 = _
    rw [List.countP_append, h.cycles]
    rfl
  · intro started' cancelling' hlast
    exact Stand.noConfusion (LoopTask.mk.inj (Option.some.inj hlast)).1
  · intro _
    rw [List.countP_append, List.countP_append, hcounts]
    rfl

/-- A loop ends outside of its cycles. Source: `app/services/loop_background.py`
`LoopBackgroundRunner._run_loop`. Kind: L -/
theorem RunnerInv.leaves' (fatal : Bool) (h : RunnerInv before s front (some ⟨stand, cancelling⟩))
    (hstand : stand = .created ∨ stand = .sleeping) (hcause : fatal = true ∨ cancelling = true) :
    RunnerInv (before ++ [.left front.length fatal]) (s.move front.length .done cancelling) front
      (some ⟨.done, cancelling⟩) := by
  have halive : (⟨stand, cancelling⟩ : LoopTask).isDone = false := by
    rcases hstand with rfl | rfl
    · rfl
    · rfl
  have hcounts : before.countP Did.isBegin = before.countP Did.isEnd := by
    refine h.between ?_
    rintro started cancelling' hlast
    obtain ⟨rfl, -⟩ := LoopTask.mk.inj (Option.some.inj hlast)
    rcases hstand with hstand | hstand
    · exact Stand.noConfusion hstand
    · exact Stand.noConfusion hstand
  have hone := h.oneLoop halive
  refine ⟨h.latest.set, ?_, ?_, ?_, ?_, ?_, ?_, ?_,
    atEvery_append_singleton.mpr ⟨h.regular, hone.1, hone.2, ?_⟩⟩
  · rw [List.countP_append, h.started]
    rfl
  · intro i
    rw [hasLeft_append, h.left, Option.any_some, Option.any_some, halive]
    constructor
    · rintro ((hlt | ⟨-, hfalse⟩) | ⟨_, he⟩)
      · exact .inl hlt
      · exact Bool.noConfusion hfalse
      · exact .inr ⟨(Did.left.inj he).1.symm, rfl⟩
    · rintro (hlt | ⟨rfl, -⟩)
      · exact .inl (.inl hlt)
      · exact .inr ⟨fatal, rfl⟩
  · rw [List.countP_append, h.leaves, Option.toList_some, Option.toList_some, List.countP_singleton,
      List.countP_singleton, halive]
    rfl
  · intro stand' hlast
    obtain ⟨-, rfl⟩ := LoopTask.mk.inj (Option.some.inj hlast)
    exact List.mem_append_left _ (h.cancelled _ rfl)
  · rw [List.countP_append, show (s.move front.length .done cancelling).cycles = s.cycles from rfl,
      h.cycles]
    rfl
  · intro started' cancelling' hlast
    exact Stand.noConfusion (LoopTask.mk.inj (Option.some.inj hlast)).1
  · intro _
    rw [List.countP_append, List.countP_append, hcounts]
    rfl
  · refine hcause.imp id fun hcancel => ?_
    subst hcancel
    exact h.cancelled _ rfl

/-- A cycle that ends goes on at once, or sleeps. Source: `app/services/loop_background.py`
`LoopBackgroundRunner._run_loop`. Kind: L -/
theorem RunnerInv.goesOn {started : ℚ} (r : Turn) (error : Option String)
    (h : RunnerInv before s front (some ⟨.cycling started, false⟩)) :
    ∃ last, RunnerInv
      (before ++ (turn.next front.length r
        { finishCycle s front.length false started r with lastError := error } started).2)
      (turn.next front.length r
        { finishCycle s front.length false started r with lastError := error } started).1
      front last := by
  have hended := h.finishes r error
  unfold turn.next
  split_ifs
  · exact ⟨_, hended⟩
  · have hbegun := hended.begins r (.inr rfl)
    rw [List.append_assoc] at hbegun
    exact ⟨_, hbegun⟩

/-- **The step lemma of a turn.** Source: `app/services/loop_background.py`
`LoopBackgroundRunner._run_loop`. Kind: L -/
theorem RunnerInv.turn (r : Turn) (h : RunnerInv before s front last) :
    ∃ last', RunnerInv (before ++ (turn s i r).2) (turn s i r).1 front last' := by
  cases ht : s.tasks[i]? with
  | none =>
      rw [LoopBackgroundRunner.turn, ht]
      exact ⟨last, by simpa using h⟩
  | some task =>
      by_cases hover : task.isDone = true
      · obtain ⟨stand, cancelling⟩ := task
        cases stand with
        | done =>
            rw [LoopBackgroundRunner.turn, ht]
            exact ⟨last, by simpa using h⟩
        | _ => exact absurd hover (by simp [LoopTask.isDone])
      · obtain ⟨rfl, rfl⟩ := h.latest.alone ht (Bool.eq_false_iff.mpr hover)
        rw [LoopBackgroundRunner.turn, ht]
        obtain ⟨stand, cancelling⟩ := task
        cases stand with
        | done => exact absurd rfl hover
        | created =>
            cases cancelling with
            | true => exact ⟨_, h.leaves' false (.inl rfl) (.inr rfl)⟩
            | false => exact ⟨_, h.begins r (.inl rfl)⟩
        | sleeping =>
            cases cancelling with
            | true => exact ⟨_, h.leaves' false (.inr rfl) (.inr rfl)⟩
            | false => exact ⟨_, h.begins r (.inr rfl)⟩
        | cycling started =>
            cases cancelling with
            | true =>
                have hleft := (h.finishes r s.lastError).leaves' false (.inr rfl) (.inr rfl)
                rw [List.append_assoc] at hleft
                exact ⟨_, hleft⟩
            | false =>
                cases hout : r.outcome with
                | report error => exact h.goesOn r error
                | raised x => exact h.goesOn r (some x.str)
                | fatal =>
                    have hleft := (h.finishes r s.lastError).leaves' true (.inr rfl) (.inl rfl)
                    rw [List.append_assoc] at hleft
                    exact ⟨_, hleft⟩

/-- **The step lemma.** Source: `app/services/loop_background.py` `LoopBackgroundRunner`. Kind: L -/
theorem RunnerInv.step (h : RunnerInv before s front last) (input : Input) :
    ∃ front' last', RunnerInv (before ++ (machine.step s input).2) (machine.step s input).1
      front' last' := by
  cases input with
  | start =>
      show ∃ front' last', RunnerInv (before ++ (start s).2) (start s).1 front' last'
      unfold start
      split_ifs with hrun
      · obtain ⟨x, rfl, halive⟩ := h.latest.goingOn_iff.mp hrun
        exact ⟨front, some x, h.note (h.oneLoop halive).1 rfl rfl rfl rfl rfl⟩
      · exact ⟨_, _, h.startLoop fun _ => h.latest.isDone_of_not_goingOn hrun⟩
  | stop =>
      show ∃ front' last', RunnerInv (before ++ (stop s).2) (stop s).1 front' last'
      unfold stop
      split_ifs with hrun
      · obtain ⟨x, rfl, halive⟩ := h.latest.goingOn_iff.mp hrun
        have htask : s.task = some front.length := h.latest.task_eq
        have hfound : s.tasks[front.length]? = some x := by
          rw [h.latest.getElem?_eq, if_pos rfl]
        have hremembered : (s.task.bind fun i => s.tasks[i]?.map fun task => (i, task)) =
            some (front.length, x) := by
          rw [htask, Option.bind_some, hfound]
          rfl
        rw [hremembered]
        exact ⟨_, _, h.cancels halive⟩
      · exact ⟨front, last, h.note ((h.idle fun _ => h.latest.isDone_of_not_goingOn hrun)) rfl rfl rfl rfl rfl⟩
  | turn i r => exact ⟨front, h.turn r⟩
  | stopReturns i =>
      show ∃ front' last', RunnerInv (before ++ (stopReturns s i).2) (stopReturns s i).1 front' last'
      unfold stopReturns
      split_ifs with hover
      · exact ⟨front, last, h.note (h.isDone_iff.mp hover) rfl rfl rfl rfl rfl⟩
      · exact ⟨front, last, by simpa using h⟩

/-! ## Runs -/

theorem runnerInv_new {intervalSeconds : ℚ} :
    RunnerInv [] { intervalSeconds := intervalSeconds } [] none where
  latest := latest_nil
  started := rfl
  left i := by simp [HasLeft]
  leaves := rfl
  cancelled _ hlast := absurd hlast (by simp)
  cycles := rfl
  under _ _ hlast := absurd hlast (by simp)
  between _ := rfl
  regular := atEvery_nil

/-- **The background loop.** Whatever the order in which requests call `start` and `stop`, tasks take
their turns and calls of `stop` return, every event of the run is regular: at most one loop runs, its
cycles follow each other, a loop ends once and only when it was cancelled or by what is no `Exception`,
and `stop` returns after its loop has ended. The runner says that it runs exactly while one loop has not
ended, and its status counts every cycle that ended. Source: `app/services/loop_background.py`
`LoopBackgroundRunner`. Kind: P -/
theorem background_runs (intervalSeconds : ℚ) (is : List Input) :
    AtEvery Regular (events (machine.log { intervalSeconds := intervalSeconds } is)) ∧
    ((machine.after { intervalSeconds := intervalSeconds } is).status.running = true ↔
      OneLoop (events (machine.log { intervalSeconds := intervalSeconds } is))) ∧
    (machine.after { intervalSeconds := intervalSeconds } is).status.cycles =
      (events (machine.log { intervalSeconds := intervalSeconds } is)).countP Did.isEnd := by
  obtain ⟨front, last, h⟩ : ∃ front last, RunnerInv
      (events (machine.log { intervalSeconds := intervalSeconds } is))
      (machine.after { intervalSeconds := intervalSeconds } is) front last := by
    refine Machine.invariant (I := fun log s => ∃ front last, RunnerInv (events log) s front last)
      (C := fun _ _ _ => True) ⟨[], none, runnerInv_new⟩ ?_ (fun _ _ _ _ => trivial)
    rintro log s input - ⟨front, last, h⟩
    obtain ⟨front', last', hstep⟩ := h.step input
    refine ⟨front', last', ?_⟩
    unfold events at hstep ⊢
    rw [List.flatMap_append, List.flatMap_singleton]
    exact hstep
  refine ⟨h.regular, ?_, h.cycles⟩
  constructor
  · intro hrun
    obtain ⟨x, rfl, halive⟩ := h.latest.goingOn_iff.mp hrun
    exact (h.oneLoop halive).1
  · intro hone
    by_contra hstopped
    have hidle := h.idle fun _ => h.latest.isDone_of_not_goingOn hstopped
    unfold OneLoop at hone
    unfold Idle at hidle
    omega

end LoopBackgroundRunner

end HaruTrade
