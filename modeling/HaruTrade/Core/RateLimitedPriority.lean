import HaruTrade.Core.RateLimited

/-!
# Orders before data

The queue gives orders before data, but the worker takes its job before it sleeps: an order that is
submitted during the sleep waits until the data job is through.

* `OrdersFirst` — no data job starts while an order waits.
* `Undisturbed` — no order is submitted while a data job sleeps that then starts.
* `exists_submit` — an order that waits beside a sleeping data job was submitted during its sleep.
* **`ordersFirst_iff`** — the first holds of a run exactly when the second does.
-/

namespace HaruTrade

namespace RateLimitedClient

variable {φ ρ ε : Type}

/-- An order has the first priority. Source: `app/core/rate_limited_client.py`
`RateLimitedClient.submit`. Kind: D -/
def Job.IsOrder (job : Job φ) : Prop := job.priority = 0

/-- **No data job starts while an order waits.** Source: `docs/functional-spec-v0.1.md` FR-02.
Kind: D -/
def OrdersFirst (minInterval : ℚ) (run : List (Event φ ρ ε)) : Prop :=
  ∀ pre e post job, run = pre ++ e :: post →
    (machine.step (machine.after (init minInterval) pre) e).2.started? = some job → ¬ job.IsOrder →
    ∀ waiting ∈ (machine.after (init minInterval) (pre ++ [e])).queue, ¬ waiting.IsOrder

/-- **No order is submitted while a data job sleeps** that then starts, that is, whose sleep ends in
a wake. Source: none: infrastructure. Kind: D -/
def Undisturbed (minInterval : ℚ) (run : List (Event φ ρ ε)) : Prop :=
  ∀ pre fn mid post job delay, run = pre ++ .submit fn true :: (mid ++ .wake :: post) →
    (machine.after (init minInterval) pre).worker = .sleeping job delay →
    (∀ e ∈ mid, e ≠ .wake ∧ e ≠ .cancel) → job.IsOrder

section rules

variable {s : State φ ρ ε} {e : Event φ ρ ε} {job waiting : Job φ} {delay minInterval : ℚ}
  {is mid run : List (Event φ ρ ε)}

/-! ## A sleeping worker -/

/-- **A worker sleeps on** until it wakes or is cancelled, and the queue only grows.
Source: `app/core/rate_limited_client.py` `RateLimitedClient._worker`. Kind: L -/
theorem sleeping_step (hs : s.worker = .sleeping job delay) (hwake : e ≠ .wake)
    (hcancel : e ≠ .cancel) :
    (machine.step s e).1.worker = .sleeping job delay ∧
      ∀ waiting ∈ s.queue, waiting ∈ (machine.step s e).1.queue := by
  have hmove := move_step s e
  generalize (machine.step s e).1 = s' at hmove ⊢
  generalize (machine.step s e).2 = act at hmove
  cases hmove with
  | submit fn isOrder =>
      refine ⟨?_, fun waiting h => List.mem_append_left _ h⟩
      show ensureWorker s.worker = _
      rw [hs]
      rfl
  | sleep hwaiting => exact absurd (hs.symm.trans hwaiting) (by simp)
  | call hwaiting => exact absurd (hs.symm.trans hwaiting) (by simp)
  | wake => exact absurd rfl hwake
  | finish hcalling => exact absurd (hs.symm.trans hcalling) (by simp)
  | abandon => exact ⟨hs, fun _ h => h⟩
  | cancel => exact absurd rfl hcancel
  | nothing => exact ⟨hs, fun _ h => h⟩

theorem sleeping_after (hs : s.worker = .sleeping job delay)
    (hmid : ∀ e ∈ mid, e ≠ .wake ∧ e ≠ .cancel) :
    (machine.after s mid).worker = .sleeping job delay ∧
      ∀ waiting ∈ s.queue, waiting ∈ (machine.after s mid).queue := by
  induction mid generalizing s with
  | nil => exact ⟨hs, fun _ h => h⟩
  | cons e mid ih =>
      obtain ⟨hwake, hcancel⟩ := hmid e List.mem_cons_self
      obtain ⟨hnext, hqueue⟩ := sleeping_step hs hwake hcancel
      obtain ⟨hlast, hlater⟩ := ih hnext fun e he => hmid e (List.mem_cons_of_mem _ he)
      exact ⟨hlast, fun waiting h => hlater waiting (hqueue waiting h)⟩

/-- What the worker takes comes before what it leaves. Source: `app/core/rate_limited_client.py`
`RateLimitedClient._worker`. Kind: L -/
theorem not_isOrder_of_pop {queue rest : List (Job φ)}
    (hpop : popLeast Job.key queue = some (job, rest)) (hjob : ¬ job.IsOrder) :
    ∀ waiting ∈ rest, ¬ waiting.IsOrder := by
  obtain ⟨hperm, hleast⟩ := popLeast_eq_some hpop
  intro waiting hwaiting hfirst
  have hle := hleast waiting (hperm.mem_iff.mpr (List.mem_cons_of_mem job hwaiting))
  have hpriority : job.priority ≤ waiting.priority := by
    rcases Prod.Lex.toLex_le_toLex.mp hle with hlt | ⟨heq, -⟩
    · exact hlt.le
    · exact heq.le
  unfold Job.IsOrder at hjob hfirst
  omega

theorem not_sleeping_of_wake : (machine.step s .wake).1.worker ≠ .sleeping job delay := by
  unfold machine
  dsimp only
  split
  · exact fun h => absurd h (by simp)
  · next hother => exact fun h => hother job delay h

theorem not_sleeping_of_cancel : (machine.step s .cancel).1.worker ≠ .sleeping job delay := by
  show (cancel s).1.worker ≠ _
  unfold cancel
  split
  · next habsent => exact fun h => absurd (habsent.symm.trans h) (by simp)
  · exact fun h => absurd h (by simp)
  · exact fun h => absurd h (by simp)

/-- **An order beside a sleeping data job** is new, or was there before beside the same job.
Source: `app/core/rate_limited_client.py` `RateLimitedClient._worker`. Kind: L -/
theorem waiting_step (hs : (machine.step s e).1.worker = .sleeping job delay) (hjob : ¬ job.IsOrder)
    (hwaiting : waiting ∈ (machine.step s e).1.queue) (horder : waiting.IsOrder) :
    s.worker = .sleeping job delay ∧ e ≠ .wake ∧ e ≠ .cancel ∧
      (waiting ∈ s.queue ∨ ∃ fn, e = .submit fn true) := by
  have hwake : e ≠ .wake := by
    rintro rfl
    exact not_sleeping_of_wake hs
  have hcancel : e ≠ .cancel := by
    rintro rfl
    exact not_sleeping_of_cancel hs
  have hmove := move_step s e
  generalize (machine.step s e).1 = s' at hmove hs hwaiting
  generalize (machine.step s e).2 = act at hmove
  cases hmove with
  | submit fn isOrder =>
      refine ⟨sleeping_of_ensureWorker hs, hwake, hcancel, ?_⟩
      rcases List.mem_append.mp hwaiting with hold | hnew
      · exact .inl hold
      · cases isOrder with
        | true => exact .inr ⟨fn, rfl⟩
        | false =>
            obtain rfl := List.mem_singleton.mp hnew
            exact absurd horder one_ne_zero
  | sleep _ hpop =>
      injection hs with heq
      subst heq
      exact absurd horder (not_isOrder_of_pop hpop hjob waiting hwaiting)
  | call => exact absurd hs (by simp)
  | wake => exact absurd rfl hwake
  | finish =>
      unfold taskDone at hs
      split at hs
      · exact absurd hs (by simp)
      · exact absurd hs (by simp)
  | abandon => exact ⟨hs, hwake, hcancel, .inl hwaiting⟩
  | cancel => exact absurd rfl hcancel
  | nothing => exact ⟨hs, hwake, hcancel, .inl hwaiting⟩

/-- **An order that waits beside a sleeping data job** was submitted during its sleep.
Source: `app/core/rate_limited_client.py` `RateLimitedClient._worker`. Kind: L -/
theorem exists_submit (hs : (machine.after (init minInterval) is).worker = .sleeping job delay)
    (hjob : ¬ job.IsOrder) (hwaiting : waiting ∈ (machine.after (init minInterval) is).queue)
    (horder : waiting.IsOrder) :
    ∃ pre fn mid, is = pre ++ .submit fn true :: mid ∧
      (machine.after (init minInterval) pre).worker = .sleeping job delay ∧
      ∀ e ∈ mid, e ≠ .wake ∧ e ≠ .cancel := by
  induction is using List.reverseRecOn with
  | nil => exact absurd hwaiting List.not_mem_nil
  | append_singleton is e ih =>
      rw [Machine.after_append] at hs hwaiting
      obtain ⟨hbefore, hwake, hcancel, hold | ⟨fn, rfl⟩⟩ := waiting_step hs hjob hwaiting horder
      · obtain ⟨pre, fn, mid, rfl, hpre, hmid⟩ := ih hbefore hold
        refine ⟨pre, fn, mid ++ [e], by simp, hpre, ?_⟩
        intro e' he'
        rcases List.mem_append.mp he' with he' | he'
        · exact hmid e' he'
        · rw [List.mem_singleton.mp he']
          exact ⟨hwake, hcancel⟩
      · exact ⟨is, fn, [], rfl, hbefore, by simp⟩

end rules

/-- **When orders go first.** In every run of the client, from any submissions, outcomes and
cancellations in any order, no data job starts while an order waits exactly when no order is
submitted while a data job sleeps that then starts. Source: `app/core/rate_limited_client.py`
`RateLimitedClient._worker`. Kind: P -/
theorem ordersFirst_iff (minInterval : ℚ) (run : List (Event φ ρ ε)) :
    OrdersFirst minInterval run ↔ Undisturbed minInterval run := by
  constructor
  · intro hfirst pre fn mid post job delay hrun hsleeping hmid
    by_contra hjob
    -- the order is in the queue when the data job wakes
    let s := machine.after (init minInterval) pre
    obtain ⟨hsubmit, -⟩ := sleeping_step (e := .submit fn true) hsleeping (by simp) (by simp)
    obtain ⟨hasleep, hstays⟩ := sleeping_after hsubmit hmid
    have hqueued := hstays (submit s fn true).2
      (List.mem_append_right _ (List.mem_singleton_self _))
    have hafter : machine.after (init minInterval) (pre ++ .submit fn true :: mid) =
        machine.after (machine.step s (.submit fn true)).1 mid := Machine.after_append pre _
    have hlast : machine.after (init minInterval) (pre ++ .submit fn true :: mid ++ [.wake]) =
        (machine.step (machine.after (machine.step s (.submit fn true)).1 mid) .wake).1 := by
      rw [Machine.after_append, hafter]
      rfl
    have hwake := hfirst (pre ++ .submit fn true :: mid) .wake post job (by rw [hrun]; simp)
    rw [hlast, hafter] at hwake
    generalize machine.after (machine.step s (.submit fn true)).1 mid = s' at hwake hasleep hqueued
    have hstep : machine.step s' .wake = ({ s' with worker := .calling job }, .woke job) := by
      unfold machine
      dsimp only
      rw [hasleep]
    rw [hstep] at hwake
    exact hwake rfl hjob _ hqueued rfl
  · intro hundisturbed pre e post job hrun hstart hjob waiting hwaiting horder
    rw [Machine.after_append] at hwaiting
    change waiting ∈ (machine.step _ e).1.queue at hwaiting
    rcases started_cases hstart with ⟨-, rest, -, hpop, hqueue⟩ | ⟨rfl, ⟨delay, hsleeping⟩, hqueue⟩
    · rw [hqueue] at hwaiting
      exact not_isOrder_of_pop hpop hjob waiting hwaiting horder
    · rw [hqueue] at hwaiting
      obtain ⟨pre', fn, mid, rfl, hsleep, hmid⟩ := exists_submit hsleeping hjob hwaiting horder
      refine hjob (hundisturbed pre' fn mid post job delay ?_ hsleep hmid)
      rw [hrun]
      simp

/-- The first call ends at 100; a second data job is taken at once, and an order is submitted while
it sleeps. Source: none: infrastructure. Kind: D -/
def orderDuringSleep : List (Event Unit Unit Unit) :=
  [.submit () false, .take 100, .finish (.ok ()) 100, .submit () false, .take 100, .submit () true,
    .wake]

/-- **The data job starts while the order waits.** Source: `app/core/rate_limited_client.py`
`RateLimitedClient._worker`. Kind: C -/
theorem order_overtaken : ¬ OrdersFirst (1 / 5) orderDuringSleep := by
  intro h
  have hstart : (machine.step (machine.after (init (1 / 5)) (orderDuringSleep.take 6))
      .wake).2.started? = some ⟨1, 2, ()⟩ := by with_unfolding_all rfl
  have hqueue : (machine.after (init (1 / 5)) orderDuringSleep).queue = [⟨0, 3, ()⟩] := by
    with_unfolding_all rfl
  refine h (orderDuringSleep.take 6) .wake [] ⟨1, 2, ()⟩ rfl hstart one_ne_zero ⟨0, 3, ()⟩ ?_ rfl
  show _ ∈ (machine.after (init (1 / 5)) orderDuringSleep).queue
  rw [hqueue]
  exact List.mem_singleton_self _

end RateLimitedClient

end HaruTrade
