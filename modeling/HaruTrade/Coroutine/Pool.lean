import HaruTrade.Coroutine.Protocol

/-!
# Pools of tasks on one event loop

Several coroutines share one world. Tasks are switched **only at suspending calls**: a task that
has performed a call `e` with `suspends e = false` keeps the loop until it performs a suspending
call or ends (`Pool.running`). Outside events (`Act.event`) may move the world between any two
calls, and any number of tasks may be spawned.

* `System.Step c act c'` — one step, labelled with what was done; `System.Run ok c c'` — a run all
  of whose steps satisfy `ok s ms act`, a condition on the world and the phases of the tasks
  *before* the step. Each task carries the phase of the protocol that its calls so far have led to.
* `System.Run.invariant` — **the invariant rule**: if the root coroutine follows the protocol, an
  invariant of world and phases needs only to be kept by the calls a phase *allows*, by events and
  by spawning; it then holds in every pool reached, and every call made is an allowed one
  (`System.Disciplined.allows`).
* `System.replay` — runs as a function of a list of labels, to evaluate concrete interleavings;
  `System.run_of_replay` says that what it reaches is reached by a run.
* `Exec.run` — a coroutine run alone is a run of the pool.
-/

namespace Coro

/-- A coroutine in progress and the phase its calls have led to.
Source: none: infrastructure. Kind: D -/
structure Task (E : Type) (R : E → Type) (ε α M : Type) where
  body : Coro E R ε α
  phase : M

/-- A shared world, the tasks over it in spawn order, and the task that holds the event loop.
Source: none: infrastructure. Kind: D -/
structure Pool (E : Type) (R : E → Type) (ε α S M : Type) where
  shared : S
  tasks : List (Task E R ε α M)
  running : Option ℕ

/-- What a step of a pool does. Source: none: infrastructure. Kind: D -/
inductive Act (E A V : Type)
  | spawn
  | perform (t : ℕ) (e : E) (a : A)
  | event (v : V)

/-- A step as a scheduler chooses it: the call is the task's next one.
Source: none: infrastructure. Kind: D -/
inductive Label (A V : Type)
  | spawn
  | resume (t : ℕ) (a : A)
  | event (v : V)

/-- An event loop: how calls move the world, which calls suspend, how outside events move the
world, the protocol that phases are kept for, and the coroutine every task is spawned with.
Source: none: infrastructure. Kind: D -/
structure System (E : Type) (R : E → Type) (ε α S A V M : Type) where
  exec : (e : E) → A → S → R e × S
  suspends : E → Bool
  handle : V → S → S
  protocol : Protocol E R M
  root : Coro E R ε α
  start : M

variable {E : Type} {R : E → Type} {ε α S A V M : Type}

/-- The phases of the tasks, in spawn order. Source: none: infrastructure. Kind: D -/
def Pool.phases (c : Pool E R ε α S M) : List M := c.tasks.map Task.phase

namespace System

variable (sys : System E R ε α S A V M)

/-- The pool after a new task was spawned. Source: none: infrastructure. Kind: D -/
def spawned (c : Pool E R ε α S M) : Pool E R ε α S M :=
  { c with tasks := c.tasks ++ [⟨sys.root, sys.start⟩] }

/-- The pool after task `t`, in phase `m`, performed `e` with answer `a` and continues as `k`.
Source: none: infrastructure. Kind: D -/
def performed (c : Pool E R ε α S M) (t : ℕ) (e : E) (k : R e → Coro E R ε α) (m : M) (a : A) :
    Pool E R ε α S M where
  shared := (sys.exec e a c.shared).2
  tasks := c.tasks.set t
    ⟨k (sys.exec e a c.shared).1, sys.protocol.next m e (sys.exec e a c.shared).1⟩
  running :=
    if sys.suspends e || (k (sys.exec e a c.shared).1).ended then none else some t

/-- The pool after an outside event. Source: none: infrastructure. Kind: D -/
def signalled (c : Pool E R ε α S M) (v : V) : Pool E R ε α S M :=
  { c with shared := sys.handle v c.shared }

/-- **One step of the pool.** Source: none: infrastructure. Kind: D -/
inductive Step : Pool E R ε α S M → Act E A V → Pool E R ε α S M → Prop
  | spawn (c) : Step c .spawn (sys.spawned c)
  | perform {c t e k m} (a : A) (hrun : c.running = none ∨ c.running = some t)
      (ht : c.tasks[t]? = some ⟨.call e k, m⟩) :
      Step c (.perform t e a) (sys.performed c t e k m a)
  | event (c) (v : V) : Step c (.event v) (sys.signalled c v)

/-- **A run** all of whose steps satisfy `ok`, read in the world and phases before the step.
Source: none: infrastructure. Kind: D -/
inductive Run (ok : S → List M → Act E A V → Prop) :
    Pool E R ε α S M → Pool E R ε α S M → Prop
  | refl (c) : Run ok c c
  | tail {c c' c'' act} (h : Run ok c c') (hok : ok c'.shared c'.phases act)
      (hs : sys.Step c' act c'') : Run ok c c''

variable {sys} {ok : S → List M → Act E A V → Prop} {c c' c'' : Pool E R ε α S M}

theorem Run.trans (h₁ : sys.Run ok c c') (h₂ : sys.Run ok c' c'') : sys.Run ok c c'' := by
  induction h₂ with
  | refl => exact h₁
  | tail _ hok hs ih => exact .tail ih hok hs

theorem Run.mono {ok' : S → List M → Act E A V → Prop} (h : sys.Run ok c c')
    (hok : ∀ s ms act, ok s ms act → ok' s ms act) : sys.Run ok' c c' := by
  induction h with
  | refl => exact .refl _
  | tail _ h hs ih => exact .tail ih (hok _ _ _ h) hs

/-! ## The invariant rule -/

/-- Every task makes, from where it stands, only calls its phase allows.
Source: none: infrastructure. Kind: D -/
def Disciplined (sys : System E R ε α S A V M) (c : Pool E R ε α S M) : Prop :=
  ∀ task ∈ c.tasks, Follows sys.protocol (fun _ _ => True) task.phase task.body

theorem disciplined_step (hroot : Follows sys.protocol (fun _ _ => True) sys.start sys.root)
    {act : Act E A V} (h : sys.Disciplined c) (hs : sys.Step c act c') : sys.Disciplined c' := by
  cases hs with
  | spawn =>
      intro task ht
      rcases List.mem_append.mp ht with ht | ht
      · exact h task ht
      · obtain rfl := List.mem_singleton.mp ht
        exact hroot
  | perform a hrun ht =>
      intro task htask
      rcases List.mem_or_eq_of_mem_set htask with hmem | rfl
      · exact h task hmem
      · exact (h _ (List.mem_of_getElem? ht)).2 _
  | event v => exact h

/-- In a disciplined pool the call of a step is allowed by the phase of its task.
Source: none: infrastructure. Kind: L -/
theorem Disciplined.allows (h : sys.Disciplined c) {t : ℕ} {e : E} {a : A}
    (hs : sys.Step c (.perform t e a) c') :
    ∃ m, c.phases[t]? = some m ∧ sys.protocol.allows m e := by
  cases hs with
  | perform a hrun ht =>
      refine ⟨_, ?_, (h _ (List.mem_of_getElem? ht)).1⟩
      simp [Pool.phases, ht]

/-- **The invariant rule.** An invariant of the world and the phases is kept by a run if it is kept
by spawning, by events and by every call that its task's phase allows.
Source: none: infrastructure. Kind: P -/
theorem Run.invariant (hroot : Follows sys.protocol (fun _ _ => True) sys.start sys.root)
    {I : S → List M → Prop} (hspawn : ∀ s ms, I s ms → I s (ms ++ [sys.start]))
    (hevent : ∀ s ms v, I s ms → ok s ms (.event v) → I (sys.handle v s) ms)
    (hperform : ∀ s ms t m e a, I s ms → ms[t]? = some m → sys.protocol.allows m e →
      ok s ms (.perform t e a) →
        I (sys.exec e a s).2 (ms.set t (sys.protocol.next m e (sys.exec e a s).1)))
    (hd : sys.Disciplined c) (h0 : I c.shared c.phases) (h : sys.Run ok c c') :
    I c'.shared c'.phases ∧ sys.Disciplined c' := by
  induction h with
  | refl => exact ⟨h0, hd⟩
  | tail _ hok hs ih =>
      obtain ⟨hI, hD⟩ := ih
      refine ⟨?_, disciplined_step hroot hD hs⟩
      cases hs with
      | spawn => simpa [spawned, Pool.phases] using hspawn _ _ hI
      | perform a hrun ht =>
          obtain ⟨m, hm, hall⟩ := hD.allows (.perform a hrun ht)
          have hphase := hm
          simp only [Pool.phases, List.getElem?_map, ht, Option.map_some,
            Option.some.injEq] at hphase
          subst hphase
          have := hperform _ _ _ _ _ _ hI hm hall hok
          simpa [performed, Pool.phases, List.map_set] using this
      | event v => exact hevent _ _ _ hI hok

/-! ## Runs as a function of the schedule -/

/-- The step a label asks for, if the pool can make it. Source: none: infrastructure. Kind: D -/
def step (sys : System E R ε α S A V M) (c : Pool E R ε α S M) :
    Label A V → Option (Act E A V × Pool E R ε α S M)
  | .spawn => some (.spawn, sys.spawned c)
  | .event v => some (.event v, sys.signalled c v)
  | .resume t a =>
      if c.running = none ∨ c.running = some t then
        match c.tasks[t]? with
        | some ⟨.call e k, m⟩ => some (.perform t e a, sys.performed c t e k m a)
        | _ => none
      else none

/-- The pool a schedule leads to, if the pool can make its steps and they all pass the check.
Source: none: infrastructure. Kind: D -/
def replay (sys : System E R ε α S A V M) (check : S → List M → Act E A V → Bool)
    (c : Pool E R ε α S M) : List (Label A V) → Option (Pool E R ε α S M)
  | [] => some c
  | l :: ls => (sys.step c l).bind fun r =>
      if check c.shared c.phases r.1 then sys.replay check r.2 ls else none

theorem step_sound {l : Label A V} {act : Act E A V} (h : sys.step c l = some (act, c')) :
    sys.Step c act c' := by
  cases l with
  | spawn =>
      cases h
      exact .spawn c
  | event v =>
      cases h
      exact .event c v
  | resume t a =>
      simp only [step] at h
      split at h
      · rename_i hrun
        split at h
        · rename_i e k m ht
          cases h
          exact .perform a hrun ht
        · cases h
      · cases h

/-- What a schedule reaches is reached by a run whose steps all pass the check.
Source: none: infrastructure. Kind: L -/
theorem run_of_replay {check : S → List M → Act E A V → Bool} {ls : List (Label A V)}
    (h : sys.replay check c ls = some c') : sys.Run (fun s ms act => check s ms act = true) c c' := by
  induction ls generalizing c with
  | nil =>
      cases h
      exact .refl _
  | cons l ls ih =>
      obtain ⟨⟨act, d⟩, hd, hr⟩ := Option.bind_eq_some_iff.mp h
      dsimp only at hr
      split at hr
      · next hcheck => exact (Run.tail (.refl _) hcheck (step_sound hd)).trans (ih hr)
      · cases hr

end System

/-! ## A coroutine run alone -/

/-- **A coroutine run alone is a run of the pool**: a big-step run of the body of task `t` is a run
of a pool in which only `t` performs calls, and it leaves the other tasks as they are.
Source: none: infrastructure. Kind: P -/
theorem Exec.run {sys : System E R ε α S A V M} {okc : E → A → S → Prop} {p : Coro E R ε α}
    {s s' : S} {out : Except ε α} (h : Exec sys.exec okc p s out s') {t : ℕ} :
    ∀ {c : Pool E R ε α S M} {m : M}, c.shared = s → c.tasks[t]? = some ⟨p, m⟩ →
      (c.running = none ∨ c.running = some t) →
      ∃ c' m', sys.Run (fun w _ act => ∃ e a, act = .perform t e a ∧ okc e a w) c c' ∧
        c'.shared = s' ∧ c'.tasks = c.tasks.set t ⟨ofExcept out, m'⟩ := by
  induction h with
  | @ret a s =>
      intro c m hs ht hrun
      obtain ⟨hlt, hget⟩ := List.getElem?_eq_some_iff.mp ht
      exact ⟨c, m, .refl c, hs, by simp [ofExcept, ← hget]⟩
  | @raise x s =>
      intro c m hs ht hrun
      obtain ⟨hlt, hget⟩ := List.getElem?_eq_some_iff.mp ht
      exact ⟨c, m, .refl c, hs, by simp [ofExcept, ← hget]⟩
  | @call e k a s s' out hok _ ih =>
      intro c m hs ht hrun
      subst hs
      have hstep : sys.Step c (.perform t e a) (sys.performed c t e k m a) := .perform a hrun ht
      have ht' : (sys.performed c t e k m a).tasks[t]? =
          some ⟨k (sys.exec e a c.shared).1,
            sys.protocol.next m e (sys.exec e a c.shared).1⟩ := by
        have hlt : t < c.tasks.length := (List.getElem?_eq_some_iff.mp ht).1
        simp [System.performed, hlt]
      have hrun' : (sys.performed c t e k m a).running = none ∨
          (sys.performed c t e k m a).running = some t := by
        simp only [System.performed]
        split <;> simp
      obtain ⟨c', m', hr, hsh, htasks⟩ := ih rfl ht' hrun'
      refine ⟨c', m', (System.Run.tail (.refl c) ⟨e, a, rfl, hok⟩ hstep).trans hr, hsh, ?_⟩
      rw [htasks]
      simp [System.performed]

end Coro
