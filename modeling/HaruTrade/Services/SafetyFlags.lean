import HaruTrade.Services.TelegramCommands

/-!
# The emergency stop and the chat commands

`RuntimeSafetyManager.critical` halts the runtime and pauses everything; `/resume` ends both. `/pause`
pauses entries, and clears `all_paused` when it was set.

* `handle_runtime` — what the chat service does to the flags is what `RuntimeState.handle` says.
* `Ordered` — halted implies all paused, and all paused implies entries paused.
* `ordered_step`, `kept_step` — **one step keeps this**, and clears a flag at a `/resume` only, unless
  it is a `/pause` while everything is paused.
* `flags_iff` — along a run the flags are as documented exactly when there is no such `/pause`.
-/

namespace HaruTrade

namespace TelegramCommandService

variable {repr : String → String} {s : State} {i : Input}

/-! ## The flags and the service -/

theorem confirmPending_runtime {answer : Option ConfigRepository.Answer} :
    (confirmPending repr answer s).1.runtime = s.runtime := by
  unfold confirmPending
  split
  · rfl
  · split
    · rfl
    · rfl

theorem handleSet_runtime {answer : Option ConfigRepository.Answer} {text : String} :
    (handleSet repr answer s text).1.runtime = s.runtime := by
  unfold handleSet
  split
  · rfl
  · split_ifs
    · rfl
    · rfl
    · split
      · rfl
      · rfl

/-- A branch that leaves the flags alone. Source: none: infrastructure. Kind: L -/
theorem runtime_ite {p : Prop} [Decidable p] {a b : State × Output}
    (ha : a.1.runtime = s.runtime) (hb : b.1.runtime = s.runtime) :
    (if p then a else b).1.runtime = s.runtime := by
  split
  · exact ha
  · exact hb

/-- **The service sets the flags** as `RuntimeState.handle` does. Source:
`app/services/telegram_command_service.py` `TelegramCommandService.handle`. Kind: L -/
theorem handle_runtime : (handle repr s i).1.runtime = s.runtime.handle i.command := by
  unfold handle RuntimeState.handle
  generalize PyText.strip i.command = text
  by_cases hpause : text ∈ ["/pause", "/pause entry"]
  · have hne : text ≠ "" := by
      rintro rfl
      exact absurd hpause (by decide)
    simp only [if_neg hne, if_pos hpause]
  · by_cases hall : text = "/pause all"
    · subst hall
      rfl
    · by_cases hresume : text = "/resume"
      · subst hresume
        rfl
      · simp only [if_neg hpause, if_neg hall, if_neg hresume]
        iterate 5 refine runtime_ite rfl ?_
        refine runtime_ite confirmPending_runtime ?_
        refine runtime_ite handleSet_runtime ?_
        exact runtime_ite rfl rfl

end TelegramCommandService

namespace SafetyFlags

open TelegramCommandService (State Input)

/-! ## Events -/

/-- What writes the flags. Source: `app/services/runtime_safety.py` `RuntimeSafetyManager.critical`,
`app/services/telegram_command_service.py` `TelegramCommandService.handle`. Kind: D -/
inductive Event where
  | critical (code message : String)
  | command (i : Input)

/-- The two sources together. Source: `app/services/runtime_safety.py`
`RuntimeSafetyManager.critical`, `app/services/telegram_command_service.py`
`TelegramCommandService.handle`. Kind: D -/
def machine (repr : String → String) : Machine State Event Unit where
  step s e :=
    match e with
    | .critical code message => ({ s with runtime := s.runtime.critical code message }, ())
    | .command i => ((TelegramCommandService.handle repr s i).1, ())

/-- The command is `/resume`. Source: `app/services/telegram_command_service.py`
`TelegramCommandService.handle`. Kind: D -/
def Event.IsResume : Event → Prop
  | .critical _ _ => False
  | .command i => PyText.strip i.command = "/resume"

/-- The command pauses entries. Source: `app/services/telegram_command_service.py`
`TelegramCommandService.handle`. Kind: D -/
def Event.IsPauseEntry : Event → Prop
  | .critical _ _ => False
  | .command i => PyText.strip i.command ∈ ["/pause", "/pause entry"]

/-- Halted implies all paused, and all paused implies entries paused.
Source: `app/services/runtime_state.py` `RuntimeState`. Kind: D -/
structure Ordered (rt : RuntimeState) : Prop where
  halted : rt.halted = true → rt.allPaused = true
  allPaused : rt.allPaused = true → rt.entryPaused = true

/-- The flags that stop every order stay set. Source: `app/services/runtime_state.py`
`RuntimeState`. Kind: D -/
structure Kept (rt rt' : RuntimeState) : Prop where
  halted : rt.halted = true → rt'.halted = true
  allPaused : rt.allPaused = true → rt'.allPaused = true

variable {repr : String → String} {s : State} {e : Event}

/-! ## One event -/

theorem step_command {i : Input} :
    ((machine repr).step s (.command i)).1 = (TelegramCommandService.handle repr s i).1 := by
  simp only [machine]

theorem runtime_command {i : Input} :
    ((machine repr).step s (.command i)).1.runtime = s.runtime.handle i.command := by
  rw [step_command, TelegramCommandService.handle_runtime]

variable (repr s e) in
/-- **What an event does to the flags.** Source: `app/services/runtime_state.py` `RuntimeState`.
Kind: L -/
theorem step_cases :
    (∃ reason, ((machine repr).step s e).1.runtime = s.runtime.halt reason) ∨
    (e.IsPauseEntry ∧ ((machine repr).step s e).1.runtime = s.runtime.pauseEntry) ∨
    (((machine repr).step s e).1.runtime = s.runtime.pauseAll) ∨
    (e.IsResume ∧ ((machine repr).step s e).1.runtime = s.runtime.resume) ∨
    ((machine repr).step s e).1.runtime = s.runtime := by
  rcases e with ⟨code, message⟩ | i
  · exact .inl ⟨_, rfl⟩
  · right
    rw [runtime_command]
    unfold RuntimeState.handle
    by_cases hpause : PyText.strip i.command ∈ ["/pause", "/pause entry"]
    · exact .inl ⟨hpause, by simp only [if_pos hpause]⟩
    · right
      by_cases hall : PyText.strip i.command = "/pause all"
      · exact .inl (by simp only [if_neg hpause, if_pos hall])
      · right
        by_cases hresume : PyText.strip i.command = "/resume"
        · exact .inl ⟨hresume, by simp only [if_neg hpause, if_neg hall, if_pos hresume]⟩
        · exact .inr (by simp only [if_neg hpause, if_neg hall, if_neg hresume])

theorem pauseEntry_of_isPauseEntry (h : e.IsPauseEntry) :
    ((machine repr).step s e).1.runtime = s.runtime.pauseEntry := by
  rcases e with ⟨code, message⟩ | i
  · exact h.elim
  · rw [runtime_command]
    unfold RuntimeState.handle
    exact if_pos h

theorem not_isResume_of_isPauseEntry (h : e.IsPauseEntry) : ¬ e.IsResume := by
  rcases e with ⟨code, message⟩ | i
  · exact h.elim
  · intro hresume
    have hpause : PyText.strip i.command ∈ ["/pause", "/pause entry"] := h
    have htext : PyText.strip i.command = "/resume" := hresume
    rw [htext] at hpause
    exact absurd hpause (by decide)

/-- **One event keeps the order of the flags**, unless it pauses entries while everything is paused.
Source: `app/services/runtime_state.py` `RuntimeState`. Kind: L -/
theorem ordered_step (h : Ordered s.runtime)
    (hpause : ¬ (e.IsPauseEntry ∧ s.runtime.allPaused = true)) :
    Ordered ((machine repr).step s e).1.runtime := by
  rcases step_cases repr s e with
    ⟨reason, hrt⟩ | ⟨hp, hrt⟩ | hrt | ⟨-, hrt⟩ | hrt
  · rw [hrt]
    exact ⟨fun _ => rfl, fun _ => rfl⟩
  · rw [hrt]
    refine ⟨?_, fun _ => rfl⟩
    intro hhalted
    exact absurd ⟨hp, h.halted hhalted⟩ hpause
  · rw [hrt]
    exact ⟨fun _ => rfl, fun _ => rfl⟩
  · rw [hrt]
    exact ⟨fun hhalted => absurd hhalted (by simp [RuntimeState.resume]),
      fun hall => absurd hall (by simp [RuntimeState.resume])⟩
  · rw [hrt]
    exact h

/-- **One event clears no flag** unless it is `/resume`, or pauses entries while everything is paused.
Source: `app/services/runtime_state.py` `RuntimeState`. Kind: L -/
theorem kept_step (hresume : ¬ e.IsResume)
    (hpause : ¬ (e.IsPauseEntry ∧ s.runtime.allPaused = true)) :
    Kept s.runtime ((machine repr).step s e).1.runtime := by
  rcases step_cases repr s e with
    ⟨reason, hrt⟩ | ⟨hp, hrt⟩ | hrt | ⟨hr, -⟩ | hrt
  · rw [hrt]
    exact ⟨fun _ => rfl, fun _ => rfl⟩
  · rw [hrt]
    exact ⟨fun hhalted => hhalted, fun hall => absurd ⟨hp, hall⟩ hpause⟩
  · rw [hrt]
    exact ⟨fun hhalted => hhalted, fun _ => rfl⟩
  · exact absurd hr hresume
  · rw [hrt]
    exact ⟨fun hhalted => hhalted, fun hall => hall⟩

/-! ## Runs -/

/-- A fresh runtime with any settings. Source: `app/bootstrap/core_services.py`
`build_core_services`. Kind: D -/
def start (config : ConfigStore) : State := { config, runtime := {} }

/-- **The flags along a run.** Every state that is reached has its flags in order, and no event but
`/resume` clears one of the flags that stop every order, exactly when no `/pause` is handled while
everything is paused. Source: `app/services/runtime_state.py` `RuntimeState`,
`app/services/runtime_safety.py` `RuntimeSafetyManager.critical`,
`app/services/telegram_command_service.py` `TelegramCommandService.handle`. Kind: P -/
theorem flags_iff (repr : String → String) (config : ConfigStore) (events : List Event) :
    let m := machine repr
    ((∀ front, front <+: events → Ordered (m.after (start config) front).runtime) ∧
      ∀ front e back, events = front ++ e :: back → ¬ e.IsResume →
        Kept (m.after (start config) front).runtime
          (m.step (m.after (start config) front) e).1.runtime) ↔
    ∀ front e back, events = front ++ e :: back →
      ¬ (e.IsPauseEntry ∧ (m.after (start config) front).runtime.allPaused = true) := by
  intro m
  constructor
  · rintro ⟨-, hkept⟩ front e back heq ⟨hpause, hall⟩
    have hstays := (hkept front e back heq (not_isResume_of_isPauseEntry hpause)).allPaused hall
    rw [pauseEntry_of_isPauseEntry hpause] at hstays
    exact absurd hstays (by simp [RuntimeState.pauseEntry])
  · intro hpause
    refine ⟨?_, ?_⟩
    · rintro front ⟨back, rfl⟩
      refine Machine.invariant (I := fun _ (s : State) => Ordered s.runtime)
        (C := fun _ (s : State) (e : Event) => ¬ (e.IsPauseEntry ∧ s.runtime.allPaused = true))
        ?_ ?_ ?_
      · exact ⟨fun h => absurd h Bool.false_ne_true, fun h => absurd h Bool.false_ne_true⟩
      · intro _ s e hside h
        exact ordered_step h hside
      · intro pre e post heq
        exact hpause pre e (post ++ back) (by rw [heq]; simp)
    · intro front e back heq hresume
      exact kept_step hresume (hpause front e back heq)

/-- **An emergency stop undone**: after a critical failure a `/pause` leaves the runtime halted with
`all_paused` cleared. Source: `app/services/runtime_state.py` `RuntimeState.pause_entry`. Kind: C -/
theorem pause_undoes_halt :
    let s := (machine id).after (start ConfigService.start)
      [.critical "db_down" "no connection", .command { command := "/pause" }]
    s.runtime.halted = true ∧ s.runtime.allPaused = false ∧ ¬ Ordered s.runtime := by
  intro s
  have hhalted : s.runtime.halted = true := by decide +kernel
  have hall : s.runtime.allPaused = false := by decide +kernel
  refine ⟨hhalted, hall, ?_⟩
  intro h
  rw [h.halted hhalted] at hall
  exact absurd hall (by simp)

end SafetyFlags

end HaruTrade
