import HaruTrade.Coroutine.Pool
import HaruTrade.Services.CycleProtocol

/-!
# Interleaved cycles

Any number of cycles of one coordinator run on one event loop. Between their calls chat commands and
critical failures of other parts change the flags, and other parts of the program write the symbol and
candle tables.

* `cycles` — the event loop of the runtime; `pool w` — the loop before its first cycle.
* `cycle_alone` — a cycle that nothing interrupts is a run of the loop.
-/

namespace HaruTrade

open Coro LoopRuntimeCoordinator

/-- What reaches the runtime from outside its cycles. Source: `app/services/runtime_factory.py`
`build_runtime_bundle`. Kind: D -/
inductive Event
  | command (text : String)
  | critical (code message : String)
  | setSymbols (symbols : Table SymbolRow.ticker)
  | setCandles (candles : Table CandleRow.key)

/-- What an event does. Source: `app/services/telegram_command_service.py`
`TelegramCommandService.handle` and `app/services/runtime_safety.py`
`RuntimeSafetyManager.critical`. Kind: D -/
def Event.handle : Event → World → World
  | .command text, w => { w with runtime := w.runtime.handle text }
  | .critical code message, w => { w with runtime := w.runtime.critical code message }
  | .setSymbols symbols, w => { w with symbols }
  | .setCandles candles, w => { w with candles }

/-- **The event loop.** Source: `app/services/loop_runtime.py` `LoopRuntimeCoordinator`. Kind: D -/
def cycles (strategies : List Strategy) :
    System Op Resp Exn CycleReport World Answer Event Phase where
  exec := exec
  suspends := Op.suspends
  handle := Event.handle
  protocol := cycleProtocol
  root := runCycle strategies
  start := {}

/-- The event loop before its first cycle. Source: none: infrastructure. Kind: D -/
def pool (w : World) : Pool Op Resp Exn CycleReport World Phase := ⟨w, [], none⟩

/-- A step of the event loop. Source: none: infrastructure. Kind: D -/
abbrev CycleAct : Type := Act Op Answer Event

variable {strategies : List Strategy} {w w' : World}

theorem disciplined_pool : (cycles strategies).Disciplined (pool w) :=
  fun _ ht => absurd ht List.not_mem_nil

/-- **A cycle that nothing interrupts** is a run of the event loop.
Source: `app/services/loop_runtime.py` `LoopRuntimeCoordinator.run_cycle`. Kind: P -/
theorem cycle_alone {ok : Op → Answer → World → Prop} {out : Except Exn CycleReport}
    (h : Exec exec ok (runCycle strategies) w out w') :
    ∃ c, (cycles strategies).Run
        (fun s _ act => act = .spawn ∨ ∃ e a, act = .perform 0 e a ∧ ok e a s) (pool w) c ∧
      c.shared = w' := by
  let c₀ := (cycles strategies).spawned (pool w)
  have hspawn : (cycles strategies).Run
      (fun s _ act => act = .spawn ∨ ∃ e a, act = .perform 0 e a ∧ ok e a s) (pool w) c₀ :=
    .tail (.refl _) (.inl rfl) (.spawn _)
  have halone : Exec (cycles strategies).exec ok (cycles strategies).root w out w' := h
  have htask : c₀.tasks[0]? = some ⟨(cycles strategies).root, (cycles strategies).start⟩ := by
    simp [c₀, System.spawned, pool]
  obtain ⟨c, m, hrun, hshared, -⟩ := halone.run (c := c₀) rfl htask (.inl rfl)
  exact ⟨c, hspawn.trans (hrun.mono fun _ _ _ => .inr), hshared⟩

end HaruTrade
