import HaruTrade.Data.PyText

/-!
# The runtime flags and who sets them

`RuntimeState` holds the three flags that the pause commands and a critical failure set, and that
`/resume` clears.

* `RuntimeState.critical` — the part of `RuntimeSafetyManager.critical` before its alert is sent.
* `RuntimeState.handle` — what `TelegramCommandService.handle` does to the flags.
* `AllowsClose`, `AllowsEntry` — what the flags are documented to stop: `halted` and `all_paused`
  every order, `entry_paused` entries only.
-/

namespace HaruTrade

/-- Source: `app/services/runtime_state.py` `RuntimeState`. Kind: D -/
structure RuntimeState where
  entryPaused : Bool := false
  allPaused : Bool := false
  halted : Bool := false
  haltReason : Option String := none
  deriving DecidableEq, Repr

namespace RuntimeState

variable (rt : RuntimeState)

/-- Source: `app/services/runtime_state.py` `RuntimeState.pause_entry`. Kind: D -/
def pauseEntry : RuntimeState := { rt with entryPaused := true, allPaused := false }

/-- Source: `app/services/runtime_state.py` `RuntimeState.pause_all`. Kind: D -/
def pauseAll : RuntimeState := { rt with entryPaused := true, allPaused := true }

/-- Source: `app/services/runtime_state.py` `RuntimeState.halt`. Kind: D -/
def halt (reason : String) : RuntimeState :=
  { rt.pauseAll with halted := true, haltReason := some reason }

/-- Source: `app/services/runtime_state.py` `RuntimeState.resume`. Kind: D -/
def resume (_rt : RuntimeState) : RuntimeState where
  entryPaused := false
  allPaused := false
  halted := false
  haltReason := none

/-- What a critical failure does to the flags; the alert that follows reads none of them.
Source: `app/services/runtime_safety.py` `RuntimeSafetyManager.critical`. Kind: D -/
def critical (code message : String) : RuntimeState := rt.halt (code ++ ": " ++ message)

/-- What a chat command does to the flags: `/pause`, `/pause all` and `/resume` set them, every
other command leaves them alone.
Source: `app/services/telegram_command_service.py` `TelegramCommandService.handle`. Kind: D -/
def handle (command : String) : RuntimeState :=
  let text := PyText.strip command
  if text ∈ ["/pause", "/pause entry"] then rt.pauseEntry
  else if text = "/pause all" then rt.pauseAll
  else if text = "/resume" then rt.resume
  else rt

/-- No flag that stops close orders is set. Source: `docs/functional-spec-v0.1.md` FR-08. Kind: D -/
def AllowsClose : Prop := rt.allPaused = false ∧ rt.halted = false

/-- No flag that stops entry orders is set. Source: `docs/functional-spec-v0.1.md` FR-08. Kind: D -/
def AllowsEntry : Prop := rt.entryPaused = false ∧ rt.AllowsClose

instance : Decidable rt.AllowsClose := inferInstanceAs (Decidable (_ ∧ _))

instance : Decidable rt.AllowsEntry := inferInstanceAs (Decidable (_ ∧ _))

end RuntimeState

end HaruTrade
