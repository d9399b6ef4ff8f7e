import HaruTrade.Services.ConfigService
import HaruTrade.Services.RuntimeState

/-!
# Chat commands and the settings

`TelegramCommandService.handle` answers the commands that arrive by chat. `/set` changes a setting at
once, unless its key is one of those that a `/confirm` has to follow; keys of the strategies are
refused.

* `handle` — the command, with what the database and the providers of the reports answer.
* `handle_cases` — a command is a `/set`, a `/confirm`, or touches neither settings nor the pending
  change.
* `Requests`, `Confirms` — an accepted `/set` of a key that needs a confirmation, and a successful
  `/confirm`.
* `Pending` — the pending change is that of the last accepted request, not confirmed since.
* `settings_protected` — **what any sequence of commands can do to a setting**.
-/

namespace HaruTrade

/-- Source: `app/services/runtime_state.py` `PendingConfigChange`. Kind: D -/
structure PendingConfigChange where
  key : String
  value : String
  changedBy : String := "telegram"
  deriving DecidableEq, Repr

/-- Source: `app/services/telegram_command_service.py` `CommandResult`. Kind: D -/
structure CommandResult where
  ok : Bool
  message : String
  deriving DecidableEq, Repr

/-- `str(exc)` of an exception of the settings; `repr` is Python's `repr` of a text, which a
`KeyError` puts its text through. Source: `app/services/telegram_command_service.py`
`TelegramCommandService._handle_set`. Kind: D -/
def ConfigError.str (repr : String → String) : ConfigError → String
  | .key text => repr text
  | .value text => text
  | .number e => e.text repr

namespace TelegramCommandService

open ConfigService (Stores)

/-! ## What the providers answer -/

/-- The numbers of a paper report that are there. Source: `app/services/telegram_command_service.py`
`TelegramCommandService._handle_paper_report`. Kind: D -/
structure Metrics where
  totalSignals : Option ℤ := none
  winRate : Option PyNum := none
  sharpeRatio : Option PyNum := none
  mdd : Option PyNum := none
  errorRate : Option PyNum := none

/-- Source: `app/services/telegram_command_service.py`
`TelegramCommandService._handle_paper_report`. Kind: D -/
structure PaperReport where
  ok : Bool := false
  error : Option String := none
  passed : Bool := false
  metrics : Metrics := {}

/-- The entries as an f-string prints them. Source: `app/services/telegram_command_service.py`
`TelegramCommandService._backtest_status_snippet`. Kind: D -/
structure BacktestStatus where
  lastStatus : Option String := none
  lastJobId : Option String := none

/-- The entries as an f-string prints them. Source: `app/services/telegram_command_service.py`
`TelegramCommandService._runtime_status_snippet`. Kind: D -/
structure RuntimeStatus where
  loopRunning : Option String := none
  loopCycles : Option String := none
  loopLastMs : Option String := none

/-- What the providers answer or raise when they are called; `none` for one that is not given.
Source: `app/services/telegram_command_service.py` `TelegramCommandService.__init__`. Kind: D -/
structure Providers where
  report : Option (Except Exn String) := none
  paperReport : Option (Except Exn PaperReport) := none
  backtestStatus : Option (Except Exn BacktestStatus) := none
  runtimeStatus : Option (Except Exn RuntimeStatus) := none

/-! ## The service -/

/-- Source: `app/services/telegram_command_service.py` `TelegramCommandService.__init__`. Kind: D -/
def confirmRequiredKeys : List String :=
  ["position_size_max_pct", "position_size_min_pct", "risk_per_trade_pct", "daily_loss_pct",
   "stop_count", "cooldown_hours", "max_positions", "margin_ratio", "order_cancel_minutes"]

/-- Source: `app/services/telegram_command_service.py` `TelegramCommandService.__init__`. Kind: D -/
def telegramBlockedKeys : List String :=
  ["atr_period", "stop_atr_mult", "tp_atr_mult", "trail_atr_mult", "margin_close_priority"]

/-- What the service reads and writes: the settings, the flags, and the field `pending_change` of
the runtime state. Source: `app/services/telegram_command_service.py` `TelegramCommandService`.
Kind: D -/
structure State where
  config : ConfigStore
  runtime : RuntimeState
  pending : Option PendingConfigChange := none

/-- A command with what the database and the providers answer while it is handled.
Source: none: infrastructure. Kind: D -/
structure Input where
  command : String
  answer : Option ConfigRepository.Answer := some .ok
  providers : Providers := {}

/-- What a command ends with: a result, or an exception of a provider.
Source: none: infrastructure. Kind: D -/
abbrev Output : Type := Except Exn CommandResult

/-- Python's text of a bool. Source: none: infrastructure. Kind: D -/
def boolText (b : Bool) : String := if b then "True" else "False"

/-- Source: `app/services/telegram_command_service.py`
`TelegramCommandService._backtest_status_snippet`. Kind: D -/
def backtestStatusSnippet (p : Providers) : Option String :=
  p.backtestStatus.map fun answer =>
    match answer with
    | .error _ => "자동백테스트상태=사용불가, 자동백테스트작업=None"
    | .ok st =>
      "자동백테스트상태=" ++ st.lastStatus.getD "알수없음" ++ ", 자동백테스트작업=" ++
        st.lastJobId.getD "알수없음"

/-- Source: `app/services/telegram_command_service.py`
`TelegramCommandService._runtime_status_snippet`. Kind: D -/
def runtimeStatusSnippet (p : Providers) : Option String :=
  p.runtimeStatus.map fun answer =>
    match answer with
    | .error _ => "루프실행=알수없음, 루프사이클=알수없음, 루프최근지연ms=알수없음"
    | .ok st =>
      "루프실행=" ++ st.loopRunning.getD "None" ++ ", 루프사이클=" ++ st.loopCycles.getD "None" ++
        ", 루프최근지연ms=" ++ st.loopLastMs.getD "None"

/-- The suffix of a message, if there is one. Source: none: infrastructure. Kind: D -/
def withSuffix (separator message : String) (suffix : Option String) : String :=
  suffix.elim message fun text => message ++ separator ++ text

/-- The `/status` branch. Source: `app/services/telegram_command_service.py`
`TelegramCommandService.handle`. Kind: D -/
def statusMessage (s : State) (p : Providers) : String :=
  let message := "진입중지=" ++ boolText s.runtime.entryPaused ++ ", 전체중지=" ++
    boolText s.runtime.allPaused ++ ", 비상정지=" ++ boolText s.runtime.halted ++ ", 변경대기=" ++
    s.pending.elim "없음" PendingConfigChange.key
  withSuffix ", " (withSuffix ", " message (runtimeStatusSnippet p)) (backtestStatusSnippet p)

/-- The `/settings` branch. Source: `app/services/telegram_command_service.py`
`TelegramCommandService.handle`. Kind: D -/
def settingsMessage (s : State) : String :=
  let pairs := s.config.manager.getAll.rows.mergeSort fun a b => a.1 ≤ b.1
  String.intercalate ", " (pairs.map fun pair => pair.1 ++ "=" ++ pair.2)

/-- The `/report` branch. Source: `app/services/telegram_command_service.py`
`TelegramCommandService.handle`. Kind: D -/
def handleReport (p : Providers) : Output :=
  match p.report with
  | none => .ok ⟨false, "리포트를 생성할 수 없습니다."⟩
  | some (.error x) => .error x
  | some (.ok message) => .ok ⟨true, withSuffix "\n" message (backtestStatusSnippet p)⟩

/-- Source: `app/services/telegram_command_service.py`
`TelegramCommandService._handle_paper_report`. Kind: D -/
def handlePaperReport (p : Providers) : Output :=
  match p.paperReport with
  | none => .ok ⟨false, "페이퍼 리포트를 생성할 수 없습니다."⟩
  | some (.error x) => .error x
  | some (.ok report) =>
    if ¬ report.ok then .ok ⟨false, "페이퍼 리포트 생성 실패: " ++ report.error.getD "알수없음"⟩
    else
      let metrics := report.metrics
      let fixed := fun places (n : Option PyNum) => (n.getD (.of 0)).fixed places
      let message := "페이퍼합격여부=" ++ boolText report.passed ++ ", 신호수=" ++
        toString (metrics.totalSignals.getD 0) ++ ", 승률=" ++ fixed 3 metrics.winRate ++ ", 샤프=" ++
        fixed 3 metrics.sharpeRatio ++ ", 최대낙폭=" ++ fixed 3 metrics.mdd ++ ", 오류율=" ++
        fixed 6 metrics.errorRate
      .ok ⟨true, withSuffix ", " message (backtestStatusSnippet p)⟩

/-- Source: `app/services/telegram_command_service.py` `TelegramCommandService._handle_close`.
Kind: D -/
def handleClose (text : String) : CommandResult :=
  let usage : CommandResult := ⟨false, "사용법: /close [종목코드]|all"⟩
  if text = "/close all" then ⟨true, "전체 포지션 청산 요청을 접수했습니다."⟩
  else
    match PyText.fields 1 text with
    | [_, last] =>
      let ticker := PyText.strip last
      if ticker = "" then usage else ⟨true, ticker ++ " 종목 청산 요청을 접수했습니다."⟩
    | _ => usage

/-- The key and the text of a `/set`. Source: `app/services/telegram_command_service.py`
`TelegramCommandService._handle_set`. Kind: D -/
def setArgs (text : String) : Option (String × String) :=
  match PyText.fields 2 text with
  | [_, key, value] => some (key, value)
  | _ => none

/-- The key can be changed on the web pages only. Source: `app/services/telegram_command_service.py`
`TelegramCommandService._handle_set`. Kind: D -/
def WebOnly (key : String) : Prop :=
  key ∈ telegramBlockedKeys ∨ PyText.startsWith "strategy." key = true

instance {key : String} : Decidable (WebOnly key) := inferInstanceAs (Decidable (_ ∨ _))

/-- A change of a setting by chat. Source: `app/services/telegram_command_service.py`
`TelegramCommandService._handle_set`. Kind: D -/
def chatCall (key value : String) : ConfigService.SetCall := ⟨key, value, "telegram"⟩

/-- The pending change, applied. Source: `app/services/telegram_command_service.py`
`TelegramCommandService._confirm_pending`. Kind: D -/
def changeCall (change : PendingConfigChange) : ConfigService.SetCall :=
  ⟨change.key, change.value, change.changedBy⟩

variable (repr : String → String)

/-- Source: `app/services/telegram_command_service.py` `TelegramCommandService._handle_set`.
Kind: D -/
def handleSet (answer : Option ConfigRepository.Answer) (s : State) (text : String) :
    State × CommandResult :=
  match setArgs text with
  | none => (s, ⟨false, "사용법: /set [키] [값]"⟩)
  | some (key, value) =>
    if WebOnly key then (s, ⟨false, key ++ " 항목은 웹 UI에서만 변경할 수 있습니다."⟩)
    else if key ∈ confirmRequiredKeys then
      ({ s with pending := some { key, value } },
        ⟨true, "확인 대기 중: " ++ key ++ "=" ++ value ++ ". /confirm 을 실행하세요."⟩)
    else
      match ConfigService.set s.config answer (chatCall key value) with
      | (config, .error e) => ({ s with config }, ⟨false, e.str repr⟩)
      | (config, .ok ()) =>
        ({ s with config }, ⟨true, "설정을 변경했습니다: " ++ key ++ "=" ++ value⟩)

/-- Source: `app/services/telegram_command_service.py` `TelegramCommandService._confirm_pending`.
Kind: D -/
def confirmPending (answer : Option ConfigRepository.Answer) (s : State) : State × CommandResult :=
  match s.pending with
  | none => (s, ⟨false, "확인 대기 중인 변경이 없습니다."⟩)
  | some change =>
    match ConfigService.set s.config answer (changeCall change) with
    | (config, .error e) => ({ s with config }, ⟨false, e.str repr⟩)
    | (config, .ok ()) =>
      ({ s with config, pending := none }, ⟨true, "대기 중이던 설정 변경을 적용했습니다."⟩)

/-- Source: `app/services/telegram_command_service.py` `TelegramCommandService.handle`. Kind: D -/
def handle (s : State) (i : Input) : State × Output :=
  let text := PyText.strip i.command
  if text = "" then (s, .ok ⟨false, "명령어가 비어 있습니다."⟩)
  else if text ∈ ["/pause", "/pause entry"] then
    ({ s with runtime := s.runtime.pauseEntry },
      .ok ⟨true, "진입 자동매매를 일시중지했습니다."⟩)
  else if text = "/pause all" then
    ({ s with runtime := s.runtime.pauseAll }, .ok ⟨true, "전체 자동매매를 일시중지했습니다."⟩)
  else if text = "/resume" then
    ({ s with runtime := s.runtime.resume }, .ok ⟨true, "자동매매를 재개했습니다."⟩)
  else if text = "/status" then (s, .ok ⟨true, statusMessage s i.providers⟩)
  else if text = "/settings" then (s, .ok ⟨true, settingsMessage s⟩)
  else if text = "/report" then (s, handleReport i.providers)
  else if text = "/paper_report" then (s, handlePaperReport i.providers)
  else if text = "/confirm" then
    ((confirmPending repr i.answer s).1, .ok (confirmPending repr i.answer s).2)
  else if PyText.startsWith "/set " text then
    ((handleSet repr i.answer s text).1, .ok (handleSet repr i.answer s text).2)
  else if PyText.startsWith "/close " text then (s, .ok (handleClose text))
  else (s, .ok ⟨false, "지원하지 않는 명령어입니다: " ++ text⟩)

/-- The service. Source: `app/services/telegram_command_service.py` `TelegramCommandService.handle`.
Kind: D -/
def machine : Machine State Input Output where
  step s i := handle repr s i

/-- Source: `app/services/telegram_command_service.py` `TelegramCommandService.handle`. Kind: D -/
def IsConfirm (i : Input) : Prop := PyText.strip i.command = "/confirm"

/-- Source: `app/services/telegram_command_service.py` `TelegramCommandService.handle`. Kind: D -/
def IsSet (i : Input) : Prop := PyText.startsWith "/set " (PyText.strip i.command) = true

/-- The command succeeded. Source: `app/services/telegram_command_service.py` `CommandResult`.
Kind: D -/
def Accepted (out : Output) : Prop := ∃ message, out = .ok ⟨true, message⟩

/-- An accepted `/set` of a key that needs a confirmation. Source:
`app/services/telegram_command_service.py` `TelegramCommandService._handle_set`. Kind: D -/
def Requests (key value : String) (e : Input × Output) : Prop :=
  IsSet e.1 ∧ setArgs (PyText.strip e.1.command) = some (key, value) ∧
    key ∈ confirmRequiredKeys ∧ Accepted e.2

/-- A successful `/confirm`. Source: `app/services/telegram_command_service.py`
`TelegramCommandService._confirm_pending`. Kind: D -/
def Confirms (e : Input × Output) : Prop := IsConfirm e.1 ∧ Accepted e.2

/-- Nothing that was requested before is still to be confirmed. Source: none: infrastructure.
Kind: D -/
def Ends (e : Input × Output) : Prop := (∃ key value, Requests key value e) ∨ Confirms e

/-- The setting is the same in memory and in the table. Source: none: infrastructure. Kind: D -/
def SameSetting (key : String) (a b : ConfigStore) : Prop :=
  b.manager.value? key = a.manager.value? key ∧ b.db.value? key = a.db.value? key

variable {repr} {s : State} {i : Input}

theorem step_eq : (machine repr).step s i = handle repr s i := by
  simp only [machine]

/-! ## What one command does -/

theorem handle_of_confirm (h : IsConfirm i) :
    handle repr s i =
      ((confirmPending repr i.answer s).1, .ok (confirmPending repr i.answer s).2) := by
  unfold IsConfirm at h
  unfold handle
  rw [h]
  rfl

theorem not_isSet_of_isConfirm (h : IsConfirm i) : ¬ IsSet i := by
  unfold IsConfirm at h
  unfold IsSet
  rw [h]
  decide +kernel

theorem handle_of_set (h : IsSet i) :
    handle repr s i =
      ((handleSet repr i.answer s (PyText.strip i.command)).1,
        .ok (handleSet repr i.answer s (PyText.strip i.command)).2) := by
  have hset : ∀ text ∈ ["", "/pause", "/pause entry", "/pause all", "/resume", "/status",
      "/settings", "/report", "/paper_report", "/confirm"],
      PyText.startsWith "/set " text = false := by decide +kernel
  unfold IsSet at h
  unfold handle
  generalize PyText.strip i.command = text at *
  have hne : ∀ name ∈ ["", "/pause", "/pause entry", "/pause all", "/resume", "/status",
      "/settings", "/report", "/paper_report", "/confirm"], text ≠ name := by
    intro name hname heq
    rw [heq, hset name hname] at h
    exact absurd h (by simp)
  simp only [List.forall_mem_cons] at hne
  obtain ⟨h₀, h₁, h₂, h₃, h₄, h₅, h₆, h₇, h₈, h₉, -⟩ := hne
  have hpause : text ∉ ["/pause", "/pause entry"] := by simp [h₁, h₂]
  rw [if_neg h₀, if_neg hpause, if_neg h₃, if_neg h₄, if_neg h₅, if_neg h₆, if_neg h₇,
    if_neg h₈, if_neg h₉, if_pos h]

/-- Every other command leaves the settings and the pending change alone.
Source: `app/services/telegram_command_service.py` `TelegramCommandService.handle`. Kind: L -/
theorem handle_of_other (hconfirm : ¬ IsConfirm i) (hset : ¬ IsSet i) :
    ∃ runtime, (handle repr s i).1 = { s with runtime } := by
  unfold IsConfirm at hconfirm
  unfold IsSet at hset
  unfold handle
  generalize PyText.strip i.command = text at *
  simp only [if_neg hconfirm, if_neg hset]
  -- each remaining branch answers with the state as it is, or with other flags
  iterate 9
    refine iteInduction (motive := fun r : State × Output => ∃ runtime, r.1 = { s with runtime })
      (fun _ => ⟨_, rfl⟩) fun _ => ?_
  exact ⟨_, rfl⟩

variable (repr s i) in
/-- **One command** is a `/confirm`, a `/set`, or leaves the settings and the pending change alone.
Source: `app/services/telegram_command_service.py` `TelegramCommandService.handle`. Kind: L -/
theorem handle_cases :
    (IsConfirm i ∧ ¬ IsSet i ∧
      ∃ r, confirmPending repr i.answer s = r ∧ handle repr s i = (r.1, .ok r.2)) ∨
    (IsSet i ∧ ¬ IsConfirm i ∧
      ∃ r, handleSet repr i.answer s (PyText.strip i.command) = r ∧
        handle repr s i = (r.1, .ok r.2)) ∨
    (¬ IsConfirm i ∧ ¬ IsSet i ∧ (handle repr s i).1.config = s.config ∧
      (handle repr s i).1.pending = s.pending) := by
  by_cases hconfirm : IsConfirm i
  · exact .inl ⟨hconfirm, not_isSet_of_isConfirm hconfirm, _, rfl, handle_of_confirm hconfirm⟩
  · right
    by_cases hset : IsSet i
    · exact .inl ⟨hset, hconfirm, _, rfl, handle_of_set hset⟩
    · right
      obtain ⟨runtime, hsame⟩ := handle_of_other hconfirm hset
      rw [hsame]
      exact ⟨hconfirm, hset, rfl, rfl⟩

variable {answer : Option ConfigRepository.Answer} {r : State × CommandResult}

/-- **A `/confirm`** has nothing to confirm, or fails and changes nothing, or stores the pending
change and forgets it. Source: `app/services/telegram_command_service.py`
`TelegramCommandService._confirm_pending`. Kind: L -/
theorem confirmPending_cases (hr : confirmPending repr answer s = r) :
    (r.1 = s ∧ r.2.ok = false) ∨
    ∃ change, s.pending = some change ∧ r.2.ok = true ∧ r.1.pending = none ∧
      Stores change.key change.value s.config r.1.config := by
  subst hr
  rcases hpending : s.pending with _ | change
  · left
    simp [confirmPending, hpending]
  · rcases ConfigService.set_stores s.config (changeCall change) answer with
      ⟨e, hset⟩ | ⟨hok, hstores⟩
    · left
      have hcall : confirmPending repr answer s = (s, ⟨false, e.str repr⟩) := by
        simp only [confirmPending, hpending, hset]
        rw [← hpending]
      rw [hcall]
      exact ⟨rfl, rfl⟩
    · right
      refine ⟨change, rfl, ?_⟩
      rcases hset : ConfigService.set s.config answer (changeCall change) with ⟨config, result⟩
      rw [hset] at hok hstores
      obtain rfl : result = .ok () := hok
      have hcall : confirmPending repr answer s = ({ s with config, pending := none },
          ⟨true, "대기 중이던 설정 변경을 적용했습니다."⟩) := by
        simp only [confirmPending, hpending, hset]
      rw [hcall]
      exact ⟨rfl, rfl, hstores⟩

/-- **A `/set`** is refused and changes nothing, or becomes the pending change, or stores its text
under a key that needs no confirmation and is not left to the web pages.
Source: `app/services/telegram_command_service.py` `TelegramCommandService._handle_set`. Kind: L -/
theorem handleSet_cases {text : String} (hr : handleSet repr answer s text = r) :
    (r.1 = s ∧ r.2.ok = false) ∨
    ∃ key value, setArgs text = some (key, value) ∧ ¬ WebOnly key ∧ r.2.ok = true ∧
      (key ∈ confirmRequiredKeys ∧ r.1.config = s.config ∧
          r.1.pending = some { key, value } ∨
        key ∉ confirmRequiredKeys ∧ r.1.pending = s.pending ∧
          Stores key value s.config r.1.config) := by
  subst hr
  rcases hargs : setArgs text with _ | ⟨key, value⟩
  · left
    simp [handleSet, hargs]
  · by_cases hweb : WebOnly key
    · left
      simp [handleSet, hargs, hweb]
    · by_cases hkey : key ∈ confirmRequiredKeys
      · right
        refine ⟨key, value, rfl, hweb, ?_⟩
        simp [handleSet, hargs, hweb, hkey]
      · rcases ConfigService.set_stores s.config (chatCall key value) answer with
          ⟨e, hset⟩ | ⟨hok, hstores⟩
        · left
          simp [handleSet, hargs, hweb, hkey, hset]
        · right
          refine ⟨key, value, rfl, hweb, ?_⟩
          rcases hset : ConfigService.set s.config answer (chatCall key value) with
            ⟨config, result⟩
          rw [hset] at hok hstores
          obtain rfl : result = .ok () := hok
          have hcall : handleSet repr answer s text = ({ s with config },
              ⟨true, "설정을 변경했습니다: " ++ key ++ "=" ++ value⟩) := by
            simp only [handleSet, hargs, if_neg hweb, if_neg hkey, hset]
          rw [hcall]
          exact ⟨rfl, .inr ⟨hkey, rfl, hstores⟩⟩

theorem SameSetting.of_stores {key value j : String} {a b : ConfigStore} (h : Stores key value a b)
    (hj : j ≠ key) : SameSetting j a b := by
  refine ⟨by rw [h.memory, if_neg hj], ?_⟩
  rcases h.row j with hsame | ⟨heq, -⟩
  · exact hsame
  · exact absurd heq hj

theorem not_accepted {result : CommandResult} (h : result.ok = false) :
    ¬ Accepted (.ok result) := by
  rintro ⟨message, hresult⟩
  rw [Except.ok.inj hresult] at h
  exact absurd h (by simp)

theorem accepted {result : CommandResult} (h : result.ok = true) : Accepted (.ok result) :=
  ⟨result.message, by rw [← h]⟩

/-! ## The pending change -/

/-- The pending change is that of the last accepted request, which no `/confirm` has applied since,
and its key needs a confirmation. Source: `app/services/telegram_command_service.py`
`TelegramCommandService._handle_set`. Kind: D -/
def Pending (l : List (Input × Output)) (s : State) : Prop :=
  ∀ change, s.pending = some change →
    change.key ∈ confirmRequiredKeys ∧ Since (Requests change.key change.value) Ends l

section step

variable {l : List (Input × Output)} {s' : State} {out : Output}

/-- A command that leaves the pending change alone, and is no accepted request or `/confirm`.
Source: none: infrastructure. Kind: L -/
theorem Pending.later (h : Pending l s) (hpending : s'.pending = s.pending)
    (hends : ¬ Ends (i, out)) : Pending (l ++ [(i, out)]) s' := by
  intro change hchange
  rw [hpending] at hchange
  obtain ⟨hkey, hsince⟩ := h change hchange
  exact ⟨hkey, hsince.later hends⟩

theorem not_ends_of_refused {result : CommandResult} (h : result.ok = false) :
    ¬ Ends (i, .ok result) := by
  rintro (⟨key, value, hrequest⟩ | hconfirms)
  · exact not_accepted h hrequest.2.2.2
  · exact not_accepted h hconfirms.2

theorem Pending.confirm (h : Pending l s) (hr : confirmPending repr answer s = r) :
    Pending (l ++ [(i, .ok r.2)]) r.1 := by
  rcases confirmPending_cases hr with ⟨hsame, hfail⟩ | ⟨change, -, -, hnone, -⟩
  · exact h.later (by rw [hsame]) (not_ends_of_refused hfail)
  · intro change' hchange'
    rw [hnone] at hchange'
    exact absurd hchange' (by simp)

theorem Pending.set (h : Pending l s) (hset : IsSet i) (hconfirm : ¬ IsConfirm i)
    (hr : handleSet repr answer s (PyText.strip i.command) = r) :
    Pending (l ++ [(i, .ok r.2)]) r.1 := by
  rcases handleSet_cases hr with
    ⟨hsame, hfail⟩ | ⟨key, value, hargs, -, hok, ⟨hkey, -, hpending⟩ | ⟨hkey, hpending, -⟩⟩
  · exact h.later (by rw [hsame]) (not_ends_of_refused hfail)
  · intro change hchange
    have hchange' : PendingConfigChange.mk key value "telegram" = change :=
      Option.some.inj (hpending.symm.trans hchange)
    rw [← hchange']
    exact ⟨hkey, Since.now ⟨hset, hargs, hkey, accepted hok⟩⟩
  · refine h.later hpending ?_
    rintro (⟨key', value', hrequest⟩ | hconfirms)
    · have hsame := hargs.symm.trans hrequest.2.1
      rw [Option.some.injEq, Prod.mk.injEq] at hsame
      exact hkey (hsame.1 ▸ hrequest.2.2.1)
    · exact hconfirm hconfirms.1

/-- **One command keeps the pending change that of the last request.**
Source: `app/services/telegram_command_service.py` `TelegramCommandService.handle`. Kind: L -/
theorem Pending.step (h : Pending l s) (i : Input) :
    Pending (l ++ [(i, ((machine repr).step s i).2)]) ((machine repr).step s i).1 := by
  rw [step_eq]
  rcases handle_cases repr s i with
    ⟨-, -, r, hr, hhandle⟩ | ⟨hset, hconfirm, r, hr, hhandle⟩ | ⟨hconfirm, hset, -, hpending⟩
  · rw [hhandle]
    exact h.confirm hr
  · rw [hhandle]
    exact h.set hset hconfirm hr
  · refine h.later hpending ?_
    rintro (⟨key, value, hrequest⟩ | hconfirms)
    · exact hset hrequest.1
    · exact hconfirm hconfirms.1

end step

/-- The keys that need a confirmation can be set by chat. Source:
`app/services/telegram_command_service.py` `TelegramCommandService.__init__`. Kind: L -/
theorem not_webOnly_of_mem {key : String} (h : key ∈ confirmRequiredKeys) : ¬ WebOnly key := by
  revert key
  decide +kernel

/-- A `/set` leaves the keys alone that it may not change at once. Source:
`app/services/telegram_command_service.py` `TelegramCommandService._handle_set`. Kind: L -/
theorem sameSetting_handleSet {text key : String} (hr : handleSet repr answer s text = r)
    (hkey : WebOnly key ∨ key ∈ confirmRequiredKeys) : SameSetting key s.config r.1.config := by
  rcases handleSet_cases hr with
    ⟨hsame, -⟩ | ⟨key', value, -, hnot, -, ⟨-, hsame, -⟩ | ⟨hother, -, hstores⟩⟩
  · rw [hsame]
    exact ⟨rfl, rfl⟩
  · rw [hsame]
    exact ⟨rfl, rfl⟩
  · refine .of_stores hstores ?_
    rintro rfl
    exact hkey.elim hnot hother

/-- **What any sequence of commands can do to a setting.** The keys left to the web pages never
change. A key that needs a confirmation changes at a `/confirm` only, and then to the text of the
last accepted `/set` of such a key that no `/confirm` has applied yet. A `/confirm` that fails
changes no setting and keeps the pending change. No other command but `/set` changes a setting.
Source: `app/services/telegram_command_service.py` `TelegramCommandService.handle`. Kind: P -/
theorem settings_protected (repr : String → String) (config : ConfigStore) (runtime : RuntimeState)
    (inputs : List Input) (i : Input) :
    let s := (machine repr).after { config, runtime } inputs
    let s' := ((machine repr).step s i).1
    (∀ key, WebOnly key → SameSetting key s.config s'.config) ∧
    (∀ key ∈ confirmRequiredKeys, ¬ SameSetting key s.config s'.config →
      IsConfirm i ∧ ∃ value,
        Since (Requests key value) Ends ((machine repr).log { config, runtime } inputs) ∧
        s'.config.manager.value? key = some value ∧
        (s'.config.db.value? key = s.config.db.value? key ∨
          s'.config.db.value? key = some value)) ∧
    (IsConfirm i → ¬ Accepted ((machine repr).step s i).2 →
      s'.config = s.config ∧ s'.pending = s.pending) ∧
    (¬ IsConfirm i → ¬ IsSet i → s'.config = s.config) := by
  intro s s'
  have hpending : Pending ((machine repr).log { config, runtime } inputs) s :=
    Machine.invariant (I := Pending) (C := fun _ _ _ => True) (fun _ h => absurd h (by simp))
      (fun _ _ j _ h => h.step j) fun _ _ _ _ => trivial
  rcases handle_cases repr s i with
    ⟨hconfirm, -, r, hr, hhandle⟩ | ⟨hset, hconfirm, r, hr, hhandle⟩ | ⟨hconfirm, -, hsame, -⟩
  · rw [← step_eq] at hhandle
    have hs' : s' = r.1 := congrArg Prod.fst hhandle
    have hout : ((machine repr).step s i).2 = .ok r.2 := congrArg Prod.snd hhandle
    rw [hs', hout]
    rcases confirmPending_cases hr with ⟨hsame, hfail⟩ | ⟨change, hchange, hok, -, hstores⟩
    · rw [hsame]
      refine ⟨fun _ _ => ⟨rfl, rfl⟩, ?_, fun _ _ => ⟨rfl, rfl⟩, fun h => absurd hconfirm h⟩
      intro key _ hdiff
      exact absurd ⟨rfl, rfl⟩ hdiff
    · obtain ⟨hkey, hsince⟩ := hpending change hchange
      refine ⟨?_, ?_, fun _ h => absurd (accepted hok) h, fun h => absurd hconfirm h⟩
      · intro key hweb
        refine .of_stores hstores ?_
        rintro rfl
        exact not_webOnly_of_mem hkey hweb
      · intro key _ hdiff
        have heq : key = change.key := by
          by_contra hne
          exact hdiff (.of_stores hstores hne)
        rw [heq]
        refine ⟨hconfirm, change.value, hsince, by rw [hstores.memory, if_pos rfl], ?_⟩
        rcases hstores.row change.key with hrow | ⟨-, hrow⟩
        · exact .inl hrow
        · exact .inr hrow
  · rw [← step_eq] at hhandle
    have hs' : s' = r.1 := congrArg Prod.fst hhandle
    rw [hs']
    refine ⟨?_, ?_, fun h => absurd h hconfirm, fun _ h => absurd hset h⟩
    · intro key hweb
      exact sameSetting_handleSet hr (.inl hweb)
    · intro key hkey hdiff
      exact absurd (sameSetting_handleSet hr (.inr hkey)) hdiff
  · rw [← step_eq] at hsame
    have hconfig : s'.config = s.config := hsame
    rw [hconfig]
    refine ⟨fun _ _ => ⟨rfl, rfl⟩, ?_, fun h => absurd h hconfirm, fun _ _ => rfl⟩
    intro key _ hdiff
    exact absurd ⟨rfl, rfl⟩ hdiff

end TelegramCommandService

end HaruTrade
