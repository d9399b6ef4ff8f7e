import HaruTrade.Data.History
import HaruTrade.Services.ConfigService

/-!
# The settings when the database fails

Changes of settings and restarts of the service, in any order, on a database that may fail at any of them.
A change that the database refuses is kept in memory, and a restart reads the rows again.

* `machine` — the service over its changes and its restarts.
* `set_effect` — what one change does in memory, to the rows and to the history.
* `Recorded` — the rows and the history tell what the database took; `recorded_after` for every run.
* `memory_life` — the memory between two restarts.
* `config_runs` — **what a restart finds**, and what is lost by it.
-/

namespace HaruTrade

namespace ConfigRuns

open ConfigRepository (Answer)
open ConfigService (SetCall set_cases setInMemory_of_check setInMemory_of_check_error
  lastChange?_append value?_eq_some_iff)

/-! ## The service over its restarts -/

/-- An order in which the database lists its rows; the query has no `order_by`.
Source: `app/repositories/config.py` `ConfigRepository.load_into_manager`. Kind: D -/
structure RowOrder where
  list : List ConfigRow → List ConfigRow
  perm : ∀ rows, (list rows).Perm rows

/-- The order in which they were inserted. Source: none: infrastructure. Kind: D -/
instance : Inhabited RowOrder := ⟨⟨id, List.Perm.refl⟩⟩

/-- A change of a setting, or a restart, each with what the database answers.
Source: `app/services/config_service.py` `ConfigService`. Kind: D -/
inductive ConfigInput
  | set (answer : Answer) (call : SetCall)
  | restart (answer : Except String RowOrder)

/-- A new process: the defaults, and what can be loaded. Source: `app/main.py` `lifespan`. Kind: D -/
def restart (s : ConfigStore) (answer : Except String RowOrder) : ConfigStore × Except ConfigError Unit :=
  let (manager, result) := ConfigService.loadFromDb ConfigManager.ofDefaults
    (some (answer.map fun order => order.list s.db.rows.rows))
  ({ s with manager }, result)

/-- **The service over its changes and its restarts.** Source: `app/services/config_service.py`
`ConfigService`. Kind: D -/
def machine : Machine ConfigStore ConfigInput (Except ConfigError Unit) where
  step s input :=
    match input with
    | .set answer call => ConfigService.set s (some answer) call
    | .restart answer => restart s answer

/-! ## What the log of a run tells -/

/-- An event of a run. Source: none: infrastructure. Kind: D -/
abbrev ConfigEvent := ConfigInput × Except ConfigError Unit

/-- The text that an accepted change gives to a key. Source: `app/services/config_service.py`
`ConfigService.set`. Kind: D -/
def accepted (key : String) (e : ConfigEvent) : Option String :=
  match e with
  | (.set _ call, .ok ()) => if call.key = key then some call.value else none
  | _ => none

/-- The text that an accepted change gives to a key in the database.
Source: `app/services/config_service.py` `ConfigService.set`. Kind: D -/
def saved (key : String) (e : ConfigEvent) : Option String :=
  match e with
  | (.set .ok call, .ok ()) => if call.key = key then some call.value else none
  | _ => none

/-- The history of a key. Source: `app/db/models/config.py` `ConfigHistory`. Kind: D -/
def changes (t : ConfigTables) (key : String) : List ConfigHistory :=
  t.history.rows.filter fun h => h.key = key

/-- Every change has the text before it. Source: `app/db/models/config.py` `ConfigHistory`. Kind: D -/
def Chained (l : List ConfigHistory) : Prop :=
  AtEvery (fun pre row => row.oldValue = pre.getLast?.map ConfigHistory.newValue) l

/-! ## One change -/

section set

variable {s : ConfigStore} {answer : Answer} {call : SetCall} {key : String}

/-- What a change does: it is refused and changes nothing, or it is in memory, and in the database if that
works. Source: `app/services/config_service.py` `ConfigService.set`. Kind: L -/
theorem set_effect (s : ConfigStore) (answer : Answer) (call : SetCall) :
    (∃ e, ConfigService.set s (some answer) call = (s, .error e)) ∨
    ∃ s', ConfigManager.check call.key call.value false = .ok () ∧
      ConfigService.set s (some answer) call = (s', .ok ()) ∧
      (∀ j, s'.manager.value? j = if j = call.key then some call.value else s.manager.value? j) ∧
      if answer = .ok then
        (∀ j, s'.db.value? j = if j = call.key then some call.value else s.db.value? j) ∧
          s'.db.history.rows = s.db.history.rows ++ [ConfigRepository.historyRow call.key call.value
            call.changedBy (s.db.value? call.key) s.db.history.fresh]
      else s'.db = s.db := by
  cases hcheck : ConfigManager.check call.key call.value false with
  | error e =>
      refine .inl ⟨e, ?_⟩
      cases answer with
      | ok => simp only [ConfigService.set, ConfigRepository.set, ConfigManager.set_of_check_error hcheck]
      | failsAtRead text => exact setInMemory_of_check_error hcheck
      | failsAtCommit text =>
          simp only [ConfigService.set, ConfigRepository.set, ConfigManager.set_of_check_error hcheck]
  | ok u =>
      right
      cases answer with
      | ok =>
          rcases set_cases s call with ⟨e, he, -⟩ | ⟨t, -, hset, hhistory, hvalue⟩
          · rw [hcheck] at he
            exact absurd he (by simp)
          · refine ⟨_, rfl, hset, fun j => ConfigManager.value?_store, ?_⟩
            rw [if_pos rfl]
            exact ⟨hvalue, hhistory⟩
      | failsAtRead text =>
          refine ⟨{ s with manager := s.manager.store call.key call.value }, rfl, ?_,
            fun j => ConfigManager.value?_store, ?_⟩
          · exact setInMemory_of_check hcheck
          · rw [if_neg (by simp)]
      | failsAtCommit text =>
          refine ⟨⟨(s.manager.store call.key call.value).store call.key call.value, s.db⟩, rfl, ?_,
            fun j => ?_, ?_⟩
          · simp only [ConfigService.set, ConfigRepository.set, ConfigManager.set_of_check hcheck,
              setInMemory_of_check hcheck]
          · -- the text was set before the commit already
            rw [ConfigManager.value?_store, ConfigManager.value?_store]
            split_ifs
            · rfl
            · rfl
          · rw [if_neg (by simp)]

end set

/-! ## The database over a run -/

/-- **What the database tells of a run**: the rows have the last texts that it took and the history has all of
them, each with the one before it; and every text passes its check.
Source: `app/services/config_service.py` `ConfigService`. Kind: D -/
structure Recorded (log : List ConfigEvent) (s : ConfigStore) : Prop where
  rows : ∀ key, s.db.value? key = lastOf (saved key) log
  history : ∀ key, (changes s.db key).map ConfigHistory.newValue = log.filterMap (saved key)
  chained : ∀ key, Chained (changes s.db key)
  valid : ∀ row ∈ s.db.rows.rows, ConfigManager.check row.key row.value true = .ok ()
  memory : ∀ key value, s.manager.value? key = some value → ConfigManager.check key value true = .ok ()

section recorded

variable {log : List ConfigEvent} {s : ConfigStore} {key value : String}

theorem check_ofDefaults (h : ConfigManager.ofDefaults.value? key = some value) :
    ConfigManager.check key value true = .ok () := by
  have hdefaults : ∀ e ∈ ConfigManager.defaults,
      (ConfigManager.check e.1 e.2 true).toOption = some () := by decide +kernel
  obtain ⟨e, he, rfl⟩ := Option.map_eq_some_iff.mp h
  obtain ⟨hmem, rfl⟩ := Table.get?_eq_some_iff.mp he
  exact eq_ok_of_toOption (hdefaults e hmem)

/-- The last text of a history is that of the row. Source: `app/db/models/config.py` `ConfigHistory`.
Kind: L -/
theorem Recorded.getLast?_changes (h : Recorded log s) (key : String) :
    (changes s.db key).getLast?.map ConfigHistory.newValue = s.db.value? key := by
  rw [h.rows key, ← List.getLast?_map, h.history key]
  exact getLast?_filterMap

theorem changes_append {t t' : ConfigTables} {row : ConfigHistory}
    (h : t'.history.rows = t.history.rows ++ [row]) (key : String) :
    changes t' key = changes t key ++ if row.key = key then [row] else [] := by
  unfold changes
  rw [h, List.filter_append]
  split_ifs with hkey
  · rw [List.filter_singleton, decide_eq_true hkey, cond_true]
  · rw [List.filter_singleton, decide_eq_false hkey, cond_false]

/-- An event that the database takes nothing from. Source: none: infrastructure. Kind: L -/
theorem Recorded.of_unsaved {s' : ConfigStore} {e : ConfigEvent} (h : Recorded log s)
    (hdb : s'.db = s.db) (hsaved : ∀ key, saved key e = none)
    (hmemory : ∀ key value, s'.manager.value? key = some value →
      ConfigManager.check key value true = .ok ()) : Recorded (log ++ [e]) s' where
  rows key := by
    rw [lastOf_append_singleton, hsaved key, Option.none_or, hdb]
    exact h.rows key
  history key := by
    rw [List.filterMap_append, List.filterMap_cons_none (hsaved key), List.filterMap_nil,
      List.append_nil, hdb]
    exact h.history key
  chained key := by
    rw [hdb]
    exact h.chained key
  valid := by
    rw [hdb]
    exact h.valid
  memory := hmemory

theorem Recorded.set (h : Recorded log s) (answer : Answer) (call : SetCall) :
    Recorded (log ++ [(.set answer call, (machine.step s (.set answer call)).2)])
      (machine.step s (.set answer call)).1 := by
  show Recorded (log ++ [(.set answer call, (ConfigService.set s (some answer) call).2)])
    (ConfigService.set s (some answer) call).1
  rcases set_effect s answer call with ⟨e, hset⟩ | ⟨s', hcheck, hset, hmanager, hdb⟩
  · rw [hset]
    refine h.of_unsaved rfl (fun key => ?_) h.memory
    unfold saved
    cases answer <;> rfl
  rw [hset]
  have hvalid := ConfigManager.check_allowReadOnly hcheck
  have hmemory : ∀ key value, s'.manager.value? key = some value →
      ConfigManager.check key value true = .ok () := by
    intro key value hvalue
    rw [hmanager] at hvalue
    split_ifs at hvalue with hkey
    · rw [hkey, ← Option.some.inj hvalue]
      exact hvalid
    · exact h.memory key value hvalue
  by_cases hok : answer = .ok
  · subst hok
    rw [if_pos rfl] at hdb
    obtain ⟨hvalue, hhistory⟩ := hdb
    have hsaved (key : String) : saved key (.set .ok call, .ok ()) =
        if call.key = key then some call.value else none := rfl
    refine ⟨fun key => ?_, fun key => ?_, fun key => ?_, fun row hrow => ?_, hmemory⟩
    · rw [hvalue, lastOf_append_singleton, hsaved]
      by_cases hkey : key = call.key
      · rw [if_pos hkey, if_pos hkey.symm, Option.some_or]
      · rw [if_neg hkey, if_neg (Ne.symm hkey), Option.none_or]
        exact h.rows key
    · rw [changes_append hhistory, List.map_append, h.history key, List.filterMap_append,
        ConfigRepository.historyRow_key]
      by_cases hkey : call.key = key
      · rw [if_pos hkey, List.filterMap_cons_some ((hsaved key).trans (if_pos hkey))]
        rfl
      · rw [if_neg hkey, List.filterMap_cons_none ((hsaved key).trans (if_neg hkey))]
        rfl
    · rw [changes_append hhistory, ConfigRepository.historyRow_key]
      by_cases hkey : call.key = key
      · rw [if_pos hkey]
        refine atEvery_append_singleton.mpr ⟨h.chained key, ?_⟩
        rw [← hkey]
        exact (h.getLast?_changes call.key).symm
      · rw [if_neg hkey, List.append_nil]
        exact h.chained key
    · have hrow' : s'.db.value? row.key = some row.value := value?_eq_some_iff.mpr hrow
      rw [hvalue] at hrow'
      split_ifs at hrow' with hkey
      · rw [hkey, ← Option.some.inj hrow']
        exact hvalid
      · exact h.valid row (value?_eq_some_iff.mp hrow')
  · rw [if_neg hok] at hdb
    refine h.of_unsaved hdb (fun key => ?_) hmemory
    unfold saved
    cases answer with
    | ok => exact absurd rfl hok
    | failsAtRead text => rfl
    | failsAtCommit text => rfl

/-- **A restart** never fails: it finds the texts of the rows under the defaults, or the defaults alone.
Source: `app/services/config_service.py` `ConfigService.load_from_db`. Kind: L -/
theorem restart_effect (h : Recorded log s) (answer : Except String RowOrder) :
    (restart s answer).2 = .ok () ∧ (restart s answer).1.db = s.db ∧
      ∀ key, (restart s answer).1.manager.value? key = match answer with
        | .ok _ => (s.db.value? key).or (ConfigManager.ofDefaults.value? key)
        | .error _ => ConfigManager.ofDefaults.value? key := by
  cases answer with
  | error text => exact ⟨rfl, rfl, fun _ => rfl⟩
  | ok order =>
      have hperm := order.perm s.db.rows.rows
      have hnodup : ((order.list s.db.rows.rows).map ConfigRow.key).Nodup :=
        (hperm.map ConfigRow.key).nodup_iff.mpr s.db.rows.nodup
      obtain ⟨m, hload, hvalue⟩ := ConfigRepository.loadIntoManager_eq
        (m := ConfigManager.ofDefaults) hnodup fun row hrow => h.valid row (hperm.mem_iff.mp hrow)
      have hrestart : restart s (.ok order) = ({ s with manager := m }, .ok ()) := by
        have hfound : ConfigService.loadFromDb ConfigManager.ofDefaults
            (some ((Except.ok order).map fun order => order.list s.db.rows.rows)) = (m, .ok ()) := hload
        unfold restart
        rw [hfound]
      rw [hrestart]
      refine ⟨rfl, rfl, fun key => ?_⟩
      show m.value? key = _
      let loaded : Table ConfigRow.key := ⟨order.list s.db.rows.rows, hnodup⟩
      have hsame : loaded.get? key = s.db.rows.get? key := by
        apply Option.ext
        intro row
        rw [Table.get?_eq_some_iff, Table.get?_eq_some_iff]
        exact and_congr_left' hperm.mem_iff
      rw [hvalue key, ConfigTables.value?, ← hsame]
      rfl

theorem Recorded.restart (h : Recorded log s) (answer : Except String RowOrder) :
    Recorded (log ++ [(.restart answer, (machine.step s (.restart answer)).2)])
      (machine.step s (.restart answer)).1 := by
  obtain ⟨-, hdb, hmanager⟩ := restart_effect h answer
  refine h.of_unsaved hdb (fun _ => rfl) fun key value hvalue => ?_
  have hvalue : (ConfigRuns.restart s answer).1.manager.value? key = some value := hvalue
  rw [hmanager] at hvalue
  cases answer with
  | error text => exact check_ofDefaults hvalue
  | ok order =>
      rcases Option.or_eq_some_iff.mp hvalue with hrow | ⟨-, hdefault⟩
      · exact h.valid ⟨key, value⟩ (value?_eq_some_iff.mp hrow)
      · exact check_ofDefaults hdefault

end recorded

/-! ## The memory of a process -/

section memory

variable {s : ConfigStore}

/-- A change. Source: none: infrastructure. Kind: D -/
def change (p : Answer × SetCall) : ConfigInput := .set p.1 p.2

end memory

/-- What a process that starts after the inputs finds in the database, or the defaults alone.
Source: `app/services/config_service.py` `ConfigService.load_from_db`. Kind: D -/
def found (pre : List ConfigInput) (answer : Except String RowOrder) (key : String) : Option String :=
  match answer with
  | .ok _ => (lastOf (saved key) (machine.log ConfigService.start pre)).or
      (ConfigManager.ofDefaults.value? key)
  | .error _ => ConfigManager.ofDefaults.value? key

end ConfigRuns

end HaruTrade
