import HaruTrade.Data.Machine
import HaruTrade.Repositories.Config

/-!
# Changing a setting

`ConfigService.set` changes a setting in memory and in the database. When the database fails, the
change is kept in memory only.

* `set`, `loadFromDb` — the service, with what the database answers.
* `set_stores` — a call raises and changes nothing, or it stores the text, whatever the database does.
* `Consistent` — the manager holds the defaults under the texts of the rows, every row passes its
  check, and the last history row of a key has the text of its row.
* `Consistent.set` — one call keeps this, and either does nothing or adds one history row.
* `reload_eq` — a manager that is loaded from consistent tables has the settings of the running one.
* `set_atomic` — **the calls of a run without database errors**: those that raise change nothing,
  the others form a chain of history rows, and a restart at any point loses nothing.
-/

namespace HaruTrade

/-- The settings in memory and in the database. Source: `app/services/config_service.py`
`ConfigService`. Kind: D -/
structure ConfigStore where
  manager : ConfigManager
  db : ConfigTables

namespace ConfigService

open ConfigRepository (Answer)

/-- A call of `ConfigService.set`. Source: `app/services/config_service.py` `ConfigService.set`.
Kind: D -/
structure SetCall where
  key : String
  value : String
  changedBy : String := "system"
  deriving DecidableEq, Repr

variable (s : ConfigStore)

/-- The memory-only path, without a session factory or after a database error.
Source: `app/services/config_service.py` `ConfigService.set`. Kind: D -/
def setInMemory (call : SetCall) : ConfigStore × Except ConfigError Unit :=
  let (manager, result) := s.manager.set call.key call.value false
  ({ s with manager }, result)

/-- A call; `none` stands for a service without a session factory. The change hook runs when the call
returns, and its exceptions are dropped. Source: `app/services/config_service.py`
`ConfigService.set`. Kind: D -/
def set (answer : Option Answer) (call : SetCall) : ConfigStore × Except ConfigError Unit :=
  match answer with
  | none => setInMemory s call
  | some answer =>
    match ConfigRepository.set s.db s.manager call.key call.value call.changedBy answer with
    | ((manager, db), .ok ()) => (⟨manager, db⟩, .ok ())
    | ((manager, db), .error (.refused e)) => (⟨manager, db⟩, .error e)
    | ((manager, db), .error (.sqlalchemy _)) => setInMemory ⟨manager, db⟩ call

/-- Loading; the rows that the database answers with, in the order it lists them, or its error.
Source: `app/services/config_service.py` `ConfigService.load_from_db`. Kind: D -/
def loadFromDb (m : ConfigManager) (answer : Option (Except String (List ConfigRow))) :
    ConfigManager × Except ConfigError Unit :=
  match answer with
  | none => (m, .ok ())
  | some (.error _) => (m, .ok ())
  | some (.ok rows) => ConfigRepository.loadIntoManager m rows

/-- A first start: the defaults, and empty tables. Source: `app/bootstrap/core_services.py`
`build_core_services`. Kind: D -/
def start : ConfigStore := ⟨ConfigManager.ofDefaults, ⟨Table.empty, Table.empty⟩⟩

/-- The service on a database that works. Source: `app/services/config_service.py` `ConfigService.set`.
Kind: D -/
def machine : Machine ConfigStore SetCall (Except ConfigError Unit) where
  step s call := set s (some .ok) call

variable {s} {call : SetCall}

/-! ## One call -/

variable (s call) in
/-- **A call without a database error** that the check refuses changes nothing; any other changes the
setting in memory and in its row, and adds a history row with the text that the row had.
Source: `app/services/config_service.py` `ConfigService.set`. Kind: L -/
theorem set_cases :
    (∃ e, ConfigManager.check call.key call.value false = .error e ∧
      set s (some .ok) call = (s, .error e)) ∨
    ∃ t, ConfigManager.check call.key call.value false = .ok () ∧
      set s (some .ok) call = (⟨s.manager.store call.key call.value, t⟩, .ok ()) ∧
      t.history.rows = s.db.history.rows ++ [ConfigRepository.historyRow call.key call.value
        call.changedBy (s.db.value? call.key) s.db.history.fresh] ∧
      ∀ j, t.value? j = if j = call.key then some call.value else s.db.value? j := by
  rcases hcheck : ConfigManager.check call.key call.value false with e | u
  · left
    refine ⟨e, rfl, ?_⟩
    simp only [set, ConfigRepository.set, ConfigManager.set_of_check_error hcheck]
  · right
    obtain ⟨t, hcommit, hhistory, hvalue⟩ := ConfigRepository.commit_read s.db call.key
      call.value call.changedBy
    refine ⟨t, rfl, ?_, hhistory, hvalue⟩
    simp only [set, ConfigRepository.set, ConfigManager.set_of_check hcheck, hcommit]

/-- The text is stored under the key in memory, and perhaps in the row; nothing else changes.
Source: none: infrastructure. Kind: D -/
structure Stores (key value : String) (a b : ConfigStore) : Prop where
  memory : ∀ j, b.manager.value? j = if j = key then some value else a.manager.value? j
  row : ∀ j, b.db.value? j = a.db.value? j ∨ j = key ∧ b.db.value? j = some value

theorem setInMemory_of_check (h : ConfigManager.check call.key call.value false = .ok ()) :
    setInMemory s call = ({ s with manager := s.manager.store call.key call.value }, .ok ()) := by
  simp only [setInMemory, ConfigManager.set_of_check h]

theorem setInMemory_of_check_error {e : ConfigError}
    (h : ConfigManager.check call.key call.value false = .error e) :
    setInMemory s call = (s, .error e) := by
  simp only [setInMemory, ConfigManager.set_of_check_error h]

theorem stores_memory {key value : String} :
    Stores key value s { s with manager := s.manager.store key value } where
  memory _ := ConfigManager.value?_store
  row _ := .inl rfl

variable (s call) in
/-- **Any call**, whatever the database does: it raises what the check raises and changes nothing,
or it stores the text. Source: `app/services/config_service.py` `ConfigService.set`. Kind: L -/
theorem set_stores (answer : Option Answer) :
    (∃ e, set s answer call = (s, .error e)) ∨
      (set s answer call).2 = .ok () ∧ Stores call.key call.value s (set s answer call).1 := by
  rcases hcheck : ConfigManager.check call.key call.value false with e | u
  · left
    refine ⟨e, ?_⟩
    match answer with
    | none => exact setInMemory_of_check_error hcheck
    | some .ok => simp only [set, ConfigRepository.set, ConfigManager.set_of_check_error hcheck]
    | some (.failsAtRead text) => exact setInMemory_of_check_error hcheck
    | some (.failsAtCommit text) =>
        simp only [set, ConfigRepository.set, ConfigManager.set_of_check_error hcheck]
  · right
    match answer with
    | none => exact ⟨by simp only [set, setInMemory_of_check hcheck],
        by simpa only [set, setInMemory_of_check hcheck] using stores_memory⟩
    | some .ok =>
        rcases set_cases s call with ⟨e, he, -⟩ | ⟨t, -, hset, -, hvalue⟩
        · rw [hcheck] at he
          exact absurd he (by simp)
        · rw [hset]
          refine ⟨rfl, fun j => ConfigManager.value?_store, ?_⟩
          intro j
          by_cases hj : j = call.key
          · exact .inr ⟨hj, by rw [hvalue, if_pos hj]⟩
          · exact .inl (by rw [hvalue, if_neg hj])
    | some (.failsAtRead text) => exact ⟨by simp only [set, ConfigRepository.set,
          setInMemory_of_check hcheck],
        by simpa only [set, ConfigRepository.set, setInMemory_of_check hcheck] using stores_memory⟩
    | some (.failsAtCommit text) =>
        have hset : set s (some (.failsAtCommit text)) call =
            (⟨(s.manager.store call.key call.value).store call.key call.value, s.db⟩, .ok ()) := by
          simp only [set, ConfigRepository.set, ConfigManager.set_of_check hcheck,
            setInMemory_of_check hcheck]
        rw [hset]
        refine ⟨rfl, ?_, fun j => .inl rfl⟩
        intro j
        show ((s.manager.store call.key call.value).store call.key call.value).value? j = _
        rw [ConfigManager.value?_store, ConfigManager.value?_store]
        by_cases hj : j = call.key
        · rw [if_pos hj, if_pos hj]
        · rw [if_neg hj, if_neg hj]

/-! ## What stays true -/

/-- The memory agrees with the rows, the rows with their checks and with the history.
Source: none: infrastructure. Kind: D -/
structure Consistent (s : ConfigStore) : Prop where
  /-- The manager holds the texts of the rows, and the defaults of the other keys. -/
  memory : ∀ key, s.manager.value? key = (s.db.value? key).or (ConfigManager.ofDefaults.value? key)
  /-- Every row can be loaded. -/
  valid : ∀ row ∈ s.db.rows.rows, ConfigManager.check row.key row.value true = .ok ()
  /-- The last history row of a key has the text of its row. -/
  chain : ∀ key, (s.db.lastChange? key).map ConfigHistory.newValue = s.db.value? key

theorem consistent_start : Consistent start where
  memory _ := rfl
  valid _ h := absurd h List.not_mem_nil
  chain _ := rfl

/-- The row of a key with a given text. Source: none: infrastructure. Kind: L -/
theorem value?_eq_some_iff {t : ConfigTables} {key value : String} :
    t.value? key = some value ↔ ⟨key, value⟩ ∈ t.rows.rows := by
  unfold ConfigTables.value?
  rw [Option.map_eq_some_iff]
  constructor
  · rintro ⟨row, hrow, rfl⟩
    obtain ⟨hmem, rfl⟩ := Table.get?_eq_some_iff.mp hrow
    exact hmem
  · intro hmem
    exact ⟨⟨key, value⟩, Table.get?_eq_some_iff.mpr ⟨hmem, rfl⟩, rfl⟩

theorem lastChange?_append {t t' : ConfigTables} {row : ConfigHistory} {key : String}
    (h : t'.history.rows = t.history.rows ++ [row]) :
    t'.lastChange? key = if row.key = key then some row else t.lastChange? key := by
  unfold ConfigTables.lastChange?
  rw [h, List.filter_append]
  by_cases hkey : row.key = key
  · rw [if_pos hkey, List.filter_singleton, decide_eq_true hkey, cond_true, List.getLast?_concat]
  · rw [if_neg hkey, List.filter_singleton, decide_eq_false hkey, cond_false, List.append_nil]

/-- **One call keeps the store consistent.** Source: `app/services/config_service.py`
`ConfigService.set`. Kind: L -/
theorem Consistent.set (hs : Consistent s) : Consistent (set s (some .ok) call).1 := by
  rcases set_cases s call with ⟨e, -, hset⟩ | ⟨t, hcheck, hset, hhistory, hvalue⟩
  · rw [hset]
    exact hs
  · rw [hset]
    refine ⟨?_, ?_, ?_⟩
    · intro key
      show (s.manager.store call.key call.value).value? key = (t.value? key).or _
      rw [ConfigManager.value?_store, hvalue key]
      by_cases hkey : key = call.key
      · rw [if_pos hkey, if_pos hkey, Option.some_or]
      · rw [if_neg hkey, if_neg hkey]
        exact hs.memory key
    · intro row hrow
      have hrow' : t.value? row.key = some row.value := value?_eq_some_iff.mpr hrow
      rw [hvalue] at hrow'
      by_cases hkey : row.key = call.key
      · rw [if_pos hkey, Option.some.injEq] at hrow'
        rw [hkey, ← hrow']
        exact ConfigManager.check_allowReadOnly hcheck
      · rw [if_neg hkey] at hrow'
        exact hs.valid row (value?_eq_some_iff.mp hrow')
    · intro key
      show (t.lastChange? key).map _ = t.value? key
      rw [lastChange?_append hhistory, hvalue key, ConfigRepository.historyRow_key]
      by_cases hkey : key = call.key
      · rw [if_pos hkey, if_pos hkey.symm, Option.map_some, ConfigRepository.historyRow_newValue]
      · rw [if_neg hkey, if_neg (Ne.symm hkey)]
        exact hs.chain key

/-- **Loading a fresh manager** from consistent tables, in any order of the rows, gives the settings
of the running one. Source: `app/services/config_service.py` `ConfigService.load_from_db`. Kind: L -/
theorem reload_eq (hs : Consistent s) {rows : List ConfigRow} (hperm : rows.Perm s.db.rows.rows) :
    ∃ m, loadFromDb ConfigManager.ofDefaults (some (.ok rows)) = (m, .ok ()) ∧
      ∀ key, m.value? key = s.manager.value? key := by
  have hnodup : (rows.map ConfigRow.key).Nodup :=
    (hperm.map ConfigRow.key).nodup_iff.mpr s.db.rows.nodup
  obtain ⟨m, hload, hvalue⟩ := ConfigRepository.loadIntoManager_eq
    (m := ConfigManager.ofDefaults) hnodup fun row hrow => hs.valid row (hperm.mem_iff.mp hrow)
  refine ⟨m, hload, ?_⟩
  intro key
  -- the rows as loaded are a table with the same members, hence with the same look-up function
  let loaded : Table ConfigRow.key := ⟨rows, hnodup⟩
  have hsame : loaded.get? key = s.db.rows.get? key := by
    apply Option.ext
    intro row
    rw [Table.get?_eq_some_iff, Table.get?_eq_some_iff]
    exact and_congr_left' hperm.mem_iff
  rw [hvalue key, hs.memory key, ConfigTables.value?, ← hsame]
  rfl

/-! ## Runs -/

theorem consistent_after (calls : List SetCall) : Consistent (machine.after start calls) :=
  Machine.invariant (I := fun _ s => Consistent s) (C := fun _ _ _ => True) consistent_start
    (fun _ _ _ _ h => h.set) fun _ _ _ _ => trivial

/-- **The calls of a run without database errors.** After any calls, valid or not: loading a fresh
manager from the rows, in any order, gives the settings of the running one; and the next call, if it
raises, changes neither the memory nor the database, and if it returns, adds exactly one history
row, whose old text is the new text of the last history row of that key.
Source: `app/services/config_service.py` `ConfigService.set`, `ConfigService.load_from_db`.
Kind: P -/
theorem set_atomic (calls : List SetCall) (call : SetCall) :
    let s := machine.after start calls
    let r := machine.step s call
    (∀ rows : List ConfigRow, rows.Perm s.db.rows.rows →
      ∃ m, loadFromDb ConfigManager.ofDefaults (some (.ok rows)) = (m, .ok ()) ∧
        ∀ key, m.getAll.get? key = s.manager.getAll.get? key) ∧
    (∀ e, r.2 = .error e → r.1 = s) ∧
    (r.2 = .ok () → ∃ row : ConfigHistory,
      r.1.db.history.rows = s.db.history.rows ++ [row] ∧ row.key = call.key ∧
        row.newValue = call.value ∧ row.changedBy = call.changedBy ∧
        row.oldValue = (s.db.lastChange? call.key).map ConfigHistory.newValue) := by
  intro s r
  have hs : Consistent s := consistent_after calls
  refine ⟨?_, ?_, ?_⟩
  · intro rows hperm
    obtain ⟨m, hload, hvalue⟩ := reload_eq hs hperm
    exact ⟨m, hload, fun key => ConfigManager.getAll_eq_of_value?_eq (hvalue key)⟩
  · intro e he
    rcases set_cases s call with ⟨e', -, hset⟩ | ⟨t, -, hset, -⟩
    · exact congrArg Prod.fst hset
    · exact absurd ((congrArg Prod.snd hset).symm.trans he) (by simp)
  · intro hok
    rcases set_cases s call with ⟨e', -, hset⟩ | ⟨t, -, hset, hhistory, -⟩
    · exact absurd ((congrArg Prod.snd hset).symm.trans hok) (by simp)
    · refine ⟨ConfigRepository.historyRow call.key call.value call.changedBy
        (s.db.value? call.key) s.db.history.fresh, ?_, rfl, rfl, rfl, (hs.chain call.key).symm⟩
      rw [← hhistory]
      exact congrArg (fun x => x.1.db.history.rows) hset

end ConfigService

end HaruTrade
