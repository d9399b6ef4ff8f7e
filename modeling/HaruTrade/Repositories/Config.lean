import HaruTrade.Core.Config

/-!
# The tables of the settings

`rebuild_config` has one row for each key that was ever set, `rebuild_config_history` one row for
each change. A call of `ConfigRepository.set` reads the row in a session of its own, sets the key in
memory, and commits.

* `read`, `commit` — the two accesses of a call to the database. The commit inserts the row when the
  call has read none, which fails when another call has inserted it since.
* `loadIntoManager` — the rows are set one by one; keys that are no longer known are skipped.
* `loadIntoManager_eq` — loading valid rows puts their texts over those of the manager, in any order.
-/

namespace HaruTrade

/-- Source: `app/db/models/config.py` `Config`. Kind: D -/
structure ConfigRow where
  key : String
  value : String
  deriving DecidableEq, Repr

/-- Source: `app/db/models/config.py` `ConfigHistory`. Kind: D -/
structure ConfigHistory where
  id : ℕ
  key : String
  oldValue : Option String
  newValue : String
  changedBy : String
  deriving DecidableEq, Repr

/-- The committed rows. Source: `app/db/models/config.py`. Kind: D -/
structure ConfigTables where
  rows : Table ConfigRow.key
  history : Table ConfigHistory.id

namespace ConfigTables

variable (t : ConfigTables) (key : String)

/-- The text that the row of a key has. Source: `app/repositories/config.py` `ConfigRepository.set`.
Kind: D -/
def value? : Option String := (t.rows.get? key).map ConfigRow.value

/-- The last history row of a key. Source: `app/db/models/config.py` `ConfigHistory`. Kind: D -/
def lastChange? : Option ConfigHistory := (t.history.rows.filter fun h => h.key = key).getLast?

end ConfigTables

namespace ConfigRepository

/-- The exceptions of `ConfigRepository.set`: those of the manager, and `SQLAlchemyError`.
Source: `app/repositories/config.py` `ConfigRepository.set`. Kind: D -/
inductive Error where
  | refused (error : ConfigError)
  | sqlalchemy (text : String)
  deriving DecidableEq, Repr

/-- What the database does in a call. Source: none: infrastructure. Kind: D -/
inductive Answer where
  | ok
  | failsAtRead (text : String)
  | failsAtCommit (text : String)
  deriving DecidableEq, Repr

variable (t : ConfigTables) (m : ConfigManager) (key value changedBy : String)

/-- `db.get(Config, key)`: the text of the row, if there is a row.
Source: `app/repositories/config.py` `ConfigRepository.set`. Kind: D -/
def read : Option String := t.value? key

/-- The history row of a change. Source: `app/repositories/config.py` `ConfigRepository.set`.
Kind: D -/
def historyRow (old : Option String) (id : ℕ) : ConfigHistory := ⟨id, key, old, value, changedBy⟩

/-- The row of a key after the flush: inserted when the call has read no row, and updated when it
has read another text. Source: `app/repositories/config.py` `ConfigRepository.set`. Kind: D -/
def flushRow (old : Option String) : Except Error (Table ConfigRow.key) :=
  match old with
  | none =>
    if h : t.rows.get? key = none then .ok (t.rows.insert ⟨key, value⟩ h)
    else .error (.sqlalchemy "IntegrityError")
  | some text =>
    if text = value then .ok t.rows
    else .ok (t.rows.modify key (fun row => { row with value }) fun _ => rfl)

/-- `db.commit()` of a call that has read `old`. Source: `app/repositories/config.py`
`ConfigRepository.set`. Kind: D -/
def commit (old : Option String) : Except Error ConfigTables :=
  match flushRow t key value old with
  | .error e => .error e
  | .ok rows =>
    .ok ⟨rows, t.history.add (historyRow key value changedBy old) fun _ => rfl⟩

/-- A call that no other call interrupts; an exception closes the session, which drops what is not
committed. Source: `app/repositories/config.py` `ConfigRepository.set`. Kind: D -/
def set (answer : Answer) : (ConfigManager × ConfigTables) × Except Error Unit :=
  match answer with
  | .failsAtRead text => ((m, t), .error (.sqlalchemy text))
  | _ =>
    match m.set key value false with
    | (m', .error e) => ((m', t), .error (.refused e))
    | (m', .ok ()) =>
      match answer with
      | .failsAtCommit text => ((m', t), .error (.sqlalchemy text))
      | _ =>
        match commit t key value changedBy (read t key) with
        | .error e => ((m', t), .error e)
        | .ok t' => ((m', t'), .ok ())

/-- Source: `app/repositories/config.py` `ConfigRepository.load_into_manager`. Kind: D -/
def loadIntoManager : ConfigManager → List ConfigRow → ConfigManager × Except ConfigError Unit
  | m, [] => (m, .ok ())
  | m, row :: rows =>
    match m.set row.key row.value true with
    | (m', .ok ()) => loadIntoManager m' rows
    | (m', .error (.key _)) => loadIntoManager m' rows
    | (m', .error e) => (m', .error e)

variable {t m key value changedBy}

@[simp] theorem historyRow_key {old : Option String} {id : ℕ} :
    (historyRow key value changedBy old id).key = key := rfl

@[simp] theorem historyRow_newValue {old : Option String} {id : ℕ} :
    (historyRow key value changedBy old id).newValue = value := rfl

/-! ## A commit after its own read -/

variable (t key value) in
theorem flushRow_read :
    ∃ rows, flushRow t key value (read t key) = .ok rows ∧
      ∀ j, (rows.get? j).map ConfigRow.value = if j = key then some value else t.value? j := by
  unfold read ConfigTables.value?
  rcases hrow : t.rows.get? key with _ | row
  · refine ⟨t.rows.insert ⟨key, value⟩ hrow, dif_pos hrow, ?_⟩
    intro j
    rw [Table.get?_insert]
    by_cases hj : j = key
    · rw [if_pos hj, if_pos hj, Option.map_some]
    · rw [if_neg hj, if_neg hj]
  · rw [Option.map_some]
    by_cases hsame : row.value = value
    · refine ⟨t.rows, if_pos hsame, ?_⟩
      intro j
      by_cases hj : j = key
      · rw [if_pos hj, hj, hrow, Option.map_some, hsame]
      · rw [if_neg hj]
    · refine ⟨_, if_neg hsame, ?_⟩
      intro j
      rw [Table.get?_modify]
      by_cases hj : j = key
      · rw [if_pos hj, if_pos hj, hj, hrow, Option.map_some, Option.map_some]
      · rw [if_neg hj, if_neg hj]

variable (t key value changedBy) in
/-- **A commit after its own read** stores the text and adds one history row.
Source: `app/repositories/config.py` `ConfigRepository.set`. Kind: L -/
theorem commit_read :
    ∃ t', commit t key value changedBy (read t key) = .ok t' ∧
      t'.history.rows =
        t.history.rows ++ [historyRow key value changedBy (t.value? key) t.history.fresh] ∧
      ∀ j, t'.value? j = if j = key then some value else t.value? j := by
  obtain ⟨rows, hflush, hrows⟩ := flushRow_read t key value
  refine ⟨⟨rows, t.history.add (historyRow key value changedBy (t.value? key)) fun _ => rfl⟩,
    ?_, rfl, hrows⟩
  rw [commit, hflush]
  rfl

/-! ## Loading -/

/-- **Loading rows** that pass their checks puts their texts over those of the manager.
Source: `app/repositories/config.py` `ConfigRepository.load_into_manager`. Kind: L -/
theorem loadIntoManager_eq {rows : List ConfigRow} (nodup : (rows.map ConfigRow.key).Nodup)
    (valid : ∀ row ∈ rows, ConfigManager.check row.key row.value true = .ok ()) :
    ∃ m', loadIntoManager m rows = (m', .ok ()) ∧
      ∀ j, m'.value? j =
        ((rows.find? fun row => row.key = j).map ConfigRow.value).or (m.value? j) := by
  induction rows generalizing m with
  | nil => exact ⟨m, rfl, fun j => rfl⟩
  | cons row rows ih =>
      rw [List.map_cons, List.nodup_cons] at nodup
      obtain ⟨m', hload, hvalue⟩ := ih (m := m.store row.key row.value) nodup.2
        fun r hr => valid r (List.mem_cons_of_mem row hr)
      refine ⟨m', ?_, ?_⟩
      · rw [loadIntoManager, ConfigManager.set_of_check (valid row List.mem_cons_self)]
        exact hload
      · intro j
        rw [hvalue j, ConfigManager.value?_store, List.find?_cons]
        by_cases hj : row.key = j
        · have habsent : rows.find? (fun r => r.key = j) = none := by
            rw [List.find?_eq_none]
            intro r hr hkey
            exact nodup.1 (hj ▸ (of_decide_eq_true hkey) ▸ List.mem_map_of_mem hr)
          rw [habsent, if_pos hj.symm, decide_eq_true hj]
          rfl
        · rw [if_neg (Ne.symm hj), decide_eq_false hj]

end ConfigRepository

end HaruTrade
