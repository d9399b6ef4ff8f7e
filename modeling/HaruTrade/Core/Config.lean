import HaruTrade.Data.PyNumber
import HaruTrade.Data.Table
import HaruTrade.Domain.Python

/-!
# The settings

`ConfigManager` keeps the settings as texts and checks every text that is set against the rule of
its key. What it accepts does not depend on the texts that it holds.

* `rules`, `defaults` — the tables of the constructor.
* `check` — everything that `ConfigManager.set` does before it stores the text.
* `set_snd_eq_ok_iff`, `set_fst_of_error` — a call returns when the check passes, and a call that
  raises changes nothing.
* `check_allowReadOnly` — what a caller may set, a reload may set again.
-/

namespace HaruTrade

/-- A bound of a rule: the number, and the text that a message prints for it.
Source: `app/core/config.py` `Rule`. Kind: D -/
structure Bound where
  value : ℚ
  text : String
  deriving DecidableEq, Repr

/-- Source: `app/core/config.py` `Rule`. Kind: D -/
structure Rule where
  minValue : Option Bound := none
  maxValue : Option Bound := none
  readOnly : Bool := false
  asInt : Bool := false
  allowedValues : Option (List String) := none
  deriving DecidableEq, Repr

/-- The exceptions of `ConfigManager`: its own `KeyError` and `ValueError` with their texts, and the
`ValueError` of `int(text)` and `float(text)`. Source: `app/core/config.py` `ConfigManager.set`.
Kind: D -/
inductive ConfigError where
  | key (text : String)
  | value (text : String)
  | number (error : PyNum.TextError)
  deriving DecidableEq, Repr

namespace ConfigManager

/-! ## The rules -/

/-- The bounds of a rule that has both. Source: none: infrastructure. Kind: D -/
def between (min max : Bound) : Rule where
  minValue := some min
  maxValue := some max

/-- The double nearest to 0.1. Source: none: infrastructure. Kind: D -/
def tenth : ℚ := 3602879701896397 / 36028797018963968

/-- Source: `app/core/config.py` `ConfigManager.__init__`. Kind: D -/
def rules : List (String × Rule) :=
  [("position_size_max_pct", between ⟨1, "1"⟩ ⟨30, "30"⟩),
   ("position_size_min_pct", between ⟨1 / 2, "0.5"⟩ ⟨10, "10"⟩),
   ("max_positions", { between ⟨1, "1"⟩ ⟨30, "30"⟩ with asInt := true }),
   ("risk_per_trade_pct", between ⟨tenth, "0.1"⟩ ⟨3, "3.0"⟩),
   ("daily_loss_pct", between ⟨1 / 2, "0.5"⟩ ⟨10, "10"⟩),
   ("stop_count", { between ⟨1, "1"⟩ ⟨20, "20"⟩ with asInt := true }),
   ("cooldown_hours", { between ⟨0, "0"⟩ ⟨72, "72"⟩ with asInt := true }),
   ("order_cancel_minutes", { between ⟨1, "1"⟩ ⟨30, "30"⟩ with asInt := true }),
   ("slippage_pct", between ⟨0, "0"⟩ ⟨1 / 2, "0.5"⟩),
   ("liquidity_threshold", { minValue := some ⟨10, "10"⟩ }),
   ("margin_ratio", between ⟨1, "1.0"⟩ ⟨5 / 2, "2.5"⟩),
   ("daily_base_capital", { readOnly := true }),
   ("margin_close_time", {}),
   ("margin_close_priority", {}),
   ("atr_period", { between ⟨5, "5"⟩ ⟨30, "30"⟩ with asInt := true }),
   ("stop_atr_mult", between ⟨1 / 2, "0.5"⟩ ⟨5, "5.0"⟩),
   ("tp_atr_mult", between ⟨1 / 2, "0.5"⟩ ⟨10, "10.0"⟩),
   ("trail_atr_mult", between ⟨1 / 2, "0.5"⟩ ⟨5, "5.0"⟩),
   ("sync_mode", { allowedValues := some ["auto", "manual"] }),
   ("log_level", { allowedValues := some ["DEBUG", "INFO"] })]

/-- Source: `app/core/config.py` `ConfigManager.__init__`. Kind: D -/
def strategyOverridableKeys : List String := ["stop_atr_mult", "tp_atr_mult", "trail_atr_mult"]

/-- Source: `app/core/config.py` `ConfigManager.__init__`. Kind: D -/
def defaults : List (String × String) :=
  [("position_size_max_pct", "10"),
   ("position_size_min_pct", "2"),
   ("max_positions", "10"),
   ("risk_per_trade_pct", "0.5"),
   ("daily_loss_pct", "2"),
   ("stop_count", "5"),
   ("cooldown_hours", "24"),
   ("order_cancel_minutes", "3"),
   ("slippage_pct", "0.05"),
   ("liquidity_threshold", "50"),
   ("margin_ratio", "1.5"),
   ("margin_close_time", "15:20"),
   ("margin_close_priority", "1,2,3,5,4"),
   ("atr_period", "14"),
   ("stop_atr_mult", "1.5"),
   ("tp_atr_mult", "2.0"),
   ("trail_atr_mult", "1.5"),
   ("sync_mode", "auto"),
   ("log_level", "INFO")]

/-- `self._rules.get(key)`. Source: `app/core/config.py` `ConfigManager.set`. Kind: D -/
def rule? (key : String) : Option Rule := rules.lookup key

/-- The parameter that an override key `strategy.<id>.<param>` overrides.
Source: `app/core/config.py` `ConfigManager._is_strategy_override_key`. Kind: D -/
def overridden? (key : String) : Option String :=
  if PyText.startsWith "strategy." key then
    match PyText.split '.' key with
    | [_, _, param] => if param ∈ strategyOverridableKeys then some param else none
    | _ => none
  else none

/-- Source: `app/core/config.py` `ConfigManager._is_strategy_override_key`. Kind: D -/
def isStrategyOverrideKey (key : String) : Bool := (overridden? key).isSome

/-! ## The checks -/

/-- `int(value) if rule.as_int else float(value)`. Source: `app/core/config.py` `ConfigManager.set`.
Kind: D -/
def number (asInt : Bool) (value : String) : Except ConfigError PyNum :=
  if asInt then
    match PyNum.ofIntText value with
    | .ok n => .ok (.of n)
    | .error e => .error (.number e)
  else
    match PyNum.ofFloatText value with
    | .ok n => .ok n
    | .error e => .error (.number e)

/-- The two comparisons with the bounds of a rule. Source: `app/core/config.py`
`ConfigManager.set`. Kind: D -/
def checkBounds (key : String) (rule : Rule) (n : PyNum) : Except ConfigError Unit :=
  if rule.minValue.any fun b => n.lt (.of b.value) then
    .error (.value (key ++ " must be >= " ++ (rule.minValue.elim "" Bound.text)))
  else if rule.maxValue.any fun b => PyNum.lt (.of b.value) n then
    .error (.value (key ++ " must be <= " ++ (rule.maxValue.elim "" Bound.text)))
  else .ok ()

/-- The check of a rule with a bound. Source: `app/core/config.py` `ConfigManager.set`. Kind: D -/
def checkRange (key value : String) (rule : Rule) : Except ConfigError Unit :=
  if rule.minValue.isSome ∨ rule.maxValue.isSome then
    number rule.asInt value >>= checkBounds key rule
  else .ok ()

/-- The check of a rule with a list of values. Source: `app/core/config.py` `ConfigManager.set`.
Kind: D -/
def checkAllowed (key value : String) (rule : Rule) : Except ConfigError Unit :=
  match rule.allowedValues with
  | none => .ok ()
  | some allowed =>
    if value ∈ allowed then .ok ()
    else .error (.value (key ++ " must be one of: " ++ String.intercalate ", " allowed))

/-- `lo <= int(text) <= hi`. Source: `app/core/config.py` `ConfigManager.set`. Kind: D -/
def intWithin (lo hi : ℚ) (text : String) : Except ConfigError Bool := do
  let n ← number true text
  return PyNum.le (.of lo) n && n.le (.of hi)

/-- The check of `margin_close_time`; the minutes are read only when the hours are in range.
Source: `app/core/config.py` `ConfigManager.set`. Kind: D -/
def checkCloseTime (value : String) : Except ConfigError Unit :=
  match PyText.split ':' value with
  | [hh, mm] => do
    let inRange ← if (← intWithin 0 23 hh) then intWithin 0 59 mm else .ok false
    if inRange then .ok () else .error (.value "margin_close_time must be HH:MM")
  | _ => .error (.value "margin_close_time must be HH:MM")

/-- The check of `margin_close_priority`. Source: `app/core/config.py` `ConfigManager.set`.
Kind: D -/
def checkClosePriority (value : String) : Except ConfigError Unit :=
  let chunks := ((PyText.split ',' value).map PyText.strip).filter (· ≠ "")
  if chunks = [] then .error (.value "margin_close_priority must not be empty")
  else if chunks.dedup.length ≠ chunks.length then
    .error (.value "margin_close_priority must be unique")
  else if chunks.any fun chunk => !PyText.isDigit chunk then
    .error (.value "margin_close_priority must contain numeric strategy IDs")
  else .ok ()

/-- The check of an override: a float within the bounds of the parameter it overrides.
Source: `app/core/config.py` `ConfigManager.set`. Kind: D -/
def checkOverride (key value : String) : Except ConfigError Unit :=
  match overridden? key with
  | none => .ok ()
  | some param => do
    let baseRule ← (rule? param).elim (.error (.key param)) .ok
    let n ← number false value
    checkBounds key baseRule n

/-- Source: `app/core/config.py` `ConfigManager.set`. Kind: D -/
def checkKnown (key : String) : Except ConfigError Unit :=
  if (rule? key).isNone ∧ ¬ isStrategyOverrideKey key then
    .error (.key ("unknown config key: " ++ key))
  else .ok ()

/-- Source: `app/core/config.py` `ConfigManager.set`. Kind: D -/
def checkWritable (key : String) (allowReadOnly : Bool) (rule : Rule) : Except ConfigError Unit :=
  if rule.readOnly ∧ ¬ allowReadOnly then .error (.value (key ++ " is read-only")) else .ok ()

/-- The checks that the rule of the key asks for. Source: `app/core/config.py`
`ConfigManager.set`. Kind: D -/
def checkRule (key value : String) (allowReadOnly : Bool) (rule : Rule) :
    Except ConfigError Unit := do
  checkWritable key allowReadOnly rule
  checkRange key value rule
  checkAllowed key value rule

/-- The checks of the two keys whose texts have a format. Source: `app/core/config.py`
`ConfigManager.set`. Kind: D -/
def checkFormat (key value : String) : Except ConfigError Unit :=
  if key = "margin_close_time" then checkCloseTime value
  else if key = "margin_close_priority" then checkClosePriority value
  else .ok ()

/-- Everything that `ConfigManager.set` does before it stores the text.
Source: `app/core/config.py` `ConfigManager.set`. Kind: D -/
def check (key value : String) (allowReadOnly : Bool) : Except ConfigError Unit := do
  checkKnown key
  (rule? key).elim (.ok ()) (checkRule key value allowReadOnly)
  checkFormat key value
  checkOverride key value

end ConfigManager

/-! ## The manager -/

/-- A dictionary of settings. Source: `app/core/config.py` `ConfigManager.__init__`. Kind: D -/
abbrev Settings := Table (Prod.fst : String × String → String)

/-- Source: `app/core/config.py` `ConfigManager`. Kind: D -/
structure ConfigManager where
  values : Settings

namespace ConfigManager

/-- The manager before its constructor sets the initial texts. Source: `app/core/config.py`
`ConfigManager.__init__`. Kind: D -/
def ofDefaults : ConfigManager where
  values := ⟨defaults, by decide⟩

variable (m : ConfigManager) {key value : String} {allowReadOnly : Bool}

/-- The text of a key, if it has one. Source: `app/core/config.py` `ConfigManager.get`. Kind: D -/
def value? (key : String) : Option String := (m.values.get? key).map Prod.snd

/-- Source: `app/core/config.py` `ConfigManager.get`. Kind: D -/
def get (key : String) : Except ConfigError String :=
  (m.value? key).elim (.error (.key ("unknown config key: " ++ key))) .ok

/-- Source: `app/core/config.py` `ConfigManager.get_all`. Kind: D -/
def getAll : Settings := m.values

/-- `self._values[key] = value`. Source: `app/core/config.py` `ConfigManager.set`. Kind: D -/
def store (key value : String) : ConfigManager where
  values := m.values.upsert (key, value) (fun row => (row.1, value)) fun _ => rfl

/-- Source: `app/core/config.py` `ConfigManager.set`. Kind: D -/
def set (key value : String) (allowReadOnly : Bool) : ConfigManager × Except ConfigError Unit :=
  match check key value allowReadOnly with
  | .error e => (m, .error e)
  | .ok () => (m.store key value, .ok ())

/-- The initial texts of the constructor. Source: `app/core/config.py` `ConfigManager.__init__`.
Kind: D -/
def setInitial : ConfigManager → List (String × String) → ConfigManager × Except ConfigError Unit
  | m, [] => (m, .ok ())
  | m, (key, value) :: initial =>
    match m.set key value true with
    | (m', .ok ()) => setInitial m' initial
    | (m', .error e) => (m', .error e)

/-- Source: `app/core/config.py` `ConfigManager.__init__`. Kind: D -/
def new (initial : List (String × String)) : ConfigManager × Except ConfigError Unit :=
  setInitial ofDefaults initial

variable {m}

/-! ## What a call does -/

@[simp] theorem value?_store {j : String} :
    (m.store key value).value? j = if j = key then some value else m.value? j := by
  unfold value? store
  rw [Table.get?_upsert]
  by_cases hj : j = key
  · rw [if_pos hj, if_pos hj]
    cases m.values.get? j with
    | none => rfl
    | some row => rfl
  · rw [if_neg hj, if_neg hj]

/-- Managers agree on a key when they have the same text for it. Source: none: infrastructure.
Kind: L -/
theorem getAll_eq_of_value?_eq {m' : ConfigManager} (h : m.value? key = m'.value? key) :
    m.getAll.get? key = m'.getAll.get? key := by
  unfold value? at h
  unfold getAll
  rcases hm : m.values.get? key with _ | row
  · rw [hm] at h
    exact (Option.map_eq_none_iff.mp h.symm).symm
  · rw [hm] at h
    obtain ⟨row', hm', hvalue⟩ := Option.map_eq_some_iff.mp h.symm
    have hkey : row'.1 = row.1 :=
      (Table.get?_eq_some_iff.mp hm').2.trans (Table.get?_eq_some_iff.mp hm).2.symm
    rw [hm', Prod.ext hkey hvalue]

theorem set_of_check (h : check key value allowReadOnly = .ok ()) :
    m.set key value allowReadOnly = (m.store key value, .ok ()) := by
  rw [set, h]

theorem set_of_check_error {e : ConfigError} (h : check key value allowReadOnly = .error e) :
    m.set key value allowReadOnly = (m, .error e) := by
  rw [set, h]

/-- **A call that returns** has passed the check and stored the text. Source: `app/core/config.py`
`ConfigManager.set`. Kind: L -/
theorem set_snd_eq_ok_iff :
    (m.set key value allowReadOnly).2 = .ok () ↔ check key value allowReadOnly = .ok () := by
  rcases h : check key value allowReadOnly with e | u
  · rw [set_of_check_error h]
  · rw [set_of_check h]

/-- **A call that raises** changes nothing. Source: `app/core/config.py` `ConfigManager.set`.
Kind: L -/
theorem set_fst_of_error {e : ConfigError} (h : (m.set key value allowReadOnly).2 = .error e) :
    (m.set key value allowReadOnly).1 = m := by
  rcases hc : check key value allowReadOnly with e' | u
  · rw [set_of_check_error hc]
  · rw [set_of_check hc] at h
    exact absurd h (by simp)

theorem checkRule_allowReadOnly {rule : Rule}
    (h : checkRule key value allowReadOnly rule = .ok ()) :
    checkRule key value true rule = .ok () := by
  unfold checkRule at h ⊢
  obtain ⟨u, -, h⟩ := ok_of_bind h
  have hwritable : checkWritable key true rule = .ok () := if_neg (by simp)
  rw [hwritable]
  exact h

/-- **What a caller may set, a reload may set again.** Source: `app/core/config.py`
`ConfigManager.set`. Kind: L -/
theorem check_allowReadOnly (h : check key value allowReadOnly = .ok ()) :
    check key value true = .ok () := by
  unfold check at h ⊢
  obtain ⟨u, hknown, h⟩ := ok_of_bind h
  obtain ⟨u', hrule, h⟩ := ok_of_bind h
  have hrule' : (rule? key).elim (.ok ()) (checkRule key value true) = .ok () := by
    rcases hk : rule? key with _ | rule
    · rfl
    · rw [hk] at hrule
      exact checkRule_allowReadOnly hrule
  rw [hknown, hrule']
  exact h

end ConfigManager

end HaruTrade
