import HaruTrade.Data.PyText
import HaruTrade.Data.Session
import HaruTrade.Repositories.Universe

/-!
# The symbol table in a session

The rows of the symbol table with all their columns, the query that lists them, and the source
labels of the universe. `Symbol.row` is the part of a row that the loops read.
-/

namespace HaruTrade

/-- Source: `app/db/models/universe.py` `Symbol`. Kind: D -/
structure Symbol where
  ticker : String
  name : String
  market : String
  inUniverse : Bool := true
  isActive : Bool := false
  isBlocked : Bool := false
  status : UniverseStatus := .NORMAL
  deriving DecidableEq, Repr

/-- The columns that the loops read. Source: `app/db/models/universe.py` `Symbol`. Kind: D -/
def Symbol.row (a : Symbol) : SymbolRow :=
  ⟨a.ticker, a.inUniverse, a.isActive, a.isBlocked, a.status⟩

/-- The symbol table as the loops read it. Source: `app/db/models/universe.py` `Symbol`. Kind: D -/
def symbolRows (t : Table Symbol.ticker) : Table SymbolRow.ticker where
  rows := t.rows.map Symbol.row
  nodup := by
    rw [List.map_map]
    exact t.nodup

theorem get?_symbolRows {t : Table Symbol.ticker} {ticker : String} :
    (symbolRows t).get? ticker = (t.get? ticker).map Symbol.row := by
  unfold symbolRows Table.get?
  rw [List.find?_map]
  rfl

/-- The row is in the table, and in the universe. Source: `app/db/models/universe.py` `Symbol`.
Kind: D -/
def InUniverse (t : Table Symbol.ticker) (ticker : String) : Prop :=
  ∃ a ∈ t.get? ticker, a.inUniverse = true

instance {t : Table Symbol.ticker} {ticker : String} : Decidable (InUniverse t ticker) :=
  inferInstanceAs (Decidable (∃ a ∈ t.get? ticker, a.inUniverse = true))

theorem inUniverse_iff {t : Table Symbol.ticker} {ticker : String} {a : Symbol}
    (h : t.get? ticker = some a) : InUniverse t ticker ↔ a.inUniverse = true := by
  unfold InUniverse
  rw [h]
  simp

theorem not_inUniverse_of_none {t : Table Symbol.ticker} {ticker : String}
    (h : t.get? ticker = none) : ¬ InUniverse t ticker := by
  unfold InUniverse
  rw [h]
  simp

/-- Source: `app/repositories/universe.py` `UniverseRepository.list_symbols`. Kind: D -/
def UniverseRepository.listSymbols (s : Session Symbol.ticker) (inUniverse : Option Bool)
    (limit : ℕ) : List Symbol :=
  s.query (fun a => inUniverse.all (· = a.inUniverse)) (fun a b => a.ticker ≤ b.ticker) limit

section list

variable {s : Session Symbol.ticker} {t : Table Symbol.ticker} {inUniverse : Option Bool}
  {limit : ℕ} {ticker : String}

/-- The tickers that `list_symbols` answers for a table. Source: `app/repositories/universe.py`
`UniverseRepository.list_symbols`. Kind: D -/
def UniverseRepository.listedTickers (t : Table Symbol.ticker) (inUniverse : Option Bool)
    (limit : ℕ) : List String :=
  (listSymbols (Session.ofTable t) inUniverse limit).map Symbol.ticker

namespace UniverseRepository

/-- Changes that wait for the commit do not change which symbols are listed.
Source: `app/repositories/universe.py` `UniverseRepository.list_symbols`. Kind: L -/
theorem map_ticker_listSymbols :
    (listSymbols s inUniverse limit).map Symbol.ticker = listedTickers s.stored inUniverse limit := by
  unfold listedTickers listSymbols
  rw [Session.map_key_query, Session.map_key_query]
  rfl

theorem nodup_listedTickers : (listedTickers t inUniverse limit).Nodup :=
  Session.nodup_map_key_query

theorem exists_of_mem_listedTickers (h : ticker ∈ listedTickers t inUniverse limit) :
    ∃ a, t.get? ticker = some a ∧ inUniverse.all (· = a.inUniverse) = true := by
  obtain ⟨a, ha, rfl⟩ := List.mem_map.mp h
  obtain ⟨-, b, hb, hp⟩ := Session.exists_of_mem_query ha
  exact ⟨b, hb, hp⟩

/-- **Below its limit** the query lists every symbol. Source: `app/repositories/universe.py`
`UniverseRepository.list_symbols`. Kind: L -/
theorem mem_listedTickers (hsize : t.rows.length ≤ limit) :
    ticker ∈ listedTickers t inUniverse limit ↔
      ∃ a, t.get? ticker = some a ∧ inUniverse.all (· = a.inUniverse) = true := by
  constructor
  · exact exists_of_mem_listedTickers
  · rintro ⟨a, ha, hp⟩
    obtain ⟨-, rfl⟩ := Table.get?_eq_some_iff.mp ha
    exact List.mem_map_of_mem ((Session.mem_query hsize).mpr ⟨ha, a, ha, hp⟩)

end UniverseRepository

end list

/-! ## Source labels -/

/-- `_VALID_UNIVERSE_SOURCES`. Source: `app/services/universe_bootstrap.py`. Kind: D -/
def validUniverseSources : List String := ["KOSPI200", "KOSDAQ150", "USER"]

/-- `legacy_map`. Source: `app/services/universe_bootstrap.py` `normalize_universe_source`.
Kind: D -/
def legacyMap : List (String × String) :=
  [("KOSPI", "KOSPI200"), ("KOSDAQ", "KOSDAQ150"), ("UNKNOWN", "USER"), ("", "USER")]

/-- Source: `app/services/universe_bootstrap.py` `normalize_universe_source`. Kind: D -/
def normalizeUniverseSource (value : Option String) : Option String := do
  let value ← value
  let normalized := PyText.upper (PyText.strip value)
  let normalized := (legacyMap.lookup normalized).getD normalized
  if normalized ∈ validUniverseSources then some normalized else none

/-- A label is one of the three sources. Source: `app/services/universe_bootstrap.py`
`normalize_universe_source`. Kind: L -/
theorem mem_validUniverseSources {value : Option String} {label : String}
    (h : normalizeUniverseSource value = some label) : label ∈ validUniverseSources := by
  cases value with
  | none => exact absurd h (by simp [normalizeUniverseSource])
  | some value =>
      unfold normalizeUniverseSource at h
      rw [Option.bind_eq_bind, Option.bind_some] at h
      dsimp only at h
      split_ifs at h with hvalid
      obtain rfl := Option.some_inj.mp h
      exact hvalid

end HaruTrade
