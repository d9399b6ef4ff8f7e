import Mathlib.Data.String.Basic
import HaruTrade.Data.StableSort
import HaruTrade.Runtime.World

/-!
# The universe repository

The three ticker lists that are read off the symbol table. `Tradable` is the filter that
`list_trading_tickers` applies to a symbol.
-/

namespace HaruTrade

/-- In universe, active, not blocked and not halted. Source: `app/repositories/universe.py`
`UniverseRepository.list_trading_tickers`. Kind: D -/
def SymbolRow.tradable (s : SymbolRow) : Bool :=
  s.inUniverse && s.isActive && !s.isBlocked && decide (s.status ≠ .HALTED)

/-- The symbol table has the ticker, and it passes the trading filter.
Source: `app/repositories/universe.py` `UniverseRepository.list_trading_tickers`. Kind: D -/
def World.Tradable (w : World) (ticker : String) : Prop :=
  ∃ s ∈ w.symbols.get? ticker, s.tradable = true

instance (w : World) (ticker : String) : Decidable (w.Tradable ticker) :=
  inferInstanceAs (Decidable (∃ s ∈ w.symbols.get? ticker, s.tradable = true))

namespace UniverseRepository

/-- `ORDER BY ticker ASC LIMIT limit`. Source: `app/repositories/universe.py`. Kind: D -/
def orderedTickers (rows : List SymbolRow) (limit : ℕ) : List String :=
  ((rows.map SymbolRow.ticker).insertionSort (· ≤ ·)).take limit

variable (w : World)

/-- Source: `app/repositories/universe.py` `UniverseRepository.list_trading_tickers`. Kind: D -/
def listTradingTickers (limit : ℕ := 500) : List String :=
  orderedTickers (w.symbols.select SymbolRow.tradable) limit

/-- Source: `app/repositories/universe.py` `UniverseRepository.list_tracking_tickers`. Kind: D -/
def listTrackingTickers (limit : ℕ := 500) : List String :=
  orderedTickers (w.symbols.select fun s => s.inUniverse && s.isActive) limit

/-- Source: `app/repositories/universe.py` `UniverseRepository.list_universe_tickers`. Kind: D -/
def listUniverseTickers (limit : ℕ := 20000) : List String :=
  orderedTickers (w.symbols.select fun s => s.inUniverse) limit

theorem mem_orderedTickers {rows : List SymbolRow} {limit : ℕ} {ticker : String}
    (h : ticker ∈ orderedTickers rows limit) : ∃ s ∈ rows, s.ticker = ticker := by
  have h := List.mem_of_mem_take h
  rw [List.mem_insertionSort] at h
  simpa using h

/-- **The page is cut by the rows below a ticker.** Source: `app/repositories/universe.py`.
Kind: L -/
theorem mem_orderedTickers_iff {rows : List SymbolRow} (hrows : (rows.map SymbolRow.ticker).Nodup)
    {limit : ℕ} {ticker : String} : ticker ∈ orderedTickers rows limit ↔
      (∃ s ∈ rows, s.ticker = ticker) ∧ rows.countP (fun s => s.ticker < ticker) < limit := by
  have hperm := List.perm_insertionSort (· ≤ ·) (rows.map SymbolRow.ticker)
  have hsorted : ((rows.map SymbolRow.ticker).insertionSort (· ≤ ·)).Pairwise (· < ·) := by
    have hle := List.pairwise_insertionSort (· ≤ ·) (rows.map SymbolRow.ticker)
    exact (hle.and (hperm.nodup_iff.mpr hrows)).imp fun h => lt_of_le_of_ne h.1 h.2
  rw [orderedTickers, mem_take_iff_countP_lt hsorted, hperm.mem_iff, hperm.countP_eq,
    List.countP_map, List.mem_map]
  rfl

/-- **Every ticker of `list_trading_tickers` passes the trading filter.**
Source: `app/repositories/universe.py` `UniverseRepository.list_trading_tickers`. Kind: P -/
theorem tradable_of_mem {limit : ℕ} {ticker : String}
    (h : ticker ∈ listTradingTickers w limit) : w.Tradable ticker := by
  obtain ⟨s, hs, rfl⟩ := mem_orderedTickers h
  obtain ⟨hs, htr⟩ := List.mem_filter.mp hs
  exact ⟨s, Table.mem_iff_get?.mp hs, htr⟩

end UniverseRepository

end HaruTrade
