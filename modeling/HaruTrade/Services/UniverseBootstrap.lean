import Mathlib.Algebra.BigOperators.Group.List.Basic
import Mathlib.Algebra.Order.Ring.Rat
import HaruTrade.Core.Config
import HaruTrade.Repositories.Candle
import HaruTrade.Repositories.Symbols

/-!
# The active universe by daily liquidity

`recomputeActiveUniverse` sets `is_active` of the symbols in the universe: a symbol is active when
its status lets it be, it has 20 daily candles, and what was traded of it in them reaches the
threshold on average. It queries the symbols in the session of its caller.

* `shouldActivate` — the decision on one row.
* `pending_recompute` — **what the recomputation changes**: `is_active` of the rows that its query
  has seen, and nothing else.
-/

namespace HaruTrade

/-- A positive multiple. Source: none: infrastructure. Kind: D -/
def PyNum.times (k : ℚ) : PyNum → PyNum
  | .nan => .nan
  | .inf negative => .inf negative
  | .of q => .of (q * k)

namespace UniverseBootstrap

/-! ## One row -/

/-- The statuses that a symbol can be active with.
Source: `app/services/universe_bootstrap.py` `recompute_active_universe_from_daily_liquidity`.
Kind: D -/
def CanBeActive (status : UniverseStatus) : Prop := status ∉ [.HALTED, .REMOVED, .EXIT_PENDING]

instance {status : UniverseStatus} : Decidable (CanBeActive status) :=
  inferInstanceAs (Decidable (status ∉ [.HALTED, .REMOVED, .EXIT_PENDING]))

/-- The last 20 daily candles. Source: `app/services/universe_bootstrap.py`
`recompute_active_universe_from_daily_liquidity`. Kind: D -/
def daily (w : World) (ticker : String) : List Candle :=
  CandleRepository.listRecent w ticker .d1 20

/-- `avg_value`. Source: `app/services/universe_bootstrap.py`
`recompute_active_universe_from_daily_liquidity`. Kind: D -/
def avgValue (candles : List Candle) : ℚ :=
  (candles.map fun x => max x.close 0 * max x.volume 0).sum / candles.length

/-- Source: `app/services/universe_bootstrap.py` `recompute_active_universe_from_daily_liquidity`.
Kind: D -/
def shouldActivate (w : World) (thresholdWon : PyNum) (a : Symbol) : Bool :=
  if CanBeActive a.status then
    if 20 ≤ (daily w a.ticker).length then
      thresholdWon.le (.of (avgValue (daily w a.ticker)))
    else false
  else false

/-- `row.is_active = should_activate`. Source: `app/services/universe_bootstrap.py`
`recompute_active_universe_from_daily_liquidity`. Kind: D -/
def setActive (activate : Bool) (a : Symbol) : Symbol := { a with isActive := activate }

/-! ## The loop -/

/-- Source: `app/services/universe_bootstrap.py` `recompute_active_universe_from_daily_liquidity`.
Kind: D -/
structure Counts where
  activeCount : ℕ := 0
  updatedCount : ℕ := 0
  insufficientDailyCount : ℕ := 0
  deriving DecidableEq, Repr

/-- One turn of the loop. Source: `app/services/universe_bootstrap.py`
`recompute_active_universe_from_daily_liquidity`. Kind: D -/
def recomputeTurn (w : World) (thresholdWon : PyNum) (p : Session Symbol.ticker × Counts)
    (row : Symbol) : Session Symbol.ticker × Counts :=
  let activate := shouldActivate w thresholdWon row
  let insufficient : Bool := CanBeActive row.status ∧ (daily w row.ticker).length < 20
  (p.1.modify row.ticker (setActive activate) fun _ => rfl,
    { activeCount := p.2.activeCount + if activate then 1 else 0
      updatedCount := p.2.updatedCount + if row.isActive = activate then 0 else 1
      insufficientDailyCount := p.2.insufficientDailyCount + if insufficient then 1 else 0 })

/-- Source: `app/services/universe_bootstrap.py` `recompute_active_universe_from_daily_liquidity`.
Kind: D -/
structure Liquidity extends Counts where
  thresholdEok : PyNum
  thresholdWon : PyNum
  inUniverseCount : ℕ
  deriving DecidableEq, Repr

/-- `float(config_manager.get("liquidity_threshold"))`. Source:
`app/services/universe_bootstrap.py` `recompute_active_universe_from_daily_liquidity`. Kind: D -/
def thresholdEok (config : ConfigManager) : Except ConfigError PyNum := do
  let text ← config.get "liquidity_threshold"
  ConfigManager.number false text

/-- Source: `app/services/universe_bootstrap.py` `recompute_active_universe_from_daily_liquidity`.
Kind: D -/
def recomputeActiveUniverse (config : ConfigManager) (w : World) (s : Session Symbol.ticker) :
    Except ConfigError (Session Symbol.ticker × Liquidity) := do
  let thresholdEok ← thresholdEok config
  let thresholdWon := thresholdEok.times 100000000
  let rows := UniverseRepository.listSymbols s (some true) 20000
  let (s', counts) := rows.foldl (recomputeTurn w thresholdWon) (s, {})
  .ok (s', { counts with thresholdEok, thresholdWon, inUniverseCount := rows.length })

/-! ## What it changes -/

section recompute

variable {config : ConfigManager} {w : World} {s s' : Session Symbol.ticker}
  {liquidity : Liquidity} {thresholdWon : PyNum} {rows : List Symbol}

theorem stored_foldl {p : Session Symbol.ticker × Counts} :
    (rows.foldl (recomputeTurn w thresholdWon) p).1.stored = p.1.stored := by
  induction rows generalizing p with
  | nil => rfl
  | cons a rows ih =>
      rw [List.foldl_cons, ih]
      rfl

theorem added_foldl {p : Session Symbol.ticker × Counts} :
    (rows.foldl (recomputeTurn w thresholdWon) p).1.added = p.1.added := by
  induction rows generalizing p with
  | nil => rfl
  | cons a rows ih =>
      rw [List.foldl_cons, ih]
      rfl

/-- The recomputation is a loop over what its query answers. Source:
`app/services/universe_bootstrap.py` `recompute_active_universe_from_daily_liquidity`. Kind: L -/
theorem recompute_eq_ok (h : recomputeActiveUniverse config w s = .ok (s', liquidity)) :
    thresholdEok config = .ok liquidity.thresholdEok ∧
      liquidity.thresholdWon = liquidity.thresholdEok.times 100000000 ∧
      s' = ((UniverseRepository.listSymbols s (some true) 20000).foldl
        (recomputeTurn w liquidity.thresholdWon) (s, {})).1 := by
  unfold recomputeActiveUniverse at h
  cases hthreshold : thresholdEok config with
  | error e =>
      rw [hthreshold] at h
      exact absurd h (by simp [bind, Except.bind])
  | ok eok =>
      rw [hthreshold] at h
      simp only [bind, Except.bind, Except.ok.injEq, Prod.mk.injEq] at h
      obtain ⟨rfl, rfl⟩ := h
      exact ⟨rfl, rfl, rfl⟩

theorem session_recompute (h : recomputeActiveUniverse config w s = .ok (s', liquidity)) :
    s'.stored = s.stored ∧ s'.added = s.added := by
  obtain ⟨-, -, rfl⟩ := recompute_eq_ok h
  exact ⟨stored_foldl, added_foldl⟩

/-- **What the recomputation changes**: `is_active` of the rows that its query has seen.
Source: `app/services/universe_bootstrap.py` `recompute_active_universe_from_daily_liquidity`.
Kind: L -/
theorem pending_recompute (h : recomputeActiveUniverse config w s = .ok (s', liquidity))
    (ticker : String) :
    s'.pending.get? ticker =
      if ticker ∈ UniverseRepository.listedTickers s.stored (some true) 20000
      then (s.pending.get? ticker).map fun a =>
        setActive (shouldActivate w liquidity.thresholdWon a) a
      else s.pending.get? ticker := by
  obtain ⟨-, -, rfl⟩ := recompute_eq_ok h
  obtain ⟨hin, hout⟩ := Session.look_foldl
    (fun (p : Session Symbol.ticker × Counts) ticker => p.1.pending.get? ticker)
    (recomputeTurn w liquidity.thresholdWon) Symbol.ticker
    (fun row => setActive (shouldActivate w liquidity.thresholdWon row))
    (l := UniverseRepository.listSymbols s (some true) 20000) (s := (s, {}))
    (fun row _ p j => Session.get?_pending_modify (f := setActive _) fun _ => rfl)
    Session.nodup_map_key_query
  rw [← UniverseRepository.map_ticker_listSymbols]
  by_cases hseen : ticker ∈ (UniverseRepository.listSymbols s (some true) 20000).map Symbol.ticker
  · rw [if_pos hseen]
    obtain ⟨row, hrow, rfl⟩ := List.mem_map.mp hseen
    -- the query has answered the row as the session has it
    obtain ⟨hpending, -⟩ := Session.exists_of_mem_query hrow
    refine (hin row hrow).trans ?_
    show (s.pending.get? row.ticker).map _ = _
    rw [hpending]
    rfl
  · rw [if_neg hseen]
    exact hout ticker hseen

end recompute

end UniverseBootstrap

end HaruTrade
