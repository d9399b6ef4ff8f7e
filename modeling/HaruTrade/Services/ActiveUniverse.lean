import HaruTrade.Services.UniverseMembership

/-!
# The active universe after a rebalancing

The recomputation runs before the commit, and its query goes by the values that the database has. So
it sees the rows that were in the universe before the run: not the new symbols, and not those that
the run brings back.

* `Qualifies` — what makes a symbol active: its status, 20 daily candles, and their mean turnover.
* `isActive_of_mem_target` — **what the run leaves** of the activity of a symbol of the target.
* `active_iff` — every member is active as it should be exactly when the target's symbols that the
  query has not seen happen to have the right activity, and a turnover of negative prices or volumes
  does not matter for those that it has seen.
-/

namespace HaruTrade

namespace Rebalance

open UniverseBootstrap (CanBeActive daily avgValue thresholdEok shouldActivate)

/-- The mean of price times volume. Source: `docs/prd.md` 2.2. Kind: D -/
def meanValue (candles : List Candle) : ℚ :=
  (candles.map fun x => x.close * x.volume).sum / candles.length

/-- The symbol should be active. Source: `docs/prd.md` 2.2, `app/services/universe_bootstrap.py`
`recompute_active_universe_from_daily_liquidity`. Kind: D -/
def Qualifies (w : World) (won : ℚ) (ticker : String) (status : UniverseStatus) : Prop :=
  CanBeActive status ∧ 20 ≤ (daily w ticker).length ∧ won ≤ meanValue (daily w ticker)

instance {w : World} {won : ℚ} {ticker : String} {status : UniverseStatus} :
    Decidable (Qualifies w won ticker status) :=
  inferInstanceAs (Decidable (_ ∧ _))

/-- When a symbol of the target ends with the right activity. One that is new must not qualify, one
that comes back must have had the right activity before, and for one that was a member the turnover
without the negative prices and volumes must decide as the turnover does.
Source: `app/main.py` `_rebalance_universe`. Kind: D -/
def EndsRight (w : World) (won : ℚ) (symbols : Table Symbol.ticker) (k : String) : Prop :=
  match symbols.get? k with
  | none => ¬ Qualifies w won k .NORMAL
  | some a =>
    if a.inUniverse = true then
      CanBeActive (admittedStatus (openTickers w) a) → 20 ≤ (daily w k).length →
        (won ≤ avgValue (daily w k) ↔ won ≤ meanValue (daily w k))
    else (a.isActive = true ↔ Qualifies w won k (admittedStatus (openTickers w) a))

section run

variable {config : ConfigManager} {w : World} {symbols symbols' : Table Symbol.ticker}
  {tickers : Option (List String)} {seeds : Except String (List SeedItem)} {out : Outcome}
  {won : ℚ} {k : String} {a b : Symbol}

theorem shouldActivate_eq_true_iff : shouldActivate w (.of won) a = true ↔
    CanBeActive a.status ∧ 20 ≤ (daily w a.ticker).length ∧ won ≤ avgValue (daily w a.ticker) := by
  unfold shouldActivate
  by_cases hstatus : CanBeActive a.status
  · rw [if_pos hstatus]
    by_cases hlen : 20 ≤ (daily w a.ticker).length
    · rw [if_pos hlen]
      show decide (won ≤ avgValue (daily w a.ticker)) = true ↔ _
      rw [decide_eq_true_eq]
      exact ⟨fun hwon => ⟨hstatus, hlen, hwon⟩, fun hall => hall.2.2⟩
    · rw [if_neg hlen]
      exact ⟨fun hfalse => absurd hfalse Bool.false_ne_true, fun hall => absurd hall.2.1 hlen⟩
  · rw [if_neg hstatus]
    exact ⟨fun hfalse => absurd hfalse Bool.false_ne_true, fun hall => absurd hall.1 hstatus⟩

theorem liquidity_rebalance (h : rebalance config w symbols tickers seeds = (symbols', .ok out)) :
    thresholdEok config = .ok out.liquidity.thresholdEok ∧
      out.liquidity.thresholdWon = out.liquidity.thresholdEok.times 100000000 := by
  obtain ⟨s, hprepare, -⟩ := rebalance_ok h
  obtain ⟨items, -, -, hliquidity, -⟩ := prepare_ok hprepare
  obtain ⟨heok, hwon, -⟩ := UniverseBootstrap.recompute_eq_ok hliquidity
  exact ⟨heok, hwon⟩

/-- The recomputation sees the rows that are stored as members.
Source: `app/main.py` `_rebalance_universe`. Kind: L -/
theorem recomputed_of_stored (hsize : symbols.rows.length ≤ 20000) (ha : symbols.get? k = some a)
    (hb : b.ticker = k) (num : PyNum) :
    recomputed w num symbols b =
      if a.inUniverse = true then UniverseBootstrap.setActive (shouldActivate w num b) b else b := by
  have hlisted : b.ticker ∈ UniverseRepository.listedTickers symbols (some true) 20000 ↔
      a.inUniverse = true := by
    rw [UniverseRepository.mem_listedTickers hsize, hb, ha]
    constructor
    · rintro ⟨a', ha', hin⟩
      obtain rfl := Option.some_inj.mp ha'
      simpa using hin
    · intro hin
      exact ⟨a, rfl, by simp [hin]⟩
  unfold recomputed
  simp only [hlisted]

/-- **The activity of a symbol of the target**: a new one is inactive, one that comes back has the
activity that it had, and only a member's is recomputed.
Source: `app/main.py` `_rebalance_universe`. Kind: L -/
theorem isActive_of_mem_target (hsize : symbols.rows.length ≤ 20000)
    (h : rebalance config w symbols tickers seeds = (symbols', .ok out))
    (hwon : out.liquidity.thresholdWon = .of won) (hk : k ∈ out.target)
    (hb : symbols'.get? k = some b) :
    (b.isActive = true ↔ Qualifies w won b.ticker b.status) ↔ EndsRight w won symbols k := by
  have hticker : b.ticker = k := (Table.get?_eq_some_iff.mp hb).2
  unfold EndsRight
  rcases get?_of_mem_target h hk with ⟨hnone, -, item, hrow⟩ | ⟨hcurrent, item, hrow⟩
  · rw [hb] at hrow
    obtain rfl := Option.some_inj.mp hrow
    rw [hnone, hticker]
    simp [newSymbol]
  · obtain ⟨a, ha⟩ := (mem_current hsize).mp hcurrent
    have hka : a.ticker = k := (Table.get?_eq_some_iff.mp ha).2
    rw [hb, ha, Option.map_some, Option.some_inj,
      recomputed_of_stored (b := rejoin (openTickers w) item a) hsize ha hka, hwon] at hrow
    rw [ha]
    dsimp only
    by_cases hmember : a.inUniverse = true
    · rw [if_pos hmember] at hrow ⊢
      have hactive : b.isActive = true ↔ CanBeActive (admittedStatus (openTickers w) a) ∧
          20 ≤ (daily w k).length ∧ won ≤ avgValue (daily w k) := by
        rw [hrow]
        refine shouldActivate_eq_true_iff.trans ?_
        show CanBeActive (admittedStatus (openTickers w) a) ∧ 20 ≤ (daily w a.ticker).length ∧
          won ≤ avgValue (daily w a.ticker) ↔ _
        rw [hka]
      have hstatus : b.status = admittedStatus (openTickers w) a := by
        rw [hrow]
        rfl
      rw [hactive, hticker, hstatus]
      unfold Qualifies
      rw [and_congr_right_iff]
      exact forall_congr' fun _ => and_congr_right_iff
    · rw [if_neg hmember] at hrow ⊢
      rw [hticker, hrow]
      rfl

/-- **When every member is active as it should be** after a successful rebalancing.
Source: `app/main.py` `_rebalance_universe`, `docs/prd.md` 2.2. Kind: C -/
theorem active_iff {eok : ℚ} (hsize : symbols.rows.length ≤ 20000)
    (hfinite : thresholdEok config = .ok (.of eok))
    (h : rebalance config w symbols tickers seeds = (symbols', .ok out)) :
    (∀ k b, symbols'.get? k = some b → b.inUniverse = true →
        (b.isActive = true ↔ Qualifies w (eok * 100000000) b.ticker b.status)) ↔
      ∀ k ∈ targetTickers tickers seeds, EndsRight w (eok * 100000000) symbols k := by
  obtain ⟨heok, hwon⟩ := liquidity_rebalance h
  rw [← Except.ok.inj (hfinite.symm.trans heok)] at hwon
  rw [← target_rebalance h]
  constructor
  · intro hall k hk
    obtain ⟨b, hb, hin⟩ := (inUniverse_rebalance hsize h).mpr (.inl hk)
    exact (isActive_of_mem_target hsize h hwon hk hb).mp (hall k b hb hin)
  · intro hright k b hb hin
    by_cases hk : k ∈ out.target
    · exact (isActive_of_mem_target hsize h hwon hk hb).mpr (hright k hk)
    · obtain ⟨hstatus, hinactive⟩ := exitPending_of_not_mem_target hsize h hb hin hk
      unfold Qualifies
      rw [hstatus, hinactive]
      simp [CanBeActive]

end run

/-! ## New symbols with and without candles -/

/-- A daily candle with a turnover of 70 billion won. Source: none: infrastructure. Kind: D -/
def tradedCandle (day : ℕ) : Candle := ⟨70000, 70000, 70000, 70000, day, 1000000⟩

/-- Twenty such candles of one symbol. Source: none: infrastructure. Kind: D -/
def tradedWorld : World where
  candles := ⟨(List.range 20).map fun day => ⟨"005930", .d1, tradedCandle day⟩, by decide⟩

/-- The run that takes the symbol into an empty universe. Source: none: infrastructure. Kind: D -/
def firstRun : Table Symbol.ticker × Except RebalanceError Outcome :=
  rebalance .ofDefaults tradedWorld Table.empty (some ["005930"]) (.error "")

/-- Source: none: infrastructure. Kind: D -/
def firstOutcome : Outcome where
  source := "manual"
  target := ["005930"]
  added := ["005930"]
  removed := []
  pendingExit := []
  kept := []
  liquidity := { thresholdEok := .of 50, thresholdWon := .of 5000000000, inUniverseCount := 0 }

theorem firstRun_snd : firstRun.2 = .ok firstOutcome :=
  eq_ok_of_toOption (by decide +kernel)

theorem thresholdEok_ofDefaults : thresholdEok .ofDefaults = .ok (.of 50) :=
  eq_ok_of_toOption (by decide +kernel)

/-- The symbol with candles as a member that is not active yet. Source: none: infrastructure. Kind: D -/
def memberTable : Table Symbol.ticker where
  rows := [⟨"005930", "005930", "KOSPI200", true, false, false, .NORMAL⟩]
  nodup := by decide

/-- The run that keeps it and takes in one without candles. Source: none: infrastructure. Kind: D -/
def memberRun : Table Symbol.ticker × Except RebalanceError Outcome :=
  rebalance .ofDefaults tradedWorld memberTable (some ["005930", "000660"]) (.error "")

/-- Source: none: infrastructure. Kind: D -/
def memberOutcome : Outcome where
  source := "manual"
  target := ["000660", "005930"]
  added := ["000660"]
  removed := []
  pendingExit := []
  kept := ["005930"]
  liquidity := {
    activeCount := 1
    updatedCount := 1
    thresholdEok := .of 50
    thresholdWon := .of 5000000000
    inUniverseCount := 1 }

theorem rebalance_memberRun :
    rebalance .ofDefaults tradedWorld memberTable (some ["005930", "000660"]) (.error "") =
      (memberRun.1, .ok memberOutcome) :=
  Prod.ext rfl (eq_ok_of_toOption (by decide +kernel))

/-- That run goes through, and after it every member is active as it should be.
Source: `app/main.py` `_rebalance_universe`. Kind: C -/
theorem active_iff_memberRun :
    memberRun.2 = .ok memberOutcome ∧
      ∀ k b, memberRun.1.get? k = some b → b.inUniverse = true →
        (b.isActive = true ↔ Qualifies tradedWorld (50 * 100000000) b.ticker b.status) := by
  refine ⟨congrArg Prod.snd rebalance_memberRun, ?_⟩
  refine (active_iff (by decide) thresholdEok_ofDefaults rebalance_memberRun).mpr fun k hk => ?_
  have htarget : targetTickers (some ["005930", "000660"]) (.error "") = ["000660", "005930"] := by
    decide +kernel
  rw [htarget] at hk
  rcases List.mem_pair.mp hk with rfl | rfl
  · show ¬ Qualifies tradedWorld (50 * 100000000) "000660" .NORMAL
    decide +kernel
  · intro _ _
    decide +kernel

/-- The symbol as the first run leaves it. Source: none: infrastructure. Kind: D -/
def addedSymbol : Symbol := ⟨"005930", "005930", "USER", true, false, false, .NORMAL⟩

/-- **The new symbol is a member and qualifies**, and is left inactive.
Source: `app/main.py` `_rebalance_universe`. Kind: L -/
theorem new_symbol_stays_inactive :
    thresholdEok .ofDefaults = .ok (.of 50) ∧ firstRun.2 = .ok firstOutcome ∧
      firstRun.1.get? "005930" = some addedSymbol ∧ addedSymbol.inUniverse = true ∧
      ¬ (addedSymbol.isActive = true ↔
        Qualifies tradedWorld (50 * 100000000) addedSymbol.ticker addedSymbol.status) := by
  refine ⟨thresholdEok_ofDefaults, firstRun_snd, ?_⟩
  decide +kernel

end Rebalance

end HaruTrade
