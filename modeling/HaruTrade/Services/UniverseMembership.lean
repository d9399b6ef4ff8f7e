import HaruTrade.Services.Rebalance

/-!
# Membership of the universe after a rebalancing

What a successful `rebalance` promises of the table that the caller has.

* `get?_of_mem_target`, `get?_of_not_mem_target` — the row of a ticker, by cases on the target.
* `inUniverse_iff` — **membership**: the target, and the old members with an open position.
* `again_rebalance` — a second run with the same inputs changes no membership, status or block.
* `rebalance_correct` — these with the statuses and the result lists.
-/

namespace HaruTrade

namespace Rebalance

open UniverseBootstrap (setActive shouldActivate)

section run

variable {config : ConfigManager} {w : World} {symbols symbols' symbols'' : Table Symbol.ticker}
  {tickers : Option (List String)} {seeds : Except String (List SeedItem)} {out : Outcome}

/-! ## The rows after a run -/

@[simp] theorem inUniverse_recomputed {won : PyNum} {a : Symbol} :
    (recomputed w won symbols a).inUniverse = a.inUniverse := by
  unfold recomputed
  split_ifs
  · rfl
  · rfl

@[simp] theorem isBlocked_recomputed {won : PyNum} {a : Symbol} :
    (recomputed w won symbols a).isBlocked = a.isBlocked := by
  unfold recomputed
  split_ifs
  · rfl
  · rfl

@[simp] theorem status_recomputed {won : PyNum} {a : Symbol} :
    (recomputed w won symbols a).status = a.status := by
  unfold recomputed
  split_ifs
  · rfl
  · rfl

/-- An inactive symbol whose status closes it stays inactive.
Source: `app/services/universe_bootstrap.py` `recompute_active_universe_from_daily_liquidity`.
Kind: L -/
theorem isActive_recomputed {won : PyNum} {a : Symbol} (hactive : a.isActive = false)
    (hclosed : ¬ UniverseBootstrap.CanBeActive a.status) :
    (recomputed w won symbols a).isActive = false := by
  unfold recomputed
  split_ifs
  · exact if_neg hclosed
  · exact hactive

theorem retire_of_stays {target opens : List String} {a : Symbol} (h : a.inUniverse = false) :
    retire target opens a = a :=
  if_pos (Or.inl h)

theorem retire_of_open {target opens : List String} {a : Symbol} (h : a.inUniverse = true)
    (htarget : a.ticker ∉ target) (hopen : a.ticker ∈ opens) :
    retire target opens a = { a with status := .EXIT_PENDING, isActive := false } := by
  unfold retire
  rw [if_neg, if_pos hopen]
  simp [h, htarget]

theorem retire_of_not_open {target opens : List String} {a : Symbol} (h : a.inUniverse = true)
    (htarget : a.ticker ∉ target) (hopen : a.ticker ∉ opens) :
    retire target opens a =
      { a with inUniverse := false, isActive := false, status := .REMOVED } := by
  unfold retire
  rw [if_neg, if_neg hopen]
  simp [h, htarget]

/-- A table that the run sees whole. Source: `app/main.py` `_rebalance_universe`. Kind: L -/
theorem mem_current (hsize : symbols.rows.length ≤ 20000) {k : String} :
    k ∈ current symbols ↔ ∃ a, symbols.get? k = some a := by
  unfold current
  rw [UniverseRepository.mem_listedTickers hsize]
  simp

/-- **A row of the target** after a run. Source: `app/main.py` `_rebalance_universe`. Kind: L -/
theorem get?_of_mem_target (h : rebalance config w symbols tickers seeds = (symbols', .ok out))
    {k : String} (hk : k ∈ out.target) :
    (symbols.get? k = none ∧ k ∉ current symbols ∧ ∃ item, symbols'.get? k = some (newSymbol item)) ∨
      k ∈ current symbols ∧ ∃ item, symbols'.get? k = (symbols.get? k).map fun a =>
        recomputed w out.liquidity.thresholdWon symbols (rejoin (openTickers w) item a) := by
  obtain ⟨items, -, htarget, heffect⟩ := effect_rebalance h
  rw [htarget] at hk
  obtain ⟨item, hitem, rfl⟩ := List.mem_map.mp hk
  by_cases hcurrent : item.ticker ∈ current symbols
  · exact .inr ⟨hcurrent, item, heffect.admitted item hitem hcurrent⟩
  · obtain ⟨hnone, hnew⟩ := heffect.new item hitem hcurrent
    exact .inl ⟨hnone, hcurrent, item, hnew⟩

/-- **A row outside the target** after a run. Source: `app/main.py` `_rebalance_universe`.
Kind: L -/
theorem get?_of_not_mem_target
    (h : rebalance config w symbols tickers seeds = (symbols', .ok out)) {k : String}
    (hk : k ∉ out.target) :
    (k ∈ current symbols ∧ symbols'.get? k = (symbols.get? k).map fun a =>
        recomputed w out.liquidity.thresholdWon symbols (retire out.target (openTickers w) a)) ∨
      k ∉ current symbols ∧ symbols'.get? k =
        (symbols.get? k).map (recomputed w out.liquidity.thresholdWon symbols) := by
  obtain ⟨items, -, htarget, heffect⟩ := effect_rebalance h
  rw [htarget] at hk ⊢
  by_cases hcurrent : k ∈ current symbols
  · exact .inl ⟨hcurrent, heffect.retired k hk hcurrent⟩
  · exact .inr ⟨hcurrent, heffect.other k hk hcurrent⟩

/-! ## Membership, statuses and blocks -/

/-- **Membership after a run**: the target, and the old members with an open position.
Source: `app/main.py` `_rebalance_universe`. Kind: L -/
theorem inUniverse_rebalance (hsize : symbols.rows.length ≤ 20000)
    (h : rebalance config w symbols tickers seeds = (symbols', .ok out)) {k : String} :
    InUniverse symbols' k ↔ k ∈ out.target ∨ InUniverse symbols k ∧ k ∈ openTickers w := by
  by_cases hk : k ∈ out.target
  · refine ⟨fun _ => .inl hk, fun _ => ?_⟩
    rcases get?_of_mem_target h hk with ⟨-, -, item, hrow⟩ | ⟨hcurrent, item, hrow⟩
    · exact (inUniverse_iff hrow).mpr rfl
    · obtain ⟨a, ha⟩ := (mem_current hsize).mp hcurrent
      rw [ha, Option.map_some] at hrow
      rw [inUniverse_iff hrow, inUniverse_recomputed]
      rfl
  · have hnot : (k ∈ out.target ∨ InUniverse symbols k ∧ k ∈ openTickers w) ↔
        InUniverse symbols k ∧ k ∈ openTickers w := by simp [hk]
    rw [hnot]
    cases ha : symbols.get? k with
    | none =>
        have hrow : symbols'.get? k = none := by
          rcases get?_of_not_mem_target h hk with ⟨-, hrow⟩ | ⟨-, hrow⟩
          · rw [hrow, ha]
            rfl
          · rw [hrow, ha]
            rfl
        exact ⟨fun hin => absurd hin (not_inUniverse_of_none hrow),
          fun hin => absurd hin.1 (not_inUniverse_of_none ha)⟩
    | some a =>
        have hcurrent : k ∈ current symbols := (mem_current hsize).mpr ⟨a, ha⟩
        have hticker : a.ticker = k := (Table.get?_eq_some_iff.mp ha).2
        rcases get?_of_not_mem_target h hk with ⟨-, hrow⟩ | ⟨hout, -⟩
        · rw [ha, Option.map_some] at hrow
          rw [inUniverse_iff hrow, inUniverse_recomputed, inUniverse_iff ha]
          cases huniverse : a.inUniverse with
          | false => simp [retire_of_stays huniverse, huniverse]
          | true =>
              by_cases hopen : k ∈ openTickers w
              · rw [retire_of_open huniverse (hticker ▸ hk) (hticker ▸ hopen)]
                simp [huniverse, hopen]
              · rw [retire_of_not_open huniverse (hticker ▸ hk) (hticker ▸ hopen)]
                simp [hopen]
        · exact absurd hcurrent hout

/-- A member outside the target waits for its exit. Source: `app/main.py` `_rebalance_universe`.
Kind: L -/
theorem exitPending_of_not_mem_target (hsize : symbols.rows.length ≤ 20000)
    (h : rebalance config w symbols tickers seeds = (symbols', .ok out)) {k : String} {b : Symbol}
    (hb : symbols'.get? k = some b) (hin : b.inUniverse = true) (hk : k ∉ out.target) :
    b.status = .EXIT_PENDING ∧ b.isActive = false := by
  have hmember := (inUniverse_rebalance hsize h).mp ((inUniverse_iff hb).mpr hin)
  obtain ⟨hold, hopen⟩ : InUniverse symbols k ∧ k ∈ openTickers w := by
    rcases hmember with htarget | hold
    · exact absurd htarget hk
    · exact hold
  obtain ⟨a, ha, huniverse⟩ := hold
  have hticker : a.ticker = k := (Table.get?_eq_some_iff.mp ha).2
  rcases get?_of_not_mem_target h hk with ⟨-, hrow⟩ | ⟨hout, -⟩
  · rw [Option.mem_def.mp ha, Option.map_some,
      retire_of_open huniverse (hticker ▸ hk) (hticker ▸ hopen), hb] at hrow
    obtain rfl := Option.some_inj.mp hrow
    refine ⟨status_recomputed, isActive_recomputed rfl ?_⟩
    simp [UniverseBootstrap.CanBeActive]
  · exact absurd ((mem_current hsize).mpr ⟨a, ha⟩) hout

/-- A member that is dropped is removed, and has no open position.
Source: `app/main.py` `_rebalance_universe`. Kind: L -/
theorem removed_of_dropped (hsize : symbols.rows.length ≤ 20000)
    (h : rebalance config w symbols tickers seeds = (symbols', .ok out)) {k : String}
    (hin : InUniverse symbols k) (hout : ¬ InUniverse symbols' k) :
    k ∉ openTickers w ∧ ∃ b, symbols'.get? k = some b ∧ b.status = .REMOVED ∧ b.isActive = false := by
  rw [inUniverse_rebalance hsize h, not_or, not_and] at hout
  obtain ⟨hk, hopen⟩ := hout
  have hopen := hopen hin
  obtain ⟨a, ha, huniverse⟩ := hin
  have hticker : a.ticker = k := (Table.get?_eq_some_iff.mp ha).2
  refine ⟨hopen, ?_⟩
  rcases get?_of_not_mem_target h hk with ⟨-, hrow⟩ | ⟨hcurrent, -⟩
  · rw [Option.mem_def.mp ha, Option.map_some,
      retire_of_not_open huniverse (hticker ▸ hk) (hticker ▸ hopen)] at hrow
    refine ⟨_, hrow, status_recomputed, isActive_recomputed rfl ?_⟩
    simp [UniverseBootstrap.CanBeActive]
  · exact absurd ((mem_current hsize).mpr ⟨a, ha⟩) hcurrent

theorem isBlocked_retire {target opens : List String} {a : Symbol} :
    (retire target opens a).isBlocked = a.isBlocked := by
  unfold retire
  split_ifs
  · rfl
  · rfl
  · rfl

/-- **No run changes a block.** Source: `app/main.py` `_rebalance_universe`. Kind: L -/
theorem isBlocked_rebalance (h : rebalance config w symbols tickers seeds = (symbols', .ok out))
    {k : String} {a : Symbol} (ha : symbols.get? k = some a) :
    ∃ b, symbols'.get? k = some b ∧ b.isBlocked = a.isBlocked := by
  by_cases hk : k ∈ out.target
  · rcases get?_of_mem_target h hk with ⟨hnone, -⟩ | ⟨-, item, hrow⟩
    · exact absurd (ha.symm.trans hnone) (by simp)
    · rw [ha, Option.map_some] at hrow
      exact ⟨_, hrow, isBlocked_recomputed⟩
  · rcases get?_of_not_mem_target h hk with ⟨-, hrow⟩ | ⟨-, hrow⟩
    · rw [ha, Option.map_some] at hrow
      exact ⟨_, hrow, isBlocked_recomputed.trans isBlocked_retire⟩
    · rw [ha, Option.map_some] at hrow
      exact ⟨_, hrow, isBlocked_recomputed⟩

/-- A row of the target is open for trading after a run, or has an open position.
Source: `app/main.py` `_rebalance_universe`. Kind: L -/
theorem status_of_mem_target (h : rebalance config w symbols tickers seeds = (symbols', .ok out))
    {k : String} {b : Symbol} (hb : symbols'.get? k = some b) (hk : k ∈ out.target) :
    b.status ∉ [.REMOVED, .EXIT_PENDING] ∨ k ∈ openTickers w := by
  rcases get?_of_mem_target h hk with ⟨-, -, item, hrow⟩ | ⟨-, item, hrow⟩
  · left
    rw [hb] at hrow
    obtain rfl := Option.some_inj.mp hrow
    simp [newSymbol]
  · rw [hb] at hrow
    obtain ⟨a, ha, rfl⟩ := Option.map_eq_some_iff.mp hrow.symm
    have hticker : a.ticker = k := (Table.get?_eq_some_iff.mp ha).2
    rw [status_recomputed]
    show admittedStatus (openTickers w) a ∉ _ ∨ _
    unfold admittedStatus
    rw [hticker]
    by_cases hopen : k ∈ openTickers w
    · exact .inr hopen
    · left
      by_cases hclosed : a.status ∈ [.REMOVED, .EXIT_PENDING]
      · rw [if_pos ⟨hclosed, hopen⟩]
        decide
      · rw [if_neg fun hand => hclosed hand.1]
        exact hclosed

/-! ## The result lists -/

theorem target_rebalance (h : rebalance config w symbols tickers seeds = (symbols', .ok out)) :
    out.target = targetTickers tickers seeds := by
  obtain ⟨items, hitems, htarget, -⟩ := effect_rebalance h
  rw [htarget, map_ticker_sourceItems hitems]

/-- The lists part what they are said to part. Source: none: infrastructure. Kind: L -/
theorem filter_append_filter_not {l : List String} (p : String → Prop) [DecidablePred p] :
    (l.filter (fun k => ¬ p k) ++ l.filter fun k => p k).Perm l := by
  refine List.perm_append_comm.trans ?_
  have hnot : (fun k => decide ¬ p k) = fun k => !decide (p k) := by
    funext k
    simp
  rw [hnot]
  exact List.filter_append_perm (fun k => decide (p k)) l

/-- **Added and kept part the target, removed and pending exit the members outside it.**
Source: `app/main.py` `_rebalance_universe`. Kind: L -/
theorem partition_rebalance (hsize : symbols.rows.length ≤ 20000)
    (h : rebalance config w symbols tickers seeds = (symbols', .ok out)) :
    (out.added ++ out.kept).Nodup ∧ (∀ k, k ∈ out.added ++ out.kept ↔ k ∈ out.target) ∧
      (out.removed ++ out.pendingExit).Nodup ∧
      ∀ k, k ∈ out.removed ++ out.pendingExit ↔ InUniverse symbols k ∧ k ∉ out.target := by
  obtain ⟨hadded, hkept, hremoved, hpendingExit⟩ := lists_rebalance h
  have hleaves (q : String → Prop) [DecidablePred q] :
      ((current symbols).filter fun k => Leaves out.target symbols k ∧ q k) =
        ((current symbols).filter fun k => Leaves out.target symbols k).filter fun k => q k := by
    rw [List.filter_filter]
    apply List.filter_congr
    intro k _
    simp [Bool.and_comm]
  have htarget : (out.added ++ out.kept).Perm out.target := by
    rw [hadded, hkept]
    exact filter_append_filter_not fun k => k ∈ current symbols
  have hmembers : (out.removed ++ out.pendingExit).Perm
      ((current symbols).filter fun k => Leaves out.target symbols k) := by
    rw [hremoved, hpendingExit, hleaves, hleaves]
    exact filter_append_filter_not fun k => k ∈ openTickers w
  refine ⟨?_, fun k => htarget.mem_iff, ?_, ?_⟩
  · rw [htarget.nodup_iff, target_rebalance h]
    exact nodup_targetTickers
  · rw [hmembers.nodup_iff]
    exact (nodup_current symbols).filter _
  · intro k
    rw [hmembers.mem_iff, List.mem_filter, mem_current hsize, decide_eq_true_eq]
    constructor
    · exact And.right
    · intro hk
      obtain ⟨a, ha, -⟩ := hk.1
      exact ⟨⟨a, ha⟩, hk⟩

/-! ## A second run -/

/-- What a rebalancing decides about a row, apart from its activity.
Source: `app/db/models/universe.py` `Symbol`. Kind: D -/
def standing (a : Symbol) : Bool × UniverseStatus × Bool := (a.inUniverse, a.status, a.isBlocked)

theorem standing_recomputed {won : PyNum} {a : Symbol} :
    standing (recomputed w won symbols a) = standing a := by
  simp [standing]

/-- A run that fails changes nothing. Source: `app/main.py` `_rebalance_universe`. Kind: L -/
theorem rebalance_of_error {e : RebalanceError}
    (h : rebalance config w symbols tickers seeds = (symbols', .error e)) : symbols' = symbols := by
  unfold rebalance at h
  split at h
  · exact (Prod.mk.inj h).1.symm
  · split at h
    · exact (Prod.mk.inj h).1.symm
    · exact absurd (Prod.mk.inj h).2 (by simp)

/-- **A second run adds and removes nothing**, also when the first has made the table longer than
one query. Source: `app/main.py` `_rebalance_universe`. Kind: L -/
theorem lists_again {out' : Outcome} (hsize : symbols.rows.length ≤ 20000)
    (h : rebalance config w symbols tickers seeds = (symbols', .ok out))
    (h' : rebalance config w symbols' tickers seeds = (symbols'', .ok out')) :
    out'.added = [] ∧ out'.removed = [] := by
  have htarget : out'.target = out.target := by
    rw [target_rebalance h, target_rebalance h']
  obtain ⟨hadded, -, hremoved, -⟩ := lists_rebalance h'
  rw [hadded, hremoved, List.filter_eq_nil_iff, List.filter_eq_nil_iff]
  constructor
  · intro k hk hcurrent
    obtain ⟨a, ha, -⟩ := (inUniverse_rebalance hsize h).mpr (.inl (htarget ▸ hk))
    rcases get?_of_mem_target h' hk with ⟨hnone, -⟩ | ⟨hin, -⟩
    · exact absurd ((Option.mem_def.mp ha).symm.trans hnone) (by simp)
    · exact absurd hin (by simpa using hcurrent)
  · intro k _ hleaves
    obtain ⟨⟨hin, hk⟩, hopen⟩ := by simpa using hleaves
    rcases (inUniverse_rebalance hsize h).mp hin with hmem | hold
    · exact hk (htarget ▸ hmem)
    · exact hopen hold.2

/-- **A second run leaves membership, status and block** of every row.
Source: `app/main.py` `_rebalance_universe`. Kind: L -/
theorem standing_again {result : Except RebalanceError Outcome}
    (hsize : symbols.rows.length ≤ 20000)
    (h : rebalance config w symbols tickers seeds = (symbols', .ok out))
    (h' : rebalance config w symbols' tickers seeds = (symbols'', result)) (k : String) :
    (symbols''.get? k).map standing = (symbols'.get? k).map standing := by
  cases result with
  | error e => rw [rebalance_of_error h']
  | ok out' =>
      have htarget : out'.target = out.target := by
        rw [target_rebalance h, target_rebalance h']
      by_cases hk : k ∈ out'.target
      · have hmember : InUniverse symbols' k :=
          (inUniverse_rebalance hsize h).mpr (.inl (htarget ▸ hk))
        rcases get?_of_mem_target h' hk with ⟨hnone, -⟩ | ⟨-, item, hrow⟩
        · exact absurd hmember (not_inUniverse_of_none hnone)
        · rw [hrow, Option.map_map]
          apply Option.map_congr
          intro a ha
          have hticker : a.ticker = k := (Table.get?_eq_some_iff.mp ha).2
          have huniverse : a.inUniverse = true := (inUniverse_iff ha).mp hmember
          have hstatus : admittedStatus (openTickers w) a = a.status := by
            apply if_neg
            rintro ⟨hclosed, hopen⟩
            rcases status_of_mem_target h ha (htarget ▸ hk) with hnot | hin
            · exact hnot hclosed
            · exact hopen (hticker ▸ hin)
          refine standing_recomputed.trans ?_
          unfold standing rejoin
          rw [hstatus, huniverse]
      · rcases get?_of_not_mem_target h' hk with ⟨-, hrow⟩ | ⟨-, hrow⟩
        · rw [hrow, Option.map_map]
          apply Option.map_congr
          intro a ha
          have hticker : a.ticker = k := (Table.get?_eq_some_iff.mp ha).2
          refine standing_recomputed.trans ?_
          cases huniverse : a.inUniverse with
          | false => rw [retire_of_stays huniverse]
          | true =>
              -- only members that wait for their exit are left outside the target
              have hout : k ∉ out.target := htarget ▸ hk
              have hstatus := (exitPending_of_not_mem_target hsize h ha huniverse hout).1
              have hopen : k ∈ openTickers w := by
                rcases (inUniverse_rebalance hsize h).mp ((inUniverse_iff ha).mpr huniverse) with
                  hmem | hold
                · exact absurd hmem hout
                · exact hold.2
              rw [retire_of_open huniverse (hticker ▸ hk) (hticker ▸ hopen)]
              unfold standing
              rw [hstatus]
        · rw [hrow, Option.map_map]
          exact Option.map_congr fun a _ => standing_recomputed

/-! ## The run as a whole -/

/-- What a successful run promises of the table. Source: `docs/prd.md` 2.2. Kind: D -/
structure Rebalanced (w : World) (out : Outcome) (symbols symbols' : Table Symbol.ticker) : Prop where
  /-- The members are the target, and the old members with an open position. -/
  members : ∀ k, InUniverse symbols' k ↔ k ∈ out.target ∨ InUniverse symbols k ∧ k ∈ openTickers w
  /-- A member outside the target waits for its exit. -/
  exitPending : ∀ k b, symbols'.get? k = some b → b.inUniverse = true → k ∉ out.target →
    b.status = .EXIT_PENDING ∧ b.isActive = false
  /-- A member that is dropped has no open position. -/
  dropped : ∀ k, InUniverse symbols k → ¬ InUniverse symbols' k → k ∉ openTickers w ∧
    ∃ b, symbols'.get? k = some b ∧ b.status = .REMOVED ∧ b.isActive = false
  /-- Blocks stay. -/
  blocked : ∀ k a, symbols.get? k = some a →
    ∃ b, symbols'.get? k = some b ∧ b.isBlocked = a.isBlocked
  /-- Added and kept part the target. -/
  target : (out.added ++ out.kept).Nodup ∧ ∀ k, k ∈ out.added ++ out.kept ↔ k ∈ out.target
  /-- Removed and pending exit part the old members outside the target. -/
  outside : (out.removed ++ out.pendingExit).Nodup ∧
    ∀ k, k ∈ out.removed ++ out.pendingExit ↔ InUniverse symbols k ∧ k ∉ out.target

/-- **After a rebalancing only the target is tradable** in the loops that read the table.
Source: `app/main.py` `_rebalance_universe`, `app/repositories/universe.py`
`UniverseRepository.list_trading_tickers`. Kind: P -/
theorem mem_target_of_tradable (hsize : symbols.rows.length ≤ 20000)
    (h : rebalance config w symbols tickers seeds = (symbols', .ok out)) {k : String}
    (htradable : World.Tradable { w with symbols := symbolRows symbols' } k) : k ∈ out.target := by
  obtain ⟨row, hrow, htradable⟩ := htradable
  rw [Option.mem_def, get?_symbolRows] at hrow
  obtain ⟨b, hb, rfl⟩ := Option.map_eq_some_iff.mp hrow
  by_contra hk
  simp only [SymbolRow.tradable, Symbol.row, Bool.and_eq_true] at htradable
  obtain ⟨⟨⟨hin, hactive⟩, -⟩, -⟩ := htradable
  have hinactive := (exitPending_of_not_mem_target hsize h hb hin hk).2
  exact absurd hactive (by simp [hinactive])

/-- **A successful rebalancing** of a table that one query reads whole: membership, statuses, blocks
and the result lists are as promised, and a second run with the same inputs adds and removes nothing
and leaves membership, status and block of every row.
Source: `app/main.py` `_rebalance_universe`, `docs/prd.md` 2.2. Kind: C -/
theorem rebalance_correct (hsize : symbols.rows.length ≤ 20000)
    (h : rebalance config w symbols tickers seeds = (symbols', .ok out)) :
    out.target = targetTickers tickers seeds ∧ Rebalanced w out symbols symbols' ∧
      ∀ symbols'' result, rebalance config w symbols' tickers seeds = (symbols'', result) →
        (∀ k, (symbols''.get? k).map standing = (symbols'.get? k).map standing) ∧
        ∀ out', result = .ok out' → out'.added = [] ∧ out'.removed = [] := by
  obtain ⟨hnodup, htarget, hnodup', houtside⟩ := partition_rebalance hsize h
  refine ⟨target_rebalance h, ⟨fun k => inUniverse_rebalance hsize h, ?_, ?_, ?_,
    ⟨hnodup, htarget⟩, ⟨hnodup', houtside⟩⟩, ?_⟩
  · intro k b hb hin hk
    exact exitPending_of_not_mem_target hsize h hb hin hk
  · intro k hin hout
    exact removed_of_dropped hsize h hin hout
  · intro k a ha
    exact isBlocked_rebalance h ha
  · intro symbols'' result h'
    refine ⟨standing_again hsize h h', ?_⟩
    rintro out' rfl
    exact lists_again hsize h h'

end run

/-! ## A small universe -/

/-- A world with an open position. Source: none: infrastructure. Kind: D -/
def openWorld : World where
  positions := ⟨[{
    id := 1
    orderId := none
    ticker := "000660"
    strategyId := "1"
    state := .OPEN
    entryPrice := 100
    stopPrice := 90
    takeProfitPrice := 120
    trailingStopPrice := none
    highestPrice := none
    quantity := 1
    remainingQuantity := 1
    closeReason := none }], by decide⟩

/-- Three members, one of them blocked and one halted, and a symbol that was removed.
Source: none: infrastructure. Kind: D -/
def smallUniverse : Table Symbol.ticker :=
  ⟨[⟨"005930", "삼성전자", "KOSPI200", true, true, false, .NORMAL⟩,
    ⟨"000660", "SK하이닉스", "KOSPI200", true, true, true, .NORMAL⟩,
    ⟨"035420", "NAVER", "USER", true, false, false, .HALTED⟩,
    ⟨"051910", "LG화학", "USER", false, false, false, .REMOVED⟩], by decide⟩

/-- One member, the removed symbol and one that the table has not.
Source: none: infrastructure. Kind: D -/
def request : Option (List String) := some [" 005930", "068270", "051910"]

/-- Source: none: infrastructure. Kind: D -/
def answered : Outcome where
  source := "manual"
  target := ["005930", "051910", "068270"]
  added := ["068270"]
  removed := ["035420"]
  pendingExit := ["000660"]
  kept := ["005930", "051910"]
  liquidity :=
    { activeCount := 0
      updatedCount := 1
      insufficientDailyCount := 1
      thresholdEok := .of 50
      thresholdWon := .of 5000000000
      inUniverseCount := 3 }

theorem rebalance_smallUniverse :
    (rebalance .ofDefaults openWorld smallUniverse request (.error "")).2 = .ok answered :=
  eq_ok_of_toOption (by decide +kernel)

theorem rebalance_correct_smallUniverse :
    answered.target = targetTickers request (.error "") ∧
    Rebalanced openWorld answered smallUniverse
      (rebalance .ofDefaults openWorld smallUniverse request (.error "")).1 ∧
    ∀ symbols'' result,
      rebalance .ofDefaults openWorld
        (rebalance .ofDefaults openWorld smallUniverse request (.error "")).1 request (.error "") =
          (symbols'', result) →
      (∀ k, (symbols''.get? k).map standing =
        ((rebalance .ofDefaults openWorld smallUniverse request (.error "")).1.get? k).map standing) ∧
      ∀ out', result = .ok out' → out'.added = [] ∧ out'.removed = [] :=
  rebalance_correct (by decide) (Prod.ext rfl rebalance_smallUniverse)

end Rebalance

end HaruTrade
