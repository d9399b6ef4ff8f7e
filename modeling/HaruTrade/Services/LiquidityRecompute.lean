import HaruTrade.Data.StableSort
import HaruTrade.Services.ActiveUniverse

/-!
# The recomputation of the active universe as a whole

What one run of `recompute_active_universe_from_daily_liquidity` leaves of a table of symbols without
pending changes, and what it counts.

* `Liquid` — the criterion: the status, the twenty newest daily candles, and their mean turnover, where
  a negative price or volume counts as zero. `shouldActivate_iff_liquid` says that the code decides it.
* `Recomputed` — the table after a run: the activity of the symbols of the universe, and the frame.
* `recompute_active_universe` — **a run leaves that table and counts it**; a second run, before or after
  the commit, updates nothing; and a larger threshold activates nothing more.
* `recompute_negative_turnover` — a price and a volume that are both negative do not make a turnover.
-/

namespace HaruTrade

namespace UniverseBootstrap

open CandleRepository (history)

/-! ## The twenty newest candles -/

/-- The daily candles of a ticker that no other one is newer than, oldest first.
Source: `docs/prd.md` 2.2. Kind: D -/
structure Newest (w : World) (ticker : String) (days : List Candle) : Prop where
  stored : ∀ c ∈ days, w.candles.get? (ticker, .d1, c.ts) = some ⟨ticker, .d1, c⟩
  ordered : days.Pairwise fun a b => a.ts < b.ts
  newest : ∀ c, w.candles.get? (ticker, .d1, c.ts) = some ⟨ticker, .d1, c⟩ → c ∉ days →
    ∀ day ∈ days, c.ts < day.ts

/-- **The criterion.** Source: `docs/prd.md` 2.2, `app/services/universe_bootstrap.py`
`recompute_active_universe_from_daily_liquidity`. Kind: D -/
def Liquid (w : World) (won : ℚ) (a : Symbol) : Prop :=
  CanBeActive a.status ∧ ∃ days, days.length = 20 ∧ Newest w a.ticker days ∧
    won ≤ (days.map fun x => max x.close 0 * max x.volume 0).sum / 20

section newest

variable {w : World} {ticker : String} {days : List Candle} {won won' : ℚ} {a : Symbol}

/-- The candles of a history have different times. Source: `app/db/models/candle.py` `Candle`.
Kind: L -/
theorem pairwise_lt_history {timeframe : Timeframe} :
    (history w ticker timeframe).Pairwise fun a b => a.ts < b.ts := by
  have hnodup : ((w.candles.select fun r => r.ticker = ticker ∧ r.timeframe = timeframe).map
      fun r => r.candle.ts).Nodup := by
    refine List.Nodup.of_map (fun ts => (ticker, timeframe, ts)) ?_
    rw [List.map_map]
    have hkeys : (w.candles.select fun r => r.ticker = ticker ∧ r.timeframe = timeframe).map
        ((fun ts => (ticker, timeframe, ts)) ∘ fun r => r.candle.ts) =
          (w.candles.select fun r => r.ticker = ticker ∧ r.timeframe = timeframe).map
            CandleRow.key := by
      apply List.map_congr_left
      intro r hr
      obtain ⟨rfl, rfl⟩ := of_decide_eq_true (List.mem_filter.mp hr).2
      rfl
    rw [hkeys]
    exact Table.nodup_select
  unfold history CandleRepository.byTime
  rw [List.pairwise_map]
  exact pairwise_lt_sortOn_iff.mpr hnodup

/-- **The query answers the newest candles.** Source: `app/repositories/candle.py`
`CandleRepository.list_recent`. Kind: L -/
theorem newest_daily : Newest w ticker (daily w ticker) := by
  have hsplit := List.take_append_drop ((history w ticker .d1).length - 20) (history w ticker .d1)
  have hordered : (history w ticker .d1).Pairwise fun a b => a.ts < b.ts := pairwise_lt_history
  rw [← hsplit, List.pairwise_append] at hordered
  refine ⟨fun c hc => ?_, hordered.2.1, fun c hc hout day hday => ?_⟩
  · exact CandleRepository.mem_history.mp (List.mem_of_mem_drop hc)
  · have hmem := CandleRepository.mem_history.mpr hc
    rw [← hsplit, List.mem_append] at hmem
    exact hordered.2.2 c (hmem.resolve_right hout) day hday

/-- Source: `app/repositories/candle.py` `CandleRepository.list_recent`. Kind: L -/
theorem eq_daily (h : Newest w ticker days) (hlen : days.length = 20) :
    days = daily w ticker := by
  have hlast : (history w ticker .d1).drop ((history w ticker .d1).length - days.length) = days :=
    drop_eq_of_forall_lt pairwise_lt_history h.ordered
      (fun c hc => CandleRepository.mem_history.mpr (h.stored c hc))
      fun c hc => h.newest c (CandleRepository.mem_history.mp hc)
  rw [hlen] at hlast
  exact hlast.symm

theorem length_daily_le : (daily w ticker).length ≤ 20 := by
  unfold daily CandleRepository.listRecent
  rw [List.length_drop]
  omega

/-- **The code decides the criterion.** Source: `app/services/universe_bootstrap.py`
`recompute_active_universe_from_daily_liquidity`. Kind: P -/
theorem shouldActivate_iff_liquid : shouldActivate w (.of won) a = true ↔ Liquid w won a := by
  rw [Rebalance.shouldActivate_eq_true_iff]
  refine and_congr_right fun _ => ?_
  constructor
  · rintro ⟨hlen, hwon⟩
    have htwenty := le_antisymm length_daily_le hlen
    refine ⟨daily w a.ticker, htwenty, newest_daily, ?_⟩
    rw [avgValue, htwenty] at hwon
    exact_mod_cast hwon
  · rintro ⟨days, hlen, hnewest, hwon⟩
    rw [← eq_daily hnewest hlen, avgValue, hlen]
    exact ⟨le_refl 20, by exact_mod_cast hwon⟩

/-- **A larger threshold is harder to reach.** Source: `docs/prd.md` 2.2. Kind: L -/
theorem Liquid.mono (h : Liquid w won' a) (hle : won ≤ won') : Liquid w won a := by
  obtain ⟨hstatus, days, hlen, hnewest, hwon⟩ := h
  exact ⟨hstatus, days, hlen, hnewest, hle.trans hwon⟩

end newest

/-! ## One run -/

/-- **The table after a run**: the activity of the symbols of the universe, and nothing else.
Source: `app/services/universe_bootstrap.py` `recompute_active_universe_from_daily_liquidity`.
Kind: D -/
structure Recomputed (w : World) (won : ℚ) (t t' : Table Symbol.ticker) : Prop where
  tickers : t'.rows.map Symbol.ticker = t.rows.map Symbol.ticker
  symbol : ∀ k a, t.get? k = some a → ∃ b, t'.get? k = some b ∧
    b = { a with isActive := b.isActive } ∧
      (b.isActive = true ↔ if a.inUniverse = true then Liquid w won a else a.isActive = true)

/-- The flag of a symbol is changed. Source: `app/services/universe_bootstrap.py`
`recompute_active_universe_from_daily_liquidity`. Kind: D -/
def flagChanged (t' : Table Symbol.ticker) (a : Symbol) : Bool :=
  (t'.get? a.ticker).any fun b => b.isActive ≠ a.isActive

section run

variable {config : ConfigManager} {w : World} {t t' t'' : Table Symbol.ticker}
  {s s' : Session Symbol.ticker} {rows : List Symbol} {num : PyNum} {eok won won' : ℚ} {c : Counts}

variable (w num) in
/-- What the loop counts. Source: `app/services/universe_bootstrap.py`
`recompute_active_universe_from_daily_liquidity`. Kind: L -/
theorem counts_foldl (rows : List Symbol) (s : Session Symbol.ticker) (c : Counts) :
    let counts := (rows.foldl (recomputeTurn w num) (s, c)).2
    counts.activeCount = c.activeCount + rows.countP (shouldActivate w num) ∧
      counts.updatedCount = c.updatedCount +
        rows.countP fun a => a.isActive ≠ shouldActivate w num a := by
  induction rows generalizing s c with
  | nil => exact ⟨rfl, rfl⟩
  | cons a rows ih =>
      obtain ⟨hactive, hupdated⟩ :=
        ih (recomputeTurn w num (s, c) a).1 (recomputeTurn w num (s, c) a).2
      refine ⟨hactive.trans ?_, hupdated.trans ?_⟩
      · rw [List.countP_cons, recomputeTurn]
        dsimp only
        omega
      · rw [List.countP_cons, recomputeTurn]
        dsimp only
        by_cases hsame : a.isActive = shouldActivate w num a
        · simp [hsame]
        · simp [hsame]
          omega

/-- A run with a threshold that can be read. Source: `app/services/universe_bootstrap.py`
`recompute_active_universe_from_daily_liquidity`. Kind: L -/
theorem exists_recompute (h : thresholdEok config = .ok (.of eok)) :
    ∃ s' l, recomputeActiveUniverse config w s = .ok (s', l) ∧
      l.thresholdWon = .of (eok * 100000000) ∧
      l.activeCount = (UniverseRepository.listSymbols s (some true) 20000).countP
        (shouldActivate w (.of (eok * 100000000))) ∧
      l.updatedCount = (UniverseRepository.listSymbols s (some true) 20000).countP
        fun a => a.isActive ≠ shouldActivate w (.of (eok * 100000000)) a := by
  obtain ⟨hactive, hupdated⟩ := counts_foldl w (.of (eok * 100000000))
    (UniverseRepository.listSymbols s (some true) 20000) s {}
  unfold recomputeActiveUniverse
  rw [h]
  exact ⟨_, _, rfl, rfl, hactive.trans (zero_add _), hupdated.trans (zero_add _)⟩

/-- What a run makes of a row. Source: `app/services/universe_bootstrap.py`
`recompute_active_universe_from_daily_liquidity`. Kind: D -/
def recomputedSymbol (w : World) (won : ℚ) (a : Symbol) : Symbol :=
  if a.inUniverse = true then setActive (shouldActivate w (.of won) a) a else a

theorem ticker_recomputedSymbol {a : Symbol} : (recomputedSymbol w won a).ticker = a.ticker := by
  rw [recomputedSymbol]
  split_ifs
  · rfl
  · rfl

/-- **A run changes the rows of the universe in place.** Source: `app/services/universe_bootstrap.py`
`recompute_active_universe_from_daily_liquidity`. Kind: L -/
theorem rows_recompute {l : Liquidity} (hsize : t.rows.length ≤ 20000)
    (h : recomputeActiveUniverse config w (.ofTable t) = .ok (s', l))
    (hwon : l.thresholdWon = .of won) : s'.pending.rows = t.rows.map (recomputedSymbol w won) := by
  obtain ⟨hstored, -⟩ := session_recompute h
  refine Table.rows_eq_map ?_ fun k => ?_
  · rw [s'.same, hstored]
    rfl
  · rw [pending_recompute h k, hwon]
    show (if k ∈ UniverseRepository.listedTickers t (some true) 20000 then _ else t.get? k) = _
    cases ha : t.get? k with
    | none =>
        have hout : k ∉ UniverseRepository.listedTickers t (some true) 20000 := by
          rw [UniverseRepository.mem_listedTickers hsize, ha]
          rintro ⟨a, ha, -⟩
          cases ha
        rw [if_neg hout]
        rfl
    | some a =>
        have hlisted : k ∈ UniverseRepository.listedTickers t (some true) 20000 ↔
            a.inUniverse = true := by
          rw [UniverseRepository.mem_listedTickers hsize, ha]
          constructor
          · rintro ⟨a', ha', hin⟩
            obtain rfl := Option.some_inj.mp ha'
            simpa using hin
          · intro hin
            exact ⟨a, rfl, by simp [hin]⟩
        simp only [hlisted]
        rw [Option.map_some, recomputedSymbol]
        by_cases hin : a.inUniverse = true
        · rw [if_pos hin, if_pos hin]
          show (t.get? k).map _ = _
          rw [ha]
          rfl
        · rw [if_neg hin, if_neg hin]

/-- The rows that a run goes through are those of the universe. Source: `app/repositories/universe.py`
`UniverseRepository.list_symbols`. Kind: L -/
theorem listSymbols_perm (hsize : t.rows.length ≤ 20000) :
    (UniverseRepository.listSymbols (.ofTable t) (some true) 20000).Perm
      (t.rows.filter Symbol.inUniverse) := by
  have hobject : ∀ a ∈ t.rows, (Session.ofTable t).object a = a := by
    intro a ha
    show (t.get? a.ticker).getD a = a
    rw [Table.mem_iff_get?.mp ha]
    rfl
  have hrows : UniverseRepository.listSymbols (.ofTable t) (some true) 20000 =
      (((t.rows.filter fun a => (some true).all (· = a.inUniverse)).insertionSort
        fun a b => a.ticker ≤ b.ticker).take 20000).map (Session.ofTable t).object := rfl
  have hwhere : (t.rows.filter fun a => (some true).all (· = a.inUniverse)) =
      t.rows.filter Symbol.inUniverse := by
    apply List.filter_congr
    intro a _
    cases hin : a.inUniverse with
    | true => rfl
    | false => rfl
  rw [hrows, hwhere, List.take_of_length_le, List.map_congr_left (g := id), List.map_id]
  · exact List.perm_insertionSort _ _
  · intro a ha
    exact hobject a (List.mem_filter.mp ((List.mem_insertionSort _).mp ha)).1
  · rw [List.length_insertionSort]
    exact (List.length_filter_le _ _).trans hsize

/-- Source: `app/services/universe_bootstrap.py` `recompute_active_universe_from_daily_liquidity`.
Kind: L -/
theorem get?_of_rows (h : t'.rows = t.rows.map (recomputedSymbol w won)) {a : Symbol}
    (ha : a ∈ t.rows) : t'.get? a.ticker = some (recomputedSymbol w won a) := by
  rw [Table.get?_eq_some_iff, h]
  exact ⟨List.mem_map_of_mem ha, ticker_recomputedSymbol⟩

/-- **The table of a run.** Source: `app/services/universe_bootstrap.py`
`recompute_active_universe_from_daily_liquidity`. Kind: L -/
theorem recomputed_of_rows (h : t'.rows = t.rows.map (recomputedSymbol w won)) :
    Recomputed w won t t' := by
  have hticker : Symbol.ticker ∘ recomputedSymbol w won = Symbol.ticker :=
    funext fun _ => ticker_recomputedSymbol
  refine ⟨by rw [h, List.map_map, hticker], fun k a ha => ?_⟩
  obtain ⟨hmem, rfl⟩ := Table.get?_eq_some_iff.mp ha
  refine ⟨recomputedSymbol w won a, get?_of_rows h hmem, ?_, ?_⟩
  · rw [recomputedSymbol]
    split_ifs
    · rfl
    · rfl
  · rw [recomputedSymbol]
    by_cases hin : a.inUniverse = true
    · rw [if_pos hin, if_pos hin]
      exact shouldActivate_iff_liquid
    · rw [if_neg hin, if_neg hin]

/-- Source: `app/services/universe_bootstrap.py` `recompute_active_universe_from_daily_liquidity`.
Kind: L -/
theorem countP_active (h : t'.rows = t.rows.map (recomputedSymbol w won)) :
    (t'.rows.countP fun b => b.inUniverse && b.isActive) =
      (t.rows.filter Symbol.inUniverse).countP (shouldActivate w (.of won)) := by
  rw [h, List.countP_map, List.countP_filter]
  apply List.countP_congr
  intro a _
  rw [Function.comp_apply, recomputedSymbol]
  cases hin : a.inUniverse with
  | true => simp [setActive, hin]
  | false => simp [hin]

/-- Source: `app/services/universe_bootstrap.py` `recompute_active_universe_from_daily_liquidity`.
Kind: L -/
theorem countP_flagChanged (h : t'.rows = t.rows.map (recomputedSymbol w won)) :
    t.rows.countP (flagChanged t') = (t.rows.filter Symbol.inUniverse).countP
      fun a => a.isActive ≠ shouldActivate w (.of won) a := by
  rw [List.countP_filter]
  apply List.countP_congr
  intro a ha
  rw [flagChanged, get?_of_rows h ha, recomputedSymbol]
  cases hin : a.inUniverse with
  | true =>
      rw [if_pos rfl, Bool.and_true, Option.any_some, decide_eq_true_eq, decide_eq_true_eq]
      exact ne_comm
  | false => simp

/-! ## The whole -/

/-- **A run that finds every symbol as it should be** updates nothing.
Source: `app/services/universe_bootstrap.py` `recompute_active_universe_from_daily_liquidity`.
Kind: L -/
theorem recompute_again (hthreshold : thresholdEok config = .ok (.of eok))
    (hadded : s.added = []) (hright : ∀ k a, s.pending.get? k = some a →
      k ∈ UniverseRepository.listedTickers s.stored (some true) 20000 →
        a.isActive = shouldActivate w (.of (eok * 100000000)) a) :
    ∃ s' l, recomputeActiveUniverse config w s = .ok (s', l) ∧ l.updatedCount = 0 ∧
      s'.commit = some s.pending := by
  obtain ⟨s', l, hrun, hwon, -, hupdated⟩ := exists_recompute (w := w) (s := s) hthreshold
  refine ⟨s', l, hrun, ?_, ?_⟩
  · rw [hupdated, List.countP_eq_zero]
    intro a ha
    have hlisted : a.ticker ∈ UniverseRepository.listedTickers s.stored (some true) 20000 := by
      rw [← UniverseRepository.map_ticker_listSymbols]
      exact List.mem_map_of_mem ha
    simpa using hright a.ticker a (Session.exists_of_mem_query ha).1 hlisted
  · obtain ⟨hstored, hadded'⟩ := session_recompute hrun
    have hrows : s'.pending.rows = s.pending.rows.map id := by
      refine Table.rows_eq_map (by rw [s'.same, hstored, s.same]) fun k => ?_
      rw [pending_recompute hrun k, hwon, Option.map_id]
      split_ifs with hlisted
      · cases ha : s.pending.get? k with
        | none => rfl
        | some a =>
            rw [Option.map_some, setActive, ← hright k a ha hlisted]
            rfl
      · rfl
    rw [Session.commit_eq_some_iff, hadded', hadded, List.append_nil, hrows, List.map_id]

/-- A run over a table is committed as the rows it leaves. Source: none: infrastructure. Kind: L -/
theorem rows_of_commit {l : Liquidity} (hsize : t.rows.length ≤ 20000)
    (h : recomputeActiveUniverse config w (.ofTable t) = .ok (s', l))
    (hwon : l.thresholdWon = .of won) (hcommit : s'.commit = some t') :
    t'.rows = t.rows.map (recomputedSymbol w won) := by
  obtain ⟨-, hadded⟩ := session_recompute h
  rw [Session.commit_eq_some_iff.mp hcommit, hadded, ← rows_recompute hsize h hwon]
  exact List.append_nil _

/-- A run leaves the rows that it goes through as they should be.
Source: `app/services/universe_bootstrap.py` `recompute_active_universe_from_daily_liquidity`.
Kind: L -/
theorem isActive_recompute {l : Liquidity}
    (h : recomputeActiveUniverse config w (.ofTable t) = .ok (s', l))
    (hwon : l.thresholdWon = .of won) {k : String} {b : Symbol} (hb : s'.pending.get? k = some b)
    (hlisted : k ∈ UniverseRepository.listedTickers t (some true) 20000) :
    b.isActive = shouldActivate w (.of won) b := by
  have hseen : k ∈ UniverseRepository.listedTickers (Session.ofTable t).stored (some true) 20000 :=
    hlisted
  rw [pending_recompute h k, hwon, if_pos hseen] at hb
  obtain ⟨a, -, rfl⟩ := Option.map_eq_some_iff.mp hb
  rfl

/-- The universe of the new table is that of the old one. Source: `app/services/universe_bootstrap.py`
`recompute_active_universe_from_daily_liquidity`. Kind: L -/
theorem listed_of_rows (hsize : t.rows.length ≤ 20000)
    (h : t'.rows = t.rows.map (recomputedSymbol w won)) {k : String}
    (hlisted : k ∈ UniverseRepository.listedTickers t' (some true) 20000) :
    k ∈ UniverseRepository.listedTickers t (some true) 20000 := by
  obtain ⟨b, hb, hin⟩ := UniverseRepository.exists_of_mem_listedTickers hlisted
  obtain ⟨hmem, rfl⟩ := Table.get?_eq_some_iff.mp hb
  rw [h] at hmem
  obtain ⟨a, ha, rfl⟩ := List.mem_map.mp hmem
  rw [UniverseRepository.mem_listedTickers hsize, ticker_recomputedSymbol]
  refine ⟨a, Table.mem_iff_get?.mp ha, ?_⟩
  rw [recomputedSymbol] at hin
  split_ifs at hin
  · exact hin
  · exact hin

/-- **A larger threshold activates nothing more.** Source: `docs/prd.md` 2.2. Kind: L -/
theorem isActive_mono (h : t'.rows = t.rows.map (recomputedSymbol w won))
    (h' : t''.rows = t.rows.map (recomputedSymbol w won')) (hle : won ≤ won') {k : String}
    {a b : Symbol} (ha : t'.get? k = some a) (hb : t''.get? k = some b)
    (hactive : b.isActive = true) : a.isActive = true := by
  obtain ⟨hmem, rfl⟩ := Table.get?_eq_some_iff.mp ha
  rw [h] at hmem
  obtain ⟨x, hx, rfl⟩ := List.mem_map.mp hmem
  rw [ticker_recomputedSymbol, get?_of_rows h' hx] at hb
  obtain rfl := Option.some.inj hb
  rw [recomputedSymbol] at hactive ⊢
  by_cases hin : x.inUniverse = true
  · rw [if_pos hin] at hactive ⊢
    exact shouldActivate_iff_liquid.mpr ((shouldActivate_iff_liquid.mp hactive).mono hle)
  · rw [if_neg hin] at hactive ⊢
    exact hactive

end run

/-- **One run as a whole.** For every table of at most 20,000 symbols without pending changes, every
candle table and every finite threshold: the run leaves the activity of the symbols of the universe as
the criterion has it and everything else as it was, counts the active symbols and the changed flags;
a second run, in the same session or after the commit, updates nothing; and a larger threshold activates
no symbol that the smaller one leaves inactive. Source: `app/services/universe_bootstrap.py`
`recompute_active_universe_from_daily_liquidity`. Kind: P -/
theorem recompute_active_universe (config : ConfigManager) (w : World) (t : Table Symbol.ticker)
    (eok : ℚ) (hsize : t.rows.length ≤ 20000) (hthreshold : thresholdEok config = .ok (.of eok)) :
    ∃ s' l t', recomputeActiveUniverse config w (.ofTable t) = .ok (s', l) ∧ s'.commit = some t' ∧
      Recomputed w (eok * 100000000) t t' ∧
      l.activeCount = (t'.rows.countP fun b => b.inUniverse && b.isActive) ∧
      l.updatedCount = t.rows.countP (flagChanged t') ∧
      (∃ s'' l', recomputeActiveUniverse config w s' = .ok (s'', l') ∧ l'.updatedCount = 0 ∧
        s''.commit = some t') ∧
      (∃ s'' l', recomputeActiveUniverse config w (.ofTable t') = .ok (s'', l') ∧
        l'.updatedCount = 0 ∧ s''.commit = some t') ∧
      ∀ config' eok' s'' l' t'', thresholdEok config' = .ok (.of eok') → eok ≤ eok' →
        recomputeActiveUniverse config' w (.ofTable t) = .ok (s'', l') → s''.commit = some t'' →
          ∀ k a b, t'.get? k = some a → t''.get? k = some b → b.isActive = true →
            a.isActive = true := by
  obtain ⟨s', l, hrun, hwon, hactive, hupdated⟩ :=
    exists_recompute (s := .ofTable t) (w := w) hthreshold
  obtain ⟨hstored, hadded⟩ := session_recompute hrun
  have hcommit : s'.commit = some s'.pending := by
    rw [Session.commit_eq_some_iff, hadded]
    exact (List.append_nil _).symm
  have hrows := rows_recompute hsize hrun hwon
  have hperm := listSymbols_perm hsize
  refine ⟨s', l, s'.pending, hrun, hcommit, recomputed_of_rows hrows, ?_, ?_, ?_, ?_, ?_⟩
  · rw [hactive, hperm.countP_eq, countP_active hrows]
  · rw [hupdated, hperm.countP_eq, countP_flagChanged hrows]
  · refine recompute_again hthreshold hadded fun k b hb hlisted => ?_
    rw [hstored] at hlisted
    exact isActive_recompute hrun hwon hb hlisted
  · refine recompute_again hthreshold rfl fun k b hb hlisted => ?_
    exact isActive_recompute hrun hwon hb (listed_of_rows hsize hrows hlisted)
  · intro config' eok' s'' l' t'' hthreshold' hle hrun' hcommit' k a b ha hb
    obtain ⟨heok, hwon', -⟩ := recompute_eq_ok hrun'
    rw [← Except.ok.inj (hthreshold'.symm.trans heok)] at hwon'
    refine isActive_mono hrows (rows_of_commit hsize hrun' hwon' hcommit') ?_ ha hb
    exact mul_le_mul_of_nonneg_right hle (by norm_num)

/-! ## A negative turnover -/

/-- A table of one symbol of the universe. Source: none: infrastructure. Kind: D -/
def oneMember : Table Symbol.ticker :=
  ⟨[⟨"005930", "", "KOSPI200", true, false, false, .NORMAL⟩], by decide⟩

/-- Twenty daily candles of it, whose price and volume are both negative.
Source: none: infrastructure. Kind: D -/
def negativeWorld : World where
  candles := ⟨(List.range 20).map fun day =>
    ⟨"005930", .d1, ⟨-70000, -70000, -70000, -70000, day, -1000000⟩⟩, by decide⟩

/-- The run over twenty days of 70 billion won. Source: none: infrastructure. Kind: P -/
theorem recompute_active_universe_traded :
    ∃ s' l t', recomputeActiveUniverse .ofDefaults Rebalance.tradedWorld (.ofTable oneMember) =
        .ok (s', l) ∧ s'.commit = some t' ∧
      Recomputed Rebalance.tradedWorld (50 * 100000000) oneMember t' ∧
      l.activeCount = (t'.rows.countP fun b => b.inUniverse && b.isActive) ∧
      l.updatedCount = oneMember.rows.countP (flagChanged t') := by
  obtain ⟨s', l, t', hrun, hcommit, hpost, hactive, hupdated, -⟩ :=
    recompute_active_universe .ofDefaults Rebalance.tradedWorld oneMember 50 (by decide)
      Rebalance.thresholdEok_ofDefaults
  exact ⟨s', l, t', hrun, hcommit, hpost, hactive, hupdated⟩

/-- **A negative price and a negative volume are no turnover**, though their product is above the
threshold. Source: `app/services/universe_bootstrap.py`
`recompute_active_universe_from_daily_liquidity`. Kind: P -/
theorem recompute_negative_turnover :
    ¬ ∀ (config : ConfigManager) (w : World) (t : Table Symbol.ticker) (eok : ℚ),
      t.rows.length ≤ 20000 → thresholdEok config = .ok (.of eok) →
      ∃ s' l t', recomputeActiveUniverse config w (.ofTable t) = .ok (s', l) ∧
        s'.commit = some t' ∧ ∀ k a b, t.get? k = some a → t'.get? k = some b →
          a.inUniverse = true →
            (b.isActive = true ↔ Rebalance.Qualifies w (eok * 100000000) k a.status) := by
  intro h
  obtain ⟨s', l, t', hrun, hcommit, hclaimed⟩ :=
    h .ofDefaults negativeWorld oneMember 50 (by decide) Rebalance.thresholdEok_ofDefaults
  obtain ⟨heok, hwon, -⟩ := recompute_eq_ok hrun
  rw [← Except.ok.inj (Rebalance.thresholdEok_ofDefaults.symm.trans heok)] at hwon
  have hrows := rows_of_commit (by decide) hrun hwon hcommit
  let a : Symbol := ⟨"005930", "", "KOSPI200", true, false, false, .NORMAL⟩
  have hiff := hclaimed "005930" a (recomputedSymbol negativeWorld (50 * 100000000) a) (by decide)
    (get?_of_rows hrows (by decide : a ∈ oneMember.rows)) rfl
  exact absurd hiff (by decide +kernel)

end UniverseBootstrap

end HaruTrade
