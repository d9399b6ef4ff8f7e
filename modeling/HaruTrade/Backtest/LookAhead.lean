import HaruTrade.Backtest.Simulation
import HaruTrade.Strategies.Impl

/-!
# No look-ahead

The manual backtest shows a strategy a growing window of the candles and simulates the trades of the
signals it finds. Neither a signal nor a trade that has ended depends on later candles.

* `manualSignals` — the signals of a manual backtest; `manualSignals_append` says that on more
  candles it goes on where it stopped.
* `simulateTrade_append` — a trade that ended before the candles did is the same on more candles.
* `no_look_ahead` — both, for every strategy.
-/

namespace HaruTrade

section manual

variable (generate : Generate) (ticker timeframe : String) (candles : List Candle)

/-- What the strategy says of the window that ends at a candle. Source: `app/main.py`
`_start_manual_backtest`. Kind: D -/
def windowSignal (idx : ℕ) : Except Exn (Option Signal) := do
  let window := candles.take (idx + 1)
  let last ← pyGet window (-1)
  let signal ← generate ticker window last.ts
  return signal.map fun signal =>
    { index := idx, side := signal.side, ticker, strategyId := signal.strategyId, timeframe,
      price := signal.price, signalTime := signal.signalTime }

/-- The signals of the windows that end at the given candles. Source: `app/main.py`
`_start_manual_backtest`. Kind: D -/
def windowSignals : List ℕ → Except Exn (List Signal)
  | [] => return []
  | idx :: idxs => do
      let signal ← windowSignal generate ticker timeframe candles idx
      let signals ← windowSignals idxs
      return signal.toList ++ signals

/-- **The signals of a manual backtest.** Source: `app/main.py` `_start_manual_backtest`. Kind: D -/
def manualSignals : Except Exn (List Signal) :=
  windowSignals generate ticker timeframe candles (List.range (candles.length - 1))

variable {generate ticker timeframe candles}

/-- Every signal is at the candle that its window ends at. Source: `app/main.py`
`_start_manual_backtest`. Kind: L -/
theorem index_of_windowSignal {idx : ℕ} {s : Signal}
    (h : windowSignal generate ticker timeframe candles idx = .ok (some s)) : s.index = idx := by
  obtain ⟨last, -, h⟩ := ok_of_bind h
  obtain ⟨found, -, h⟩ := ok_of_bind h
  injection h with h
  obtain ⟨raw, -, rfl⟩ := Option.map_eq_some_iff.mp h
  rfl

theorem windowSignals_append (is js : List ℕ) :
    windowSignals generate ticker timeframe candles (is ++ js) = (do
      let first ← windowSignals generate ticker timeframe candles is
      let second ← windowSignals generate ticker timeframe candles js
      return first ++ second) := by
  induction is with
  | nil =>
      rw [List.nil_append]
      cases windowSignals generate ticker timeframe candles js with
      | error x => rfl
      | ok signals => rfl
  | cons idx is ih =>
      rw [List.cons_append, windowSignals, windowSignals, ih]
      cases windowSignal generate ticker timeframe candles idx with
      | error x => rfl
      | ok signal =>
          cases windowSignals generate ticker timeframe candles is with
          | error x => rfl
          | ok first =>
              cases windowSignals generate ticker timeframe candles js with
              | error x => rfl
              | ok second =>
                  show Except.ok (signal.toList ++ (first ++ second)) =
                    Except.ok (signal.toList ++ first ++ second)
                  rw [List.append_assoc]

theorem index_mem_of_windowSignals {idxs : List ℕ} {signals : List Signal}
    (h : windowSignals generate ticker timeframe candles idxs = .ok signals) :
    ∀ s ∈ signals, s.index ∈ idxs := by
  induction idxs generalizing signals with
  | nil =>
      injection h with h
      subst h
      exact fun s hs => absurd hs List.not_mem_nil
  | cons idx idxs ih =>
      rw [windowSignals] at h
      obtain ⟨signal, hsignal, h⟩ := ok_of_bind h
      obtain ⟨rest, hrest, h⟩ := ok_of_bind h
      injection h with h
      subst h
      intro s hs
      rcases List.mem_append.mp hs with hs | hs
      · rw [Option.mem_toList] at hs
        rw [hs] at hsignal
        rw [index_of_windowSignal hsignal]
        exact List.mem_cons_self
      · exact List.mem_cons_of_mem idx (ih hrest s hs)

/-- A window does not depend on later candles. Source: `app/main.py` `_start_manual_backtest`.
Kind: L -/
theorem windowSignals_of_append {later : List Candle} {idxs : List ℕ}
    (h : ∀ idx ∈ idxs, idx < candles.length) :
    windowSignals generate ticker timeframe (candles ++ later) idxs =
      windowSignals generate ticker timeframe candles idxs := by
  induction idxs with
  | nil => rfl
  | cons idx idxs ih =>
      have hwindow : windowSignal generate ticker timeframe (candles ++ later) idx =
          windowSignal generate ticker timeframe candles idx := by
        unfold windowSignal
        rw [List.take_append_of_le_length (h idx List.mem_cons_self)]
      rw [windowSignals, windowSignals, hwindow,
        ih fun i hi => h i (List.mem_cons_of_mem idx hi)]

/-- **On more candles the backtest goes on where it stopped**, at the last of the earlier candles.
Source: `app/main.py` `_start_manual_backtest`. Kind: P -/
theorem manualSignals_append (generate : Generate) (ticker timeframe : String)
    (candles later : List Candle) :
    ∃ more : Except Exn (List Signal),
      manualSignals generate ticker timeframe (candles ++ later) = (do
        let first ← manualSignals generate ticker timeframe candles
        let second ← more
        return first ++ second) ∧
      ∀ signals, more = .ok signals → ∀ s ∈ signals, candles.length - 1 ≤ s.index := by
  let idxs := (List.range ((candles ++ later).length - 1 - (candles.length - 1))).map
    (candles.length - 1 + ·)
  have hrange : List.range ((candles ++ later).length - 1) =
      List.range (candles.length - 1) ++ idxs := by
    have hsplit : (candles ++ later).length - 1 =
        candles.length - 1 + ((candles ++ later).length - 1 - (candles.length - 1)) := by
      rw [List.length_append]
      omega
    rw [hsplit, List.range_add]
  refine ⟨windowSignals generate ticker timeframe (candles ++ later) idxs, ?_, ?_⟩
  · have hfirst : windowSignals generate ticker timeframe (candles ++ later)
        (List.range (candles.length - 1)) = manualSignals generate ticker timeframe candles := by
      refine windowSignals_of_append fun idx hidx => ?_
      have := List.mem_range.mp hidx
      omega
    rw [manualSignals, hrange, windowSignals_append, hfirst]
  · intro signals hsignals s hs
    obtain ⟨k, -, hk⟩ := List.mem_map.mp (index_mem_of_windowSignals hsignals s hs)
    rw [← hk]
    exact Nat.le_add_right _ k

end manual

/-! ## Trades -/

section trades

variable {cfg : BacktestSettings} {candles : List Candle} {signal : BacktestSignal}
  {pnl ret : ℚ} {reason : String}

/-- The entry price does not depend on candles after the entry bar. Source: `app/backtest/core.py`
`BacktestCore.entry_price_n_plus_one_open`. Kind: L -/
theorem entryPrice_append {slippagePct : ℚ} (later : List Candle) (hindex : 0 ≤ signal.index)
    (hlt : signal.index + 1 < candles.length) :
    BacktestCore.entryPriceNPlusOneOpen slippagePct (candles ++ later) signal =
      BacktestCore.entryPriceNPlusOneOpen slippagePct candles signal := by
  unfold BacktestCore.entryPriceNPlusOneOpen
  rw [if_neg (by rw [List.length_append]; push_cast; omega), if_neg (by omega),
    pyGet_append (by omega) hlt]

/-- The average true range does not depend on candles after the signal. Source:
`app/services/backtest_jobs.py` `BacktestJobService._compute_atr`. Kind: L -/
theorem computeAtr_append {atrPeriod : ℤ} (later : List Candle) (hindex : 0 ≤ signal.index)
    (hlt : signal.index + 1 < candles.length) :
    BacktestJobService.computeAtr (candles ++ later) signal.index atrPeriod =
      BacktestJobService.computeAtr candles signal.index atrPeriod := by
  unfold BacktestJobService.computeAtr
  rw [pySlice_append (le_max_left 0 _) (by omega) hlt.le]

/-- **A simulation that ended before the candles did** is the same on more candles, in either
direction. Source: `app/services/backtest_jobs.py` `BacktestJobService._simulate_long_trade`.
Kind: L -/
theorem settle_append {bar : TradeState → Candle → TradeState} {entryIdx : ℤ} {entryPrice : ℚ}
    {gain : ℚ → ℚ} (later : List Candle) (hidx : 0 ≤ entryIdx) (hle : entryIdx ≤ candles.length)
    (h : (tradeLoop bar {} (pySliceFrom candles entryIdx)).settle candles entryPrice gain =
      .ok (pnl, ret, reason)) (hreason : reason ≠ "end_of_data") :
    (tradeLoop bar {} (pySliceFrom (candles ++ later) entryIdx)).settle (candles ++ later)
      entryPrice gain = .ok (pnl, ret, reason) := by
  have hdone := done_of_settle h hreason
  rw [pySliceFrom_append hidx hle, tradeLoop_append, tradeLoop_of_done hdone, settle_of_done hdone]
  rwa [settle_of_done hdone] at h

/-- **A trade that ended before the candles did** is the same on more candles.
Source: `app/services/backtest_jobs.py` `BacktestJobService._simulate_trade`. Kind: P -/
theorem simulateTrade_append (later : List Candle) (hindex : 0 ≤ signal.index)
    (h : BacktestJobService.simulateTrade cfg candles signal = .ok (pnl, ret, reason))
    (hreason : reason ≠ "end_of_data") :
    BacktestJobService.simulateTrade cfg (candles ++ later) signal = .ok (pnl, ret, reason) := by
  rw [simulateTrade_eq_ok] at h ⊢
  obtain ⟨hlt, entry, atr, hentry, hpos, hatr, h⟩ := h
  have hlater : signal.index + 1 < (candles ++ later).length := by
    rw [List.length_append]
    push_cast
    omega
  refine ⟨hlater, entry, atr, (entryPrice_append later hindex hlt).trans hentry, hpos,
    (computeAtr_append later hindex hlt).trans hatr, ?_⟩
  by_cases hsell : signal.side = "sell"
  · rw [if_pos hsell] at h ⊢
    exact settle_append later (by omega) hlt.le h hreason
  · rw [if_neg hsell] at h ⊢
    exact settle_append later (by omega) hlt.le h hreason

end trades

/-- **No look-ahead.** For every strategy, candles `C` and later candles `D`: a manual backtest on
`C ++ D` finds on the windows of `C` the signals that one on `C` finds (and fails where that one
fails), and the trade of each of them that ends on `C` for another reason than the end of the data is
the same on `C ++ D`. Source: `app/main.py` `_start_manual_backtest`, `app/services/backtest_jobs.py`
`BacktestJobService._simulate_trade`. Kind: P -/
theorem no_look_ahead (generate : Generate) (ticker timeframe : String) (cfg : BacktestSettings)
    (C D : List Candle) :
    (∀ signals, manualSignals generate ticker timeframe (C ++ D) = .ok signals →
      manualSignals generate ticker timeframe C =
        .ok (signals.filter fun s => s.index < C.length - 1)) ∧
    (∀ x, manualSignals generate ticker timeframe C = .error x →
      manualSignals generate ticker timeframe (C ++ D) = .error x) ∧
    ∀ signals, manualSignals generate ticker timeframe C = .ok signals →
      ∀ s ∈ signals, ∀ pnl ret reason,
        BacktestJobService.simulateTrade cfg C s.forBacktest = .ok (pnl, ret, reason) →
        reason ≠ "end_of_data" →
        BacktestJobService.simulateTrade cfg (C ++ D) s.forBacktest = .ok (pnl, ret, reason) := by
  obtain ⟨more, happend, hmore⟩ := manualSignals_append generate ticker timeframe C D
  refine ⟨?_, ?_, ?_⟩
  · intro signals h
    rw [happend] at h
    obtain ⟨first, hfirst, h⟩ := ok_of_bind h
    obtain ⟨second, hsecond, h⟩ := ok_of_bind h
    injection h with h
    -- the later signals are at later candles
    have hkeep : first.filter (fun s => s.index < C.length - 1) = first := by
      refine List.filter_eq_self.mpr fun s hs => ?_
      have hmem := index_mem_of_windowSignals hfirst s hs
      exact decide_eq_true (List.mem_range.mp hmem)
    have hdrop : second.filter (fun s => s.index < C.length - 1) = [] := by
      refine List.filter_eq_nil_iff.mpr fun s hs => ?_
      have hle := hmore second hsecond s hs
      simpa using hle
    rw [← h, List.filter_append, hkeep, hdrop, List.append_nil]
    exact hfirst
  · intro x h
    rw [happend, h]
    rfl
  · intro signals _ s _ pnl ret reason h hreason
    exact simulateTrade_append D (Int.natCast_nonneg s.index) h hreason

/-- A strategy that buys at the first candle. Source: none: infrastructure. Kind: D -/
def buyFirst : Generate := fun ticker candles now =>
  .ok (if candles.length = 1 then some { index := 0, side := "buy", ticker, signalTime := some now }
    else none)

/-- A trade that is stopped out on three candles is stopped out the same way on four.
Source: none: infrastructure. Kind: P -/
theorem no_look_ahead_stopped :
    BacktestJobService.simulateTrade {}
        ([flatCandle 100 0, flatCandle 100 1, flatCandle 90 2] ++ [flatCandle 120 3]) ⟨0, "buy"⟩ =
      .ok (-3 / 2000000000, -1 / 66700000000, "stop_loss") :=
  (no_look_ahead buyFirst "005930" "5m" {} [flatCandle 100 0, flatCandle 100 1, flatCandle 90 2]
      [flatCandle 120 3]).2.2
    [{ index := 0, side := "buy", ticker := "005930", timeframe := "5m", signalTime := some 0 }]
    (eq_ok_of_toOption (by decide +kernel)) _ List.mem_cons_self _ _ _
    (eq_ok_of_toOption (by decide +kernel)) (by decide)

end HaruTrade
