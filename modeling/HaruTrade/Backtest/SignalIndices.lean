import HaruTrade.Backtest.Jobs

/-!
# The indices of signals

A request may give a signal any integer for its bar. An index behind the last bar that has a next one
is skipped; a negative one counts from the end, as Python lists do, or is out of range and ends the
job. After the loop a return that is too far from the mean ends the job as well.

* `InRange`, `Skips` — the signals that have their bars, and those that a job skips.
* `simulateTrade_of_skips`, `simulateTrade_of_before`, `exists_simulateTrade` — what becomes of a
  signal.
* `SquaresFit` — the returns whose Sharpe ratio can be computed.
* `Tally.Accounted` — every signal is counted once, and every trade has a reason.
* `foldlM_filter` — skipped signals leave no trace but their count.
* **`backtest_accounts_iff`** — the backtests that skip the signals out of range and count the others.
-/

namespace HaruTrade

open BacktestJobService

/-- The bar of the signal and the one after it are there. Source: none: infrastructure. Kind: D -/
def InRange (candles : List (Candle PyNum)) (signal : BacktestSignal) : Prop :=
  0 ≤ signal.index ∧ signal.index + 1 < candles.length

instance (candles : List (Candle PyNum)) (signal : BacktestSignal) :
    Decidable (InRange candles signal) :=
  inferInstanceAs (Decidable (_ ∧ _))

/-- A job skips the signal: it has no next bar, or that bar, which may be counted from the end, gives
no entry price above zero. Source: `app/services/backtest_jobs.py`
`BacktestJobService._simulate_trade`. Kind: D -/
def Skips (slippagePct : PyNum) (candles : List (Candle PyNum)) (signal : BacktestSignal) : Prop :=
  candles.length ≤ signal.index + 1 ∨
    ∃ entry, BacktestCore.entryPriceNPlusOneOpen slippagePct candles signal = .ok entry ∧ entry ≤ 0

section signals

variable {cfg : BacktestSettings PyNum} {candles : List (Candle PyNum)} {signal : BacktestSignal}

/-- Source: `app/services/backtest_jobs.py` `BacktestJobService._compute_atr`. Kind: L -/
theorem exists_computeAtr (candles : List (Candle PyNum)) (signalIndex atrPeriod : ℤ) :
    ∃ atr, BacktestJobService.computeAtr candles signalIndex atrPeriod = .ok atr := by
  unfold BacktestJobService.computeAtr
  dsimp only
  split_ifs with hempty
  · exact ⟨1, rfl⟩
  · unfold RiskEngine.computeAtr
    rw [if_neg hempty]
    exact ⟨_, rfl⟩

/-- A simulation on a list that has a last bar. Source: `app/services/backtest_jobs.py`
`BacktestJobService._simulate_long_trade`. Kind: L -/
theorem exists_settle {t : TradeState PyNum} {entryPrice : PyNum} {gain : PyNum → PyNum}
    (hne : candles ≠ []) : ∃ result, t.settle candles entryPrice gain = .ok result := by
  have hlast := pyGet_neg_one (List.getLast?_eq_some_getLast hne)
  unfold TradeState.settle
  by_cases hleft : 0 < t.remaining
  · rw [if_pos hleft, hlast]
    exact ⟨_, rfl⟩
  · rw [if_neg hleft]
    exact ⟨_, rfl⟩

/-- **A signal that is skipped** raises a `ValueError`. Source: `app/services/backtest_jobs.py`
`BacktestJobService._simulate_trade`. Kind: L -/
theorem simulateTrade_of_skips (h : Skips cfg.slippagePct candles signal) :
    ∃ text, simulateTrade cfg candles signal = .error (.lookup text) := by
  by_cases hlen : (candles.length : ℤ) ≤ signal.index + 1
  · refine ⟨"N+1 candle required", ?_⟩
    unfold simulateTrade
    simp only [if_pos hlen]
    rfl
  · obtain ⟨entry, hentry, hnot⟩ := h.resolve_left hlen
    refine ⟨"invalid_entry_price", ?_⟩
    unfold simulateTrade
    simp only [if_neg hlen]
    rw [hentry]
    show (if entry ≤ 0 then _ else _) = _
    rw [if_pos hnot]
    rfl

/-- **An index before the list** raises an `IndexError`. Source: `app/backtest/core.py`
`BacktestCore.entry_price_n_plus_one_open`. Kind: L -/
theorem simulateTrade_of_before (h : signal.index + 1 < -(candles.length : ℤ)) :
    simulateTrade cfg candles signal = .error (.other "list index out of range") := by
  have hlen : ¬ (candles.length : ℤ) ≤ signal.index + 1 := by omega
  unfold simulateTrade BacktestCore.entryPriceNPlusOneOpen
  simp only [if_neg hlen]
  rw [pyGet_of_before h]
  rfl

/-- **Every other signal is traded.** Source: `app/services/backtest_jobs.py`
`BacktestJobService._simulate_trade`. Kind: L -/
theorem exists_simulateTrade (hge : -(candles.length : ℤ) ≤ signal.index + 1)
    (h : ¬ Skips cfg.slippagePct candles signal) :
    ∃ result, simulateTrade cfg candles signal = .ok result := by
  have hlt : signal.index + 1 < candles.length := not_le.mp fun hle => h (Or.inl hle)
  obtain ⟨next, hnext⟩ := exists_pyGet hge hlt
  obtain ⟨atr, hatr⟩ := exists_computeAtr candles signal.index cfg.atrPeriod
  have hne : candles ≠ [] := by
    rintro rfl
    rw [List.length_nil] at hge hlt
    omega
  obtain ⟨entry, hentry⟩ : ∃ entry,
      BacktestCore.entryPriceNPlusOneOpen cfg.slippagePct candles signal = .ok entry := by
    unfold BacktestCore.entryPriceNPlusOneOpen
    rw [if_neg (not_le.mpr hlt), hnext]
    exact ⟨_, rfl⟩
  have hpos : ¬ entry ≤ 0 := fun hle => h (Or.inr ⟨entry, hentry, hle⟩)
  unfold simulateTrade
  simp only [if_neg (not_le.mpr hlt)]
  rw [hentry]
  show ∃ result, (if entry ≤ 0 then _ else _) = Except.ok result
  rw [if_neg hpos, hatr]
  by_cases hside : signal.side = "sell"
  · obtain ⟨result, hresult⟩ := exists_settle hne
    exact ⟨result, (if_pos hside).trans hresult⟩
  · obtain ⟨result, hresult⟩ := exists_settle hne
    exact ⟨result, (if_neg hside).trans hresult⟩

end signals

/-! ## The ratio -/

namespace BacktestJobService

/-- **The returns whose Sharpe ratio can be computed**: there is at most one, or no square of a
distance from the mean is too large for a double. Source: `app/services/backtest_jobs.py`
`BacktestJobService._sharpe_ratio`. Kind: D -/
def SquaresFit (returns : List PyNum) : Prop :=
  returns.length < 2 ∨
    ∀ x ∈ returns, (x - pySum returns / returns.length).square? ≠ none

instance (returns : List PyNum) : Decidable (SquaresFit returns) :=
  inferInstanceAs (Decidable (_ ∨ _))

/-- **When the ratio can be computed.** Source: `app/services/backtest_jobs.py`
`BacktestJobService._sharpe_ratio`. Kind: L -/
theorem exists_sharpeRatio_iff {sqrt : PyNum → PyNum} {returns : List PyNum} :
    (∃ ratio, sharpeRatio sqrt returns = .ok ratio) ↔ SquaresFit returns := by
  unfold SquaresFit sharpeRatio
  by_cases hfew : returns.length < 2
  · rw [if_pos hfew]
    exact iff_of_true ⟨0, rfl⟩ (Or.inl hfew)
  · rw [if_neg hfew, or_iff_right hfew]
    have hsquares : (∃ squares, (returns.mapM fun x =>
        square (x - pySum returns / returns.length)) = .ok squares) ↔
        ∀ x ∈ returns, (x - pySum returns / returns.length).square? ≠ none := by
      rw [exists_mapM_eq_ok_iff]
      refine forall₂_congr fun x _ => ?_
      unfold square
      cases (x - pySum returns / returns.length).square? with
      | none => exact iff_of_false nofun fun h => h rfl
      | some y => exact iff_of_true ⟨y, rfl⟩ (Option.some_ne_none y)
    rw [← hsquares]
    constructor
    · rintro ⟨ratio, h⟩
      obtain ⟨squares, h, -⟩ := ok_of_bind h
      exact ⟨squares, h⟩
    · rintro ⟨squares, h⟩
      show ∃ ratio, ((returns.mapM fun x => square (x - pySum returns / returns.length)) >>= _) =
        Except.ok ratio
      rw [h]
      exact ⟨_, rfl⟩

end BacktestJobService

/-! ## The tally -/

namespace BacktestJobService

/-- A tally with some more skipped signals. Source: none: infrastructure. Kind: D -/
def Tally.addSkipped (k : ℕ) (t : Tally) : Tally := { t with skipped := t.skipped + k }

/-- **Every signal is counted once**: traded or skipped; no trade is both won and lost, and each has
one reason. Source: `app/services/backtest_jobs.py` `BacktestJobService._run_job`. Kind: D -/
structure Tally.Accounted (n : ℕ) (t : Tally) : Prop where
  counted : t.pnls.length + t.skipped = n
  decided : t.wins + t.losses ≤ t.pnls.length
  reasons : Dict.sumValues t.reasons = t.pnls.length

/-- The return of a signal's trade, if it is traded. Source: `app/services/backtest_jobs.py`
`BacktestJobService._simulate_trade`. Kind: D -/
def return? (cfg : BacktestSettings PyNum) (candles : List (Candle PyNum)) (signal : BacktestSignal) :
    Option PyNum :=
  (simulateTrade cfg candles signal).toOption.map fun trade => trade.2.1

/-- The returns of the signals that are traded. Source: `app/services/backtest_jobs.py`
`BacktestJobService._run_job`. Kind: D -/
def returnsOf (cfg : BacktestSettings PyNum) (candles : List (Candle PyNum))
    (signals : List BacktestSignal) : List PyNum :=
  signals.filterMap (return? cfg candles)

variable {cfg : BacktestSettings PyNum} {candles : List (Candle PyNum)} {signal : BacktestSignal}
  {t t' : Tally} {signals : List BacktestSignal} {n k : ℕ}

/-- **What a signal does to the tally**: its trade is booked, or it is skipped. Source:
`app/services/backtest_jobs.py` `BacktestJobService._run_job`. Kind: L -/
theorem Tally.next_eq_ok (h : t.next cfg candles signal = .ok t') :
    (∃ pnl ret reason, return? cfg candles signal = some ret ∧ t' = t.book pnl ret reason) ∨
      (return? cfg candles signal = none ∧ t' = t.addSkipped 1) := by
  unfold Tally.next at h
  unfold return?
  cases hsim : simulateTrade cfg candles signal with
  | ok result =>
      obtain ⟨pnl, ret, reason⟩ := result
      rw [hsim] at h
      exact Or.inl ⟨pnl, ret, reason, rfl, (Except.ok.inj h).symm⟩
  | error exc =>
      rw [hsim] at h
      cases exc with
      | lookup text => exact Or.inr ⟨rfl, (Except.ok.inj h).symm⟩
      | _ => cases h

theorem Tally.Accounted.init : Tally.Accounted 0 {} := ⟨rfl, le_rfl, rfl⟩

theorem Tally.Accounted.next (h : t.Accounted n) (hnext : t.next cfg candles signal = .ok t') :
    t'.Accounted (n + 1) := by
  obtain ⟨hcounted, hdecided, hreasons⟩ := h
  rcases Tally.next_eq_ok hnext with ⟨pnl, ret, reason, -, rfl⟩ | ⟨-, rfl⟩
  · have hlength : (t.book pnl ret reason).pnls.length = t.pnls.length + 1 := List.length_append
    refine ⟨?_, ?_, ?_⟩
    · rw [hlength, ← hcounted]
      show t.pnls.length + 1 + t.skipped = _
      omega
    · rw [hlength]
      unfold Tally.book
      dsimp only
      split_ifs <;> omega
    · rw [hlength, ← hreasons]
      exact Dict.sumValues_set_succ t.reasons reason
  · refine ⟨?_, hdecided, hreasons⟩
    rw [← hcounted]
    exact (add_assoc _ _ _).symm

/-- The loop counts every signal once. Source: `app/services/backtest_jobs.py`
`BacktestJobService._run_job`. Kind: L -/
theorem Tally.Accounted.foldlM (h : t.Accounted n)
    (hloop : signals.foldlM (Tally.next cfg candles) t = .ok t') :
    t'.Accounted (n + signals.length) := by
  induction signals generalizing t n with
  | nil =>
      obtain rfl := Except.ok.inj hloop
      exact h
  | cons signal signals ih =>
      rw [List.foldlM_cons] at hloop
      obtain ⟨next, hnext, hrest⟩ := ok_of_bind hloop
      rw [List.length_cons, Nat.add_comm signals.length, ← Nat.add_assoc]
      exact ih (h.next hnext) hrest

/-- **The loop collects the returns of the signals that are traded**, and as many profits.
Source: `app/services/backtest_jobs.py` `BacktestJobService._run_job`. Kind: L -/
theorem returns_foldlM (hloop : signals.foldlM (Tally.next cfg candles) t = .ok t') :
    t'.returns = t.returns ++ returnsOf cfg candles signals ∧
      t'.pnls.length = t.pnls.length + (returnsOf cfg candles signals).length := by
  unfold returnsOf
  induction signals generalizing t with
  | nil =>
      obtain rfl := Except.ok.inj hloop
      exact ⟨(List.append_nil _).symm, rfl⟩
  | cons signal signals ih =>
      rw [List.foldlM_cons] at hloop
      obtain ⟨next, hnext, hrest⟩ := ok_of_bind hloop
      obtain ⟨hreturns, hpnls⟩ := ih hrest
      rw [hreturns, hpnls]
      rcases Tally.next_eq_ok hnext with ⟨pnl, ret, reason, hret, rfl⟩ | ⟨hnone, rfl⟩
      · have hlength : (t.book pnl ret reason).pnls.length = t.pnls.length + 1 := List.length_append
        have hbooked : (t.book pnl ret reason).returns = t.returns ++ [ret] := rfl
        rw [List.filterMap_cons_some hret, hlength, hbooked, List.length_cons, List.append_assoc]
        refine ⟨rfl, ?_⟩
        omega
      · rw [List.filterMap_cons_none hnone]
        exact ⟨rfl, rfl⟩

/-! ## Skipped signals -/

theorem addSkipped_addSkipped (t : Tally) :
    (t.addSkipped k).addSkipped n = t.addSkipped (k + n) := by
  unfold Tally.addSkipped
  dsimp only
  rw [Nat.add_assoc]

/-- How many signals were skipped before does not matter to the next one. Source:
`app/services/backtest_jobs.py` `BacktestJobService._run_job`. Kind: L -/
theorem next_addSkipped :
    (t.addSkipped k).next cfg candles signal =
      (t.next cfg candles signal).map (Tally.addSkipped k) := by
  unfold Tally.next
  cases simulateTrade cfg candles signal with
  | ok result => rfl
  | error exc =>
      cases exc with
      | lookup text =>
          unfold Tally.addSkipped
          dsimp only [Except.map]
          rw [Nat.add_right_comm]
      | _ => rfl

theorem foldlM_addSkipped :
    signals.foldlM (Tally.next cfg candles) (t.addSkipped k) =
      (signals.foldlM (Tally.next cfg candles) t).map (Tally.addSkipped k) := by
  induction signals generalizing t with
  | nil => rfl
  | cons signal signals ih =>
      rw [List.foldlM_cons, List.foldlM_cons, next_addSkipped]
      cases t.next cfg candles signal with
      | error exc => rfl
      | ok next => exact ih

/-- **Signals that are skipped leave no trace but their count.** Source:
`app/services/backtest_jobs.py` `BacktestJobService._run_job`. Kind: L -/
theorem foldlM_filter {p : BacktestSignal → Bool}
    (hskip : ∀ s ∈ signals, p s = false → ∃ text, simulateTrade cfg candles s = .error (.lookup text)) :
    signals.foldlM (Tally.next cfg candles) t =
      ((signals.filter p).foldlM (Tally.next cfg candles) t).map
        (Tally.addSkipped (signals.countP fun s => !p s)) := by
  induction signals generalizing t with
  | nil => rfl
  | cons signal signals ih =>
      have ih' := fun t => ih (t := t) fun s hs => hskip s (List.mem_cons_of_mem signal hs)
      rw [List.foldlM_cons]
      cases hp : p signal with
      | true =>
          rw [List.filter_cons_of_pos hp, List.foldlM_cons,
            List.countP_cons_of_neg (by simp [hp])]
          cases t.next cfg candles signal with
          | error exc => rfl
          | ok next => exact ih' next
      | false =>
          obtain ⟨text, htext⟩ := hskip signal List.mem_cons_self hp
          have hnext : t.next cfg candles signal = .ok (t.addSkipped 1) := by
            unfold Tally.next
            rw [htext]
            rfl
          rw [hnext, List.filter_cons_of_neg (by simp [hp]), List.countP_cons_of_pos (by simp [hp])]
          show signals.foldlM (Tally.next cfg candles) (t.addSkipped 1) = _
          rw [foldlM_addSkipped, ih']
          cases (signals.filter p).foldlM (Tally.next cfg candles) t with
          | error exc => rfl
          | ok kept => exact congrArg Except.ok (addSkipped_addSkipped kept)

/-! ## The backtest -/

/-- **The result accounts for the signals**: each is counted once, no trade is both won and lost, each
has one reason, and the result is that of the signals in range, with the others as skipped. Source:
`app/services/backtest_jobs.py` `BacktestJobService._run_job`. Kind: D -/
structure Accounts (sqrt : PyNum → PyNum) (request : JobRequest) (result : BacktestResult) : Prop where
  counted : result.tradeCount + result.skipped = request.signals.length
  decided : result.wins + result.losses ≤ result.tradeCount
  reasons : Dict.sumValues result.exitReasons = result.tradeCount
  apart : ∃ kept,
    backtest sqrt { request with signals := request.signals.filter (InRange request.candles) } =
        .ok kept ∧
      result = { kept with
        skipped := kept.skipped + request.signals.countP fun s => ¬ InRange request.candles s }

/-- Every signal with a negative index is skipped. Source: none: infrastructure. Kind: D -/
def NegativesSkip (request : JobRequest) : Prop :=
  ∀ s ∈ request.signals, s.index < 0 → Skips request.slippagePct request.candles s

/-- The returns of the signals in range have a Sharpe ratio. Source: `app/services/backtest_jobs.py`
`BacktestJobService._sharpe_ratio`. Kind: D -/
def RatioFits (cfg : BacktestSettings PyNum) (request : JobRequest) : Prop :=
  SquaresFit (returnsOf cfg request.candles (request.signals.filter (InRange request.candles)))

instance (cfg : BacktestSettings PyNum) (request : JobRequest) : Decidable (RatioFits cfg request) :=
  inferInstanceAs (Decidable (SquaresFit _))

variable {request : JobRequest} {result : BacktestResult} {sqrt : PyNum → PyNum}

theorem slippagePct_of_jobSettings {slippagePct : PyNum} {«meta» : Dict String MetaValue}
    (h : jobSettings slippagePct «meta» = .ok cfg) : cfg.slippagePct = slippagePct := by
  unfold jobSettings at h
  obtain ⟨_, -, h⟩ := ok_of_bind h
  obtain ⟨_, -, h⟩ := ok_of_bind h
  obtain ⟨_, -, h⟩ := ok_of_bind h
  obtain ⟨_, -, h⟩ := ok_of_bind h
  exact congrArg BacktestSettings.slippagePct (Except.ok.inj h).symm

/-- The result of a job is that of its loop, with the ratio. Source: `app/services/backtest_jobs.py`
`BacktestJobService._run_job`. Kind: L -/
theorem resultOf_eq_ok_iff : resultOf sqrt cfg t = .ok result ↔
    ∃ ratio, sharpeRatio sqrt t.returns = .ok ratio ∧ result = resultWith cfg t ratio := by
  unfold resultOf
  cases sharpeRatio sqrt t.returns with
  | error exc => exact iff_of_false nofun nofun
  | ok ratio =>
      constructor
      · intro h
        exact ⟨ratio, rfl, (Except.ok.inj h).symm⟩
      · rintro ⟨_, h, rfl⟩
        rw [Except.ok.inj h]
        rfl

/-- A backtest is its settings, the loop over its signals and the ratio. Source:
`app/services/backtest_jobs.py` `BacktestJobService._run_job`. Kind: L -/
theorem backtest_eq_ok_iff (hcfg : jobSettings request.slippagePct request.«meta» = .ok cfg) :
    backtest sqrt request = .ok result ↔
      ∃ tally, request.signals.foldlM (Tally.next cfg request.candles) {} = .ok tally ∧
        ∃ ratio, sharpeRatio sqrt (returnsOf cfg request.candles request.signals) = .ok ratio ∧
          result = resultWith cfg tally ratio := by
  unfold backtest
  rw [hcfg]
  constructor
  · intro h
    obtain ⟨cfg', hcfg', h⟩ := ok_of_bind h
    obtain rfl : cfg = cfg' := Except.ok.inj hcfg'
    obtain ⟨tally, hloop, h⟩ := ok_of_bind h
    obtain ⟨ratio, hratio, rfl⟩ := resultOf_eq_ok_iff.mp h
    rw [(returns_foldlM hloop).1] at hratio
    exact ⟨tally, hloop, ratio, hratio, rfl⟩
  · rintro ⟨tally, hloop, ratio, hratio, rfl⟩
    show (request.signals.foldlM (Tally.next cfg request.candles) {} >>= resultOf sqrt cfg) = _
    rw [hloop]
    refine resultOf_eq_ok_iff.mpr ⟨ratio, ?_, rfl⟩
    rw [(returns_foldlM hloop).1]
    exact hratio

/-- The loop goes through when every signal is traded or skipped. Source:
`app/services/backtest_jobs.py` `BacktestJobService._run_job`. Kind: L -/
theorem exists_foldlM (h : ∀ s ∈ signals, (∃ r, simulateTrade cfg candles s = .ok r) ∨
      ∃ text, simulateTrade cfg candles s = .error (.lookup text)) :
    ∃ tally, signals.foldlM (Tally.next cfg candles) t = .ok tally := by
  induction signals generalizing t with
  | nil => exact ⟨t, rfl⟩
  | cons signal signals ih =>
      obtain ⟨next, hnext⟩ : ∃ next, t.next cfg candles signal = .ok next := by
        unfold Tally.next
        rcases h signal List.mem_cons_self with ⟨r, hr⟩ | ⟨text, htext⟩
        · rw [hr]
          exact ⟨_, rfl⟩
        · rw [htext]
          exact ⟨_, rfl⟩
      rw [List.foldlM_cons, hnext]
      exact ih fun s hs => h s (List.mem_cons_of_mem signal hs)

/-- No signal of a loop that goes through raises an `IndexError`. Source:
`app/services/backtest_jobs.py` `BacktestJobService._run_job`. Kind: L -/
theorem not_before_of_foldlM (hloop : signals.foldlM (Tally.next cfg candles) t = .ok t')
    {s : BacktestSignal} (hs : s ∈ signals) : -(candles.length : ℤ) ≤ s.index + 1 := by
  induction signals generalizing t with
  | nil => exact absurd hs List.not_mem_nil
  | cons signal signals ih =>
      rw [List.foldlM_cons] at hloop
      obtain ⟨next, hnext, hrest⟩ := ok_of_bind hloop
      rcases List.mem_cons.mp hs with rfl | hs
      · by_contra hbefore
        unfold Tally.next at hnext
        rw [simulateTrade_of_before (not_le.mp hbefore)] at hnext
        cases hnext
      · exact ih hrest hs

/-- A signal that is not in range is skipped when the negative ones are. Source:
`app/services/backtest_jobs.py` `BacktestJobService._simulate_trade`. Kind: L -/
theorem NegativesSkip.skips (h : NegativesSkip request) {s : BacktestSignal}
    (hs : s ∈ request.signals) (hout : ¬ InRange request.candles s) :
    Skips request.slippagePct request.candles s := by
  by_cases hneg : s.index < 0
  · exact h s hs hneg
  · exact Or.inl (not_lt.mp fun hlt => hout ⟨not_lt.mp hneg, hlt⟩)

/-- Every signal is traded or skipped when the negative ones are skipped. Source:
`app/services/backtest_jobs.py` `BacktestJobService._simulate_trade`. Kind: L -/
theorem NegativesSkip.outcome (h : NegativesSkip request) (hpct : cfg.slippagePct = request.slippagePct)
    {s : BacktestSignal} (hs : s ∈ request.signals) :
    (∃ r, simulateTrade cfg request.candles s = .ok r) ∨
      ∃ text, simulateTrade cfg request.candles s = .error (.lookup text) := by
  by_cases hskips : Skips cfg.slippagePct request.candles s
  · exact Or.inr (simulateTrade_of_skips hskips)
  · have hnonneg : 0 ≤ s.index := by
      by_contra hneg
      apply hskips
      rw [hpct]
      exact h s hs (not_le.mp hneg)
    have hge : -(request.candles.length : ℤ) ≤ s.index + 1 := by omega
    exact Or.inl (exists_simulateTrade hge hskips)

/-- Signals that are not traded do not count among the returns. Source: none: infrastructure.
Kind: L -/
theorem returnsOf_filter {p : BacktestSignal → Bool}
    (hskip : ∀ s ∈ signals, p s = false → return? cfg candles s = none) :
    returnsOf cfg candles (signals.filter p) = returnsOf cfg candles signals := by
  unfold returnsOf
  rw [List.filterMap_filter]
  refine List.filterMap_congr fun s hs => ?_
  cases hp : p s with
  | true => exact if_pos rfl
  | false =>
      rw [hskip s hs hp]
      exact if_neg Bool.false_ne_true

/-- A signal that is not in range is no trade of a backtest that accounts for its signals, since the
backtest without it has as many trades. Source: `app/services/backtest_jobs.py`
`BacktestJobService._run_job`. Kind: L -/
theorem Accounts.not_traded (h : Accounts sqrt request result)
    (hresult : backtest sqrt request = .ok result)
    (hcfg : jobSettings request.slippagePct request.«meta» = .ok cfg) {s : BacktestSignal}
    (hs : s ∈ request.signals) (hout : ¬ InRange request.candles s) :
    return? cfg request.candles s = none := by
  let kept : JobRequest :=
    { request with signals := request.signals.filter (InRange request.candles) }
  have hkept : jobSettings kept.slippagePct kept.«meta» = .ok cfg := hcfg
  obtain ⟨keptResult, hkeptResult, heq⟩ := h.apart
  obtain ⟨tally, hloop, ratio, -, rfl⟩ := (backtest_eq_ok_iff hcfg).mp hresult
  obtain ⟨tally', hloop', ratio', -, rfl⟩ := (backtest_eq_ok_iff hkept).mp hkeptResult
  have htrades : tally.pnls.length = tally'.pnls.length := congrArg BacktestResult.tradeCount heq
  rw [(returns_foldlM hloop).2, (returns_foldlM hloop').2] at htrades
  have hlength : (returnsOf cfg request.candles request.signals).length =
      (returnsOf cfg request.candles (request.signals.filter (InRange request.candles))).length :=
    Nat.add_left_cancel htrades
  unfold returnsOf at hlength
  rw [List.length_filterMap_eq_countP, List.length_filterMap_eq_countP,
    List.countP_eq_countP_filter_add request.signals _ fun s => InRange request.candles s] at hlength
  have hnone : (request.signals.filter fun s => !decide (InRange request.candles s)).countP
      (fun s => (return? cfg request.candles s).isSome) = 0 := by
    omega
  have hs' : s ∈ request.signals.filter fun s => !decide (InRange request.candles s) :=
    List.mem_filter.mpr ⟨hs, by simpa using hout⟩
  simpa using List.countP_eq_zero.mp hnone s hs'

/-- A backtest whose negative signals are skipped, and whose ratio can be computed, goes through and
accounts for its signals. Source: `app/services/backtest_jobs.py` `BacktestJobService._run_job`.
Kind: L -/
theorem NegativesSkip.exists_accounts (h : NegativesSkip request) (sqrt : PyNum → PyNum)
    (hcfg : jobSettings request.slippagePct request.«meta» = .ok cfg) (hratio : RatioFits cfg request) :
    ∃ result, backtest sqrt request = .ok result ∧ Accounts sqrt request result := by
  have hpct : cfg.slippagePct = request.slippagePct := slippagePct_of_jobSettings hcfg
  let kept : JobRequest :=
    { request with signals := request.signals.filter (InRange request.candles) }
  have hkept : jobSettings kept.slippagePct kept.«meta» = .ok cfg := hcfg
  have hskip : ∀ s ∈ request.signals, decide (InRange request.candles s) = false →
      ∃ text, simulateTrade cfg request.candles s = .error (.lookup text) := by
    intro s hs hout
    apply simulateTrade_of_skips
    rw [hpct]
    exact h.skips hs (of_decide_eq_false hout)
  obtain ⟨tally, hloop⟩ := exists_foldlM (t := {}) fun s hs => h.outcome hpct hs
  -- the loop over the signals in range comes to the same but for what was skipped
  obtain ⟨tally', hloop'⟩ : ∃ tally', (request.signals.filter (InRange request.candles)).foldlM
      (Tally.next cfg request.candles) {} = .ok tally' :=
    exists_foldlM fun s hs => h.outcome hpct (List.mem_of_mem_filter hs)
  have hfiltered := hloop
  rw [foldlM_filter hskip, hloop'] at hfiltered
  obtain rfl := Except.ok.inj hfiltered
  have haccounted := Tally.Accounted.init.foldlM hloop
  -- the ratio reads the returns of the trades only
  have hreturns : returnsOf cfg request.candles (request.signals.filter (InRange request.candles)) =
      returnsOf cfg request.candles request.signals :=
    returnsOf_filter fun s hs hout => by
      obtain ⟨text, htext⟩ := hskip s hs hout
      unfold return?
      rw [htext]
      rfl
  obtain ⟨ratio, hratio⟩ := exists_sharpeRatio_iff.mpr hratio
  refine ⟨_, (backtest_eq_ok_iff hcfg).mpr ⟨_, hloop, ratio, hreturns ▸ hratio, rfl⟩, ?_, ?_, ?_, ?_⟩
  · exact haccounted.counted.trans (Nat.zero_add _)
  · exact haccounted.decided
  · exact haccounted.reasons
  · refine ⟨_, (backtest_eq_ok_iff hkept).mpr ⟨tally', hloop', ratio, hratio, rfl⟩, ?_⟩
    unfold resultWith Tally.addSkipped
    simp

/-- **What it takes to account for the signals**: a backtest goes through and accounts for its signals
exactly when all signals with a negative index are skipped and the returns of those in range have a
ratio. Source: `app/services/backtest_jobs.py` `BacktestJobService._run_job`. Kind: P -/
theorem backtest_accounts_iff (sqrt : PyNum → PyNum)
    (hcfg : jobSettings request.slippagePct request.«meta» = .ok cfg) :
    (∃ result, backtest sqrt request = .ok result ∧ Accounts sqrt request result) ↔
      NegativesSkip request ∧ RatioFits cfg request := by
  refine ⟨?_, fun h => h.1.exists_accounts sqrt hcfg h.2⟩
  rintro ⟨result, hresult, haccounts⟩
  constructor
  · intro s hs hneg
    have hout : ¬ InRange request.candles s := fun hin => absurd hneg (not_lt.mpr hin.1)
    -- a negative signal that is not skipped is traded
    by_contra hskips
    rw [← slippagePct_of_jobSettings hcfg] at hskips
    obtain ⟨tally, hloop, -⟩ := (backtest_eq_ok_iff hcfg).mp hresult
    obtain ⟨r, hr⟩ := exists_simulateTrade (not_before_of_foldlM hloop hs) hskips
    have hnone := haccounts.not_traded hresult hcfg hs hout
    unfold return? at hnone
    rw [hr] at hnone
    exact absurd hnone (Option.some_ne_none _)
  · let kept : JobRequest :=
      { request with signals := request.signals.filter (InRange request.candles) }
    have hkeptcfg : jobSettings kept.slippagePct kept.«meta» = .ok cfg := hcfg
    obtain ⟨keptResult, hkept, -⟩ := haccounts.apart
    obtain ⟨-, -, ratio, hratio, -⟩ := (backtest_eq_ok_iff hkeptcfg).mp hkept
    exact exists_sharpeRatio_iff.mp ⟨ratio, hratio⟩

end BacktestJobService

end HaruTrade
