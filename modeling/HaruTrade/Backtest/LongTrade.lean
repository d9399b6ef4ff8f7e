import HaruTrade.Backtest.Simulation

/-!
# What a long trade comes to

The long simulation goes through the bars once and keeps a running maximum. `longOutcome` says what
it comes to by the bars that matter: the first that touches the stop or the profit level, and after a
half close the first that falls to the trailing stop of its time.

* `firstTouch`, `highestBetween`, `trailingAt`, `firstTrail` — those bars and their levels.
* `tradeLoop_untouched`, `tradeLoop_held`, `tradeLoop_trailed` — the loop before the first touch, and
  after it without and with a trailing stop.
* **`simulateLongTrade_outcome`** — the simulation returns `longOutcome`.
-/

namespace HaruTrade

/-! ## The bars that matter -/

/-- The first bar that touches the stop or the profit level. Source: none: infrastructure. Kind: D -/
def firstTouch (lv : TradeLevels) (bars : List Candle) : Option ℕ :=
  bars.findIdx? fun b => b.low ≤ lv.stopPrice ∨ lv.takeProfitPrice ≤ b.high

/-- The maximum of the highs of the bars from `i` to `j`. Source: none: infrastructure. Kind: D -/
def highestBetween (bars : List Candle) (i j : ℕ) : ℚ :=
  ((bars.extract i (j + 1)).map Candle.high).max?.getD 0

/-- The trailing stop at bar `j` of a trade that was halved at bar `i`.
Source: none: infrastructure. Kind: D -/
def trailingAt (lv : TradeLevels) (bars : List Candle) (i j : ℕ) : ℚ :=
  max (highestBetween bars i j - lv.atr * lv.trailAtrMult) 0

/-- The first bar from `i` on that falls to the trailing stop of its time.
Source: none: infrastructure. Kind: D -/
def firstTrail (lv : TradeLevels) (bars : List Candle) (i : ℕ) : Option ℕ :=
  (List.range bars.length).find? fun j => i ≤ j ∧ ∃ b ∈ bars[j]?, b.low ≤ trailingAt lv bars i j

/-- What a long trade that was halved at bar `i` comes to: half of it at the profit level, the other
half at the trailing stop or at the last close. Source: none: infrastructure. Kind: D -/
def halvedOutcome (lv : TradeLevels) (bars : List Candle) (h : bars ≠ []) (i : ℕ) : ℚ × String :=
  match firstTrail lv bars i with
  | some j =>
      ((lv.takeProfitPrice - lv.entryPrice) / 2 + (trailingAt lv bars i j - lv.entryPrice) / 2,
        "trailing_stop")
  | none =>
      ((lv.takeProfitPrice - lv.entryPrice) / 2 + ((bars.getLast h).close - lv.entryPrice) / 2,
        "end_of_data")

/-- **What a long trade comes to**: its profit and the reason of its end.
Source: none: infrastructure. Kind: D -/
def longOutcome (lv : TradeLevels) (bars : List Candle) (h : bars ≠ []) : ℚ × String :=
  match firstTouch lv bars with
  | some i =>
      if ∃ b ∈ bars[i]?, b.low ≤ lv.stopPrice then (lv.stopPrice - lv.entryPrice, "stop_loss")
      else halvedOutcome lv bars h i
  | none => ((bars.getLast h).close - lv.entryPrice, "end_of_data")

section rules

variable {lv : TradeLevels} {bars ys : List Candle} {t : TradeState} {b : Candle} {i j k : ℕ}
  {h : ℚ}

theorem firstTouch_eq_some (hi : firstTouch lv bars = some i) :
    (∃ b, bars[i]? = some b ∧ (b.low ≤ lv.stopPrice ∨ lv.takeProfitPrice ≤ b.high)) ∧
      ∀ b ∈ bars.take i, lv.stopPrice < b.low ∧ b.high < lv.takeProfitPrice := by
  obtain ⟨hlt, hhit, hbefore⟩ := List.findIdx?_eq_some_iff_getElem.mp hi
  refine ⟨⟨bars[i], List.getElem?_eq_getElem hlt, by simpa using hhit⟩, ?_⟩
  intro b hb
  obtain ⟨k, hk, rfl⟩ := List.mem_take_iff_getElem.mp hb
  have hmiss := hbefore k (lt_of_lt_of_le hk (min_le_left _ _))
  simpa using hmiss

theorem firstTouch_eq_none (hi : firstTouch lv bars = none) :
    ∀ b ∈ bars, lv.stopPrice < b.low ∧ b.high < lv.takeProfitPrice := by
  intro b hb
  have hmiss := List.findIdx?_eq_none_iff.mp hi b hb
  simpa using hmiss

theorem firstTrail_eq_some (hj : firstTrail lv bars i = some j) :
    i ≤ j ∧ (∃ b, bars[j]? = some b ∧ b.low ≤ trailingAt lv bars i j) ∧
      ∀ m, i ≤ m → m < j → ∀ b, bars[m]? = some b → trailingAt lv bars i m < b.low := by
  obtain ⟨hhit, -, hbefore⟩ := List.find?_range_eq_some.mp hj
  obtain ⟨hle, b, hb, hlow⟩ := of_decide_eq_true hhit
  refine ⟨hle, ⟨b, hb, hlow⟩, ?_⟩
  intro m hm hlt b hb
  by_contra hnot
  have hmiss := hbefore m hlt
  rw [Bool.not_eq_true', decide_eq_false_iff_not] at hmiss
  exact hmiss ⟨hm, b, hb, not_lt.mp hnot⟩

theorem firstTrail_eq_none (hj : firstTrail lv bars i = none) :
    ∀ m, i ≤ m → ∀ b, bars[m]? = some b → trailingAt lv bars i m < b.low := by
  intro m hm b hb
  by_contra hnot
  have hmiss := List.find?_range_eq_none.mp hj m (List.getElem?_eq_some_iff.mp hb).1
  rw [Bool.not_eq_true', decide_eq_false_iff_not] at hmiss
  exact hmiss ⟨hm, b, hb, not_lt.mp hnot⟩

/-! ## The running maximum -/

/-- The trailing stop after the bars up to `k`, from a highest price of `h` on.
Source: none: infrastructure. Kind: D -/
def trailingFrom (lv : TradeLevels) (h : ℚ) (ys : List Candle) (k : ℕ) : ℚ :=
  max (((ys.take (k + 1)).map Candle.high).foldl max h - lv.atr * lv.trailAtrMult) 0

theorem trailingFrom_cons_zero :
    trailingFrom lv h (b :: ys) 0 = max (max h b.high - lv.atr * lv.trailAtrMult) 0 := rfl

/-- The running maximum is the maximum of the bars. Source: none: infrastructure. Kind: L -/
theorem trailingAt_add (hb : bars[i]? = some b) (k : ℕ) :
    trailingAt lv bars i (i + k) = trailingFrom lv b.high (bars.drop i) k := by
  obtain ⟨hlt, rfl⟩ := List.getElem?_eq_some_iff.mp hb
  have hdrop : bars.drop i = bars[i] :: bars.drop (i + 1) := List.drop_eq_getElem_cons hlt
  have hlen : i + k + 1 - i = k + 1 := by omega
  unfold trailingAt highestBetween trailingFrom
  rw [List.extract_eq_take_drop, hlen, hdrop, List.take_succ_cons, List.map_cons, List.max?_cons',
    List.foldl_cons, max_self]
  rfl

/-! ## The loop -/

/-- A trade after its half close, with the highest price since. Source: none: infrastructure.
Kind: D -/
def TradeState.HalfClosed (t : TradeState) (h : ℚ) : Prop :=
  t.state = .HALF_CLOSED ∧ t.best = some h ∧ 0 < h ∧ 0 < t.remaining

/-- A bar that does not touch the levels changes nothing. Source: `app/services/backtest_jobs.py`
`BacktestJobService._simulate_long_trade`. Kind: L -/
theorem longBar_of_untouched (ht : t.state = .OPEN) (hlow : lv.stopPrice < b.low)
    (hhigh : b.high < lv.takeProfitPrice) : longBar lv t b = t := by
  unfold longBar
  rw [if_pos ht, if_neg (not_le.mpr hlow), if_neg (not_le.mpr hhigh)]

/-- A bar after the half close. Source: `app/services/backtest_jobs.py`
`BacktestJobService._simulate_long_trade`. Kind: L -/
theorem longBar_of_halfClosed (ht : t.HalfClosed h) :
    longBar lv t b =
      let stop := max (max h b.high - lv.atr * lv.trailAtrMult) 0
      let t := { t with best := some (max h b.high), trailingStop := some stop }
      if b.low ≤ stop then t.close (stop - lv.entryPrice) "trailing_stop" else t := by
  obtain ⟨hstate, hbest, hpos, -⟩ := ht
  have hhighest : PositionStateMachine.highestOr t.best b.high = h := by
    rw [hbest]
    exact if_neg hpos.ne'
  unfold longBar
  rw [if_neg (by rw [hstate]; decide), hhighest]

/-- The bar of the half close is looked at once more, as a bar after the half close.
Source: `app/services/backtest_jobs.py` `BacktestJobService._simulate_long_trade`. Kind: L -/
theorem longBar_of_touch (ht : t.state = .OPEN) (hrem : 0 < t.remaining)
    (hlow : lv.stopPrice < b.low) (hhigh : lv.takeProfitPrice ≤ b.high) (hpos : 0 < b.high) :
    ∃ t', t'.HalfClosed b.high ∧ t'.remaining = t.remaining / 2 ∧
      t'.realized = t.realized + (lv.takeProfitPrice - lv.entryPrice) * (t.remaining / 2) ∧
      longBar lv t b = longBar lv t' b := by
  let stop := max (b.high - lv.atr * lv.trailAtrMult) 0
  let t' := t.halve (lv.takeProfitPrice - lv.entryPrice) b.high stop
  have hhalf : t'.remaining = t.remaining / 2 := sub_half t.remaining
  have hclosed : t'.HalfClosed b.high := ⟨rfl, rfl, hpos, by rw [hhalf]; linarith⟩
  refine ⟨t', hclosed, hhalf, rfl, ?_⟩
  rw [longBar_of_halfClosed hclosed, max_self]
  unfold longBar
  rw [if_pos ht, if_neg (not_le.mpr hlow), if_pos hhigh, max_eq_left hhigh]
  rfl

/-- Until a bar touches the levels the loop changes nothing. Source: `app/services/backtest_jobs.py`
`BacktestJobService._simulate_long_trade`. Kind: L -/
theorem tradeLoop_untouched (ht : t.state = .OPEN)
    (hno : ∀ b ∈ ys, lv.stopPrice < b.low ∧ b.high < lv.takeProfitPrice) :
    tradeLoop (longBar lv) t ys = t := by
  induction ys with
  | nil => rfl
  | cons b ys ih =>
      obtain ⟨hlow, hhigh⟩ := hno b List.mem_cons_self
      rw [tradeLoop, longBar_of_untouched ht hlow hhigh]
      split
      · rfl
      · exact ih fun b hb => hno b (List.mem_cons_of_mem _ hb)

/-- **A trailing stop that no bar falls to** leaves the second half open.
Source: `app/services/backtest_jobs.py` `BacktestJobService._simulate_long_trade`. Kind: L -/
theorem tradeLoop_held (ht : t.HalfClosed h)
    (hno : ∀ k b, ys[k]? = some b → trailingFrom lv h ys k < b.low) :
    (tradeLoop (longBar lv) t ys).remaining = t.remaining ∧
      (tradeLoop (longBar lv) t ys).realized = t.realized := by
  induction ys generalizing t h with
  | nil => exact ⟨rfl, rfl⟩
  | cons b ys ih =>
      obtain ⟨hstate, -, hpos, hrem⟩ := id ht
      have hfirst := hno 0 b rfl
      rw [trailingFrom_cons_zero] at hfirst
      rw [tradeLoop, if_neg (not_le.mpr hrem), longBar_of_halfClosed ht]
      dsimp only
      rw [if_neg (not_le.mpr hfirst)]
      exact ih ⟨hstate, rfl, lt_max_of_lt_left hpos, hrem⟩ fun k c hc => hno (k + 1) c hc

/-- **The first bar that falls to the trailing stop** closes the second half there.
Source: `app/services/backtest_jobs.py` `BacktestJobService._simulate_long_trade`. Kind: L -/
theorem tradeLoop_trailed (ht : t.HalfClosed h) (hb : ys[k]? = some b)
    (hhit : b.low ≤ trailingFrom lv h ys k)
    (hno : ∀ m < k, ∀ c, ys[m]? = some c → trailingFrom lv h ys m < c.low) :
    (tradeLoop (longBar lv) t ys).remaining = 0 ∧
      (tradeLoop (longBar lv) t ys).realized =
        t.realized + (trailingFrom lv h ys k - lv.entryPrice) * t.remaining ∧
      (tradeLoop (longBar lv) t ys).reason = "trailing_stop" := by
  induction ys generalizing t h k with
  | nil => exact absurd hb (by simp)
  | cons c ys ih =>
      obtain ⟨hstate, -, hpos, hrem⟩ := id ht
      rw [tradeLoop, if_neg (not_le.mpr hrem), longBar_of_halfClosed ht]
      dsimp only
      cases k with
      | zero =>
          obtain rfl : c = b := Option.some.inj hb
          rw [trailingFrom_cons_zero] at hhit
          rw [if_pos hhit, trailingFrom_cons_zero, tradeLoop_of_done le_rfl]
          exact ⟨rfl, rfl, rfl⟩
      | succ k =>
          have hfirst := hno 0 (Nat.succ_pos k) c rfl
          rw [trailingFrom_cons_zero] at hfirst
          rw [if_neg (not_le.mpr hfirst)]
          exact ih ⟨hstate, rfl, lt_max_of_lt_left hpos, hrem⟩ hb hhit fun m hm d hd =>
            hno (m + 1) (Nat.succ_lt_succ hm) d hd

/-- The loop begins at the first bar that touches the levels. Source:
`app/services/backtest_jobs.py` `BacktestJobService._simulate_long_trade`. Kind: L -/
theorem tradeLoop_drop (ht : t.state = .OPEN) (hi : firstTouch lv bars = some i) :
    tradeLoop (longBar lv) t bars = tradeLoop (longBar lv) t (bars.drop i) := by
  have hbefore := tradeLoop_untouched ht (firstTouch_eq_some hi).2
  calc tradeLoop (longBar lv) t bars
      = tradeLoop (longBar lv) t (bars.take i ++ bars.drop i) := by rw [List.take_append_drop]
    _ = tradeLoop (longBar lv) t (bars.drop i) := by rw [tradeLoop_append, hbefore]

/-- **A first touch of the stop** closes the trade there. Source: `app/services/backtest_jobs.py`
`BacktestJobService._simulate_long_trade`. Kind: L -/
theorem tradeLoop_stopped (ht : t.state = .OPEN) (hrem : 0 < t.remaining)
    (hi : firstTouch lv bars = some i) (hb : bars[i]? = some b) (hlow : b.low ≤ lv.stopPrice) :
    tradeLoop (longBar lv) t bars = t.close (lv.stopPrice - lv.entryPrice) "stop_loss" := by
  obtain ⟨hlt, rfl⟩ := List.getElem?_eq_some_iff.mp hb
  have hbar : longBar lv t bars[i] = t.close (lv.stopPrice - lv.entryPrice) "stop_loss" := by
    unfold longBar
    rw [if_pos ht, if_pos hlow]
  rw [tradeLoop_drop ht hi, List.drop_eq_getElem_cons hlt, tradeLoop, if_neg (not_le.mpr hrem), hbar]
  exact tradeLoop_of_done le_rfl

/-- **A first touch of the profit level alone** halves the trade, and the loop goes on from the same
bar with the high of that bar. Source: `app/services/backtest_jobs.py`
`BacktestJobService._simulate_long_trade`. Kind: L -/
theorem tradeLoop_halved (ht : t.state = .OPEN) (hrem : 0 < t.remaining)
    (hi : firstTouch lv bars = some i) (hb : bars[i]? = some b) (hlow : lv.stopPrice < b.low)
    (hpos : 0 < lv.takeProfitPrice) :
    ∃ t', t'.HalfClosed b.high ∧ t'.remaining = t.remaining / 2 ∧
      t'.realized = t.realized + (lv.takeProfitPrice - lv.entryPrice) * (t.remaining / 2) ∧
      tradeLoop (longBar lv) t bars = tradeLoop (longBar lv) t' (bars.drop i) := by
  obtain ⟨⟨c, hc, htouch⟩, -⟩ := firstTouch_eq_some hi
  obtain rfl : c = b := Option.some.inj (hc.symm.trans hb)
  have hhigh : lv.takeProfitPrice ≤ c.high := htouch.resolve_left (not_le.mpr hlow)
  obtain ⟨t', hclosed, hhalf, hrealized, hbar⟩ :=
    longBar_of_touch ht hrem hlow hhigh (lt_of_lt_of_le hpos hhigh)
  refine ⟨t', hclosed, hhalf, hrealized, ?_⟩
  obtain ⟨hlt, rfl⟩ := List.getElem?_eq_some_iff.mp hb
  rw [tradeLoop_drop ht hi, List.drop_eq_getElem_cons hlt, tradeLoop, tradeLoop, hbar,
    if_neg (not_le.mpr hrem), if_neg (not_le.mpr hclosed.2.2.2)]

/-! ## The outcome -/

/-- A trade that was halved comes to `halvedOutcome`. Source: `app/services/backtest_jobs.py`
`BacktestJobService._simulate_long_trade`. Kind: L -/
theorem settle_halfClosed {candles : List Candle} (hne : bars ≠ []) (hcandles : candles ≠ [])
    (hlast : candles.getLast hcandles = bars.getLast hne) (he : 0 < lv.entryPrice)
    (hb : bars[i]? = some b) (ht : t.HalfClosed b.high) (hhalf : t.remaining = 1 / 2)
    (hrealized : t.realized = (lv.takeProfitPrice - lv.entryPrice) / 2) :
    (tradeLoop (longBar lv) t (bars.drop i)).settle candles lv.entryPrice
        (fun exit => exit - lv.entryPrice) =
      .ok ((halvedOutcome lv bars hne i).1, (halvedOutcome lv bars hne i).1 / lv.entryPrice,
        (halvedOutcome lv bars hne i).2) := by
  have hat : ∀ k, trailingAt lv bars i (i + k) = trailingFrom lv b.high (bars.drop i) k :=
    trailingAt_add hb
  unfold halvedOutcome
  cases hj : firstTrail lv bars i with
  | none =>
      have hno : ∀ k c, (bars.drop i)[k]? = some c →
          trailingFrom lv b.high (bars.drop i) k < c.low := by
        intro k c hc
        rw [List.getElem?_drop] at hc
        rw [← hat]
        exact firstTrail_eq_none hj (i + k) (Nat.le_add_right i k) c hc
      obtain ⟨hrem, hreal⟩ := tradeLoop_held ht hno
      rw [settle_at_end (hrem ▸ ht.2.2.2) hcandles, if_pos he, hlast, hrem, hreal, hhalf, hrealized,
        mul_one_div]
  | some j =>
      obtain ⟨hle, ⟨c, hc, hhit⟩, hbefore⟩ := firstTrail_eq_some hj
      obtain ⟨k, rfl⟩ := Nat.exists_eq_add_of_le hle
      rw [hat] at hhit
      have hno : ∀ m < k, ∀ d, (bars.drop i)[m]? = some d →
          trailingFrom lv b.high (bars.drop i) m < d.low := by
        intro m hm d hd
        rw [List.getElem?_drop] at hd
        rw [← hat]
        exact hbefore (i + m) (Nat.le_add_right i m) (Nat.add_lt_add_left hm i) d hd
      obtain ⟨hrem, hreal, hreason⟩ :=
        tradeLoop_trailed ht ((List.getElem?_drop).trans hc) hhit hno
      dsimp only
      rw [settle_of_done hrem.le, if_pos he, hreal, hreason, hhalf, hrealized, hat, mul_one_div]

/-- The loop and what remains after it come to `longOutcome`. Source:
`app/services/backtest_jobs.py` `BacktestJobService._simulate_long_trade`. Kind: L -/
theorem settle_tradeLoop {candles : List Candle} (hne : bars ≠ []) (hcandles : candles ≠ [])
    (hlast : candles.getLast hcandles = bars.getLast hne) (he : 0 < lv.entryPrice)
    (hpos : 0 < lv.takeProfitPrice) :
    (tradeLoop (longBar lv) {} bars).settle candles lv.entryPrice (fun exit => exit - lv.entryPrice) =
      .ok ((longOutcome lv bars hne).1, (longOutcome lv bars hne).1 / lv.entryPrice,
        (longOutcome lv bars hne).2) := by
  have hnew : (0 : ℚ) < ({} : TradeState).remaining := one_pos
  unfold longOutcome
  cases hi : firstTouch lv bars with
  | none =>
      rw [tradeLoop_untouched rfl (firstTouch_eq_none hi), settle_at_end hnew hcandles, if_pos he,
        hlast]
      simp
  | some i =>
      obtain ⟨⟨b, hb, -⟩, -⟩ := firstTouch_eq_some hi
      dsimp only
      by_cases hlow : b.low ≤ lv.stopPrice
      · rw [if_pos ⟨b, hb, hlow⟩, tradeLoop_stopped rfl hnew hi hb hlow, settle_of_done le_rfl,
          if_pos he]
        simp [TradeState.close]
      · have hstop : ¬ ∃ b ∈ bars[i]?, b.low ≤ lv.stopPrice := by
          rintro ⟨c, hc, hle⟩
          obtain rfl : b = c := Option.some.inj (hb.symm.trans hc)
          exact hlow hle
        obtain ⟨t, hclosed, hhalf, hrealized, hloop⟩ :=
          tradeLoop_halved rfl hnew hi hb (not_le.mp hlow) hpos
        have hpnl : t.realized = (lv.takeProfitPrice - lv.entryPrice) / 2 := by
          rw [hrealized]
          show 0 + (lv.takeProfitPrice - lv.entryPrice) * (1 / 2) = _
          rw [zero_add, mul_one_div]
        rw [hloop, if_neg hstop]
        exact settle_halfClosed hne hcandles hlast he hb hclosed hhalf hpnl

end rules

/-- **The long simulation returns what its trade comes to**: for every entry price above zero and all
multipliers, on every list of candles that has a bar at the entry.
Source: `app/services/backtest_jobs.py` `BacktestJobService._simulate_long_trade`. Kind: P -/
theorem simulateLongTrade_outcome (candles : List Candle) (entryIdx : ℤ)
    (entryPrice atr stopAtrMult tpAtrMult trailAtrMult : ℚ)
    (hne : pySliceFrom candles entryIdx ≠ []) (he : 0 < entryPrice) (hatr : 0 ≤ atr)
    (htp : 0 ≤ tpAtrMult) :
    BacktestJobService.simulateLongTrade candles entryIdx entryPrice atr stopAtrMult tpAtrMult
        trailAtrMult =
      let lv := longLevels entryPrice atr stopAtrMult tpAtrMult trailAtrMult
      let outcome := longOutcome lv (pySliceFrom candles entryIdx) hne
      .ok (outcome.1, outcome.1 / entryPrice, outcome.2) := by
  have hcandles : candles ≠ [] := by
    rintro rfl
    exact hne List.drop_nil
  have hlast : candles.getLast hcandles = (pySliceFrom candles entryIdx).getLast hne :=
    (List.getLast_drop hne).symm
  have hpos : 0 < entryPrice + atr * tpAtrMult := add_pos_of_pos_of_nonneg he (mul_nonneg hatr htp)
  exact settle_tradeLoop hne hcandles hlast he hpos

/-- Stopped out, halved and trailed on a later bar, halved and still open, and never touched.
Source: none: infrastructure. Kind: C -/
example :
    let lv := longLevels 100 10 1 1 1
    longOutcome lv [flatCandle 100, flatCandle 90] (by simp) = (-10, "stop_loss") ∧
    longOutcome lv [flatCandle 110, flatCandle 130, flatCandle 120] (by simp) =
      (15, "trailing_stop") ∧
    longOutcome lv [flatCandle 110, flatCandle 105] (by simp) = (15 / 2, "end_of_data") ∧
    longOutcome lv [flatCandle 100, flatCandle 105] (by simp) = (5, "end_of_data") := by
  decide +kernel

/-- A trade that is halved at 110 and trailed at 120. Source: none: infrastructure. Kind: P -/
theorem simulateLongTrade_outcome_trailed :
    BacktestJobService.simulateLongTrade [flatCandle 100, flatCandle 110, flatCandle 130,
      flatCandle 120] 1 100 10 1 1 1 = .ok (15, 15 / 100, "trailing_stop") := by
  rw [simulateLongTrade_outcome _ 1 100 10 1 1 1 (by decide +kernel) (by norm_num) (by norm_num)
    (by norm_num)]
  exact eq_ok_of_toOption (by decide +kernel)

end HaruTrade
