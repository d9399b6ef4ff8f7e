import Mathlib.Algebra.Order.Group.MinMax
import Mathlib.Tactic.Ring
import HaruTrade.Backtest.Simulation
import HaruTrade.Data.Double

/-!
# Long and short trades are mirror images

Reflecting every price at `C`, a high becomes a low and a gain of a long trade a gain of a short one.
The two simulations are written out separately in the source; `mirror_tradeLoop` runs them side by
side, in exact arithmetic. On doubles the two stops are rounded apart.

* `Candle.reflect`, `TradeLevels.reflect`, `TradeState.reflect` — the reflected bars, levels and
  trade.
* `shortBar_reflect` — one bar of the short simulation is the reflection of one of the long one.
* **`simulateShortTrade_reflect`** — the same profit and the same reason.
* `simulateShortTrade_reflect_rounded` — doubles on which the long trade is stopped and the short one
  is not.
-/

namespace HaruTrade

/-! ## Reflections -/

/-- A bar with its prices reflected at `C`. Source: none: infrastructure. Kind: D -/
def Candle.reflect {F : Type} [Sub F] (C : F) (b : Candle F) : Candle F :=
  { b with «open» := C - b.open, high := C - b.low, low := C - b.high, close := C - b.close }

/-- A bar whose prices are all above zero and below `C`. Source: none: infrastructure. Kind: D -/
def Candle.Within {F : Type} [OfNat F 0] [LT F] (C : F) (b : Candle F) : Prop :=
  ∀ price ∈ [b.open, b.high, b.low, b.close], 0 < price ∧ price < C

/-- The levels with their prices reflected at `C`. Source: none: infrastructure. Kind: D -/
def TradeLevels.reflect (C : ℚ) (lv : TradeLevels) : TradeLevels :=
  { lv with
    entryPrice := C - lv.entryPrice
    stopPrice := C - lv.stopPrice
    takeProfitPrice := C - lv.takeProfitPrice }

/-- A trade with its prices reflected at `C`; what it has earned stays. Source: none: infrastructure.
Kind: D -/
def TradeState.reflect (C : ℚ) (t : TradeState) : TradeState :=
  { t with
    best := t.best.map fun price => C - price
    trailingStop := t.trailingStop.map fun price => C - price }

section rules

variable {C : ℚ} {lv : TradeLevels} {t : TradeState} {b : Candle} {bars candles : List Candle}

theorem Candle.Within.high (hb : b.Within C) : 0 < b.high ∧ b.high < C := hb b.high (by simp)

/-! ## One bar -/

/-- What a long trade keeps after its half close: its highest price is below `C`, and high enough that
the trailing stop is not below zero. Source: none: infrastructure. Kind: D -/
def TradeState.Reflectable (C : ℚ) (lv : TradeLevels) (t : TradeState) : Prop :=
  t.state ≠ .OPEN → ∃ h, t.best = some h ∧ 0 < h ∧ h < C ∧ lv.atr * lv.trailAtrMult ≤ h

/-- Closing at a price on one side is closing at the reflected price on the other.
Source: `app/services/backtest_jobs.py` `BacktestJobService._simulate_short_trade`. Kind: L -/
theorem reflect_close (price : ℚ) (reason : String) :
    (t.close (price - lv.entryPrice) reason).reflect C =
      (t.reflect C).close (C - lv.entryPrice - (C - price)) reason := by
  rw [sub_sub_sub_cancel_left]
  rfl

theorem reflect_halve (price best stop : ℚ) :
    (t.halve (price - lv.entryPrice) best stop).reflect C =
      (t.reflect C).halve (C - lv.entryPrice - (C - price)) (C - best) (C - stop) := by
  rw [sub_sub_sub_cancel_left]
  rfl

/-- The look at a trailing stop, on both sides. Source: `app/services/backtest_jobs.py`
`BacktestJobService._simulate_short_trade`. Kind: L -/
theorem reflect_trail (stop low : ℚ) :
    (if C - stop ≤ C - low then
        (t.reflect C).close (C - lv.entryPrice - (C - stop)) "trailing_stop"
      else t.reflect C) =
      (if low ≤ stop then t.close (stop - lv.entryPrice) "trailing_stop" else t).reflect C := by
  by_cases hlow : low ≤ stop
  · rw [if_pos hlow, if_pos (sub_le_sub_left hlow C), reflect_close]
  · rw [if_neg hlow, if_neg (mt (sub_le_sub_iff_left C).mp hlow)]

/-- The look at a trailing stop keeps the highest price. Source: none: infrastructure. Kind: L -/
theorem reflectable_trail {h stop : ℚ} (low : ℚ) (hbest : t.best = some h) (hpos : 0 < h) (hlt : h < C)
    (hle : lv.atr * lv.trailAtrMult ≤ h) :
    (if low ≤ stop then t.close (stop - lv.entryPrice) "trailing_stop" else t).Reflectable C lv := by
  intro _
  by_cases hlow : low ≤ stop
  · rw [if_pos hlow]
    exact ⟨h, hbest, hpos, hlt, hle⟩
  · rw [if_neg hlow]
    exact ⟨h, hbest, hpos, hlt, hle⟩

/-- The trailing stop above the lowest price is the reflection of the one below the highest.
Source: none: infrastructure. Kind: L -/
theorem reflect_level (h : ℚ) :
    C - h + lv.atr * lv.trailAtrMult = C - (h - lv.atr * lv.trailAtrMult) := by
  ring

/-- The bar of a half close, on both sides. Source: `app/services/backtest_jobs.py`
`BacktestJobService._simulate_short_trade`. Kind: L -/
theorem shortBar_reflect_profit (hlv : lv.atr * lv.trailAtrMult ≤ lv.takeProfitPrice)
    (hb : b.Within C) (hopen : t.state = .OPEN) (hstop : ¬ b.low ≤ lv.stopPrice)
    (hprofit : lv.takeProfitPrice ≤ b.high) :
    (longBar lv t b).Reflectable C lv ∧
      shortBar (lv.reflect C) (t.reflect C) (b.reflect C) = (longBar lv t b).reflect C := by
  obtain ⟨hpos, hlt⟩ := hb.high
  let stop := b.high - lv.atr * lv.trailAtrMult
  let half := t.halve (lv.takeProfitPrice - lv.entryPrice) b.high stop
  have hroom : 0 ≤ stop := sub_nonneg.mpr (hlv.trans hprofit)
  have hlong : longBar lv t b =
      if b.low ≤ stop then half.close (stop - lv.entryPrice) "trailing_stop" else half := by
    unfold longBar
    rw [if_pos hopen, if_neg hstop, if_pos hprofit]
    dsimp only
    rw [max_eq_left hprofit, max_eq_left hroom]
  have hshort : shortBar (lv.reflect C) (t.reflect C) (b.reflect C) =
      if C - stop ≤ C - b.low then
        (half.reflect C).close (C - lv.entryPrice - (C - stop)) "trailing_stop"
      else half.reflect C := by
    have hstop' : ¬ C - lv.stopPrice ≤ C - b.low := mt (sub_le_sub_iff_left C).mp hstop
    have hprofit' : C - b.high ≤ C - lv.takeProfitPrice := sub_le_sub_left hprofit C
    unfold shortBar Candle.reflect TradeLevels.reflect
    rw [if_pos (show (t.reflect C).state = .OPEN from hopen), if_neg hstop', if_pos hprofit']
    dsimp only
    rw [min_eq_left hprofit', reflect_level, ← reflect_halve]
  rw [hlong, hshort]
  exact ⟨reflectable_trail b.low rfl hpos hlt (hlv.trans hprofit), reflect_trail stop b.low⟩

/-- A bar after the half close, on both sides. Source: `app/services/backtest_jobs.py`
`BacktestJobService._simulate_short_trade`. Kind: L -/
theorem shortBar_reflect_half (hb : b.Within C) (hopen : t.state ≠ .OPEN)
    (ht : t.Reflectable C lv) :
    (longBar lv t b).Reflectable C lv ∧
      shortBar (lv.reflect C) (t.reflect C) (b.reflect C) = (longBar lv t b).reflect C := by
  obtain ⟨hpos, hlt⟩ := hb.high
  obtain ⟨h, hbest, hh, hhC, hle⟩ := ht hopen
  let stop := max h b.high - lv.atr * lv.trailAtrMult
  let t' := { t with best := some (max h b.high), trailingStop := some stop }
  have hroom : 0 ≤ stop := sub_nonneg.mpr (hle.trans (le_max_left h b.high))
  have hlong : longBar lv t b =
      if b.low ≤ stop then t'.close (stop - lv.entryPrice) "trailing_stop" else t' := by
    have hhighest : PositionStateMachine.highestOr t.best b.high = h := by
      rw [hbest]
      exact if_neg hh.ne'
    unfold longBar
    rw [if_neg hopen, hhighest]
    dsimp only
    rw [max_eq_left hroom]
  have hshort : shortBar (lv.reflect C) (t.reflect C) (b.reflect C) =
      if C - stop ≤ C - b.low then
        (t'.reflect C).close (C - lv.entryPrice - (C - stop)) "trailing_stop"
      else t'.reflect C := by
    -- the lowest price is above zero, so that it is not taken for a missing one
    have hlowest : PositionStateMachine.highestOr (t.reflect C).best (b.reflect C).low = C - h := by
      unfold TradeState.reflect
      rw [hbest]
      exact if_neg (sub_pos.mpr hhC).ne'
    have hmin : min (C - h) (C - b.high) = C - max h b.high := min_sub_sub_left C h b.high
    unfold shortBar
    rw [if_neg (show ¬ (t.reflect C).state = .OPEN from hopen), hlowest]
    unfold Candle.reflect TradeLevels.reflect
    dsimp only
    rw [hmin, reflect_level]
    rfl
  rw [hlong, hshort]
  exact ⟨reflectable_trail b.low rfl (lt_max_of_lt_left hh) (max_lt hhC hlt)
    (hle.trans (le_max_left h b.high)), reflect_trail stop b.low⟩

/-- **A bar of the short simulation is the reflection of a bar of the long one.**
Source: `app/services/backtest_jobs.py` `BacktestJobService._simulate_short_trade`. Kind: L -/
theorem shortBar_reflect (hlv : lv.atr * lv.trailAtrMult ≤ lv.takeProfitPrice) (hb : b.Within C)
    (ht : t.Reflectable C lv) :
    (longBar lv t b).Reflectable C lv ∧
      shortBar (lv.reflect C) (t.reflect C) (b.reflect C) = (longBar lv t b).reflect C := by
  by_cases hopen : t.state = .OPEN
  · by_cases hstop : b.low ≤ lv.stopPrice
    · have hlong : longBar lv t b = t.close (lv.stopPrice - lv.entryPrice) "stop_loss" := by
        unfold longBar
        rw [if_pos hopen, if_pos hstop]
      have hstop' : C - lv.stopPrice ≤ C - b.low := sub_le_sub_left hstop C
      rw [hlong, reflect_close]
      refine ⟨fun hne => absurd hopen hne, ?_⟩
      unfold shortBar
      rw [if_pos (show (t.reflect C).state = .OPEN from hopen)]
      exact if_pos hstop'
    · by_cases hprofit : lv.takeProfitPrice ≤ b.high
      · exact shortBar_reflect_profit hlv hb hopen hstop hprofit
      · have hlong : longBar lv t b = t := by
          unfold longBar
          rw [if_pos hopen, if_neg hstop, if_neg hprofit]
        rw [hlong]
        refine ⟨ht, ?_⟩
        unfold shortBar
        rw [if_pos (show (t.reflect C).state = .OPEN from hopen)]
        exact (if_neg (mt (sub_le_sub_iff_left C).mp hstop)).trans
          (if_neg (mt (sub_le_sub_iff_left C).mp hprofit))
  · exact shortBar_reflect_half hb hopen ht

/-! ## The whole trade -/

/-- **The short loop is the reflection of the long one.** Source: `app/services/backtest_jobs.py`
`BacktestJobService._simulate_short_trade`. Kind: L -/
theorem mirror_tradeLoop (hlv : lv.atr * lv.trailAtrMult ≤ lv.takeProfitPrice)
    (hbars : ∀ b ∈ bars, b.Within C) (ht : t.Reflectable C lv) :
    tradeLoop (shortBar (lv.reflect C)) (t.reflect C) (bars.map (Candle.reflect C)) =
      (tradeLoop (longBar lv) t bars).reflect C := by
  induction bars generalizing t with
  | nil => rfl
  | cons b bars ih =>
      obtain ⟨hnext, hbar⟩ := shortBar_reflect hlv (hbars b List.mem_cons_self) ht
      rw [List.map_cons, tradeLoop, tradeLoop, hbar,
        ih (fun c hc => hbars c (List.mem_cons_of_mem b hc)) hnext]
      exact (apply_ite (TradeState.reflect C) _ _ _).symm

/-- What a simulation says of a trade apart from its return: the profit and the reason.
Source: none: infrastructure. Kind: D -/
def pnlAndReason {F : Type} (result : Except Exn (F × F × String)) : Except Exn (F × String) :=
  result.map fun (pnl, _, reason) => (pnl, reason)

/-- Settling on both sides. Source: `app/services/backtest_jobs.py`
`BacktestJobService._simulate_short_trade`. Kind: L -/
theorem settle_reflect (e : ℚ) :
    pnlAndReason ((t.reflect C).settle (candles.map (Candle.reflect C)) (C - e)
        fun exit => C - e - exit) =
      pnlAndReason (t.settle candles e fun exit => exit - e) := by
  by_cases hrem : 0 < t.remaining
  · by_cases hne : candles = []
    · subst hne
      unfold TradeState.settle
      rw [if_pos hrem, if_pos (show 0 < (t.reflect C).remaining from hrem)]
      rfl
    · have hne' : candles.map (Candle.reflect C) ≠ [] := mt List.map_eq_nil_iff.mp hne
      have hgain : C - e - ((candles.map (Candle.reflect C)).getLast hne').close =
          (candles.getLast hne).close - e := by
        rw [List.getLast_map]
        exact sub_sub_sub_cancel_left e (candles.getLast hne).close C
      rw [settle_at_end hrem hne, settle_at_end (show 0 < (t.reflect C).remaining from hrem) hne',
        hgain]
      rfl
  · have hdone : t.remaining ≤ 0 := not_lt.mp hrem
    rw [settle_of_done hdone, settle_of_done (show (t.reflect C).remaining ≤ 0 from hdone)]
    rfl

end rules

/-- **Long and short simulations are mirror images**: for every list of candles whose prices are above
zero and below `C`, the short simulation of the reflected candles and entry has the profit and the
reason of the long one. Source: `app/services/backtest_jobs.py`
`BacktestJobService._simulate_short_trade`. Kind: P -/
theorem simulateShortTrade_reflect (C : ℚ) (candles : List Candle) (entryIdx : ℤ)
    (e atr stopAtrMult tpAtrMult trailAtrMult : ℚ) (hcandles : ∀ b ∈ candles, b.Within C)
    (hatr : 0 ≤ atr) (htp : 0 ≤ tpAtrMult) (hstop : atr * stopAtrMult ≤ e)
    (htrail : atr * trailAtrMult ≤ e) (hC : atr * tpAtrMult ≤ C - e) :
    pnlAndReason (BacktestJobService.simulateShortTrade (candles.map (Candle.reflect C)) entryIdx
        (C - e) atr stopAtrMult tpAtrMult trailAtrMult) =
      pnlAndReason (BacktestJobService.simulateLongTrade candles entryIdx e atr stopAtrMult tpAtrMult
        trailAtrMult) := by
  let lv := longLevels e atr stopAtrMult tpAtrMult trailAtrMult
  have hlevels : shortLevels (C - e) atr stopAtrMult tpAtrMult trailAtrMult = lv.reflect C := by
    unfold shortLevels TradeLevels.reflect
    congr 1
    · show C - e + atr * stopAtrMult = C - max (e - atr * stopAtrMult) 0
      rw [max_eq_left (sub_nonneg.mpr hstop)]
      ring
    · show max (C - e - atr * tpAtrMult) 0 = C - (e + atr * tpAtrMult)
      rw [max_eq_left (sub_nonneg.mpr hC)]
      ring
  have hlv : lv.atr * lv.trailAtrMult ≤ lv.takeProfitPrice :=
    htrail.trans (le_add_of_nonneg_right (mul_nonneg hatr htp))
  have hslice : pySliceFrom (candles.map (Candle.reflect C)) entryIdx =
      (pySliceFrom candles entryIdx).map (Candle.reflect C) := by
    unfold pySliceFrom
    rw [List.length_map, List.map_drop]
  have hbars : ∀ b ∈ pySliceFrom candles entryIdx, b.Within C := fun b hb =>
    hcandles b (List.mem_of_mem_drop hb)
  have hnew : ({} : TradeState).Reflectable C lv := fun hne => absurd rfl hne
  have hloop : tradeLoop (shortBar (lv.reflect C)) {}
      ((pySliceFrom candles entryIdx).map (Candle.reflect C)) =
      (tradeLoop (longBar lv) {} (pySliceFrom candles entryIdx)).reflect C :=
    mirror_tradeLoop hlv hbars hnew
  unfold BacktestJobService.simulateShortTrade BacktestJobService.simulateLongTrade
  rw [hlevels, hslice, hloop]
  exact settle_reflect e

/-- The reflection at 200 of a long trade that is halved at 110 and trailed at 120.
Source: none: infrastructure. Kind: P -/
theorem simulateShortTrade_reflect_trailed :
    pnlAndReason (BacktestJobService.simulateShortTrade
        ([flatCandle 100, flatCandle 110, flatCandle 130, flatCandle 120].map (Candle.reflect 200)) 1
        (200 - 100) 10 1 1 1) = .ok (15, "trailing_stop") :=
  (simulateShortTrade_reflect 200 [flatCandle 100, flatCandle 110, flatCandle 130, flatCandle 120] 1
    100 10 1 1 1 (by unfold Candle.Within; decide +kernel) (by norm_num) (by norm_num) (by norm_num)
    (by norm_num) (by norm_num)).trans (eq_ok_of_toOption (by decide +kernel))

section rounded

open PyNum

/-- A bar with a low of 99.4. Source: none: infrastructure. Kind: D -/
def lowBar : Candle PyNum := Candle.toDouble ⟨100, 100, 994 / 10, 100, 0, 0⟩

/-- **Rounding breaks the reflection.** On doubles, an entry at 100 with an average range of 0.4 and
a stop at 1.5 of it: the stop of the long trade is rounded up to the low of 99.4, and the stop of the
short one, reflected at 150.5, stays above its high. All reflected prices are exact.
Source: `app/services/backtest_jobs.py` `BacktestJobService._simulate_long_trade`. Kind: C -/
theorem simulateShortTrade_reflect_rounded :
    ¬ ∀ (C : PyNum) (candles : List (Candle PyNum)) (entryIdx : ℤ)
      (e atr stopAtrMult tpAtrMult trailAtrMult : PyNum), (∀ b ∈ candles, b.Within C) → 0 ≤ atr →
      0 ≤ stopAtrMult → 0 ≤ tpAtrMult → 0 ≤ trailAtrMult → atr * stopAtrMult ≤ e →
      atr * trailAtrMult ≤ e → atr * tpAtrMult ≤ C - e →
      pnlAndReason (BacktestJobService.simulateShortTrade (candles.map (Candle.reflect C)) entryIdx
          (C - e) atr stopAtrMult tpAtrMult trailAtrMult) =
        pnlAndReason (BacktestJobService.simulateLongTrade candles entryIdx e atr stopAtrMult
          tpAtrMult trailAtrMult) := by
  intro mirror
  let C := binary64 (301 / 2)
  let atr := binary64 (4 / 10)
  let mult := binary64 (3 / 2)
  have hlong : (pnlAndReason (BacktestJobService.simulateLongTrade [lowBar] 0 100 atr mult 2
      mult)).toOption.map Prod.snd = some "stop_loss" := by decide +kernel
  have hshort : (pnlAndReason (BacktestJobService.simulateShortTrade ([lowBar].map
      (Candle.reflect C)) 0 (C - 100) atr mult 2 mult)).toOption.map Prod.snd =
      some "end_of_data" := by decide +kernel
  have hwithin : lowBar.Within C := by
    unfold Candle.Within
    decide +kernel
  have heq := mirror C [lowBar] 0 100 atr mult 2 mult (by simpa using hwithin) (by decide +kernel)
    (by decide +kernel) (by decide +kernel) (by decide +kernel) (by decide +kernel)
    (by decide +kernel) (by decide +kernel)
  rw [heq, hlong] at hshort
  exact absurd hshort (by decide)

end rounded

end HaruTrade
