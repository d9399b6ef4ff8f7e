import HaruTrade.Backtest.Direction

/-!
# The fills of a simulated trade

Every exit leg of a simulation is filled at a level that was computed before the bar, or from its best
price; whether it is filled is asked of one end of the bar only. So a bar that gaps over the level is
filled at a price that it never traded.

* `Direction.fills` — the fills of a bar; `bar_eq_fills` says that they are all that it does to the
  trade's books, and `simulate_pnl` that they are the profit of a simulation.
* `FilledInRange` — no fill is better than the bar on which it happens.
* `NotGapped` — a bar that does not lie beyond the stop in force.
* **`filledInRange_iff`** — the fills of a trade are in range exactly when no bar gaps over its stop.
-/

namespace HaruTrade

/-- The exit legs. Source: `app/services/backtest_jobs.py`
`BacktestJobService._simulate_long_trade`. Kind: D -/
inductive ExitLeg where
  | stopLoss
  | takeProfit
  | trailingStop
  deriving DecidableEq, Repr

/-- A fill of an exit leg. Source: `app/services/backtest_jobs.py`
`BacktestJobService._simulate_long_trade`. Kind: D -/
structure Fill where
  leg : ExitLeg
  price : ℚ
  qty : ℚ
  deriving DecidableEq, Repr

/-- A bar that can be traded: its prices are above zero, its open and close between its low and its
high. Source: none: infrastructure. Kind: D -/
structure Candle.Traded (b : Candle) : Prop where
  low_pos : 0 < b.low
  low_le_open : b.low ≤ b.open
  low_le_close : b.low ≤ b.close
  open_le_high : b.open ≤ b.high
  close_le_high : b.close ≤ b.high

namespace Direction

/-- The fill of the look at a trailing stop. Source: `app/services/backtest_jobs.py`
`BacktestJobService._simulate_long_trade`. Kind: D -/
def trailedFills (d : Direction) (stop : ℚ) (b : Candle) (qty : ℚ) : List Fill :=
  if d.AtMost (d.losing b) stop then [⟨.trailingStop, stop, qty⟩] else []

/-- The fills of a bar. Source: `app/services/backtest_jobs.py`
`BacktestJobService._simulate_long_trade`. Kind: D -/
def fills (d : Direction) (lv : TradeLevels) (t : TradeState) (b : Candle) : List Fill :=
  if t.state = .OPEN then
    if d.AtMost (d.losing b) lv.stopPrice then [⟨.stopLoss, lv.stopPrice, t.remaining⟩]
    else if d.AtMost lv.takeProfitPrice (d.winning b) then
      ⟨.takeProfit, lv.takeProfitPrice, t.remaining / 2⟩ ::
        d.trailedFills (d.trail lv (d.better (d.winning b) lv.takeProfitPrice)) b
          (t.remaining - t.remaining / 2)
    else []
  else d.trailedFills (d.trail lv (d.bestWith t b)) b t.remaining

/-- The fills of a simulation, each with its bar. Source: `app/services/backtest_jobs.py`
`BacktestJobService._simulate_long_trade`. Kind: D -/
def allFills (d : Direction) (lv : TradeLevels) : TradeState → List Candle → List (Candle × Fill)
  | _, [] => []
  | t, b :: bars =>
    if t.remaining ≤ 0 then []
    else (d.fills lv t b).map (Prod.mk b) ++ d.allFills lv (d.bar lv t b) bars

end Direction

/-- The quantity of some fills. Source: none: infrastructure. Kind: D -/
def filledQty (fs : List Fill) : ℚ := (fs.map Fill.qty).sum

/-- What some fills have earned. Source: none: infrastructure. Kind: D -/
def filledGain (d : Direction) (lv : TradeLevels) (fs : List Fill) : ℚ :=
  (fs.map fun f => d.gain lv f.price * f.qty).sum

section rules

variable {d : Direction} {lv : TradeLevels} {t : TradeState} {b : Candle} {bars : List Candle}
  {x y stop qty : ℚ} {f : Fill}

/-! ## The books -/

/-- The look at a trailing stop books its fills. Source: `app/services/backtest_jobs.py`
`BacktestJobService._simulate_long_trade`. Kind: L -/
theorem trailed_eq_fills (d : Direction) (lv : TradeLevels) (t : TradeState) (stop : ℚ) (b : Candle) :
    (d.trailed lv stop b t).remaining = t.remaining - filledQty (d.trailedFills stop b t.remaining) ∧
      (d.trailed lv stop b t).realized =
        t.realized + filledGain d lv (d.trailedFills stop b t.remaining) := by
  unfold Direction.trailed Direction.trailedFills filledQty filledGain
  split_ifs
  · simp [TradeState.close]
  · simp

/-- **The fills are all that a bar does to the books**: what is left and what is earned change by
them. Source: `app/services/backtest_jobs.py` `BacktestJobService._simulate_long_trade`. Kind: L -/
theorem bar_eq_fills (d : Direction) (lv : TradeLevels) (t : TradeState) (b : Candle) :
    (d.bar lv t b).remaining = t.remaining - filledQty (d.fills lv t b) ∧
      (d.bar lv t b).realized = t.realized + filledGain d lv (d.fills lv t b) := by
  rw [Direction.bar_eq]
  unfold Direction.fills
  dsimp only
  split_ifs with hopen hstop hprofit
  · simp [TradeState.close, filledQty, filledGain]
  · obtain ⟨hremaining, hrealized⟩ := trailed_eq_fills d lv
      (t.halve (d.gain lv lv.takeProfitPrice)
        (d.better (d.winning b) lv.takeProfitPrice)
        (d.trail lv (d.better (d.winning b) lv.takeProfitPrice)))
      (d.trail lv (d.better (d.winning b) lv.takeProfitPrice)) b
    rw [hremaining, hrealized]
    unfold filledQty filledGain
    rw [List.map_cons, List.sum_cons, List.map_cons, List.sum_cons, ← sub_sub, ← add_assoc]
    exact ⟨rfl, rfl⟩
  · simp [filledQty, filledGain]
  · exact trailed_eq_fills d lv _ _ b

/-- The fills of a simulation are all that it does to the books. Source:
`app/services/backtest_jobs.py` `BacktestJobService._simulate_long_trade`. Kind: L -/
theorem tradeLoop_eq_fills (d : Direction) (lv : TradeLevels) (t : TradeState)
    (bars : List Candle) :
    (tradeLoop (d.bar lv) t bars).remaining =
        t.remaining - filledQty ((d.allFills lv t bars).map Prod.snd) ∧
      (tradeLoop (d.bar lv) t bars).realized =
        t.realized + filledGain d lv ((d.allFills lv t bars).map Prod.snd) := by
  induction bars generalizing t with
  | nil => simp [tradeLoop, Direction.allFills, filledQty, filledGain]
  | cons b bars ih =>
      unfold tradeLoop Direction.allFills
      by_cases hdone : t.remaining ≤ 0
      · rw [if_pos hdone, if_pos hdone]
        simp [filledQty, filledGain]
      · obtain ⟨hremaining, hrealized⟩ := bar_eq_fills d lv t b
        have hfills : ((d.fills lv t b).map (Prod.mk b)).map Prod.snd = d.fills lv t b := by
          rw [List.map_map]
          exact List.map_id _
        rw [if_neg hdone, if_neg hdone, (ih _).1, (ih _).2, hremaining, hrealized, List.map_append,
          hfills]
        unfold filledQty filledGain
        rw [List.map_append, List.sum_append, List.map_append, List.sum_append, sub_sub, add_assoc]
        exact ⟨rfl, rfl⟩

/-- **What a simulation earns**: what its fills earn, and what is left of it at the last close.
Source: `app/services/backtest_jobs.py` `BacktestJobService._simulate_long_trade`. Kind: P -/
theorem simulate_pnl {candles : List Candle} {entryIdx : ℤ}
    {entryPrice atr stopAtrMult tpAtrMult trailAtrMult : ℚ} (hne : candles ≠ []) :
    let lv := d.levels entryPrice atr stopAtrMult tpAtrMult trailAtrMult
    let fs := (d.allFills lv {} (pySliceFrom candles entryIdx)).map Prod.snd
    ∃ ret reason, d.simulate candles entryIdx entryPrice atr stopAtrMult tpAtrMult trailAtrMult =
      .ok (filledGain d lv fs +
        (if 0 < 1 - filledQty fs then
          d.gain lv (candles.getLast hne).close * (1 - filledQty fs) else 0), ret, reason) := by
  intro lv fs
  obtain ⟨hremaining, hrealized⟩ :=
    tradeLoop_eq_fills d lv {} (pySliceFrom candles entryIdx)
  have hleft : (tradeLoop (d.bar lv) {} (pySliceFrom candles entryIdx)).remaining =
      1 - filledQty fs := hremaining
  have hearned : (tradeLoop (d.bar lv) {} (pySliceFrom candles entryIdx)).realized =
      filledGain d lv fs := hrealized.trans (zero_add _)
  rw [Direction.simulate_eq]
  dsimp only
  by_cases hopen : 0 < 1 - filledQty fs
  · rw [if_pos hopen, settle_at_end (hleft ▸ hopen) hne, hearned, hleft]
    exact ⟨_, _, rfl⟩
  · rw [if_neg hopen, settle_of_done (hleft ▸ not_lt.mp hopen), hearned, add_zero]
    exact ⟨_, _, rfl⟩

/-- **The fills of a simulation are those of the bars that it reaches.** Source:
`app/services/backtest_jobs.py` `BacktestJobService._simulate_long_trade`. Kind: L -/
theorem mem_allFills :
    (b, f) ∈ d.allFills lv t bars ↔
      ∃ before after, bars = before ++ b :: after ∧
        0 < (tradeLoop (d.bar lv) t before).remaining ∧
        f ∈ d.fills lv (tradeLoop (d.bar lv) t before) b := by
  induction bars generalizing t with
  | nil =>
      constructor
      · intro h
        exact absurd h List.not_mem_nil
      · rintro ⟨before, after, h, -⟩
        exact absurd h (by simp)
  | cons c bars ih =>
      unfold Direction.allFills
      by_cases hdone : t.remaining ≤ 0
      · rw [if_pos hdone]
        constructor
        · intro h
          exact absurd h List.not_mem_nil
        · rintro ⟨before, after, -, hleft, -⟩
          rw [tradeLoop_of_done hdone] at hleft
          exact absurd hdone (not_le.mpr hleft)
      · rw [if_neg hdone, List.mem_append, ih]
        constructor
        · rintro (h | ⟨before, after, rfl, hleft, hf⟩)
          · obtain ⟨g, hg, heq⟩ := List.mem_map.mp h
            obtain ⟨rfl, rfl⟩ := Prod.mk.inj heq
            exact ⟨[], bars, rfl, not_le.mp hdone, hg⟩
          · refine ⟨c :: before, after, rfl, ?_⟩
            rw [tradeLoop, if_neg hdone]
            exact ⟨hleft, hf⟩
        · rintro ⟨before, after, hbars, hleft, hf⟩
          cases before with
          | nil =>
              obtain ⟨rfl, -⟩ := List.cons.inj hbars
              exact Or.inl (List.mem_map_of_mem hf)
          | cons c' before =>
              obtain ⟨rfl, rfl⟩ := List.cons.inj hbars
              rw [tradeLoop, if_neg hdone] at hleft hf
              exact Or.inr ⟨before, after, rfl, hleft, hf⟩

/-! ## Bars that gap -/

/-- The room between the best price and its trailing stop is not negative. Source:
`app/services/backtest_jobs.py` `BacktestJobService._simulate_long_trade`. Kind: D -/
def TradeLevels.Trails (lv : TradeLevels) : Prop := 0 ≤ lv.atr * lv.trailAtrMult

/-- The bar does not lie beyond the stop in force: the stop of an open trade, the trailing stop of a
half-closed one. A bar that halves the trade sets its trailing stop from its own best price, and does
not lie beyond that one when there is room between them. Source: none: infrastructure. Kind: D -/
structure NotGapped (d : Direction) (lv : TradeLevels) (t : TradeState) (b : Candle) : Prop where
  stop : t.state = .OPEN → d.AtMost lv.stopPrice (d.winning b)
  trailing : t.state ≠ .OPEN → ∀ stop, t.trailingStop = some stop → d.AtMost stop (d.winning b)
  halving : t.state = .OPEN → ¬ d.AtMost (d.losing b) lv.stopPrice →
    d.AtMost lv.takeProfitPrice (d.winning b) → lv.Trails

/-- **No fill is better than its bar**: no price of a long exit is above the high of the bar on which
it happens, and none of a short exit below its low. Source: `docs/prd.md` 12. Kind: D -/
def FilledInRange (d : Direction) (lv : TradeLevels) (bars : List Candle) : Prop :=
  ∀ b f, (b, f) ∈ d.allFills lv {} bars → d.AtMost f.price (d.winning b)

/-- After its half close a trade has a best price above zero and the trailing stop of that price; and
while some of it is left, there is room between them. Source: `app/services/backtest_jobs.py`
`BacktestJobService._simulate_long_trade`. Kind: D -/
def Armed (d : Direction) (lv : TradeLevels) (t : TradeState) : Prop :=
  t.state ≠ .OPEN → ∃ best, 0 < best ∧ t.best = some best ∧
    t.trailingStop = some (d.trail lv best) ∧ (0 < t.remaining → lv.Trails)

theorem Candle.Traded.winning_pos (hb : b.Traded) : 0 < d.winning b := by
  cases d with
  | long => exact hb.low_pos.trans_le (hb.low_le_open.trans hb.open_le_high)
  | short => exact hb.low_pos

theorem Candle.Traded.losing_atMost_winning (hb : b.Traded) : d.AtMost (d.losing b) (d.winning b) := by
  cases d with
  | long => exact hb.low_le_open.trans hb.open_le_high
  | short => exact hb.low_le_open.trans hb.open_le_high

/-- The trailing stop of a price above zero is no better than the price exactly when there is room
between them. Source: none: infrastructure. Kind: L -/
theorem trail_atMost_self_iff (hx : 0 < x) : d.AtMost (d.trail lv x) x ↔ lv.Trails := by
  cases d with
  | long =>
      constructor
      · intro h
        exact (sub_le_self_iff x).mp ((le_max_left _ _).trans h)
      · intro h
        exact max_le (sub_le_self x h) hx.le
  | short => exact le_add_iff_nonneg_right x

theorem better_pos (hx : 0 < x) (hy : 0 < y) : 0 < d.better x y := by
  rcases d.better_eq_or x y with h | h
  · rwa [h]
  · rwa [h]

/-- The fills of a look at a trailing stop are in range exactly when the stop is, provided that a stop
out of range is touched. Source: none: infrastructure. Kind: L -/
theorem trailedFills_inRange_iff (hb : b.Traded) :
    (∀ f ∈ d.trailedFills stop b qty, d.AtMost f.price (d.winning b)) ↔
      d.AtMost stop (d.winning b) := by
  unfold Direction.trailedFills
  by_cases htouch : d.AtMost (d.losing b) stop
  · rw [if_pos htouch]
    simp
  · rw [if_neg htouch]
    refine ⟨fun _ => ?_, fun _ f hf => absurd hf List.not_mem_nil⟩
    exact (Direction.atMost_of_not htouch).trans hb.losing_atMost_winning

/-- The best price of a half-closed trade, the bar included. Source: none: infrastructure.
Kind: L -/
theorem bestWith_eq {best : ℚ} (hbest : t.best = some best) (hpos : 0 < best) :
    d.bestWith t b = d.better best (d.winning b) := by
  unfold Direction.bestWith PositionStateMachine.highestOr
  rw [hbest]
  exact congrArg (d.better · (d.winning b)) (if_neg hpos.ne')

theorem armed_trailed {best : ℚ} (hpos : 0 < best) (hbest : t.best = some best)
    (hstop : t.trailingStop = some (d.trail lv best))
    (hroom : ¬ d.AtMost (d.losing b) (d.trail lv best) → lv.Trails) :
    Armed d lv (d.trailed lv (d.trail lv best) b t) := by
  intro _
  unfold Direction.trailed
  split_ifs with htouch
  · exact ⟨best, hpos, hbest, hstop, fun h => absurd h (lt_irrefl 0)⟩
  · exact ⟨best, hpos, hbest, hstop, fun _ => hroom htouch⟩

/-- A stop that a bar does not touch leaves room to the bar's best price. Source: none:
infrastructure. Kind: L -/
theorem trails_of_not_touched (hb : b.Traded)
    (h : ¬ d.AtMost (d.losing b) (d.trail lv (d.winning b))) : lv.Trails :=
  (trail_atMost_self_iff hb.winning_pos).mp
    ((Direction.atMost_of_not h).trans hb.losing_atMost_winning)

/-- A bar keeps a trade armed. Source: `app/services/backtest_jobs.py`
`BacktestJobService._simulate_long_trade`. Kind: L -/
theorem armed_bar (hb : b.Traded) (hleft : 0 < t.remaining) (h : Armed d lv t) :
    Armed d lv (d.bar lv t b) := by
  by_cases hopen : t.state = .OPEN
  · rw [Direction.bar_eq, if_pos hopen]
    split_ifs with hstop hprofit
    · exact fun hne => absurd hopen hne
    · dsimp only
      rw [Direction.better_eq_left hprofit]
      exact armed_trailed hb.winning_pos rfl rfl (trails_of_not_touched hb)
    · exact h
  · obtain ⟨best, hpos, hbest, -, hroom⟩ := h hopen
    rw [Direction.bar_of_ne_open d lv b hopen, bestWith_eq hbest hpos]
    exact armed_trailed (better_pos hpos hb.winning_pos) rfl rfl fun _ => hroom hleft

/-- **One bar**: its fills are in range exactly when it does not gap over the stop in force. Source:
`app/services/backtest_jobs.py` `BacktestJobService._simulate_long_trade`. Kind: L -/
theorem fills_inRange_iff (hb : b.Traded) (hleft : 0 < t.remaining) (h : Armed d lv t) :
    (∀ f ∈ d.fills lv t b, d.AtMost f.price (d.winning b)) ↔ NotGapped d lv t b := by
  unfold Direction.fills
  by_cases hopen : t.state = .OPEN
  · rw [if_pos hopen]
    by_cases hstop : d.AtMost (d.losing b) lv.stopPrice
    · rw [if_pos hstop, List.forall_mem_singleton]
      exact ⟨fun hle => ⟨fun _ => hle, fun hne => absurd hopen hne, fun _ hn => absurd hstop hn⟩,
        fun hgap => hgap.stop hopen⟩
    · have hinside : d.AtMost lv.stopPrice (d.winning b) :=
        (Direction.atMost_of_not hstop).trans hb.losing_atMost_winning
      rw [if_neg hstop]
      by_cases hprofit : d.AtMost lv.takeProfitPrice (d.winning b)
      · rw [if_pos hprofit, List.forall_mem_cons, trailedFills_inRange_iff hb,
          Direction.better_eq_left hprofit, trail_atMost_self_iff hb.winning_pos]
        exact ⟨fun hle => ⟨fun _ => hinside, fun hne => absurd hopen hne, fun _ _ _ => hle.2⟩,
          fun hgap => ⟨hprofit, hgap.halving hopen hstop hprofit⟩⟩
      · rw [if_neg hprofit]
        exact ⟨fun _ => ⟨fun _ => hinside, fun hne => absurd hopen hne,
          fun _ _ hn => absurd hn hprofit⟩, fun _ f hf => absurd hf List.not_mem_nil⟩
  · obtain ⟨best, hpos, hbest, htrailing, hroom⟩ := h hopen
    have hself : d.AtMost (d.trail lv (d.winning b)) (d.winning b) :=
      (trail_atMost_self_iff hb.winning_pos).mpr (hroom hleft)
    rw [if_neg hopen, trailedFills_inRange_iff hb, bestWith_eq hbest hpos,
      Direction.atMost_trail_better_iff]
    constructor
    · rintro ⟨hle, -⟩
      refine ⟨fun h => absurd h hopen, fun _ stop hstop => ?_, fun h => absurd h hopen⟩
      rwa [← Option.some.inj (htrailing.symm.trans hstop)]
    · intro hgap
      exact ⟨hgap.trailing hopen _ htrailing, hself⟩

/-- **When the fills are in range**: in both directions, for all levels and every list of bars whose
prices are above zero and enclosed by their low and high, no fill of a simulation is better than the
bar on which it happens, exactly when none of the bars that it reaches gaps over the stop in force.
Source: `app/services/backtest_jobs.py` `BacktestJobService._simulate_long_trade`. Kind: P -/
theorem filledInRange_iff (d : Direction) (lv : TradeLevels) (bars : List Candle)
    (hbars : ∀ b ∈ bars, b.Traded) :
    FilledInRange d lv bars ↔
      ∀ before b after, bars = before ++ b :: after →
        0 < (tradeLoop (d.bar lv) {} before).remaining →
        NotGapped d lv (tradeLoop (d.bar lv) {} before) b := by
  have hone : ∀ before b after, bars = before ++ b :: after →
      0 < (tradeLoop (d.bar lv) {} before).remaining →
      ((∀ f ∈ d.fills lv (tradeLoop (d.bar lv) {} before) b, d.AtMost f.price (d.winning b)) ↔
        NotGapped d lv (tradeLoop (d.bar lv) {} before) b) := by
    rintro before b after rfl hleft
    refine fills_inRange_iff (hbars b (by simp)) hleft ?_
    exact tradeLoop_invariant (fun hne => absurd rfl hne) fun t c hc hleft h =>
      armed_bar (hbars c (List.mem_append_left _ hc)) hleft h
  constructor
  · intro h before b after heq hleft
    exact (hone before b after heq hleft).mp fun f hf =>
      h b f (mem_allFills.mpr ⟨before, after, heq, hleft, hf⟩)
  · intro h b f hf
    obtain ⟨before, after, heq, hleft, hf⟩ := mem_allFills.mp hf
    exact (hone before b after heq hleft).mpr (h before b after heq hleft) f hf

/-- A long trade from 100 with a stop at 90 is stopped at 90 on a bar whose high is 82.
Source: `app/services/backtest_jobs.py` `BacktestJobService._simulate_long_trade`. Kind: C -/
theorem not_filledInRange_gap :
    (∀ b ∈ [flatCandle 100, { flatCandle 80 with high := 82, low := 78 }], b.Traded) ∧
      ¬ FilledInRange .long (longLevels 100 10 1 1 1)
        [flatCandle 100, { flatCandle 80 with high := 82, low := 78 }] := by
  constructor
  · simp only [List.forall_mem_cons]
    refine ⟨⟨?_, ?_, ?_, ?_, ?_⟩, ⟨?_, ?_, ?_, ?_, ?_⟩, fun b hb => absurd hb List.not_mem_nil⟩
    all_goals decide +kernel
  · intro h
    have hfill := h { flatCandle 80 with high := 82, low := 78 } ⟨.stopLoss, 90, 1⟩
      (by decide +kernel)
    exact absurd hfill (by decide +kernel)

/-- A trade whose bars do not gap, halved at 110 and trailed at 100. Source:
`app/services/backtest_jobs.py` `BacktestJobService._simulate_long_trade`. Kind: P -/
theorem filledInRange_iff_trailed :
    NotGapped .long (longLevels 100 10 1 1 1)
      (tradeLoop (Direction.long.bar (longLevels 100 10 1 1 1)) {} [flatCandle 110])
      { flatCandle 105 with low := 95 } := by
  have hbars : ∀ b ∈ [flatCandle 110, { flatCandle 105 with low := 95 }], b.Traded := by
    simp only [List.forall_mem_cons]
    refine ⟨⟨?_, ?_, ?_, ?_, ?_⟩, ⟨?_, ?_, ?_, ?_, ?_⟩, fun b hb => absurd hb List.not_mem_nil⟩
    all_goals decide +kernel
  have hrange : FilledInRange .long (longLevels 100 10 1 1 1)
      [flatCandle 110, { flatCandle 105 with low := 95 }] := by
    have hall : ∀ p ∈ Direction.long.allFills (longLevels 100 10 1 1 1) {}
        [flatCandle 110, { flatCandle 105 with low := 95 }],
        Direction.long.AtMost p.2.price (Direction.long.winning p.1) := by
      decide +kernel
    exact fun b f hf => hall (b, f) hf
  exact (filledInRange_iff .long (longLevels 100 10 1 1 1) _ hbars).mp hrange [flatCandle 110] _ []
    rfl (by decide +kernel)

end rules

end HaruTrade
