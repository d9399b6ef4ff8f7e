import HaruTrade.Backtest.Simulation

/-!
# Both directions of a trade

The two simulations are written out separately in the source, and a bar does the same to both up to
the direction in which prices are better. `Direction.bar_eq` reads `longBar` and `shortBar` as one
rule over a direction.

* `Direction.AtMost`, `Direction.losing`, `Direction.winning` — the order of the prices of a
  direction, and the two ends of a bar in it.
* `Direction.bar_eq` — **what a bar does**.
* `BacktestSignal.direction` — the direction of a signal's trade.
* `tradeLoop_invariant` — what the bars keep, the loop keeps.
* `Direction.Trailing` — after the half close the trailing stop is the one of the best price.
-/

namespace HaruTrade

/-- The direction of a trade: the two simulations. Source: `app/services/backtest_jobs.py`
`BacktestJobService._simulate_trade`. Kind: D -/
inductive Direction where
  | long
  | short
  deriving DecidableEq, Repr

namespace Direction

/-- An exit at `x` earns at most what an exit at `y` earns. Source: none: infrastructure. Kind: D -/
def AtMost : Direction → ℚ → ℚ → Prop
  | .long, x, y => x ≤ y
  | .short, x, y => y ≤ x

instance : (d : Direction) → (x y : ℚ) → Decidable (d.AtMost x y)
  | .long, x, y => inferInstanceAs (Decidable (x ≤ y))
  | .short, x, y => inferInstanceAs (Decidable (y ≤ x))

/-- The better one of two exits. Source: none: infrastructure. Kind: D -/
def better : Direction → ℚ → ℚ → ℚ
  | .long => max
  | .short => min

/-- The end of a bar that is looked at for a stop. Source: none: infrastructure. Kind: D -/
def losing : Direction → Candle → ℚ
  | .long, b => b.low
  | .short, b => b.high

/-- The end of a bar that is looked at for a profit: no exit on the bar earns more.
Source: none: infrastructure. Kind: D -/
def winning : Direction → Candle → ℚ
  | .long, b => b.high
  | .short, b => b.low

/-- What an exit gains for each unit. Source: `app/services/backtest_jobs.py`
`BacktestJobService._simulate_long_trade`. Kind: D -/
def gain (lv : TradeLevels) : Direction → ℚ → ℚ
  | .long, price => price - lv.entryPrice
  | .short, price => lv.entryPrice - price

/-- The trailing stop of a best price. Source: `app/services/backtest_jobs.py`
`BacktestJobService._simulate_long_trade`. Kind: D -/
def trail (lv : TradeLevels) : Direction → ℚ → ℚ
  | .long, best => max (best - lv.atr * lv.trailAtrMult) 0
  | .short, best => best + lv.atr * lv.trailAtrMult

/-- The levels of a simulation. Source: `app/services/backtest_jobs.py`
`BacktestJobService._simulate_trade`. Kind: D -/
def levels : Direction → ℚ → ℚ → ℚ → ℚ → ℚ → TradeLevels
  | .long => longLevels
  | .short => shortLevels

/-- What a bar does to a trade. Source: `app/services/backtest_jobs.py`
`BacktestJobService._simulate_trade`. Kind: D -/
def bar : Direction → TradeLevels → TradeState → Candle → TradeState
  | .long => longBar
  | .short => shortBar

/-- The simulation of a direction. Source: `app/services/backtest_jobs.py`
`BacktestJobService._simulate_trade`. Kind: D -/
def simulate : Direction → List Candle → ℤ → ℚ → ℚ → ℚ → ℚ → ℚ → Except Exn (ℚ × ℚ × String)
  | .long => BacktestJobService.simulateLongTrade
  | .short => BacktestJobService.simulateShortTrade

/-- The best price of a half-closed trade, the bar included. Source:
`app/services/backtest_jobs.py` `BacktestJobService._simulate_long_trade`. Kind: D -/
def bestWith (d : Direction) (t : TradeState) (b : Candle) : ℚ :=
  d.better (PositionStateMachine.highestOr t.best (d.winning b)) (d.winning b)

/-- The look at the trailing stop. Source: `app/services/backtest_jobs.py`
`BacktestJobService._simulate_long_trade`. Kind: D -/
def trailed (d : Direction) (lv : TradeLevels) (stop : ℚ) (b : Candle) (t : TradeState) :
    TradeState :=
  if d.AtMost (d.losing b) stop then t.close (d.gain lv stop) "trailing_stop" else t

variable {d : Direction} {lv : TradeLevels} {t : TradeState} {b : Candle} {bars : List Candle}
  {x y z best : ℚ}

theorem atMost_refl (d : Direction) (x : ℚ) : d.AtMost x x := by
  cases d with
  | long => exact le_refl x
  | short => exact le_refl x

theorem AtMost.trans (hxy : d.AtMost x y) (hyz : d.AtMost y z) : d.AtMost x z := by
  cases d with
  | long => exact le_trans hxy hyz
  | short => exact le_trans hyz hxy

theorem atMost_of_not (h : ¬ d.AtMost x y) : d.AtMost y x := by
  cases d with
  | long => exact (not_le.mp h).le
  | short => exact (not_le.mp h).le

theorem atMost_better_left (d : Direction) (x y : ℚ) : d.AtMost x (d.better x y) := by
  cases d with
  | long => exact le_max_left x y
  | short => exact min_le_left x y

theorem atMost_better_right (d : Direction) (x y : ℚ) : d.AtMost y (d.better x y) := by
  cases d with
  | long => exact le_max_right x y
  | short => exact min_le_right x y

@[simp] theorem better_self (d : Direction) (x : ℚ) : d.better x x = x := by
  cases d with
  | long => exact max_self x
  | short => exact min_self x

theorem better_eq_or (d : Direction) (x y : ℚ) : d.better x y = x ∨ d.better x y = y := by
  cases d with
  | long => exact max_choice x y
  | short => exact min_choice x y

theorem better_eq_left (h : d.AtMost y x) : d.better x y = x := by
  cases d with
  | long => exact max_eq_left h
  | short => exact min_eq_left h

/-- A better best price has a better trailing stop. Source: none: infrastructure. Kind: L -/
theorem trail_mono (h : d.AtMost x y) : d.AtMost (d.trail lv x) (d.trail lv y) := by
  cases d with
  | long => exact max_le_max (sub_le_sub_right h _) le_rfl
  | short => exact add_le_add h le_rfl

/-- The stop of the better of two prices is at most a stop when both stops are.
Source: none: infrastructure. Kind: L -/
theorem atMost_trail_better_iff :
    d.AtMost (d.trail lv (d.better x y)) z ↔
      d.AtMost (d.trail lv x) z ∧ d.AtMost (d.trail lv y) z := by
  have hx : d.AtMost (d.trail lv x) (d.trail lv (d.better x y)) :=
    trail_mono (d.atMost_better_left x y)
  have hy : d.AtMost (d.trail lv y) (d.trail lv (d.better x y)) :=
    trail_mono (d.atMost_better_right x y)
  refine ⟨fun h => ⟨hx.trans h, hy.trans h⟩, fun ⟨h, h'⟩ => ?_⟩
  rcases d.better_eq_or x y with heq | heq
  · rwa [heq]
  · rwa [heq]

/-- **What a bar does to a trade**, in both directions: the stop is looked at before the profit
level, and the trailing stop after the bar's own best price. Source:
`app/services/backtest_jobs.py` `BacktestJobService._simulate_long_trade`. Kind: L -/
theorem bar_eq :
    d.bar lv t b =
      if t.state = .OPEN then
        if d.AtMost (d.losing b) lv.stopPrice then t.close (d.gain lv lv.stopPrice) "stop_loss"
        else if d.AtMost lv.takeProfitPrice (d.winning b) then
          let best := d.better (d.winning b) lv.takeProfitPrice
          d.trailed lv (d.trail lv best) b
            (t.halve (d.gain lv lv.takeProfitPrice) best (d.trail lv best))
        else t
      else
        d.trailed lv (d.trail lv (d.bestWith t b)) b
          { t with
            best := some (d.bestWith t b)
            trailingStop := some (d.trail lv (d.bestWith t b)) } := by
  cases d with
  | long => rfl
  | short => rfl

/-- A bar after the half close. Source: `app/services/backtest_jobs.py`
`BacktestJobService._simulate_long_trade`. Kind: L -/
theorem bar_of_ne_open (d : Direction) (lv : TradeLevels) (b : Candle) (h : t.state ≠ .OPEN) :
    d.bar lv t b =
      d.trailed lv (d.trail lv (d.bestWith t b)) b
        { t with
          best := some (d.bestWith t b)
          trailingStop := some (d.trail lv (d.bestWith t b)) } := by
  rw [bar_eq]
  exact if_neg h

/-- A simulation is the loop over the bars from the entry on, and the settlement of what is left.
Source: `app/services/backtest_jobs.py` `BacktestJobService._simulate_long_trade`. Kind: L -/
theorem simulate_eq {candles : List Candle} {entryIdx : ℤ}
    {entryPrice atr stopAtrMult tpAtrMult trailAtrMult : ℚ} :
    d.simulate candles entryIdx entryPrice atr stopAtrMult tpAtrMult trailAtrMult =
      let lv := d.levels entryPrice atr stopAtrMult tpAtrMult trailAtrMult
      (tradeLoop (d.bar lv) {} (pySliceFrom candles entryIdx)).settle candles entryPrice
        (d.gain lv) := by
  cases d with
  | long => rfl
  | short => rfl

end Direction

/-- The direction that the trade of a signal is simulated in. Source:
`app/services/backtest_jobs.py` `BacktestJobService._simulate_trade`. Kind: D -/
def BacktestSignal.direction (signal : BacktestSignal) : Direction :=
  if signal.side = "sell" then .short else .long

/-- What every bar of a trade keeps while some of it is left, the loop keeps.
Source: `app/services/backtest_jobs.py` `BacktestJobService._simulate_long_trade`. Kind: L -/
theorem tradeLoop_invariant {bar : TradeState → Candle → TradeState} {P : TradeState → Prop}
    {t : TradeState} {bars : List Candle} (h : P t)
    (hstep : ∀ t, ∀ b ∈ bars, 0 < t.remaining → P t → P (bar t b)) : P (tradeLoop bar t bars) := by
  induction bars generalizing t with
  | nil => exact h
  | cons b bars ih =>
      unfold tradeLoop
      by_cases hdone : t.remaining ≤ 0
      · rw [if_pos hdone]
        exact h
      · rw [if_neg hdone]
        exact ih (hstep t b List.mem_cons_self (not_le.mp hdone) h)
          fun t c hc => hstep t c (List.mem_cons_of_mem b hc)

namespace Direction

variable {d : Direction} {lv : TradeLevels} {t : TradeState} {b : Candle} {bars : List Candle}

/-- After its half close a trade has a best price, and the trailing stop in force is the one of that
price. Source: `app/services/backtest_jobs.py` `BacktestJobService._simulate_long_trade`. Kind: D -/
def Trailing (d : Direction) (lv : TradeLevels) (t : TradeState) : Prop :=
  t.state ≠ .OPEN → ∃ best, t.best = some best ∧ t.trailingStop = some (d.trail lv best)

theorem trailing_trailed {best : ℚ} (stop : ℚ) (hbest : t.best = some best)
    (hstop : t.trailingStop = some (d.trail lv best)) : d.Trailing lv (d.trailed lv stop b t) := by
  intro _
  unfold trailed
  split_ifs
  · exact ⟨best, hbest, hstop⟩
  · exact ⟨best, hbest, hstop⟩

/-- A bar keeps the trailing stop that of the best price. Source:
`app/services/backtest_jobs.py` `BacktestJobService._simulate_long_trade`. Kind: L -/
theorem trailing_bar (h : d.Trailing lv t) : d.Trailing lv (d.bar lv t b) := by
  rw [bar_eq]
  dsimp only
  split_ifs with hopen
  · exact fun hne => absurd hopen hne
  · exact trailing_trailed _ rfl rfl
  · exact h
  · exact trailing_trailed _ rfl rfl

theorem trailing_loop (bars : List Candle) : d.Trailing lv (tradeLoop (d.bar lv) {} bars) :=
  tradeLoop_invariant (fun hne => absurd rfl hne) fun _ _ _ _ h => trailing_bar h

end Direction

end HaruTrade
