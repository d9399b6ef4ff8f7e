import HaruTrade.Backtest.Direction

/-!
# The trailing stop and the bar that touches it

After the half close a bar may both make a new best price and touch the trailing stop in force. The
conservative rule is that the stop goes first; the simulation raises the stop by the bar's own best
price before it looks.

* `Touches`, `ClosedAt` — a bar that touches the stop in force, and the close of what is left.
* `StopFirst` — the conservative rule, of every bar of a simulation.
* `QuietBar` — the bar asks for no better stop than the one in force.
* **`stopFirst_iff`** — the simulation follows the rule exactly on the lists of bars whose touching
  bars are quiet.
-/

namespace HaruTrade

variable {d : Direction} {lv : TradeLevels} {t : TradeState} {b : Candle} {best stop price x y : ℚ}

/-- Some of a half-closed trade is left, and a bar touches the trailing stop that is in force before
it. Source: `docs/prd.md` 4.4. Kind: D -/
structure Touches (d : Direction) (t : TradeState) (b : Candle) (stop : ℚ) : Prop where
  half : t.state = .HALF_CLOSED
  left : 0 < t.remaining
  inForce : t.trailingStop = some stop
  touched : d.AtMost (d.losing b) stop

/-- A bar closes what is left of a trade at a price. Source: `app/services/backtest_jobs.py`
`BacktestJobService._simulate_long_trade`. Kind: D -/
structure ClosedAt (d : Direction) (lv : TradeLevels) (t : TradeState) (b : Candle) (price : ℚ) :
    Prop where
  remaining : (d.bar lv t b).remaining = 0
  realized : (d.bar lv t b).realized = t.realized + d.gain lv price * t.remaining

/-- **The stop goes first**: a bar that touches the trailing stop in force closes what is left, at a
price no better than that stop. Source: `docs/prd.md` 4.4. Kind: D -/
def StopFirst (d : Direction) (lv : TradeLevels) (bars : List Candle) : Prop :=
  ∀ before b after stop, bars = before ++ b :: after →
    Touches d (tradeLoop (d.bar lv) {} before) b stop →
    ∃ price, d.AtMost price stop ∧ ClosedAt d lv (tradeLoop (d.bar lv) {} before) b price

/-- The bar's own end asks for no better stop than the best price before it: it makes no new best
price, or the stop of a long trade stays at zero. Source: none: infrastructure. Kind: D -/
def NoBetterStop (lv : TradeLevels) (best : ℚ) (b : Candle) : Direction → Prop
  | .long => b.high ≤ best ∨ b.high ≤ lv.atr * lv.trailAtrMult
  | .short => best ≤ b.low

/-- A bar does not move the stop in force in the trade's favour. The source takes a best price of
zero for a missing one, so that there the bar has to reach the stop of its own end.
Source: none: infrastructure. Kind: D -/
def QuietBar (d : Direction) (lv : TradeLevels) (t : TradeState) (b : Candle) : Prop :=
  ∀ best, t.best = some best →
    NoBetterStop lv best b d ∧
      (best = 0 → d.AtMost (d.losing b) (d.trail lv (d.winning b)))

theorem noBetterStop_iff :
    NoBetterStop lv best b d ↔ d.AtMost (d.trail lv (d.winning b)) (d.trail lv best) := by
  cases d with
  | long =>
      constructor
      · rintro (h | h)
        · exact max_le_max (sub_le_sub_right h _) le_rfl
        · exact max_le (le_max_of_le_right (sub_nonpos.mpr h)) (le_max_right _ _)
      · intro h
        rcases le_max_iff.mp ((le_max_left _ _).trans h) with h | h
        · exact Or.inl ((sub_le_sub_iff_right _).mp h)
        · exact Or.inr (sub_nonpos.mp h)
  | short => exact (add_le_add_iff_right _).symm

/-- What is left is closed at one price only. Source: none: infrastructure. Kind: L -/
theorem gain_mul_injective (hleft : 0 < t.remaining)
    (h : d.gain lv x * t.remaining = d.gain lv y * t.remaining) : x = y := by
  have hgain := mul_right_cancel₀ hleft.ne' h
  cases d with
  | long => exact sub_left_injective hgain
  | short => exact sub_right_injective hgain

/-- A bar after the half close closes what is left at the stop of the best price, the bar's own
included, when it touches that stop. Source: `app/services/backtest_jobs.py`
`BacktestJobService._simulate_long_trade`. Kind: L -/
theorem closedAt_iff (hhalf : t.state = .HALF_CLOSED) (hleft : 0 < t.remaining) :
    ClosedAt d lv t b price ↔
      price = d.trail lv (d.bestWith t b) ∧
        d.AtMost (d.losing b) (d.trail lv (d.bestWith t b)) := by
  have hopen : t.state ≠ .OPEN := by
    rw [hhalf]
    decide
  have hbar := Direction.bar_of_ne_open d lv b hopen
  by_cases htouch : d.AtMost (d.losing b) (d.trail lv (d.bestWith t b))
  · have hclosed := hbar.trans (if_pos htouch)
    constructor
    · rintro ⟨-, hrealized⟩
      rw [hclosed] at hrealized
      exact ⟨(gain_mul_injective hleft (add_left_cancel hrealized)).symm, htouch⟩
    · rintro ⟨rfl, -⟩
      exact ⟨congrArg TradeState.remaining hclosed, congrArg TradeState.realized hclosed⟩
  · have hheld := hbar.trans (if_neg htouch)
    constructor
    · rintro ⟨hremaining, -⟩
      rw [hheld] at hremaining
      exact absurd hremaining hleft.ne'
    · rintro ⟨-, h⟩
      exact absurd h htouch

/-- **One bar**: it closes what is left at no better price than the stop in force exactly when it is
quiet. Source: `app/services/backtest_jobs.py` `BacktestJobService._simulate_long_trade`. Kind: L -/
theorem exists_closedAt_iff (ht : d.Trailing lv t) (htouch : Touches d t b stop) :
    (∃ price, d.AtMost price stop ∧ ClosedAt d lv t b price) ↔ QuietBar d lv t b := by
  obtain ⟨best, hbest, hstop⟩ := ht (by rw [htouch.half]; decide)
  obtain rfl : stop = d.trail lv best := Option.some.inj (htouch.inForce.symm.trans hstop)
  have hquiet : QuietBar d lv t b ↔ NoBetterStop lv best b d ∧
      (best = 0 → d.AtMost (d.losing b) (d.trail lv (d.winning b))) := by
    constructor
    · intro h
      exact h best hbest
    · intro h best' hbest'
      rwa [← Option.some.inj (hbest.symm.trans hbest')]
  have hclosed : (∃ price, d.AtMost price (d.trail lv best) ∧ ClosedAt d lv t b price) ↔
      d.AtMost (d.losing b) (d.trail lv (d.bestWith t b)) ∧
        d.AtMost (d.trail lv (d.bestWith t b)) (d.trail lv best) := by
    constructor
    · rintro ⟨price, hle, h⟩
      obtain ⟨rfl, hreached⟩ := (closedAt_iff htouch.half htouch.left).mp h
      exact ⟨hreached, hle⟩
    · rintro ⟨hreached, hle⟩
      exact ⟨_, hle, (closedAt_iff htouch.half htouch.left).mpr ⟨rfl, hreached⟩⟩
  rw [hclosed, hquiet, noBetterStop_iff]
  by_cases hzero : best = 0
  · -- the best price is taken for a missing one
    have hwith : d.bestWith t b = d.winning b := by
      unfold Direction.bestWith PositionStateMachine.highestOr
      rw [hbest]
      dsimp only
      rw [if_pos hzero, Direction.better_self]
    rw [hwith]
    exact ⟨fun ⟨hreached, hle⟩ => ⟨hle, fun _ => hreached⟩, fun ⟨hle, h⟩ => ⟨h hzero, hle⟩⟩
  · have hwith : d.bestWith t b = d.better best (d.winning b) := by
      unfold Direction.bestWith PositionStateMachine.highestOr
      rw [hbest]
      dsimp only
      rw [if_neg hzero]
    have hreached : d.AtMost (d.losing b) (d.trail lv (d.better best (d.winning b))) :=
      htouch.touched.trans (Direction.trail_mono (d.atMost_better_left _ _))
    rw [hwith, Direction.atMost_trail_better_iff]
    exact ⟨fun ⟨_, _, hle⟩ => ⟨hle, fun h => absurd h hzero⟩,
      fun ⟨hle, _⟩ => ⟨hreached, d.atMost_refl _, hle⟩⟩

/-- **When the stop goes first**: in both directions, for all levels and every list of bars, a
simulation closes what is left on every bar that touches the trailing stop in force, at no better
price than that stop, exactly when all of these bars are quiet. Source:
`app/services/backtest_jobs.py` `BacktestJobService._simulate_long_trade`. Kind: P -/
theorem stopFirst_iff (d : Direction) (lv : TradeLevels) (bars : List Candle) :
    StopFirst d lv bars ↔
      ∀ before b after stop, bars = before ++ b :: after →
        Touches d (tradeLoop (d.bar lv) {} before) b stop →
        QuietBar d lv (tradeLoop (d.bar lv) {} before) b := by
  constructor
  · intro h before b after stop hbars htouch
    exact (exists_closedAt_iff (Direction.trailing_loop before) htouch).mp
      (h before b after stop hbars htouch)
  · intro h before b after stop hbars htouch
    exact (exists_closedAt_iff (Direction.trailing_loop before) htouch).mpr
      (h before b after stop hbars htouch)

/-- A long trade from 100 with a stop of 100 in force, on a bar from 130 down to 95: the simulation
closes at 120. Source: `app/services/backtest_jobs.py` `BacktestJobService._simulate_long_trade`.
Kind: C -/
theorem not_stopFirst_new_high :
    ¬ StopFirst .long (longLevels 100 10 1 1 1)
      [{ flatCandle 110 with low := 105 }, { flatCandle 100 with high := 130, low := 95 }] := by
  intro h
  obtain ⟨price, hle, hclosed⟩ := h [{ flatCandle 110 with low := 105 }] _ [] 100 rfl
    ⟨by decide +kernel, by decide +kernel, by decide +kernel, by decide +kernel⟩
  have hprice := ((closedAt_iff (by decide +kernel) (by decide +kernel)).mp hclosed).1
  have hat : price = 120 := hprice.trans (by decide +kernel)
  rw [hat] at hle
  exact absurd hle (by decide +kernel)

end HaruTrade
