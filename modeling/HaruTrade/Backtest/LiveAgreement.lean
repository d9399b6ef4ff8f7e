import HaruTrade.Backtest.Simulation
import HaruTrade.Repositories.Ordering

/-!
# The backtest and the live state machine agree

Two programs decide when a position is closed: `PositionStateMachine`, one price at a time, and
`BacktestJobService._simulate_long_trade`, one bar at a time. On bars that trade at one price they
are the same machine.

* `Agrees` — the states that correspond; `agrees_step` — one price keeps them corresponding.
* `live_agrees_with_simulation` — the half close and the final close come at the same price, for the
  same reason.
-/

namespace HaruTrade

/-! ## The two machines -/

/-- One poll: decide, and apply the transition. Source: `app/orders/state_machine.py`
`PositionStateMachine.decide`, `PositionStateMachine.apply`. Kind: D -/
def livePoll (atr trailAtrMult : ℚ) (row : Position) (price : ℚ) : Position :=
  row.apply (PositionStateMachine.decide row.snapshot price atr trailAtrMult)

/-- The position after each of the polls. Source: `app/loops/loop_a_runtime.py`
`LoopARunner._monitor_positions_once`. Kind: D -/
def livePolls (atr trailAtrMult : ℚ) (row : Position) : List ℚ → List Position
  | [] => []
  | price :: prices =>
      livePoll atr trailAtrMult row price ::
        livePolls atr trailAtrMult (livePoll atr trailAtrMult row price) prices

/-- The simulated trade after each of the bars. Source: `app/services/backtest_jobs.py`
`BacktestJobService._simulate_long_trade`. Kind: D -/
def simulatedBars (lv : TradeLevels) (t : TradeState) : List Candle → List TradeState
  | [] => []
  | candle :: candles =>
      let t := if t.remaining ≤ 0 then t else longBar lv t candle
      t :: simulatedBars lv t candles

variable {atr trailAtrMult : ℚ} {lv : TradeLevels} {row : Position} {t : TradeState} {price : ℚ}

/-- **The corresponding states** of a position and of a simulated trade.
Source: `app/orders/state_machine.py` `PositionStateMachine.decide`,
`app/services/backtest_jobs.py` `BacktestJobService._simulate_long_trade`. Kind: D -/
inductive Agrees (lv : TradeLevels) (row : Position) (t : TradeState) : Prop
  | opened (hrow : row.state = .OPEN) (ht : t.state = .OPEN) (hrem : t.remaining = 1)
      (hstop : row.stopPrice = lv.stopPrice) (htp : row.takeProfitPrice = lv.takeProfitPrice)
  | halved (high : ℚ) (hpos : 0 < high) (hrow : row.state = .HALF_CLOSED)
      (ht : t.state = .HALF_CLOSED) (hrem : t.remaining = 1 / 2)
      (hhighest : row.highestPrice = some high) (hbest : t.best = some high)
  | closed (hrow : row.state = .CLOSED) (hrem : t.remaining = 0)
      (hreason : row.closeReason = some t.reason) (hended : t.reason ∈ ["stop_loss", "trailing_stop"])

/-- The trailing stop of the simulation, cut off at zero, is hit by the same positive prices.
Source: `app/services/backtest_jobs.py` `BacktestJobService._simulate_long_trade`. Kind: L -/
theorem le_max_zero_iff {x : ℚ} (hprice : 0 < price) : price ≤ max x 0 ↔ price ≤ x := by
  constructor
  · intro h
    rcases le_max_iff.mp h with h | h
    · exact h
    · exact absurd h (not_le.mpr hprice)
  · intro h
    exact h.trans (le_max_left x 0)

/-! ### One bar of an open trade -/

theorem longBar_of_stop (ht : t.state = .OPEN) (hhit : price ≤ lv.stopPrice) :
    longBar lv t (flatCandle price) = t.close (lv.stopPrice - lv.entryPrice) "stop_loss" := by
  unfold longBar
  rw [if_pos ht]
  exact if_pos hhit

/-- The bar that reaches the target does not reach the new trailing stop.
Source: `app/services/backtest_jobs.py` `BacktestJobService._simulate_long_trade`. Kind: L -/
theorem longBar_of_target (hprice : 0 < price) (hwidth : 0 < lv.atr * lv.trailAtrMult)
    (ht : t.state = .OPEN) (hmiss : ¬ price ≤ lv.stopPrice) (hhit : lv.takeProfitPrice ≤ price) :
    longBar lv t (flatCandle price) = t.halve (lv.takeProfitPrice - lv.entryPrice) price
      (max (price - lv.atr * lv.trailAtrMult) 0) := by
  have hhigh : max price lv.takeProfitPrice = price := max_eq_left hhit
  have hkeep : ¬ price ≤ max (price - lv.atr * lv.trailAtrMult) 0 := by
    rw [le_max_zero_iff hprice]
    linarith
  unfold longBar flatCandle
  simp only [ht, if_true, if_neg hmiss, if_pos hhit, hhigh, if_neg hkeep]

theorem longBar_of_neither (ht : t.state = .OPEN) (hmiss : ¬ price ≤ lv.stopPrice)
    (hbelow : ¬ lv.takeProfitPrice ≤ price) : longBar lv t (flatCandle price) = t := by
  unfold longBar flatCandle
  simp only [ht, if_true, if_neg hmiss, if_neg hbelow]

/-! ### One price -/

/-- An open position at or below its stop is closed by both. Source: `app/orders/state_machine.py`
`PositionStateMachine.decide`. Kind: L -/
theorem agrees_of_stop (hrow : row.state = .OPEN) (ht : t.state = .OPEN)
    (hstop : row.stopPrice = lv.stopPrice) (hhit : price ≤ lv.stopPrice) :
    Agrees lv (livePoll atr trailAtrMult row price) (longBar lv t (flatCandle price)) := by
  have hlive : (PositionStateMachine.decide row.snapshot price atr trailAtrMult).newState = .CLOSED ∧
      (PositionStateMachine.decide row.snapshot price atr trailAtrMult).reason =
        some "stop_loss" := by
    simp [PositionStateMachine.decide, Position.snapshot, hrow, hstop, hhit]
  rw [longBar_of_stop ht hhit]
  refine .closed hlive.1 rfl ?_ ?_
  · unfold livePoll Position.apply
    simp only [hlive.1, hlive.2]
    rfl
  · exact List.mem_cons_self

/-- An open position at or above its target is halved by both. Source:
`app/orders/state_machine.py` `PositionStateMachine.decide`. Kind: L -/
theorem agrees_of_target (hprice : 0 < price) (hwidth : 0 < lv.atr * lv.trailAtrMult)
    (hrow : row.state = .OPEN) (ht : t.state = .OPEN) (hrem : t.remaining = 1)
    (hstop : row.stopPrice = lv.stopPrice) (htp : row.takeProfitPrice = lv.takeProfitPrice)
    (hmiss : ¬ price ≤ lv.stopPrice) (hhit : lv.takeProfitPrice ≤ price) :
    Agrees lv (livePoll lv.atr lv.trailAtrMult row price) (longBar lv t (flatCandle price)) := by
  rw [longBar_of_target hprice hwidth ht hmiss hhit]
  refine .halved price hprice ?_ rfl ?_ ?_ rfl
  · simp [livePoll, PositionStateMachine.decide, Position.snapshot, hrow, hstop, hmiss, htp, hhit]
  · show t.remaining - t.remaining / 2 = 1 / 2
    rw [hrem]
    norm_num
  · simp [livePoll, PositionStateMachine.decide, Position.snapshot, Position.apply, hrow, hstop,
      hmiss, htp, hhit]

/-- A halved position follows its highest price in both, and both close it at the same price.
Source: `app/orders/state_machine.py` `PositionStateMachine.decide`. Kind: L -/
theorem agrees_of_halved {high : ℚ} (hprice : 0 < price) (hpos : 0 < high)
    (hrow : row.state = .HALF_CLOSED) (ht : t.state = .HALF_CLOSED) (hrem : t.remaining = 1 / 2)
    (hhighest : row.highestPrice = some high) (hbest : t.best = some high) :
    Agrees lv (livePoll lv.atr lv.trailAtrMult row price) (longBar lv t (flatCandle price)) := by
  have hopen : t.state ≠ .OPEN := by
    rw [ht]
    decide
  have hor : PositionStateMachine.highestOr (some high) price = high := if_neg hpos.ne'
  have htrail : PositionStateMachine.trailing row.snapshot price lv.atr lv.trailAtrMult =
      max high price - lv.atr * lv.trailAtrMult := by
    unfold PositionStateMachine.trailing PositionStateMachine.highest
    rw [show row.snapshot.highestPrice = some high from hhighest, hor]
  have hnew : (livePoll lv.atr lv.trailAtrMult row price).highestPrice = some (max high price) := by
    have hmax : PositionStateMachine.highest row.snapshot price = max high price := by
      unfold PositionStateMachine.highest
      rw [show row.snapshot.highestPrice = some high from hhighest, hor]
    show (PositionStateMachine.decide row.snapshot price lv.atr lv.trailAtrMult).newHighest = _
    unfold PositionStateMachine.decide
    simp only [show row.snapshot.state = .HALF_CLOSED from hrow, hmax]
    split <;> rfl
  by_cases hhit : price ≤ max high price - lv.atr * lv.trailAtrMult
  · have hbar : (longBar lv t (flatCandle price)).remaining = 0 ∧
        (longBar lv t (flatCandle price)).reason = "trailing_stop" := by
      unfold longBar flatCandle
      simp only [if_neg hopen, hbest, hor, if_pos ((le_max_zero_iff hprice).mpr hhit)]
      exact ⟨rfl, rfl⟩
    have hlive : (PositionStateMachine.decide row.snapshot price lv.atr lv.trailAtrMult).newState =
          .CLOSED ∧
        (PositionStateMachine.decide row.snapshot price lv.atr lv.trailAtrMult).reason =
          some "trailing_stop" := by
      unfold PositionStateMachine.decide
      simp only [show row.snapshot.state = .HALF_CLOSED from hrow, htrail, if_pos hhit, and_self]
    refine .closed hlive.1 hbar.1 ?_ (by rw [hbar.2]; decide)
    rw [hbar.2]
    unfold livePoll Position.apply
    simp only [hlive.1, hlive.2]
    rfl
  · have hbar : longBar lv t (flatCandle price) =
        { t with
          best := some (max high price)
          trailingStop := some (max (max high price - lv.atr * lv.trailAtrMult) 0) } := by
      have hmiss : ¬ price ≤ max (max high price - lv.atr * lv.trailAtrMult) 0 := by
        rwa [le_max_zero_iff hprice]
      unfold longBar flatCandle
      simp only [if_neg hopen, hbest, hor, if_neg hmiss]
    rw [hbar]
    refine .halved (max high price) (lt_max_of_lt_left hpos) ?_ ht hrem hnew rfl
    show (PositionStateMachine.decide row.snapshot price lv.atr lv.trailAtrMult).newState = _
    unfold PositionStateMachine.decide
    simp only [show row.snapshot.state = .HALF_CLOSED from hrow, htrail, if_neg hhit]

/-- **One price keeps the states corresponding.** The trailing stop of the simulation is cut off at
zero, and looked at in the bar of the half close already; with a positive price and a positive trail
width neither makes a difference. Source: `app/orders/state_machine.py`
`PositionStateMachine.decide`. Kind: P -/
theorem agrees_step (hprice : 0 < price) (hwidth : 0 < lv.atr * lv.trailAtrMult)
    (h : Agrees lv row t) :
    Agrees lv (livePoll lv.atr lv.trailAtrMult row price)
      (if t.remaining ≤ 0 then t else longBar lv t (flatCandle price)) := by
  cases h with
  | opened hrow ht hrem hstop htp =>
      rw [if_neg (by rw [hrem]; norm_num)]
      by_cases hs : price ≤ lv.stopPrice
      · exact agrees_of_stop hrow ht hstop hs
      · by_cases hp : lv.takeProfitPrice ≤ price
        · exact agrees_of_target hprice hwidth hrow ht hrem hstop htp hs hp
        · rw [longBar_of_neither ht hs hp]
          refine .opened ?_ ht hrem hstop htp
          simp [livePoll, PositionStateMachine.decide, Position.snapshot, hrow, hstop, htp, hs, hp]
  | halved high hpos hrow ht hrem hhighest hbest =>
      rw [if_neg (by rw [hrem]; norm_num)]
      exact agrees_of_halved hprice hpos hrow ht hrem hhighest hbest
  | closed hrow hrem hreason hended =>
      rw [if_pos hrem.le]
      refine .closed ?_ hrem ?_ hended
      · simp [livePoll, PositionStateMachine.decide, Position.snapshot, hrow]
      · simp [livePoll, PositionStateMachine.decide, Position.snapshot, hrow, Position.apply,
          hreason, truthy]

/-! ## Runs -/

variable {prices : List ℚ}

theorem agrees_run (hwidth : 0 < lv.atr * lv.trailAtrMult) (hprices : ∀ p ∈ prices, 0 < p)
    (h : Agrees lv row t) :
    List.Forall₂ (Agrees lv) (livePolls lv.atr lv.trailAtrMult row prices)
      (simulatedBars lv t (prices.map flatCandle)) := by
  induction prices generalizing row t with
  | nil => exact List.Forall₂.nil
  | cons price prices ih =>
      have hstep := agrees_step (hprices price List.mem_cons_self) hwidth h
      exact List.Forall₂.cons hstep
        (ih (fun p hp => hprices p (List.mem_cons_of_mem price hp)) hstep)

theorem Agrees.closed_iff (h : Agrees lv row t) : row.state = .CLOSED ↔ t.remaining ≤ 0 := by
  cases h with
  | opened hrow _ hrem _ _ =>
      rw [hrow, hrem]
      exact iff_of_false (by decide) (by norm_num)
  | halved _ _ hrow _ hrem _ _ =>
      rw [hrow, hrem]
      exact iff_of_false (by decide) (by norm_num)
  | closed hrow hrem _ _ => exact iff_of_true hrow hrem.le

/-- Predicates that agree on related elements find the same first index.
Source: none: infrastructure. Kind: L -/
theorem findIdx?_eq_of_forall₂ {α β : Type} {R : α → β → Prop} {p : α → Bool} {q : β → Bool}
    {xs : List α} {ys : List β} (h : List.Forall₂ R xs ys) (hpq : ∀ x y, R x y → p x = q y) :
    xs.findIdx? p = ys.findIdx? q := by
  induction h with
  | nil => rfl
  | cons hxy _ ih => rw [List.findIdx?_cons, List.findIdx?_cons, hpq _ _ hxy, ih]

/-- A closed position and a trade that is over stay as they are. Source:
`app/orders/state_machine.py` `PositionStateMachine.decide`. Kind: L -/
theorem halfIndex_of_closed (atr trailAtrMult : ℚ) (lv : TradeLevels) (prices : List ℚ)
    (hrow : row.state = .CLOSED) (hrem : t.remaining ≤ 0) (ht : t.state = .OPEN) :
    (livePolls atr trailAtrMult row prices).findIdx? (·.state = .HALF_CLOSED) = none ∧
      (simulatedBars lv t (prices.map flatCandle)).findIdx? (·.state = .HALF_CLOSED) = none := by
  induction prices generalizing row with
  | nil => exact ⟨rfl, rfl⟩
  | cons price prices ih =>
      have hnext : (livePoll atr trailAtrMult row price).state = .CLOSED := by
        simp [livePoll, PositionStateMachine.decide, Position.snapshot, hrow]
      obtain ⟨hlive, hbars⟩ := ih hnext
      rw [livePolls, List.map_cons, simulatedBars, if_pos hrem, List.findIdx?_cons,
        List.findIdx?_cons, hlive, hbars, hnext, ht]
      exact ⟨rfl, rfl⟩

/-- **The half close comes at the same price.** Source: `app/orders/state_machine.py`
`PositionStateMachine.decide`. Kind: L -/
theorem halfIndex_agrees (hwidth : 0 < lv.atr * lv.trailAtrMult) (hprices : ∀ p ∈ prices, 0 < p)
    (hrow : row.state = .OPEN) (h : Agrees lv row t) :
    (livePolls lv.atr lv.trailAtrMult row prices).findIdx? (·.state = .HALF_CLOSED) =
      (simulatedBars lv t (prices.map flatCandle)).findIdx? (·.state = .HALF_CLOSED) := by
  induction prices generalizing row t with
  | nil => rfl
  | cons price prices ih =>
      have hprice := hprices price List.mem_cons_self
      have hstep := agrees_step hprice hwidth h
      have hrest : ∀ p ∈ prices, 0 < p := fun p hp => hprices p (List.mem_cons_of_mem price hp)
      rw [livePolls, List.map_cons, simulatedBars]
      cases hstep with
      | opened hrow' ht' hrem' hstop' htp' =>
          have htail := ih hrest hrow' (.opened hrow' ht' hrem' hstop' htp')
          rw [List.findIdx?_cons, List.findIdx?_cons, hrow', ht', htail]
      | halved high _ hrow' ht' _ _ _ =>
          rw [List.findIdx?_cons, List.findIdx?_cons, hrow', ht']
          rfl
      | closed hrow' hrem' _ _ =>
          -- an open position is closed by its stop only
          have ht' : (if t.remaining ≤ 0 then t else longBar lv t (flatCandle price)).state =
              .OPEN := by
            cases h with
            | opened _ ht hrem _ _ =>
                rw [if_neg (by rw [hrem]; norm_num)] at hrem' ⊢
                by_cases hs : price ≤ lv.stopPrice
                · rw [longBar_of_stop ht hs]
                  exact ht
                · by_cases hp : lv.takeProfitPrice ≤ price
                  · rw [longBar_of_target hprice hwidth ht hs hp] at hrem'
                    have hhalf : t.remaining - t.remaining / 2 = 0 := hrem'
                    rw [hrem] at hhalf
                    norm_num at hhalf
                  · rw [longBar_of_neither ht hs hp]
                    exact ht
            | halved _ _ hhalf _ _ _ _ =>
                rw [hhalf] at hrow
                exact absurd hrow (by decide)
            | closed hclosed _ _ _ =>
                rw [hclosed] at hrow
                exact absurd hrow (by decide)
          obtain ⟨hlive, hbars⟩ := halfIndex_of_closed lv.atr lv.trailAtrMult lv prices hrow'
            hrem'.le ht'
          rw [List.findIdx?_cons, List.findIdx?_cons, hlive, hbars, hrow', ht']
          rfl

/-- The loop of the simulation ends in the state after the last bar. Source:
`app/services/backtest_jobs.py` `BacktestJobService._simulate_long_trade`. Kind: L -/
theorem getLast?_simulatedBars {candles : List Candle} (hne : candles ≠ []) :
    (simulatedBars lv t candles).getLast? = some (tradeLoop (longBar lv) t candles) := by
  induction candles generalizing t with
  | nil => exact absurd rfl hne
  | cons candle candles ih =>
      rw [simulatedBars, tradeLoop]
      by_cases hrest : candles = []
      · subst hrest
        rfl
      · rw [List.getLast?_cons, ih hrest, Option.getD_some]
        by_cases hdone : t.remaining ≤ 0
        · rw [if_pos hdone, if_pos hdone, tradeLoop_of_done hdone]
        · rw [if_neg hdone, if_neg hdone]

/-- Related lists end in related elements. Source: none: infrastructure. Kind: L -/
theorem getLast?_of_forall₂ {α β : Type} {R : α → β → Prop} {xs : List α} {ys : List β}
    (h : List.Forall₂ R xs ys) {y : β} (hy : ys.getLast? = some y) :
    ∃ x, xs.getLast? = some x ∧ R x y := by
  induction h with
  | nil => exact absurd hy (by simp)
  | @cons x y' xs ys hxy hrest ih =>
      cases hrest with
      | nil =>
          rw [List.getLast?_singleton, Option.some.injEq] at hy
          exact ⟨x, rfl, hy ▸ hxy⟩
      | cons _ _ => exact ih hy

/-- **The backtest and the live state machine agree.** A position with the entry levels of the risk
engine is polled with a list of positive prices, and a long trade from the same entry is simulated on
the bars that trade at these prices. Then the half close is at the same index, the final close is at
the same index, and the reason is the same: the position is closed for the reason of the simulation,
or it is still open and the simulation ends with the data. Source: `app/orders/state_machine.py`
`PositionStateMachine`, `app/services/backtest_jobs.py`
`BacktestJobService._simulate_long_trade`. Kind: P -/
theorem live_agrees_with_simulation (entryPrice atr stopAtrMult tpAtrMult trailAtrMult : ℚ)
    (prices : List ℚ) (args : PositionArgs) (id : ℕ) (hne : prices ≠ [])
    (hprices : ∀ p ∈ prices, 0 < p) (hatr : 0 < atr) (htrail : 0 < trailAtrMult)
    (hargs : (args.stopPrice, args.takeProfitPrice) =
      RiskEngine.buildStopTakeProfit entryPrice atr stopAtrMult tpAtrMult) :
    let polls := livePolls atr trailAtrMult (args.row id) prices
    let lv := longLevels entryPrice atr stopAtrMult tpAtrMult trailAtrMult
    let bars := simulatedBars lv {} (prices.map flatCandle)
    polls.findIdx? (·.state = .HALF_CLOSED) = bars.findIdx? (·.state = .HALF_CLOSED) ∧
      polls.findIdx? (·.state = .CLOSED) = bars.findIdx? (·.remaining ≤ 0) ∧
      ∃ last pnl ret reason, polls.getLast? = some last ∧
        BacktestJobService.simulateLongTrade (prices.map flatCandle) 0 entryPrice atr stopAtrMult
          tpAtrMult trailAtrMult = .ok (pnl, ret, reason) ∧
        (last.state = .CLOSED ∧ last.closeReason = some reason ∧
            reason ∈ ["stop_loss", "trailing_stop"] ∨
          last.state ≠ .CLOSED ∧ reason = "end_of_data") := by
  intro polls lv bars
  injection hargs with hstop htp
  have hwidth : 0 < lv.atr * lv.trailAtrMult := mul_pos hatr htrail
  have hstart : Agrees lv (args.row id) {} := .opened rfl rfl rfl hstop htp
  have hrun := agrees_run hwidth hprices hstart
  refine ⟨halfIndex_agrees hwidth hprices rfl hstart, ?_, ?_⟩
  · refine findIdx?_eq_of_forall₂ hrun ?_
    intro row t h
    exact decide_eq_decide.mpr h.closed_iff
  · have hbars : prices.map flatCandle ≠ [] := fun h => hne (List.map_eq_nil_iff.mp h)
    obtain ⟨last, hlast, hagrees⟩ := getLast?_of_forall₂ hrun (getLast?_simulatedBars hbars)
    have hslice : pySliceFrom (prices.map flatCandle) 0 = prices.map flatCandle := rfl
    unfold BacktestJobService.simulateLongTrade
    rw [hslice]
    cases hagrees with
    | opened hrow _ hrem _ _ =>
        obtain ⟨pnl, ret, hsettle⟩ := settle_of_open (by rw [hrem]; norm_num) hbars
        exact ⟨last, pnl, ret, _, hlast, hsettle, Or.inr ⟨by rw [hrow]; decide, rfl⟩⟩
    | halved _ _ hrow _ hrem _ _ =>
        obtain ⟨pnl, ret, hsettle⟩ := settle_of_open (by rw [hrem]; norm_num) hbars
        exact ⟨last, pnl, ret, _, hlast, hsettle, Or.inr ⟨by rw [hrow]; decide, rfl⟩⟩
    | closed hrow hrem hreason hended =>
        exact ⟨last, _, _, _, hlast, settle_of_done hrem.le, Or.inl ⟨hrow, hreason, hended⟩⟩

/-- The arguments of a position that was entered at 100 with an average true range of two.
Source: none: infrastructure. Kind: D -/
def enteredAt100 : PositionArgs where
  orderId := none
  ticker := "005930"
  strategyId := "1"
  entryPrice := 100
  stopPrice := 97
  takeProfitPrice := 104
  quantity := 10

/-- A position that is halved at 105 and closed at 104 is closed by the trailing stop in the
simulation as well. Source: none: infrastructure. Kind: P -/
theorem live_agrees_with_simulation_halved :
    ∃ last pnl ret reason,
      (livePolls 2 1 (enteredAt100.row 1) [100, 105, 106, 104]).getLast? = some last ∧
      BacktestJobService.simulateLongTrade ([100, 105, 106, 104].map flatCandle) 0 100 2 (3 / 2) 2 1 =
        .ok (pnl, ret, reason) ∧
      (last.state = .CLOSED ∧ last.closeReason = some reason ∧
          reason ∈ ["stop_loss", "trailing_stop"] ∨
        last.state ≠ .CLOSED ∧ reason = "end_of_data") :=
  (live_agrees_with_simulation 100 2 (3 / 2) 2 1 [100, 105, 106, 104] enteredAt100 1 (by simp)
    (by decide +kernel) (by norm_num) (by norm_num) (by decide +kernel)).2.2

end HaruTrade
