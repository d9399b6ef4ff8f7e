import HaruTrade.Core.ConfigBounds
import HaruTrade.Loops.Runs
import HaruTrade.Orders.Reconcile

/-!
# Monitoring without a price

When neither the market-data service nor the candle table has a price, the price providers answer
`0.0`, and the state machine compares it with the levels of the position like any other price.

* `run_observe` — what observing a position answers in given surroundings, and `multiplier_of_sound` — the
  trail multiplier that it works with under sound settings.
* `leavesAlone_iff` — **a pass without a price leaves a position alone** exactly when it does not reach
  the position, or the comparison of zero with its levels asks for nothing that is carried out.
* `sold_at_zero` — an open position is sold at its stop, whatever the stop is.
-/

namespace HaruTrade

open Coro OrderService TradingService LoopARunner

namespace Surroundings

variable (env : Surroundings) (w : World) (p : Position)

/-- **No usable price**: the live call raises or answers a price that is not positive, and the latest
close cannot be read or there is none. Source: `app/services/runtime_factory.py`
`LivePriceProvider.get_current_price`. Kind: D -/
structure NoPrice : Prop where
  live : (env (.livePrice p.id p.ticker)).raises = none → (env (.livePrice p.id p.ticker)).price ≤ 0
  stored : (env (.openSession (.price p.id))).db = none →
    (env (.getLatestClose p.id p.ticker)).db = none → ∀ r ∈ w.candles.rows, r.ticker ≠ p.ticker

/-- The candles that the ATR is computed from, unless a query fails.
Source: `app/services/runtime_factory.py` `DbAtrProvider.get_atr`. Kind: D -/
def recent : List Candle :=
  if (env (.openSession (.atr p.id))).db = none ∧
      (env (.listRecent (.atr p.id) p.ticker .m5 20)).db = none then
    CandleRepository.listRecent w p.ticker .m5 20
  else []

/-- Source: `app/services/runtime_factory.py` `DbAtrProvider.get_atr`. Kind: D -/
def atr : ℚ :=
  if (env.recent w p).length < 2 then 1
  else
    let ranges := RiskEngine.trueRanges (env.recent w p)
    max (ranges.sum / ranges.length) 1

/-- The trail multiplier, when one of its settings is a number. Source:
`app/loops/loop_a_runtime.py` `LoopARunner._resolve_trail_atr_mult`. Kind: D -/
def multiplier : Option ℚ :=
  (env (.configFloat p.id ("strategy." ++ p.strategyId ++ ".trail_atr_mult"))).number.or
    (env (.configFloat p.id "trail_atr_mult")).number

variable {env w p}

theorem run_catchSql {α : Type} (prog : Prog α) (f : String → Prog α) :
    env.run (catchSql prog f) w = match env.run prog w with
      | (.ok a, w') => (.ok a, w')
      | (.error (.sqlalchemy t), w') => env.run (f t) w'
      | (.error x, w') => (.error x, w') := by
  rcases h : prog.eval exec (fun e _ => env e) w with ⟨_ | _, w'⟩ <;>
    simp only [run, catchSql, eval_tryCatch, h]
  next x => cases x <;> rfl

/-- Source: `app/services/runtime_factory.py` `LivePriceProvider.get_current_price`. Kind: L -/
theorem run_getCurrentPrice :
    ∃ price, env.run (LivePriceProvider.getCurrentPrice p.id p.ticker) w = (.ok price, w) ∧
      (env.NoPrice w p → price = 0) := by
  have hdb : ∃ price, env.run (DbPriceProvider.getCurrentPrice p.id p.ticker) w = (.ok price, w) ∧
      (env.NoPrice w p → price = 0) := by
    rw [DbPriceProvider.getCurrentPrice, run_catchSql]
    simp only [run, orRaise, bind_eq, perform_bind, call_bind, eval_call, exec, Answer.queried]
    cases hs : (env (.openSession (.price p.id))).db with
    | some f => cases f <;> exact ⟨0, rfl, fun _ => rfl⟩
    | none =>
        simp only [ofExcept_ok_bind, eval_call, exec, Answer.queried]
        cases hc : (env (.getLatestClose p.id p.ticker)).db with
        | some f => cases f <;> exact ⟨0, rfl, fun _ => rfl⟩
        | none =>
            refine ⟨_, rfl, fun hno => ?_⟩
            rw [CandleRepository.getLatestClose_eq_none_iff.mpr (hno.stored hs hc)]
            rfl
  simp only [run, LivePriceProvider.getCurrentPrice, bind_eq, perform_bind, eval_call, exec,
    Answer.reply]
  cases hr : (env (.livePrice p.id p.ticker)).raises with
  | some x => exact hdb
  | none =>
      by_cases hpos : 0 < (env (.livePrice p.id p.ticker)).price
      · simp only [hpos, if_true]
        exact ⟨_, rfl, fun hno => absurd hpos (not_lt.mpr (hno.live hr))⟩
      · simp only [hpos, if_false]
        exact hdb

/-- Source: `app/services/runtime_factory.py` `DbAtrProvider.get_atr`. Kind: L -/
theorem run_getAtr : env.run (DbAtrProvider.getAtr p.id p.ticker) w = (.ok (env.atr w p), w) := by
  rw [DbAtrProvider.getAtr, bind_eq, run_bind, run_catchSql]
  have hfew : env.recent w p = [] → env.atr w p = 1 := fun h => by simp [atr, h]
  simp only [run, orRaise, bind_eq, perform_bind, call_bind, eval_call, exec, Answer.queried]
  cases hs : (env (.openSession (.atr p.id))).db with
  | some f => cases f <;> rw [hfew (by simp [recent, hs])] <;> rfl
  | none =>
      simp only [ofExcept_ok_bind, eval_call, exec, Answer.queried]
      cases hl : (env (.listRecent (.atr p.id) p.ticker .m5 20)).db with
      | some f => cases f <;> rw [hfew (by simp [recent, hl])] <;> rfl
      | none =>
          have hrows : env.recent w p = CandleRepository.listRecent w p.ticker .m5 20 := by
            simp [recent, hs, hl]
          simp only [ofExcept_ok_bind, eval_ret, pure_eq, atr, ← hrows]
          by_cases hlen : (env.recent w p).length < 2
          · simp only [hlen, if_true, eval_ret]
          · have hne : env.recent w p ≠ [] := by
              intro he
              rw [he] at hlen
              exact hlen (by decide)
            simp only [hlen, if_false, RiskEngine.computeAtr_ok hne, ofExcept_ok_bind, eval_ret]

/-- Source: `app/loops/loop_a_runtime.py` `LoopARunner._resolve_trail_atr_mult`. Kind: L -/
theorem run_resolveTrailAtrMult :
    (∃ mult, env.multiplier p = some mult ∧
        env.run (resolveTrailAtrMult p.id p.strategyId) w = (.ok mult, w)) ∨
      env.multiplier p = none ∧
        ∃ x, env.run (resolveTrailAtrMult p.id p.strategyId) w = (.error x, w) := by
  simp only [run, resolveTrailAtrMult, orRaise, bind_eq, perform_bind, eval_call, exec, multiplier]
  cases (env (.configFloat p.id ("strategy." ++ p.strategyId ++ ".trail_atr_mult"))).number with
  | some m => exact .inl ⟨m, rfl, rfl⟩
  | none =>
      simp only [eval_call, exec, Option.none_or]
      cases (env (.configFloat p.id "trail_atr_mult")).number with
      | some m => exact .inl ⟨m, rfl, rfl⟩
      | none => exact .inr ⟨rfl, _, rfl⟩

/-- A number that is a rational. Source: none: infrastructure. Kind: D -/
def rational? : PyNum → Option ℚ
  | .of q => some q
  | _ => none

/-- **The multiplier of the runtime**: when the settings that Loop A reads are those of a sound
manager, it works with a number between 0.5 and 5. Source: `app/loops/loop_a_runtime.py`
`LoopARunner._resolve_trail_atr_mult`. Kind: P -/
theorem multiplier_of_sound {m : ConfigManager} {dflt : PyNum} (hm : ConfigManager.Sound dflt m)
    (henv : ∀ pid key, (env (.configFloat pid key)).number =
      (m.readFloat key).toOption.bind rational?) :
    ∃ q, env.multiplier p = some q ∧ 1 / 2 ≤ q ∧ q ≤ 5 := by
  obtain ⟨n, hn, hwithin, -⟩ := hm.trail p.strategyId
  obtain ⟨q, rfl, hle⟩ := ConfigManager.rational_of_within hwithin
  refine ⟨q, ?_, hle⟩
  unfold multiplier
  rw [henv, henv]
  simp only [ConfigManager.resolveTrailAtrMult] at hn
  unfold ConfigManager.trailKey at hn
  rcases hover : m.readFloat ("strategy." ++ p.strategyId ++ ".trail_atr_mult") with e | n'
  · rw [hover] at hn
    simp only at hn
    rw [hn]
    rfl
  · rw [hover] at hn
    simp only [Except.ok.injEq] at hn
    rw [hn]
    rfl

/-- **What observing a position answers**: a decision at some price, which is zero when there is no
price; or an exception when no setting of the multiplier is a number.
Source: `app/loops/loop_a_runtime.py` `LoopARunner._monitor_positions_once`. Kind: P -/
theorem run_observe :
    (∃ mult price, env.multiplier p = some mult ∧ (env.NoPrice w p → price = 0) ∧
        env.run (observe p) w =
          (.ok (price, PositionStateMachine.decide p.snapshot price (env.atr w p) mult), w)) ∨
      env.multiplier p = none ∧ ∃ x, env.run (observe p) w = (.error x, w) := by
  obtain ⟨price, hprice, hzero⟩ := env.run_getCurrentPrice (w := w) (p := p)
  simp only [observe, bind_eq, run_bind, hprice, run_getAtr]
  rcases env.run_resolveTrailAtrMult (w := w) (p := p) with ⟨mult, hm, hrun⟩ | ⟨hm, x, hrun⟩
  · exact .inl ⟨mult, price, hm, hzero, by simp only [hrun]; rfl⟩
  · exact .inr ⟨hm, x, by simp only [hrun]⟩

end Surroundings

/-! ## A price of zero -/

/-- Compared with a price of zero, the position is sold, in whole or in half.
Source: `app/orders/state_machine.py` `PositionStateMachine.decide`. Kind: D -/
def SellsAtZero (p : Position) (atr mult : ℚ) : Prop :=
  0 < p.remainingQuantity ∧
    ((p.state = .OPEN ∧ (0 ≤ p.stopPrice ∨ p.takeProfitPrice ≤ 0)) ∨
      (p.state = .HALF_CLOSED ∧ 0 ≤ PositionStateMachine.trailing p.snapshot 0 atr mult))

/-- Compared with a price of zero, the position gets other levels.
Source: `app/orders/state_machine.py` `PositionStateMachine.decide`. Kind: D -/
def MovesAtZero (p : Position) (atr mult : ℚ) : Prop :=
  (p.state = .OPEN ∧ p.stopPrice < 0 ∧ p.takeProfitPrice ≤ 0 ∧
      (p.highestPrice ≠ some 0 ∨ p.trailingStopPrice ≠ some (0 - atr * mult))) ∨
    (p.state = .HALF_CLOSED ∧
      (p.highestPrice ≠ some (PositionStateMachine.highest p.snapshot 0) ∨
        p.trailingStopPrice ≠ some (PositionStateMachine.trailing p.snapshot 0 atr mult)))

/-- The transition at a price of zero. Source: none: infrastructure. Kind: D -/
def zeroTransition (p : Position) (atr mult : ℚ) : Transition :=
  PositionStateMachine.decide p.snapshot 0 atr mult

section

variable {p : Position} {atr mult : ℚ}

theorem closeQty_zeroTransition_iff :
    0 < (zeroTransition p atr mult).closeQty ↔ SellsAtZero p atr mult := by
  have hrem : p.snapshot.remainingQuantity = p.remainingQuantity := rfl
  have hstop : p.snapshot.stopPrice = p.stopPrice := rfl
  have htp : p.snapshot.takeProfitPrice = p.takeProfitPrice := rfl
  have hst : p.snapshot.state = p.state := rfl
  unfold zeroTransition PositionStateMachine.decide SellsAtZero
  rw [hrem, hstop, htp, hst]
  cases p.state with
  | OPEN =>
      by_cases h₁ : 0 ≤ p.stopPrice
      · simp [h₁]
      · by_cases h₂ : p.takeProfitPrice ≤ 0
        · have hhalf : 0 < p.remainingQuantity / 2 ↔ 0 < p.remainingQuantity :=
            ⟨fun h => by linarith, fun h => by linarith⟩
          simpa only [h₁, h₂, ↓reduceIte, zero_sub, or_true, and_self, reduceCtorEq, false_and,
            or_false, and_true] using hhalf
        · simp [h₁, h₂]
  | HALF_CLOSED =>
      by_cases h : 0 ≤ PositionStateMachine.trailing p.snapshot 0 atr mult <;> simp [h]
  | CLOSED => simp

theorem levels_zeroTransition_iff :
    ((zeroTransition p atr mult).newHighest ≠ p.highestPrice ∨
      (zeroTransition p atr mult).newTrailingStop ≠ p.trailingStopPrice) ↔
        MovesAtZero p atr mult := by
  have hstop : p.snapshot.stopPrice = p.stopPrice := rfl
  have htp : p.snapshot.takeProfitPrice = p.takeProfitPrice := rfl
  have hst : p.snapshot.state = p.state := rfl
  have hhi : p.snapshot.highestPrice = p.highestPrice := rfl
  have htr : p.snapshot.trailingStopPrice = p.trailingStopPrice := rfl
  unfold zeroTransition PositionStateMachine.decide MovesAtZero
  rw [hstop, htp, hst, hhi, htr]
  cases p.state with
  | OPEN =>
      by_cases h₁ : 0 ≤ p.stopPrice
      · simp [h₁]
      · by_cases h₂ : p.takeProfitPrice ≤ 0
        · simp [h₁, h₂, lt_of_not_ge h₁, eq_comm]
        · simp [h₁, h₂]
  | HALF_CLOSED =>
      by_cases h : 0 ≤ PositionStateMachine.trailing p.snapshot 0 atr mult <;> simp [h, eq_comm]
  | CLOSED => simp

end

/-! ## Leaving a position alone -/

/-- Nothing was sent to the gateway for the position, and its row is as it was.
Source: none: infrastructure. Kind: D -/
structure LeavesAlone (pid : ℕ) (w w' : World) : Prop where
  row : w'.positions.get? pid = w.positions.get? pid
  events : w'.closeEvents pid = w.closeEvents pid

namespace LeavesAlone

variable {pid : ℕ} {w w₁ w' : World}

theorem refl : LeavesAlone pid w w := ⟨rfl, rfl⟩

/-- A position that is left alone afterwards was left alone exactly if it was so far.
Source: none: infrastructure. Kind: L -/
theorem trans_iff (h : LeavesAlone pid w₁ w') : LeavesAlone pid w w' ↔ LeavesAlone pid w w₁ :=
  ⟨fun h' => ⟨h.row.symm.trans h'.row, h.events.symm.trans h'.events⟩,
    fun h' => ⟨h.row.trans h'.row, h.events.trans h'.events⟩⟩

theorem iff_of_before (h : LeavesAlone pid w w₁) : LeavesAlone pid w w' ↔ LeavesAlone pid w₁ w' :=
  ⟨fun h' => ⟨h'.row.trans h.row.symm, h'.events.trans h.events.symm⟩,
    fun h' => ⟨h'.row.trans h.row, h'.events.trans h.events⟩⟩

theorem of_move {R : Regime} {l : Option ℕ} {p : Position} (hrow : w.positions.get? pid = some p)
    (h : Move R l w w') (hne : l ≠ some pid) : LeavesAlone pid w w' :=
  ⟨by rw [h.get?_of_ne hrow hne, hrow], h.closeEvents_of_ne hne⟩

theorem of_moves {R : Regime} {ids : List ℕ} {p : Position} (hrow : w.positions.get? pid = some p)
    (h : Moves R ids w w') (hn : pid ∉ ids) : LeavesAlone pid w w' :=
  ⟨by rw [h.get?_of_notMem hrow hn, hrow], h.closeEvents_of_notMem hn⟩

end LeavesAlone

/-- **The pass spares the position once it has come to it**: no multiplier is a number, the session
of the update fails, or a price of zero asks for nothing that is stored.
Source: `app/loops/loop_a_runtime.py` `LoopARunner._monitor_positions_once`. Kind: D -/
def Surroundings.Spares (env : Surroundings) (w : World) (p : Position) : Prop :=
  (env (.openSession (.transition p.id))).db ≠ none ∨
    ∀ mult ∈ env.multiplier p, ¬ SellsAtZero p (env.atr w p) mult ∧
      (MovesAtZero p (env.atr w p) mult → ∃ text,
        (env (.applyTransition p.id (zeroTransition p (env.atr w p) mult))).db =
          some (.commit text))

section

variable {env : Surroundings} {w : World} {p : Position} {tr : Transition} {c : Tally}

/-- Tracking leaves a row alone exactly when its write is not committed.
Source: `app/loops/loop_a_runtime.py` `LoopARunner._monitor_positions_once`. Kind: L -/
theorem leavesAlone_trackPosition_iff (hrow : w.positions.get? p.id = some p)
    (hch : tr.newHighest ≠ p.highestPrice ∨ tr.newTrailingStop ≠ p.trailingStopPrice) :
    LeavesAlone p.id w (env.run (trackPosition p tr c) w).2 ↔
      ∃ text, (env (.applyTransition p.id tr)).db = some (.commit text) := by
  have hmoved : ∀ {w' : World}, w'.positions = applied w.positions p.id tr →
      ¬ LeavesAlone p.id w w' := by
    intro w' hp h
    have hsame : p.apply tr = p := by
      have hget := h.row
      rw [hp, get?_applied, if_pos rfl, hrow, Option.map_some] at hget
      exact Option.some.inj hget
    have hhi := congrArg Position.highestPrice hsame
    have htr := congrArg Position.trailingStopPrice hsame
    exact hch.elim (absurd hhi) (absurd htr)
  rw [trackPosition, Surroundings.run_catchSql]
  simp only [Surroundings.run, orRaise, bind_eq, perform_bind, call_bind, eval_call, exec, hrow,
    Answer.committed]
  cases (env (.applyTransition p.id tr)).db with
  | none => exact iff_of_false (hmoved rfl) (by simp)
  | some f =>
      cases f with
      | commit text => exact iff_of_true ⟨rfl, rfl⟩ ⟨text, rfl⟩
      | refresh text => exact iff_of_false (hmoved rfl) (by simp)

/-- **What becomes of the position** when a decision is carried out.
Source: `app/loops/loop_a_runtime.py` `LoopARunner._monitor_positions_once`. Kind: P -/
theorem leavesAlone_carryOut_iff (hd : Decided env.regime w p 0 tr) :
    LeavesAlone p.id w (env.run (carryOut p tr 0 c) w).2 ↔
      (env (.openSession (.transition p.id))).db ≠ none ∨ ¬ 0 < tr.closeQty ∧
        (tr.newHighest ≠ p.highestPrice ∨ tr.newTrailingStop ≠ p.trailingStopPrice →
          ∃ text, (env (.applyTransition p.id tr)).db = some (.commit text)) := by
  have hrun : env.run (carryOut p tr 0 c) w =
      match (env (.openSession (.transition p.id))).db with
      | some f => env.run ((critical "positions_session_failed" f.exn.str).bind fun _ =>
          ret { c with failed := c.failed + 1 }) w
      | none =>
          if 0 < tr.closeQty then env.run (closePosition p tr 0 c) w
          else if tr.newHighest ≠ p.highestPrice ∨ tr.newTrailingStop ≠ p.trailingStopPrice then
            env.run (trackPosition p tr c) w
          else (.ok c, w) := by
    simp only [Surroundings.run, carryOut, bind_eq, perform_bind, eval_call, exec, Answer.queried]
    cases (env (.openSession (.transition p.id))).db with
    | some f => cases f <;> rfl
    | none =>
        by_cases hq : 0 < tr.closeQty
        · simp only [hq, if_true]
        · by_cases hch : tr.newHighest ≠ p.highestPrice ∨ tr.newTrailingStop ≠ p.trailingStopPrice
          · simp only [hq, if_false, if_pos hch]
          · simp only [hq, if_false, if_neg hch]
            rfl
  rw [hrun]
  cases (env (.openSession (.transition p.id))).db with
  | some f => exact iff_of_true ⟨rfl, rfl⟩ (.inl (by simp))
  | none =>
      simp only [ne_eq, not_true_eq_false, false_or]
      by_cases hq : 0 < tr.closeQty
      · -- an order is placed
        simp only [hq, if_true, not_true_eq_false, false_and, iff_false]
        intro h
        obtain ⟨-, evs, r, b, hc⟩ :=
          exec_closePosition hd hq (env.exec_run (closePosition p tr 0 c) w)
        have hevents := h.events
        rw [hc.closeEvents] at hevents
        exact hc.reconciled.ne_nil (List.append_right_eq_self.mp hevents)
      · simp only [hq, if_false, not_false_eq_true, true_and]
        by_cases hch : tr.newHighest ≠ p.highestPrice ∨ tr.newTrailingStop ≠ p.trailingStopPrice
        · rw [if_pos hch, leavesAlone_trackPosition_iff hd.row hch]
          simp [hch]
        · rw [if_neg hch]
          exact iff_of_true .refl fun h => absurd h hch

/-- Monitoring a position writes no candles. Source: `app/loops/loop_a_runtime.py`
`LoopARunner._monitor_positions_once`. Kind: L -/
theorem candles_run_monitorPosition (env : Surroundings) (w : World) (p : Position) (c : Tally) :
    (env.run (monitorPosition p c) w).2.candles = w.candles := by
  have hmonitors : ∀ e, monitors e → e.writesCandles = false := by
    intro e he
    cases e <;> first | rfl | exact he.elim
  have huses : Uses (fun e => e.writesCandles = false) (monitorPosition p c) :=
    uses_monitorPosition.mono hmonitors
  exact huses.exec_rel (K := fun s s' : World => s'.candles = s.candles) (fun _ => rfl)
    (fun _ _ _ h h' => Eq.trans h' h) (fun e a s he _ => exec_candles he)
    (env.exec_run (monitorPosition p c) w)

/-- **The position's own turn.** Source: `app/loops/loop_a_runtime.py`
`LoopARunner._monitor_positions_once`. Kind: P -/
theorem leavesAlone_monitorPosition_iff (hrow : w.positions.get? p.id = some p)
    (hopen : p.state ≠ .CLOSED) (hno : env.NoPrice w p) :
    LeavesAlone p.id w (env.run (monitorPosition p c) w).2 ↔ env.Spares w p := by
  rw [monitorPosition, bind_eq, Surroundings.run_bind]
  rcases env.run_observe (w := w) (p := p) with ⟨mult, price, hm, hzero, hrun⟩ | ⟨hm, x, hrun⟩
  · obtain rfl := hzero hno
    have hd : Decided env.regime w p 0 (zeroTransition p (env.atr w p) mult) :=
      ⟨hrow, hopen, trivial, _, _, rfl⟩
    rw [hrun]
    refine (leavesAlone_carryOut_iff hd).trans ?_
    rw [closeQty_zeroTransition_iff, levels_zeroTransition_iff, Surroundings.Spares, hm]
    simp
  · rw [hrun]
    exact iff_of_true .refl (.inr (by simp [hm]))

/-- **Another position's turn** leaves this one and the candles alone, and raises exactly when no
setting of its multiplier is a number. Source: `app/loops/loop_a_runtime.py`
`LoopARunner._monitor_positions_once`. Kind: P -/
theorem run_monitorPosition_other (env : Surroundings) (c : Tally) {q : Position}
    (hrow : w.positions.get? p.id = some p)
    (hq : w.positions.get? q.id = some q) (hopen : q.state ≠ .CLOSED) (hne : q.id ≠ p.id) :
    LeavesAlone p.id w (env.run (monitorPosition q c) w).2 ∧
      if env.multiplier q = none then ∃ x, env.run (monitorPosition q c) w = (.error x, w)
      else ∃ c', (env.run (monitorPosition q c) w).1 = .ok c' := by
  constructor
  · rcases exec_monitorPosition hq hopen (env.exec_run (monitorPosition q c) w) with hm | hm
    · exact .of_move hrow hm nofun
    · exact .of_move hrow hm fun he => hne (Option.some.inj he)
  · rw [monitorPosition, bind_eq, Surroundings.run_bind]
    rcases env.run_observe (w := w) (p := q) with ⟨mult, price, hm, -, hrun⟩ | ⟨hm, x, hrun⟩
    · rw [hrun, if_neg (by simp [hm])]
      exact (exec_carryOut ⟨hq, hopen, trivial, _, _, rfl⟩ (env.exec_run (carryOut q _ price _) w)).1
    · rw [hrun, if_pos hm]
      exact ⟨x, rfl⟩

/-- **The monitoring loop**, by induction on the rows: those before the position decide whether it
is reached, its own turn whether it is spared, and those after it leave it alone.
Source: `app/loops/loop_a_runtime.py` `LoopARunner._monitor_positions_once`. Kind: P -/
theorem leavesAlone_monitorLoop_iff {ps : List Position}
    (hrows : ∀ q ∈ ps, w.positions.get? q.id = some q ∧ q.state ≠ .CLOSED)
    (hnd : (ps.map Position.id).Nodup) (hmem : p ∈ ps) (hno : env.NoPrice w p) :
    LeavesAlone p.id w (env.run (monitorLoop ps c) w).2 ↔
      (∃ q ∈ ps.takeWhile (fun q => q.id ≠ p.id), env.multiplier q = none) ∨ env.Spares w p := by
  induction ps generalizing c w with
  | nil => cases hmem
  | cons q ps ih =>
      obtain ⟨hrow, hopen⟩ := hrows p hmem
      obtain ⟨hq, hqopen⟩ := hrows q (by simp)
      rw [List.map_cons, List.nodup_cons] at hnd
      obtain ⟨hnotin, hnd⟩ := hnd
      have hothers : ∀ r ∈ ps, w.positions.get? r.id = some r ∧ r.state ≠ .CLOSED :=
        fun r hr => hrows r (List.mem_cons_of_mem _ hr)
      rw [monitorLoop, bind_eq, Surroundings.run_bind]
      by_cases hne : q.id = p.id
      · -- its own turn, and then the others
        obtain rfl : q = p := Option.some.inj (hq.symm.trans (hne ▸ hrow))
        have hturn := leavesAlone_monitorPosition_iff (c := c) hrow hopen hno
        have hrest : ∀ {c' w₁}, env.run (monitorPosition q c) w = (.ok c', w₁) →
            LeavesAlone q.id w₁ (env.run (monitorLoop ps c') w₁).2 := by
          intro c' w₁ hrun
          have hmove := exec_monitorPosition hrow hopen (env.exec_run (monitorPosition q c) w)
          rw [hrun] at hmove
          obtain ⟨ids, hids, hms⟩ := exec_monitorLoop (Move.rows hmove hothers hnotin) hnd
            (env.exec_run (monitorLoop ps c') w₁)
          have hn : q.id ∉ ids := fun hc => hnotin (hids.subset hc)
          rcases hmove with hm | hm <;> obtain ⟨q', hq'⟩ := hm.exists_row hrow <;>
            exact .of_moves hq' hms hn
        rcases hrun : env.run (monitorPosition q c) w with ⟨_ | c', w₁⟩ <;> rw [hrun] at hturn
        · simpa using hturn
        · simpa [(hrest hrun).trans_iff] using hturn
      · -- the turn of a row before it
        have hmem' : p ∈ ps := by
          rcases List.mem_cons.mp hmem with rfl | hmem
          · exact absurd rfl hne
          · exact hmem
        obtain ⟨halone, hends⟩ := run_monitorPosition_other env c hrow hq hqopen hne
        have hcandles := candles_run_monitorPosition env w q c
        have hmove := exec_monitorPosition hq hqopen (env.exec_run (monitorPosition q c) w)
        by_cases hm : env.multiplier q = none
        · rw [if_pos hm] at hends
          obtain ⟨x, hrun⟩ := hends
          rw [hrun]
          exact iff_of_true .refl (.inl ⟨q, by simp [hne], hm⟩)
        · rw [if_neg hm] at hends
          obtain ⟨c', hc'⟩ := hends
          rcases hrun : env.run (monitorPosition q c) w with ⟨out, w₁⟩
          rw [hrun] at halone hc' hcandles hmove
          simp only at hc' hcandles
          subst hc'
          have hno₁ : env.NoPrice w₁ p := ⟨hno.live, by rw [hcandles]; exact hno.stored⟩
          have hrecent : env.recent w₁ p = env.recent w p := by
            rw [Surroundings.recent, CandleRepository.listRecent, CandleRepository.history, hcandles]
            rfl
          have hatr : env.atr w₁ p = env.atr w p := by
            rw [Surroundings.atr, hrecent]
            rfl
          have hspares : env.Spares w₁ p ↔ env.Spares w p := by
            simp only [Surroundings.Spares, hatr]
          rw [halone.iff_of_before, ih (Move.rows hmove hothers hnotin) hnd hmem' hno₁, hspares]
          simp [hne, hm]

/-- **The pass does not come to the position**: the open rows cannot be read, or no setting of the
multiplier of a row before it is a number. Source: `app/loops/loop_a_runtime.py`
`LoopARunner._monitor_positions_once`. Kind: D -/
def Surroundings.Misses (env : Surroundings) (w : World) (p : Position) : Prop :=
  (env (.openSession .positions)).db ≠ none ∨ (env (.listOpenPositions .monitor)).db ≠ none ∨
    ∃ q ∈ (OrderingRepository.listOpenPositions w).takeWhile (fun q => q.id ≠ p.id),
      env.multiplier q = none

/-- **A pass without a price leaves an open position alone** exactly when it does not come to the
position or spares it. Source: `app/loops/loop_a_runtime.py`
`LoopARunner._monitor_positions_once`. Kind: P -/
theorem leavesAlone_iff (hrow : w.positions.get? p.id = some p) (hopen : p.state ≠ .CLOSED)
    (hno : env.NoPrice w p) :
    LeavesAlone p.id w (env.run monitorPositionsOnce w).2 ↔ env.Misses w p ∨ env.Spares w p := by
  have hreport : ∀ {text : String}, LeavesAlone p.id w
      (env.run ((critical "positions_query_failed" text).bind fun _ =>
        (ret none : Prog (Option (List Position)))) w).2 := ⟨rfl, rfl⟩
  rw [monitorPositionsOnce, bind_eq, Surroundings.run_bind, queryPositions,
    Surroundings.run_catchSql]
  simp only [Surroundings.run, orRaise, bind_eq, perform_bind, call_bind, eval_call, exec,
    Answer.queried]
  cases hs : (env (.openSession .positions)).db with
  | some f => cases f <;> exact iff_of_true ⟨rfl, rfl⟩ (.inl (.inl (by simp [hs])))
  | none =>
      simp only [ofExcept_ok_bind, eval_call, exec, Answer.queried]
      cases hl : (env (.listOpenPositions .monitor)).db with
      | some f => cases f <;> exact iff_of_true ⟨rfl, rfl⟩ (.inl (.inr (.inl (by simp [hl]))))
      | none =>
          refine (leavesAlone_monitorLoop_iff (c := {})
            (fun q hq => OrderingRepository.mem_listOpenPositions.mp hq)
            OrderingRepository.nodup_listOpenPositions
            (OrderingRepository.mem_listOpenPositions.mpr ⟨hrow, hopen⟩) hno).trans ?_
          simp [Surroundings.Misses, hs, hl]

end

/-! ## Two outages -/

/-- The row of one share bought at 100, with a stop at 98.5. Source: none: infrastructure. Kind: D -/
def heldShare : Position :=
  (entryPositionArgs { index := 1, side := "buy", ticker := "005930", price := some 100 } 1).row 1

/-- A book with that row and no candles. Source: none: infrastructure. Kind: D -/
def holding : World :=
  OrderingRepository.openPosition {}
    (entryPositionArgs { index := 1, side := "buy", ticker := "005930", price := some 100 } 1)

/-- The market-data service raises; everything else works. Source: none: infrastructure. Kind: D -/
def noQuotes : Surroundings
  | .livePrice _ _ => { raises := some (.other "timeout") }
  | _ => {}

/-- The market-data service raises, and no setting of the multiplier is a number.
Source: none: infrastructure. Kind: D -/
def noQuotesNoSettings : Surroundings
  | .livePrice _ _ => { raises := some (.other "timeout") }
  | .configFloat _ _ => { number := none }
  | _ => {}

/-- The theorem at an outage in which the multiplier cannot be read.
Source: none: infrastructure. Kind: C -/
theorem leavesAlone_noSettings :
    LeavesAlone 1 holding (noQuotesNoSettings.run monitorPositionsOnce holding).2 :=
  (leavesAlone_iff (p := heldShare) (by decide +kernel) (by decide +kernel)
    ⟨(by cases ·), fun _ _ => by decide +kernel⟩).mpr
      (.inr (.inr fun mult hm => absurd hm (by simp [Surroundings.multiplier, noQuotesNoSettings])))

/-- **A position is sold at a price of zero** when there is no price: its row is closed and its order
is placed. Source: `app/services/runtime_factory.py` `DbPriceProvider.get_current_price`. Kind: C -/
theorem sold_at_zero :
    noQuotes.NoPrice holding heldShare ∧ holding.positions.get? 1 = some heldShare ∧
      ((noQuotes.run monitorPositionsOnce holding).2.positions.get? 1).map Position.state =
        some .CLOSED ∧
      (noQuotes.run monitorPositionsOnce holding).2.placedQty 1 = 1 :=
  ⟨⟨(by cases ·), fun _ _ => by decide +kernel⟩, by decide +kernel, by decide +kernel, by decide +kernel⟩

end HaruTrade
