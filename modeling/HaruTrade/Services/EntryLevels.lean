import HaruTrade.Core.ConfigBounds
import HaruTrade.Services.Trading

/-!
# The multipliers of an entry

The trailing stop of a position is set by a multiplier that a strategy can override
(`resolveTrailAtrMult`). The stop and the profit level of an entry have settings of the same kind, but
`executeFromSignal` writes 1.5 and 2.0 out.

* `effectiveMult` — a setting resolved as that of the trailing stop is.
* `HasEntryLevels` — a position has the levels that the settings ask for.
* `SameLevels` — the settings put the levels where 1.5 and 2.0 put them.
* **`hasEntryLevels_iff`** — an entry follows the settings exactly when they do.
-/

namespace HaruTrade

open Coro

namespace ConfigManager

/-- The setting that overrides an exit parameter for a strategy. Source: `docs/prd.md` 4.4. Kind: D -/
def overrideKey (strategyId param : String) : String := "strategy." ++ strategyId ++ "." ++ param

/-- The multiplier of an exit parameter: the override when it is there and reads as a float, else the
common setting. Source: `app/loops/loop_a_runtime.py` `LoopARunner._resolve_trail_atr_mult`. Kind: D -/
def effectiveMult (m : ConfigManager) (strategyId param : String) : Except ConfigError PyNum :=
  match m.readFloat (overrideKey strategyId param) with
  | .ok n => .ok n
  | .error _ => m.readFloat param

/-- The trailing stop is resolved so. Source: `app/loops/loop_a_runtime.py`
`LoopARunner._resolve_trail_atr_mult`. Kind: L -/
theorem resolveTrailAtrMult_eq {m : ConfigManager} {dflt : PyNum} {strategyId : String} :
    resolveTrailAtrMult (some m) dflt strategyId = effectiveMult m strategyId "trail_atr_mult" := by
  have hdot : ".trail_atr_mult" = "." ++ "trail_atr_mult" := rfl
  have hkey : trailKey strategyId = overrideKey strategyId "trail_atr_mult" := by
    unfold trailKey overrideKey
    rw [hdot, ← String.append_assoc]
  unfold effectiveMult
  rw [← hkey]
  rfl

end ConfigManager

namespace TradingService

open ConfigManager (effectiveMult)

/-- The average true range of an entry. Source: `app/services/trading_service.py`
`TradingService.execute_from_signal`. Kind: D -/
def entryAtr (price : ℚ) : ℚ := max (price * (1 / 100)) 1

/-- **The levels that the settings ask for.** Source: `docs/prd.md` 4.4. Kind: D -/
def HasEntryLevels (m : ConfigManager) (price : ℚ) (row : Position) : Prop :=
  ∃ stop tp : ℚ, effectiveMult m row.strategyId "stop_atr_mult" = .ok (.of stop) ∧
    effectiveMult m row.strategyId "tp_atr_mult" = .ok (.of tp) ∧
    row.stopPrice = max (price - entryAtr price * stop) 0 ∧
    row.takeProfitPrice = price + entryAtr price * tp

/-- **The settings put the levels where 1.5 and 2.0 do**: the profit multiplier is 2, and the stop
multiplier is 1.5, or both put the stop at zero. Source: `app/services/trading_service.py`
`TradingService.execute_from_signal`. Kind: D -/
def SameLevels (m : ConfigManager) (price : ℚ) (strategyId : String) : Prop :=
  effectiveMult m strategyId "tp_atr_mult" = .ok (.of 2) ∧
    ∃ stop : ℚ, effectiveMult m strategyId "stop_atr_mult" = .ok (.of stop) ∧
      (stop = 3 / 2 ∨ price ≤ entryAtr price * stop ∧ price ≤ entryAtr price * (3 / 2))

section rules

variable {R : Regime} {w w' : World} {signal : Signal} {row : Position} {price a b : ℚ}

theorem entryAtr_pos (price : ℚ) : 0 < entryAtr price := lt_of_lt_of_le one_pos (le_max_right _ _)

/-- Distances below a price that end at the same clipped price. Source: none: infrastructure.
Kind: L -/
theorem max_sub_eq_iff : max (price - a) 0 = max (price - b) 0 ↔ a = b ∨ price ≤ a ∧ price ≤ b := by
  constructor
  · intro h
    by_cases ha : price ≤ a
    · by_cases hb : price ≤ b
      · exact .inr ⟨ha, hb⟩
      · rw [max_eq_right (by linarith), max_eq_left (by linarith)] at h
        exact absurd h (by linarith)
    · rw [max_eq_left (show 0 ≤ price - a by linarith)] at h
      by_cases hb : price ≤ b
      · rw [max_eq_right (by linarith)] at h
        exact absurd h (by linarith)
      · rw [max_eq_left (by linarith)] at h
        exact .inl (by linarith)
  · rintro (rfl | ⟨ha, hb⟩)
    · rfl
    · rw [max_eq_right (by linarith), max_eq_right (by linarith)]

/-- **A position that a run opens** is the one of the signal. Source: `app/services/trading_service.py`
`TradingService.execute_from_signal`. Kind: L -/
theorem opened_row {out : Except Exn Unit} (h : Exec exec R.ok (executeFromSignal signal) w out w')
    (hrow : row ∈ w'.positions.rows) (hnew : row ∉ w.positions.rows) :
    ∃ orderId, row = (entryPositionArgs signal orderId).row w.positions.fresh := by
  rcases exec_executeFromSignal h with h | ⟨evs, r, b, h⟩
  · rw [h.positions] at hrow
    exact absurd hrow hnew
  · obtain ⟨orderId, hp⟩ := h.positions
    rw [hp] at hrow
    cases b with
    | nothing => exact absurd hrow hnew
    | order => exact absurd hrow hnew
    | position =>
        rw [Booking.opened, Table.rows_add] at hrow
        rcases List.mem_append.mp hrow with hrow | hrow
        · exact absurd hrow hnew
        · exact ⟨orderId, List.mem_singleton.mp hrow⟩

end rules

/-- **When an entry follows the settings.** For all settings, every signal with a price above zero and
every run that executes it: a position that the run opens has the levels of its settings exactly when
these put them where 1.5 and 2.0 do. Source: `app/services/trading_service.py`
`TradingService.execute_from_signal`. Kind: P -/
theorem hasEntryLevels_iff (m : ConfigManager) (R : Regime) (signal : Signal) (price : ℚ)
    (hprice : signal.price = some price) {w w' : World}
    {out : Except Exn Unit} (h : Exec exec R.ok (executeFromSignal signal) w out w') (row : Position)
    (hrow : row ∈ w'.positions.rows) (hnew : row ∉ w.positions.rows) :
    HasEntryLevels m price row ↔ SameLevels m price signal.strategyId := by
  obtain ⟨orderId, rfl⟩ := opened_row h hrow hnew
  have hentry : priceOrZero (entryRequest signal).price = price := by
    show signal.price.getD 0 = price
    rw [hprice]
    rfl
  have hstop : ((entryPositionArgs signal orderId).row w.positions.fresh).stopPrice =
      max (price - entryAtr price * (3 / 2)) 0 := by
    show max (priceOrZero _ - max (priceOrZero _ * (1 / 100)) 1 * (3 / 2)) 0 = _
    rw [hentry]
    rfl
  have htp : ((entryPositionArgs signal orderId).row w.positions.fresh).takeProfitPrice =
      price + entryAtr price * 2 := by
    show priceOrZero _ + max (priceOrZero _ * (1 / 100)) 1 * 2 = _
    rw [hentry]
    rfl
  have hatr := entryAtr_pos price
  unfold HasEntryLevels SameLevels
  rw [hstop, htp]
  show (∃ stop tp : ℚ, effectiveMult m signal.strategyId "stop_atr_mult" = _ ∧ _) ↔ _
  constructor
  · rintro ⟨stop, tp, hs, ht, hlevel, hprofit⟩
    have htwo : 2 = tp := mul_left_cancel₀ hatr.ne' (add_left_cancel hprofit)
    refine ⟨htwo ▸ ht, stop, hs, ?_⟩
    rcases max_sub_eq_iff.mp hlevel with heq | ⟨hdefault, hset⟩
    · exact .inl (mul_left_cancel₀ hatr.ne' heq).symm
    · exact .inr ⟨hset, hdefault⟩
  · rintro ⟨ht, stop, hs, hsame⟩
    refine ⟨stop, 2, hs, ht, max_sub_eq_iff.mpr ?_, rfl⟩
    rcases hsame with rfl | ⟨hset, hdefault⟩
    · exact .inl rfl
    · exact .inr ⟨hdefault, hset⟩

/-! ## A profit multiplier of three -/

/-- A buy signal at 100. Source: none: infrastructure. Kind: D -/
def buyAtHundred : Signal :=
  { index := 0, side := "buy", ticker := "005930", strategyId := "1", price := some 100 }

/-- The book after the signal, with a broker that accepts the order. Source: none: infrastructure.
Kind: D -/
def boughtAtHundred : World := ((executeFromSignal buyAtHundred).eval exec (fun _ _ => {}) {}).2

/-- The settings after `set("tp_atr_mult", "3.0")`. Source: none: infrastructure. Kind: D -/
def tripleProfit : ConfigManager :=
  ConfigManager.machine.after .ofDefaults [{ key := "tp_atr_mult", value := "3.0" }]

/-- **The profit level stays at 102** where the settings ask for 103. Source:
`app/services/trading_service.py` `TradingService.execute_from_signal`. Kind: C -/
theorem setting_ignored :
    effectiveMult tripleProfit "1" "tp_atr_mult" = .ok (.of 3) ∧
      ∃ row, boughtAtHundred.positions.rows = [row] ∧ row.takeProfitPrice = 102 ∧
        ¬ HasEntryLevels tripleProfit 100 row := by
  have hmult : effectiveMult tripleProfit "1" "tp_atr_mult" = .ok (.of 3) :=
    eq_ok_of_toOption (by decide +kernel)
  refine ⟨hmult, (entryPositionArgs buyAtHundred 1).row 1, by decide +kernel, by decide +kernel, ?_⟩
  rintro ⟨stop, tp, -, htp, -, hlevel⟩
  obtain rfl : (3 : ℚ) = tp := PyNum.of.inj (Except.ok.inj (hmult.symm.trans htp))
  exact absurd hlevel (by decide +kernel)

/-- The entry at 100 has the levels of the settings that the program begins with.
Source: none: infrastructure. Kind: P -/
theorem hasEntryLevels_iff_defaults :
    HasEntryLevels .ofDefaults 100 ((entryPositionArgs buyAtHundred 1).row 1) := by
  have hsame : SameLevels .ofDefaults 100 buyAtHundred.strategyId :=
    ⟨eq_ok_of_toOption (by decide +kernel), 3 / 2, eq_ok_of_toOption (by decide +kernel), .inl rfl⟩
  have hok : ∀ (e : Op) (w : World), true = true →
      Regime.ok { writesFail := False } e ({} : Answer) w :=
    fun e w _ => Regime.ok_of (fun h => h rfl) (fun _ _ _ => ⟨trivial, trivial⟩)
      (fun _ _ _ _ => trivial) (fun _ _ _ => trivial) fun _ _ _ _ _ => trivial
  have hrun : Exec exec (Regime.ok { writesFail := False }) (executeFromSignal buyAtHundred) {}
      (.ok ()) boughtAtHundred := exec_of_checked exec hok (by decide +kernel)
  exact (hasEntryLevels_iff .ofDefaults _ buyAtHundred 100 rfl hrun
    ((entryPositionArgs buyAtHundred 1).row 1) (by decide +kernel) (by decide +kernel)).mpr hsame

end TradingService

end HaruTrade
