import Mathlib.Algebra.Order.Field.Rat
import Mathlib.Tactic.Linarith
import HaruTrade.Domain.Models

/-!
# The position state machine

`decide` compares the current price with the levels of a position and answers with a `Transition`;
`apply` (in the repository: `applyTransition`) writes it to the row.

* `decide_cases` — everything `decide` can answer, one case per return of the source.
* `close_cases` / `hold_cases` — the same, split by whether a close is asked for.
-/

namespace HaruTrade

/-- Source: `app/orders/state_machine.py` `PositionSnapshot`. Kind: D -/
structure PositionSnapshot where
  state : PositionState
  remainingQuantity : ℚ
  stopPrice : ℚ
  takeProfitPrice : ℚ
  trailingStopPrice : Option ℚ
  highestPrice : Option ℚ
  deriving DecidableEq, Repr

/-- Source: `app/orders/state_machine.py` `Transition`. Kind: D -/
structure Transition where
  newState : PositionState
  closeQty : ℚ
  reason : Option String
  newHighest : Option ℚ
  newTrailingStop : Option ℚ
  deriving DecidableEq, Repr

namespace PositionStateMachine

/-- `position.highest_price or current_price`: a missing highest price and a highest price of zero
are both replaced. Source: `app/orders/state_machine.py` `PositionStateMachine.decide`. Kind: D -/
def highestOr {F : Type} [OfNat F 0] [DecidableEq F] (highest : Option F) (currentPrice : F) : F :=
  match highest with
  | some h => if h = 0 then currentPrice else h
  | none => currentPrice

/-- The highest price a half-closed position has seen, the current one included.
Source: `app/orders/state_machine.py` `PositionStateMachine.decide`. Kind: D -/
def highest (p : PositionSnapshot) (currentPrice : ℚ) : ℚ :=
  max (highestOr p.highestPrice currentPrice) currentPrice

/-- The level a half-closed position is closed at.
Source: `app/orders/state_machine.py` `PositionStateMachine.decide`. Kind: D -/
def trailing (p : PositionSnapshot) (currentPrice atrValue trailAtrMult : ℚ) : ℚ :=
  highest p currentPrice - atrValue * trailAtrMult

/-- **What to do with a position at the current price.**
Source: `app/orders/state_machine.py` `PositionStateMachine.decide`. Kind: D -/
def decide (p : PositionSnapshot) (currentPrice atrValue trailAtrMult : ℚ) : Transition :=
  match p.state with
  | .OPEN =>
      if currentPrice ≤ p.stopPrice then
        { newState := .CLOSED, closeQty := p.remainingQuantity, reason := some "stop_loss",
          newHighest := p.highestPrice, newTrailingStop := p.trailingStopPrice }
      else if p.takeProfitPrice ≤ currentPrice then
        { newState := .HALF_CLOSED, closeQty := p.remainingQuantity / 2,
          reason := some "take_profit_half", newHighest := some currentPrice,
          newTrailingStop := some (currentPrice - atrValue * trailAtrMult) }
      else
        { newState := .OPEN, closeQty := 0, reason := none,
          newHighest := p.highestPrice, newTrailingStop := p.trailingStopPrice }
  | .HALF_CLOSED =>
      if currentPrice ≤ trailing p currentPrice atrValue trailAtrMult then
        { newState := .CLOSED, closeQty := p.remainingQuantity, reason := some "trailing_stop",
          newHighest := some (highest p currentPrice),
          newTrailingStop := some (trailing p currentPrice atrValue trailAtrMult) }
      else
        { newState := .HALF_CLOSED, closeQty := 0, reason := none,
          newHighest := some (highest p currentPrice),
          newTrailingStop := some (trailing p currentPrice atrValue trailAtrMult) }
  | .CLOSED =>
      { newState := .CLOSED, closeQty := 0, reason := none,
        newHighest := p.highestPrice, newTrailingStop := p.trailingStopPrice }

variable {p : PositionSnapshot} {price atr mult : ℚ}

/-- **A transition that closes something** closes all that remains and ends in `CLOSED`, or halves
an open position. Source: `app/orders/state_machine.py` `PositionStateMachine.decide`. Kind: P -/
theorem close_cases (h : 0 < (decide p price atr mult).closeQty) :
    (p.state ≠ .CLOSED ∧ (decide p price atr mult).newState = .CLOSED ∧
        (decide p price atr mult).closeQty = p.remainingQuantity) ∨
      (p.state = .OPEN ∧ (decide p price atr mult).newState = .HALF_CLOSED ∧
        (decide p price atr mult).closeQty = p.remainingQuantity / 2 ∧
        p.stopPrice < price ∧ p.takeProfitPrice ≤ price) := by
  unfold decide at h ⊢
  cases hs : p.state with
  | OPEN =>
      simp only [hs] at h ⊢
      by_cases hstop : price ≤ p.stopPrice
      · simp [hstop]
      · by_cases htp : p.takeProfitPrice ≤ price
        · simpa [hstop, htp] using lt_of_not_ge hstop
        · simp [hstop, htp] at h
  | HALF_CLOSED =>
      simp only [hs] at h ⊢
      by_cases htr : price ≤ trailing p price atr mult
      · simp [htr]
      · simp [htr] at h
  | CLOSED => simp [hs] at h

/-- No transition closes more than remains. Source: `app/orders/state_machine.py`
`PositionStateMachine.decide`. Kind: L -/
theorem closeQty_le (h : 0 < (decide p price atr mult).closeQty) :
    (decide p price atr mult).closeQty ≤ p.remainingQuantity := by
  rcases close_cases h with ⟨-, -, hq⟩ | ⟨-, -, hq, -⟩
  · exact hq.le
  · rw [hq] at h ⊢
    linarith

/-- **A transition that closes nothing**, of a position with something left, keeps the state.
Source: `app/orders/state_machine.py` `PositionStateMachine.decide`. Kind: P -/
theorem newState_of_hold (hrem : 0 < p.remainingQuantity)
    (h : ¬ 0 < (decide p price atr mult).closeQty) :
    (decide p price atr mult).newState = p.state := by
  unfold decide at h ⊢
  cases hs : p.state with
  | OPEN =>
      simp only [hs] at h ⊢
      by_cases hstop : price ≤ p.stopPrice
      · simp [hstop, hrem] at h
      · by_cases htp : p.takeProfitPrice ≤ price
        · simp only [hstop, htp, if_true, if_false] at h
          exact absurd (by linarith) h
        · simp [hstop, htp]
  | HALF_CLOSED =>
      simp only [hs] at h ⊢
      by_cases htr : price ≤ trailing p price atr mult
      · simp [htr, hrem] at h
      · simp [htr]
  | CLOSED => simp

/-- An open position whose transition closes nothing has nothing to write either.
Source: `app/orders/state_machine.py` `PositionStateMachine.decide`. Kind: P -/
theorem levels_of_open_hold (hs : p.state = .OPEN) (hrem : 0 < p.remainingQuantity)
    (h : ¬ 0 < (decide p price atr mult).closeQty) :
    (decide p price atr mult).newHighest = p.highestPrice ∧
      (decide p price atr mult).newTrailingStop = p.trailingStopPrice := by
  unfold decide at h ⊢
  simp only [hs] at h ⊢
  by_cases hstop : price ≤ p.stopPrice
  · simp [hstop]
  · by_cases htp : p.takeProfitPrice ≤ price
    · simp only [hstop, htp, if_true, if_false] at h
      exact absurd (by linarith) h
    · simp [hstop, htp]

end PositionStateMachine

end HaruTrade
