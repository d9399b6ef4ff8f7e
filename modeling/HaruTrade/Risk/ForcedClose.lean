import HaruTrade.Core.Config
import HaruTrade.Data.StableSort
import HaruTrade.Risk.Engine
import Mathlib.Data.List.Dedup

/-!
# The forced close of a margin account

When the positions are worth more than the account's own capital, `margin_forced_close_order` picks
the positions to close: in the order of the strategies' priority, one by one, until what is left is
worth no more than the capital.

* `RiskEngine.marginForcedCloseOrder` — the sort and the loop.
* `RiskEngine.exists_shortest` — the loop closes the shortest part of the sorted positions whose
  removal is enough.
* `RiskEngine.marginForcedCloseOrder_spec` — the same of the whole function, with what it says of
  the closed ids.
* `LoopAPositionManager.resolveMarginForcedClose` — the same with the capital and the priority of
  the settings.
-/

namespace HaruTrade

/-- Source: `app/risk/engine.py` `PositionExposure`. Kind: D -/
structure PositionExposure where
  positionId : ℤ
  strategyId : String
  marketValue : ℚ
  deriving DecidableEq, Repr

/-- `sum(x.market_value for x in exposures)`. Source: `app/risk/engine.py`
`RiskEngine.margin_forced_close_order`. Kind: D -/
def totalValue (exposures : List PositionExposure) : ℚ :=
  (exposures.map PositionExposure.marketValue).sum

/-- The ids of the positions. Source: none: infrastructure. Kind: D -/
def positionIds (exposures : List PositionExposure) : List ℤ :=
  exposures.map PositionExposure.positionId

/-- The positions that are left when the ones with these ids are closed.
Source: none: infrastructure. Kind: D -/
def leftOpen (exposures : List PositionExposure) (closed : List ℤ) : List PositionExposure :=
  exposures.filter fun x => x.positionId ∉ closed

namespace RiskEngine

/-- The comparison of an amount with the capital. Source: `app/risk/engine.py`
`RiskEngine.margin_forced_close_order`. Kind: D -/
def within (amount : ℚ) (dailyBaseCapital : PyNum) : Bool := (PyNum.of amount).le dailyBaseCapital

/-- The key of the sort. Source: `app/risk/engine.py` `RiskEngine.margin_forced_close_order`.
Kind: D -/
def priorityIndex (priority : List String) (x : PositionExposure) : ℕ :=
  if x.strategyId ∈ priority then priority.idxOf x.strategyId else priority.length

/-- The loop over the sorted positions, with what the open ones are worth. Source:
`app/risk/engine.py` `RiskEngine.margin_forced_close_order`. Kind: D -/
def closeLoop (dailyBaseCapital : PyNum) : ℚ → List PositionExposure → List ℤ
  | _, [] => []
  | running, row :: rows =>
    if within (running - row.marketValue) dailyBaseCapital then [row.positionId]
    else row.positionId :: closeLoop dailyBaseCapital (running - row.marketValue) rows

/-- Source: `app/risk/engine.py` `RiskEngine.margin_forced_close_order`. Kind: D -/
def marginForcedCloseOrder (exposures : List PositionExposure) (dailyBaseCapital : PyNum)
    (priority : List String) : List ℤ :=
  if within (totalValue exposures) dailyBaseCapital then []
  else
    closeLoop dailyBaseCapital (totalValue exposures) (sortOn (priorityIndex priority) exposures)

variable {exposures rows : List PositionExposure} {dailyBaseCapital : PyNum}
  {priority : List String} {x y : PositionExposure}

@[simp] theorem totalValue_cons : totalValue (x :: rows) = x.marketValue + totalValue rows := by
  simp [totalValue]

theorem totalValue_perm (h : rows.Perm exposures) : totalValue rows = totalValue exposures :=
  (h.map _).sum_eq

/-- **The loop closes the shortest part that is enough**: what is left behind the closed positions
is within the capital, and it is not when fewer of them are closed. Source: `app/risk/engine.py`
`RiskEngine.margin_forced_close_order`. Kind: P -/
theorem exists_shortest (hcapital : within 0 dailyBaseCapital)
    (h : ¬ within (totalValue rows) dailyBaseCapital) :
    ∃ n, 0 < n ∧ n ≤ rows.length ∧
      closeLoop dailyBaseCapital (totalValue rows) rows = positionIds (rows.take n) ∧
      within (totalValue (rows.drop n)) dailyBaseCapital ∧
      ∀ m < n, ¬ within (totalValue (rows.drop m)) dailyBaseCapital := by
  induction rows with
  | nil => exact absurd hcapital h
  | cons row rows ih =>
      have hrest : totalValue (row :: rows) - row.marketValue = totalValue rows := by
        rw [totalValue_cons, add_sub_cancel_left]
      unfold closeLoop
      rw [hrest]
      by_cases hin : within (totalValue rows) dailyBaseCapital
      · rw [if_pos hin]
        refine ⟨1, by omega, by simp, rfl, hin, fun m hm => ?_⟩
        obtain rfl : m = 0 := by omega
        exact h
      · rw [if_neg hin]
        obtain ⟨n, hpos, hle, heq, hlast, hleast⟩ := ih hin
        refine ⟨n + 1, by omega, by simpa using hle, ?_, hlast, fun m hm => ?_⟩
        · rw [heq]
          rfl
        · cases m with
          | zero => exact h
          | succ m => exact hleast m (by omega)

/-- The positions that are left behind the first ones are those whose ids are not among theirs.
Source: none: infrastructure. Kind: L -/
theorem totalValue_leftOpen_take (hids : (positionIds exposures).Nodup)
    (hperm : rows.Perm exposures) (n : ℕ) :
    totalValue (leftOpen exposures (positionIds (rows.take n))) = totalValue (rows.drop n) := by
  have hnodup : (positionIds rows).Nodup := (hperm.map _).nodup_iff.mpr hids
  have hsplit : positionIds (rows.take n) ++ positionIds (rows.drop n) = positionIds rows := by
    unfold positionIds
    rw [← List.map_append, List.take_append_drop]
  rw [← hsplit] at hnodup
  have hdisjoint := List.disjoint_of_nodup_append hnodup
  have htake : leftOpen (rows.take n) (positionIds (rows.take n)) = [] :=
    List.filter_eq_nil_iff.mpr fun x hx => by
      have hmem : x.positionId ∈ positionIds (rows.take n) := List.mem_map_of_mem hx
      simpa using hmem
  have hdrop : leftOpen (rows.drop n) (positionIds (rows.take n)) = rows.drop n :=
    List.filter_eq_self.mpr fun x hx => by
      simpa using fun h => hdisjoint h (List.mem_map_of_mem hx)
  have hleft : leftOpen rows (positionIds (rows.take n)) = rows.drop n := by
    conv_lhs => rw [← List.take_append_drop n rows]
    unfold leftOpen at htake hdrop ⊢
    rw [List.filter_append]
    rw [List.take_append_drop, htake, hdrop, List.nil_append]
  rw [← hleft]
  exact totalValue_perm (hperm.symm.filter _)

/-- In a sorted list the positions of smaller key stand before a position: when it is closed, so
are they, and before it. Source: none: infrastructure. Kind: L -/
theorem closed_before (hids : (positionIds rows).Nodup)
    (hordered : rows.Pairwise fun a b => priorityIndex priority a ≤ priorityIndex priority b)
    (hx : x ∈ rows) (hy : y ∈ rows) (hlt : priorityIndex priority y < priorityIndex priority x)
    {n : ℕ} (hclosed : x.positionId ∈ positionIds (rows.take n)) :
    y.positionId ∈ positionIds (rows.take n) ∧
      (positionIds (rows.take n)).idxOf y.positionId <
        (positionIds (rows.take n)).idxOf x.positionId := by
  obtain ⟨x', hx', hid⟩ := List.mem_map.mp hclosed
  obtain rfl : x' = x := List.inj_on_of_nodup_map hids (List.mem_of_mem_take hx') hx hid
  obtain ⟨before, after, htake⟩ := List.append_of_mem hx'
  have hrows : rows = before ++ x' :: (after ++ rows.drop n) := by
    conv_lhs => rw [← List.take_append_drop n rows, htake]
    rw [List.append_assoc, List.cons_append]
  rw [hrows] at hordered hy hids
  -- the sort puts nothing of a smaller key behind the closed position
  have hybefore : y ∈ before := by
    rcases List.mem_append.mp hy with hy | hy
    · exact hy
    · rcases List.mem_cons.mp hy with rfl | hy
      · exact absurd hlt (lt_irrefl _)
      · have hle := List.rel_of_pairwise_cons (List.pairwise_append.mp hordered).2.1 hy
        exact absurd hlt (not_lt.mpr hle)
  have hyid : y.positionId ∈ positionIds before := List.mem_map_of_mem hybefore
  have hxid : x'.positionId ∉ positionIds before := by
    unfold positionIds at hids ⊢
    rw [List.map_append, List.map_cons] at hids
    exact fun h => List.disjoint_of_nodup_append hids h List.mem_cons_self
  have hids' : positionIds (rows.take n) = positionIds before ++ x'.positionId :: positionIds after := by
    rw [htake]
    exact List.map_append
  rw [hids', List.idxOf_append_of_mem hyid, List.idxOf_append_of_notMem hxid]
  refine ⟨List.mem_append_left _ hyid, ?_⟩
  exact Nat.lt_add_right _ (List.idxOf_lt_length_of_mem hyid)

theorem dropLast_positionIds_take {n : ℕ} (hle : n ≤ rows.length) :
    (positionIds (rows.take n)).dropLast = positionIds (rows.take (n - 1)) := by
  unfold positionIds
  rw [List.dropLast_eq_take, List.length_map, List.length_take, min_eq_left hle, ← List.map_take,
    List.take_take, min_eq_left (Nat.sub_le n 1)]

/-- Positions over the capital are closed in their stable order, up to the first one that brings the
rest within it. Source: `app/risk/engine.py` `RiskEngine.margin_forced_close_order`. Kind: L -/
theorem exists_closed (priority : List String) (hcapital : within 0 dailyBaseCapital)
    (hin : ¬ within (totalValue rows) dailyBaseCapital) :
    ∃ sorted n, IsStableSort (priorityIndex priority) rows sorted ∧ 0 < n ∧ n ≤ sorted.length ∧
      marginForcedCloseOrder rows dailyBaseCapital priority = positionIds (sorted.take n) ∧
      within (totalValue (sorted.drop n)) dailyBaseCapital ∧
      ∀ m < n, ¬ within (totalValue (sorted.drop m)) dailyBaseCapital := by
  have hsort : IsStableSort (priorityIndex priority) rows (sortOn (priorityIndex priority) rows) :=
    isStableSort_sortOn
  have horder : marginForcedCloseOrder rows dailyBaseCapital priority =
      closeLoop dailyBaseCapital (totalValue (sortOn (priorityIndex priority) rows))
        (sortOn (priorityIndex priority) rows) := by
    rw [totalValue_perm hsort.perm]
    exact if_neg hin
  rw [← totalValue_perm hsort.perm] at hin
  obtain ⟨n, hpos, hle, heq, hlast, hleast⟩ := exists_shortest hcapital hin
  exact ⟨_, n, hsort, hpos, hle, horder.trans heq, hlast, hleast⟩

/-- **The forced close**: nothing is closed exactly when the positions are within the capital;
otherwise the ids of the shortest part of the positions, in the stable order of their strategies'
priority, whose removal brings what is left within it. No id is closed twice, none before one of
smaller key, and with the last one left open the rest is not within the capital. Source:
`app/risk/engine.py` `RiskEngine.margin_forced_close_order`. Kind: P -/
theorem marginForcedCloseOrder_spec (exposures : List PositionExposure) (dailyBaseCapital : PyNum)
    (priority : List String) (hids : (positionIds exposures).Nodup)
    (hcapital : within 0 dailyBaseCapital) :
    let order := marginForcedCloseOrder exposures dailyBaseCapital priority
    (order = [] ↔ within (totalValue exposures) dailyBaseCapital) ∧
      (¬ within (totalValue exposures) dailyBaseCapital →
        ∃ sorted n, IsStableSort (priorityIndex priority) exposures sorted ∧
          order = positionIds (sorted.take n) ∧
          within (totalValue (sorted.drop n)) dailyBaseCapital ∧
          ∀ m < n, ¬ within (totalValue (sorted.drop m)) dailyBaseCapital) ∧
      order.Nodup ∧
      (∀ x ∈ exposures, ∀ y ∈ exposures, priorityIndex priority y < priorityIndex priority x →
        x.positionId ∈ order →
          y.positionId ∈ order ∧ order.idxOf y.positionId < order.idxOf x.positionId) ∧
      within (totalValue (leftOpen exposures order)) dailyBaseCapital ∧
      (order ≠ [] → ¬ within (totalValue (leftOpen exposures order.dropLast)) dailyBaseCapital) := by
  intro order
  by_cases hin : within (totalValue exposures) dailyBaseCapital
  · have hempty : order = [] := if_pos hin
    have hall : leftOpen exposures [] = exposures := by simp [leftOpen]
    rw [hempty, hall]
    exact ⟨⟨fun _ => hin, fun _ => rfl⟩, fun h => absurd hin h, List.nodup_nil,
      fun _ _ _ _ _ h => absurd h List.not_mem_nil, hin, fun h => absurd rfl h⟩
  · obtain ⟨sorted, n, hsort, hpos, hle, hclosed, hlast, hleast⟩ :=
      exists_closed priority hcapital hin
    have heq : order = positionIds (sorted.take n) := hclosed
    have hids' : (positionIds sorted).Nodup := (hsort.perm.map _).nodup_iff.mpr hids
    have hne : order ≠ [] := by
      rw [← List.length_pos_iff, heq, positionIds, List.length_map, List.length_take,
        min_eq_left hle]
      exact hpos
    refine ⟨⟨fun h => absurd h hne, fun h => absurd h hin⟩,
      fun _ => ⟨sorted, n, hsort, heq, hlast, hleast⟩, ?_, ?_, ?_, fun _ => ?_⟩
    · rw [heq, positionIds, List.map_take]
      exact (List.take_sublist n _).nodup hids'
    · intro x hx y hy hlt hclosed
      rw [heq] at hclosed ⊢
      exact closed_before hids' hsort.ordered (hsort.perm.mem_iff.mpr hx)
        (hsort.perm.mem_iff.mpr hy) hlt hclosed
    · rw [heq, totalValue_leftOpen_take hids hsort.perm]
      exact hlast
    · rw [heq, dropLast_positionIds_take hle, totalValue_leftOpen_take hids hsort.perm]
      exact hleast (n - 1) (by omega)

/-- Three positions of 100 over a capital of 150, closed by priority: the second and the third.
Source: `tests/test_risk_engine_phase2.py` `test_margin_forced_close_priority`. Kind: L -/
theorem marginForcedCloseOrder_spec_three :
    let exposures : List PositionExposure := [⟨1, "4", 100⟩, ⟨2, "1", 100⟩, ⟨3, "2", 100⟩]
    let order := marginForcedCloseOrder exposures (.of 150) ["1", "2", "3", "5", "4"]
    order = [2, 3] ∧ order.Nodup ∧ within (totalValue (leftOpen exposures order)) (.of 150) := by
  intro exposures order
  have h := marginForcedCloseOrder_spec exposures (.of 150) ["1", "2", "3", "5", "4"] (by decide)
    (by decide)
  exact ⟨by decide +kernel, h.2.2.1, h.2.2.2.2.1⟩

end RiskEngine

/-! ## The settings -/

namespace LoopAPositionManager

open ConfigManager

variable {config : ConfigManager} {text : String}

/-- The strategies of a priority text. Source: `app/loops/core.py`
`LoopAPositionManager.resolve_margin_forced_close`. Kind: D -/
def priorityOf (text : String) : List String :=
  ((PyText.split ',' text).map PyText.strip).filter (· ≠ "")

/-- Source: `app/loops/core.py` `LoopAPositionManager.resolve_margin_forced_close`. Kind: D -/
def resolveMarginForcedClose (config : ConfigManager) (exposures : List PositionExposure) :
    Except ConfigError (List ℤ) := do
  let baseCapital ← config.get "daily_base_capital" >>= number false
  let priority := priorityOf (← config.get "margin_close_priority")
  return RiskEngine.marginForcedCloseOrder exposures baseCapital priority

/-- **What the settings accept as a priority is one**: a nonempty list of distinct numeric strategy
ids, so that every listed strategy has one place in it. Source: `app/core/config.py`
`ConfigManager.set`. Kind: P -/
theorem priorityOf_of_check (h : checkClosePriority text = .ok ()) :
    priorityOf text ≠ [] ∧ (priorityOf text).Nodup ∧
      ∀ s ∈ priorityOf text, PyText.isDigit s := by
  unfold checkClosePriority at h
  dsimp only at h
  split_ifs at h with hempty hdup hdigit
  refine ⟨hempty, ?_, fun s hs => ?_⟩
  · have heq : (priorityOf text).dedup = priorityOf text :=
      (List.dedup_sublist _).eq_of_length (not_not.mp hdup)
    rw [← heq]
    exact List.nodup_dedup _
  · by_contra hs'
    exact hdigit (List.any_eq_true.mpr ⟨s, hs, by simpa using hs'⟩)

/-- Two strategies of an accepted priority that are listed at one place are the same one. Source:
`app/loops/core.py` `LoopAPositionManager.resolve_margin_forced_close`. Kind: L -/
theorem strategyId_eq_of_priorityIndex_eq {x y : PositionExposure}
    (hx : x.strategyId ∈ priorityOf text)
    (h : RiskEngine.priorityIndex (priorityOf text) x =
      RiskEngine.priorityIndex (priorityOf text) y) : x.strategyId = y.strategyId := by
  unfold RiskEngine.priorityIndex at h
  rw [if_pos hx] at h
  split_ifs at h with hy
  · exact List.idxOf_inj hx |>.mp h
  · exact absurd h (List.idxOf_lt_length_of_mem hx).ne

end LoopAPositionManager

end HaruTrade
