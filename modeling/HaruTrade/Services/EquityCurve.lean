import Mathlib.Tactic.Linarith
import Mathlib.Tactic.Ring
import HaruTrade.Data.Machine
import HaruTrade.Services.CashFlows

/-!
# The time-weighted return and the equity curve

Two reports on the snapshots and the cash flows of a range. `twrReport` answers one set of figures;
`equityCurve` goes through the snapshots in order, with a pointer into the cash flows, and answers one
item for each.

* `earned` — what the account has earned from one snapshot to another: the change of its assets less
  the cash flows of the period, which is open at its begin and closed at its end.
* `Curve`, `curve_log` — the **invariant of the loop**: the pointer stands after the cash flows up to
  the last snapshot, and every figure is relative to the first one.
* `twr_equityCurve` — **the two reports agree on the time-weighted return** of every range.
* `cumulativePnl_eq_iff` — they agree on the cumulative profit exactly when the cash flows at or
  before the first snapshot and those after the last one cancel: `twrReport` subtracts them too.
-/

namespace HaruTrade

/-! ## Amounts of cash flows -/

namespace CashFlow

variable (l : List CashFlow) (p q : CashFlow → Prop) [DecidablePred p] [DecidablePred q]

/-- The total of the cash flows with `p`. Source: none: infrastructure. Kind: D -/
def sumWhere : ℚ := ((l.filter fun x => p x).map amount).sum

variable {l p q}

@[simp] theorem sumWhere_nil : sumWhere [] p = 0 := rfl

@[simp] theorem sumWhere_cons {x : CashFlow} :
    sumWhere (x :: l) p = (if p x then x.amount else 0) + sumWhere l p := by
  unfold sumWhere
  by_cases hx : p x
  · simp [hx]
  · simp [hx]

/-- **A condition that another implies** splits its total in two.
Source: none: infrastructure. Kind: L -/
theorem sumWhere_eq_add (h : ∀ x ∈ l, p x → q x) :
    sumWhere l q = sumWhere l p + sumWhere l fun x => ¬ p x ∧ q x := by
  induction l with
  | nil => simp
  | cons x l ih =>
      rw [sumWhere_cons, sumWhere_cons, sumWhere_cons,
        ih fun y hy => h y (List.mem_cons_of_mem _ hy)]
      have hx := h x (List.mem_cons_self ..)
      by_cases hp : p x
      · simp only [hp, hx hp, not_true, false_and, if_true, if_false]
        linarith
      · by_cases hq : q x
        · simp only [hp, hq, not_false_iff, true_and, if_true, if_false]
          linarith
        · simp only [hp, hq, and_false, if_false]
          linarith

theorem sum_eq_add_sumWhere : (l.map amount).sum = sumWhere l p + sumWhere l fun x => ¬ p x := by
  have htrue : (l.map amount).sum = sumWhere l fun _ => True := by simp [sumWhere]
  rw [htrue, sumWhere_eq_add (p := p) fun _ _ _ => trivial]
  simp only [and_true]

end CashFlow

namespace PerformanceService

open PerformanceRepository (listSnapshots listCashFlows)
open CashFlow (sumWhere)

/-! ## The report -/

/-- The cash flows after one time, up to another. Source: `app/services/performance.py`
`PerformanceService._compute_twr`, `PerformanceService.equity_curve`. Kind: D -/
def flowBetween (cashFlows : List CashFlow) (start stop : Instant) : ℚ :=
  sumWhere cashFlows fun x => start < x.flowTime ∧ x.flowTime ≤ stop

/-- Source: `app/services/performance.py` `PerformanceService._compute_twr`,
`PerformanceService.equity_curve`. Kind: D -/
def gross (cashFlows : List CashFlow) (prev curr : AccountSnapshot) : ℚ :=
  (curr.totalAssets - flowBetween cashFlows prev.snapshotTime curr.snapshotTime) / prev.totalAssets

/-- `for prev, curr in zip(snapshots, snapshots[1:])`; a quotient of exact numbers is finite.
Source: `app/services/performance.py` `PerformanceService._compute_twr`. Kind: D -/
def compoundTwr (cashFlows : List CashFlow) (compound : ℚ) : List AccountSnapshot → ℚ
  | prev :: curr :: rest =>
      compoundTwr cashFlows
        (if prev.totalAssets ≤ 0 then compound else compound * max (gross cashFlows prev curr) 0)
        (curr :: rest)
  | _ => compound

/-- Source: `app/services/performance.py` `PerformanceService._compute_twr`. Kind: D -/
def computeTwr (snapshots : List AccountSnapshot) (cashFlows : List CashFlow) : ℚ :=
  compoundTwr cashFlows 1 snapshots - 1

/-- Source: `app/services/performance.py` `PerformanceService.twr_report`. Kind: D -/
structure TwrReport where
  twr : ℚ
  twrPct : ℚ
  periodCount : ℕ
  cashFlowCount : ℕ
  cumulativePnl : ℚ
  realizedTradePnl : ℚ
  accountDrift : ℚ
  deriving DecidableEq, Repr

/-- Source: `app/services/performance.py` `PerformanceService.twr_report`. Kind: D -/
def twrReport (t : PerformanceTables) (start stop : Option Instant) : TwrReport :=
  let snapshots := listSnapshots t start stop
  let cashFlows := listCashFlows t start stop
  match snapshots with
  | first :: second :: rest =>
      let last := (second :: rest).getLast (List.cons_ne_nil _ _)
      let twr := computeTwr snapshots cashFlows
      let totalFlow := (cashFlows.map CashFlow.amount).sum
      let cumulativePnl := last.totalAssets - first.totalAssets - totalFlow
      let realizedTradePnl := sumRealizedPnl t first.snapshotTime last.snapshotTime
      ⟨twr, twr * 100, snapshots.length - 1, cashFlows.length, cumulativePnl, realizedTradePnl,
        cumulativePnl - realizedTradePnl⟩
  | _ => ⟨0, 0, snapshots.length - 1, cashFlows.length, 0, 0, 0⟩

/-! ## The curve -/

/-- Source: `app/services/performance.py` `PerformanceService.equity_curve`. Kind: D -/
structure EquityItem where
  snapshotTime : Instant
  totalAssets : ℚ
  cash : ℚ
  stockValue : ℚ
  marginUsed : ℚ
  openPositions : ℤ
  cumulativePnl : ℚ
  periodReturn : ℚ
  twr : ℚ
  deriving DecidableEq, Repr

/-- The locals of the loop; `pending` is `cash_flows[cf_idx:]`.
Source: `app/services/performance.py` `PerformanceService.equity_curve`. Kind: D -/
structure EquityState where
  pending : List CashFlow
  cumulativeFlow : ℚ := 0
  baselineAdjusted : Option ℚ := none
  twrCompound : ℚ := 1
  prev : Option AccountSnapshot := none
  deriving DecidableEq, Repr

/-- `while cf_idx < len(cash_flows) and cash_flows[cf_idx].flow_time <= snap.snapshot_time`.
Source: `app/services/performance.py` `PerformanceService.equity_curve`. Kind: D -/
def passFlows (time : Instant) (cumulativeFlow : ℚ) : List CashFlow → ℚ × List CashFlow
  | [] => (cumulativeFlow, [])
  | x :: rest =>
      if x.flowTime ≤ time then passFlows time (cumulativeFlow + x.amount) rest
      else (cumulativeFlow, x :: rest)

/-- One turn of the loop over the snapshots. Source: `app/services/performance.py`
`PerformanceService.equity_curve`. Kind: D -/
def equityMachine (cashFlows : List CashFlow) :
    Machine EquityState AccountSnapshot EquityItem where
  step s snap :=
    let (cumulativeFlow, pending) := passFlows snap.snapshotTime s.cumulativeFlow s.pending
    let adjustedAssets := snap.totalAssets - cumulativeFlow
    let baselineAdjusted := s.baselineAdjusted.getD adjustedAssets
    let (periodReturn, twrCompound) :=
      match s.prev with
      | some prev =>
          if 0 < prev.totalAssets then
            (gross cashFlows prev snap - 1, s.twrCompound * max (gross cashFlows prev snap) 0)
          else (0, s.twrCompound)
      | none => (0, s.twrCompound)
    (⟨pending, cumulativeFlow, some baselineAdjusted, twrCompound, some snap⟩,
      { snapshotTime := snap.snapshotTime
        totalAssets := snap.totalAssets
        cash := snap.cash
        stockValue := snap.stockValue
        marginUsed := snap.marginUsed
        openPositions := snap.openPositions
        cumulativePnl := adjustedAssets - baselineAdjusted
        periodReturn
        twr := twrCompound - 1 })

/-- The figures of `meta` are there when there are snapshots.
Source: `app/services/performance.py` `PerformanceService.equity_curve`. Kind: D -/
structure EquityCurve where
  items : List EquityItem
  count : ℕ
  twr : Option ℚ
  twrPct : Option ℚ
  deriving DecidableEq, Repr

/-- Source: `app/services/performance.py` `PerformanceService.equity_curve`. Kind: D -/
def equityCurve (t : PerformanceTables) (start stop : Option Instant) : EquityCurve :=
  let snapshots := listSnapshots t start stop
  let cashFlows := listCashFlows t start stop
  if snapshots.isEmpty then ⟨[], 0, none, none⟩
  else
    let m := equityMachine cashFlows
    let items := (m.log { pending := cashFlows } snapshots).map Prod.snd
    let twr := (m.after { pending := cashFlows } snapshots).twrCompound - 1
    ⟨items, items.length, some twr, some (twr * 100)⟩

/-! ## The invariant of the loop -/

section curve

variable {cashFlows : List CashFlow} {first last snap : AccountSnapshot}
  {snapshots : List AccountSnapshot} {s : EquityState} {time : Instant}

/-- What the account has earned from one snapshot to another.
Source: `docs/prd.md` 5.2. Kind: D -/
def earned (cashFlows : List CashFlow) (first last : AccountSnapshot) : ℚ :=
  last.totalAssets - first.totalAssets -
    flowBetween cashFlows first.snapshotTime last.snapshotTime

/-- **The inner loop** adds up the cash flows that are due, and leaves the others.
Source: `app/services/performance.py` `PerformanceService.equity_curve`. Kind: L -/
theorem passFlows_eq (time : Instant) (cumulativeFlow : ℚ) {l : List CashFlow}
    (h : l.Pairwise fun a b => a.flowTime ≤ b.flowTime) :
    passFlows time cumulativeFlow l =
      (cumulativeFlow + sumWhere l fun x => x.flowTime ≤ time,
        l.filter fun x => time < x.flowTime) := by
  induction l generalizing cumulativeFlow with
  | nil => simp [passFlows]
  | cons x l ih =>
      obtain ⟨hx, hl⟩ := List.pairwise_cons.mp h
      unfold passFlows
      by_cases hdue : x.flowTime ≤ time
      · rw [if_pos hdue, ih _ hl, CashFlow.sumWhere_cons, if_pos hdue, List.filter_cons_of_neg,
          add_assoc]
        simpa using hdue
      · -- the first flow that is not due ends the loop, and the flows after it are later still
        have hlate : ∀ y ∈ x :: l, time < y.flowTime := by
          intro y hy
          rcases List.mem_cons.mp hy with rfl | hy
          · exact not_le.mp hdue
          · exact (not_le.mp hdue).trans_le (hx y hy)
        have hnone : sumWhere (x :: l) (fun y => y.flowTime ≤ time) = 0 := by
          unfold sumWhere
          rw [List.filter_eq_nil_iff.mpr, List.map_nil, List.sum_nil]
          intro y hy
          simpa using hlate y hy
        rw [if_neg hdue, hnone, add_zero, List.filter_eq_self.mpr]
        intro y hy
        simpa using hlate y hy

/-- The compound return goes on with the last two snapshots.
Source: `app/services/performance.py` `PerformanceService._compute_twr`. Kind: L -/
theorem compoundTwr_append {compound : ℚ} :
    compoundTwr cashFlows compound (snapshots ++ [last, snap]) =
      if last.totalAssets ≤ 0 then compoundTwr cashFlows compound (snapshots ++ [last])
      else compoundTwr cashFlows compound (snapshots ++ [last]) *
        max (gross cashFlows last snap) 0 := by
  induction snapshots generalizing compound with
  | nil => simp only [List.nil_append, compoundTwr]
  | cons a snapshots ih =>
      cases snapshots with
      | nil =>
          simp only [List.cons_append, List.nil_append, compoundTwr]
      | cons b snapshots =>
          simp only [List.cons_append, compoundTwr]
          exact ih

/-- The locals after the snapshots `front` and `last`, the first of which is `first`.
Source: `app/services/performance.py` `PerformanceService.equity_curve`. Kind: D -/
structure Curve (cashFlows : List CashFlow) (first : AccountSnapshot)
    (front : List AccountSnapshot) (last : AccountSnapshot) (s : EquityState) : Prop where
  pending : s.pending = cashFlows.filter fun x => last.snapshotTime < x.flowTime
  cumulativeFlow : s.cumulativeFlow = sumWhere cashFlows fun x => x.flowTime ≤ last.snapshotTime
  baselineAdjusted : s.baselineAdjusted =
    some (first.totalAssets - sumWhere cashFlows fun x => x.flowTime ≤ first.snapshotTime)
  twrCompound : s.twrCompound = compoundTwr cashFlows 1 (front ++ [last])
  prev : s.prev = some last

/-- The cash flows up to a later time are those up to an earlier one and those between.
Source: none: infrastructure. Kind: L -/
theorem sumWhere_le_eq_add {time' : Instant} (h : time ≤ time') :
    (sumWhere cashFlows fun x => x.flowTime ≤ time') =
      (sumWhere cashFlows fun x => x.flowTime ≤ time) + flowBetween cashFlows time time' := by
  rw [CashFlow.sumWhere_eq_add (p := fun x => x.flowTime ≤ time) fun _ _ hx => hx.trans h]
  unfold flowBetween
  simp only [not_le]

theorem sumWhere_filter_lt {time' : Instant} :
    (sumWhere (cashFlows.filter fun x => time < x.flowTime) fun x => x.flowTime ≤ time') =
      flowBetween cashFlows time time' := by
  unfold sumWhere flowBetween sumWhere
  rw [List.filter_filter]
  simp only [Bool.decide_and, Bool.and_comm]

theorem flowBetween_self : flowBetween cashFlows time time = 0 :=
  left_eq_add.mp (sumWhere_le_eq_add (le_refl time))

variable (hflows : cashFlows.Pairwise fun a b => a.flowTime ≤ b.flowTime)
include hflows

variable (first) in
/-- **The first snapshot** is the baseline. Source: `app/services/performance.py`
`PerformanceService.equity_curve`. Kind: L -/
theorem curve_first :
    Curve cashFlows first [] first
        ((equityMachine cashFlows).step { pending := cashFlows } first).1 ∧
      ((equityMachine cashFlows).step { pending := cashFlows } first).2.cumulativePnl =
        earned cashFlows first first := by
  have hpass := passFlows_eq first.snapshotTime 0 hflows
  rw [zero_add] at hpass
  unfold equityMachine
  dsimp only
  rw [hpass]
  refine ⟨⟨rfl, rfl, rfl, rfl, rfl⟩, ?_⟩
  unfold earned
  rw [flowBetween_self, sub_zero, sub_self, Option.getD_none, sub_self]

/-- **One turn of the loop** keeps the invariant, and its item has the profit since the first
snapshot. Source: `app/services/performance.py` `PerformanceService.equity_curve`. Kind: L -/
theorem curve_step {front : List AccountSnapshot} (h : Curve cashFlows first front last s)
    (hfirst : first.snapshotTime ≤ snap.snapshotTime)
    (hlast : last.snapshotTime ≤ snap.snapshotTime) :
    Curve cashFlows first (front ++ [last]) snap ((equityMachine cashFlows).step s snap).1 ∧
      ((equityMachine cashFlows).step s snap).2.cumulativePnl = earned cashFlows first snap := by
  have hpass := passFlows_eq snap.snapshotTime s.cumulativeFlow
    (hflows.filter fun x => last.snapshotTime < x.flowTime)
  rw [h.cumulativeFlow, sumWhere_filter_lt, ← sumWhere_le_eq_add hlast, ← h.pending] at hpass
  unfold equityMachine
  dsimp only
  rw [h.cumulativeFlow, hpass, h.baselineAdjusted, h.prev, Option.getD_some]
  refine ⟨⟨?_, rfl, rfl, ?_, rfl⟩, ?_⟩
  · rw [h.pending, List.filter_filter]
    apply List.filter_congr
    intro x _
    by_cases hx : snap.snapshotTime < x.flowTime
    · simp [hx, hlast.trans_lt hx]
    · simp [hx]
  · rw [List.append_assoc, List.singleton_append, compoundTwr_append, h.twrCompound]
    by_cases hpos : 0 < last.totalAssets
    · rw [if_neg (not_le.mpr hpos)]
      simp only [if_pos hpos]
    · rw [if_pos (not_lt.mp hpos)]
      simp only [if_neg hpos]
  · unfold earned
    rw [sumWhere_le_eq_add hfirst]
    ring

/-- The loop has gone through `first` and the snapshots of the log.
Source: `app/services/performance.py` `PerformanceService.equity_curve`. Kind: D -/
structure CurveLog (cashFlows : List CashFlow) (first : AccountSnapshot)
    (l : List (AccountSnapshot × EquityItem)) (s : EquityState) : Prop where
  curve : ∃ front last, first :: l.map Prod.fst = front ++ [last] ∧ Curve cashFlows first front last s
  items : ∀ x ∈ l, x.2.cumulativePnl = earned cashFlows first x.1

/-- **Every item of the curve** has the profit since the first snapshot, and the curve compounds the
returns as the report does. Source: `app/services/performance.py`
`PerformanceService.equity_curve`. Kind: L -/
theorem curve_log {rest : List AccountSnapshot}
    (htimes : (first :: rest).Pairwise fun a b => a.snapshotTime ≤ b.snapshotTime) :
    (∀ x ∈ (equityMachine cashFlows).log { pending := cashFlows } (first :: rest),
        x.2.cumulativePnl = earned cashFlows first x.1) ∧
      ((equityMachine cashFlows).after { pending := cashFlows } (first :: rest)).twrCompound =
        compoundTwr cashFlows 1 (first :: rest) := by
  obtain ⟨hstart, hpnl⟩ := curve_first first hflows
  have hlog : CurveLog cashFlows first
      ((equityMachine cashFlows).log
        ((equityMachine cashFlows).step { pending := cashFlows } first).1 rest)
      ((equityMachine cashFlows).after
        ((equityMachine cashFlows).step { pending := cashFlows } first).1 rest) := by
    apply Machine.invariant
      (C := fun l _ snap => ∀ x ∈ first :: l.map Prod.fst, x.snapshotTime ≤ snap.snapshotTime)
    · exact ⟨⟨[], first, rfl, hstart⟩, fun x hx => absurd hx List.not_mem_nil⟩
    · rintro l s snap hlater ⟨⟨front, last, hdone, hcurve⟩, hitems⟩
      have hlast : last ∈ first :: l.map Prod.fst := by
        rw [hdone]
        exact List.mem_append_right _ (List.mem_singleton_self last)
      obtain ⟨hnext, hitem⟩ := curve_step hflows hcurve (hlater first (List.mem_cons_self ..))
        (hlater last hlast)
      refine ⟨⟨front ++ [last], snap, ?_, hnext⟩, ?_⟩
      · rw [List.map_append, ← List.cons_append, hdone]
        rfl
      · intro x hx
        rcases List.mem_append.mp hx with hx | hx
        · exact hitems x hx
        · obtain rfl := List.mem_singleton.mp hx
          exact hitem
    · intro pre snap post hrest x hx
      rw [Machine.map_fst_log] at hx
      rw [hrest, ← List.cons_append] at htimes
      exact (List.pairwise_append.mp htimes).2.2 x hx snap (List.mem_cons_self ..)
  refine ⟨?_, ?_⟩
  · intro x hx
    rcases List.mem_cons.mp hx with rfl | hx
    · exact hpnl
    · exact hlog.items x hx
  · obtain ⟨front, last, hdone, hcurve⟩ := hlog.curve
    have htwr := hcurve.twrCompound
    rw [← hdone, Machine.map_fst_log] at htwr
    exact htwr

end curve

/-! ## The two reports -/

section reports

variable {t : PerformanceTables} {start stop : Option Instant}

/-- The snapshots of a range come in the order of time. Source: `app/repositories/performance.py`
`PerformanceRepository.list_snapshots`. Kind: L -/
theorem pairwise_of_listed {l : List AccountSnapshot} (h : listSnapshots t start stop = l) :
    l.Pairwise fun a b => a.snapshotTime ≤ b.snapshotTime := by
  rw [← h]
  exact pairwise_listByTime

theorem pairwise_listCashFlows :
    (listCashFlows t start stop).Pairwise fun a b => a.flowTime ≤ b.flowTime :=
  pairwise_listByTime

/-- The cash flows of a range outside the period from its first snapshot to its last one.
Source: none: infrastructure. Kind: D -/
def edgeFlow (snapshots : List AccountSnapshot) (cashFlows : List CashFlow) : ℚ :=
  match snapshots.head?, snapshots.getLast? with
  | some first, some last =>
      sumWhere cashFlows fun x => ¬ (first.snapshotTime < x.flowTime ∧
        x.flowTime ≤ last.snapshotTime)
  | _, _ => 0

theorem twrReport_of_lt (h : (listSnapshots t start stop).length < 2) :
    (twrReport t start stop).cumulativePnl = 0 := by
  unfold twrReport
  dsimp only
  split
  · next first second rest hlisted =>
      rw [hlisted] at h
      simp only [List.length_cons] at h
      omega
  · rfl

/-- **The report** subtracts the cash flows outside the period of its snapshots too.
Source: `app/services/performance.py` `PerformanceService.twr_report`. Kind: L -/
theorem cumulativePnl_twrReport {first second : AccountSnapshot} {rest : List AccountSnapshot}
    (h : listSnapshots t start stop = first :: second :: rest) :
    (twrReport t start stop).cumulativePnl =
      earned (listCashFlows t start stop) first
          ((second :: rest).getLast (List.cons_ne_nil _ _)) -
        edgeFlow (listSnapshots t start stop) (listCashFlows t start stop) := by
  have hlast : (first :: second :: rest).getLast? =
      some ((second :: rest).getLast (List.cons_ne_nil _ _)) := by
    rw [List.getLast?_eq_some_getLast (List.cons_ne_nil _ _),
      List.getLast_cons (List.cons_ne_nil _ _)]
  unfold twrReport edgeFlow
  rw [h]
  dsimp only [List.head?_cons]
  rw [hlast]
  dsimp only
  rw [CashFlow.sum_eq_add_sumWhere (p := fun x => first.snapshotTime < x.flowTime ∧
    x.flowTime ≤ ((second :: rest).getLast (List.cons_ne_nil _ _)).snapshotTime)]
  unfold earned flowBetween
  ring

/-- **The last item of the curve** has what the account has earned from its first snapshot to its
last. Source: `app/services/performance.py` `PerformanceService.equity_curve`. Kind: L -/
theorem getLast?_items {first : AccountSnapshot} {rest : List AccountSnapshot}
    (h : listSnapshots t start stop = first :: rest) :
    ∃ item, (equityCurve t start stop).items.getLast? = some item ∧
      item.cumulativePnl = earned (listCashFlows t start stop) first
        ((first :: rest).getLast (List.cons_ne_nil _ _)) := by
  obtain ⟨hitems, -⟩ := curve_log pairwise_listCashFlows (pairwise_of_listed h)
  have hfst := Machine.map_fst_log (m := equityMachine (listCashFlows t start stop))
    (s := { pending := listCashFlows t start stop }) (first :: rest)
  generalize hlog : (equityMachine (listCashFlows t start stop)).log
    { pending := listCashFlows t start stop } (first :: rest) = l at hitems hfst
  have hl : l ≠ [] := by
    rintro rfl
    exact absurd hfst (by simp)
  refine ⟨(l.getLast hl).2, ?_, ?_⟩
  · unfold equityCurve
    dsimp only
    rw [h, List.isEmpty_cons, if_neg Bool.false_ne_true, hlog, List.getLast?_map,
      List.getLast?_eq_some_getLast hl, Option.map_some]
  · rw [hitems _ (List.getLast_mem hl)]
    congr 1
    have hlast : ((l.map Prod.fst).getLast (by simpa using hl)) = (l.getLast hl).1 :=
      List.getLast_map _
    rw [← hlast]
    simp only [hfst]

/-- **The two reports agree on the time-weighted return** when there are snapshots.
Source: `app/services/performance.py` `PerformanceService.twr_report`,
`PerformanceService.equity_curve`. Kind: P -/
theorem twr_equityCurve (h : listSnapshots t start stop ≠ []) :
    (equityCurve t start stop).twr = some (twrReport t start stop).twr := by
  obtain ⟨first, rest, hlisted⟩ := List.exists_cons_of_ne_nil h
  obtain ⟨-, htwr⟩ := curve_log pairwise_listCashFlows (pairwise_of_listed hlisted)
  unfold equityCurve twrReport
  dsimp only
  rw [hlisted, List.isEmpty_cons, if_neg Bool.false_ne_true]
  dsimp only
  rw [htwr]
  cases rest with
  | nil => simp [compoundTwr]
  | cons second rest => rfl

/-- **When the reports agree on the cumulative profit**: there is at most one snapshot, or the cash
flows at or before the first snapshot and after the last one cancel.
Source: `app/services/performance.py` `PerformanceService.twr_report`,
`PerformanceService.equity_curve`. Kind: C -/
theorem cumulativePnl_eq_iff :
    (∀ item ∈ (equityCurve t start stop).items.getLast?,
        (twrReport t start stop).cumulativePnl = item.cumulativePnl) ↔
      (listSnapshots t start stop).length < 2 ∨
        edgeFlow (listSnapshots t start stop) (listCashFlows t start stop) = 0 := by
  cases hlisted : listSnapshots t start stop with
  | nil =>
      have hitems : (equityCurve t start stop).items = [] := by
        unfold equityCurve
        rw [hlisted]
        rfl
      simp [hitems]
  | cons first rest =>
      obtain ⟨last, hlast, hpnl⟩ := getLast?_items hlisted
      rw [hlast]
      simp only [Option.mem_some_iff, forall_eq']
      cases rest with
      | nil =>
          have hzero : (twrReport t start stop).cumulativePnl = 0 :=
            twrReport_of_lt (by simp [hlisted])
          rw [hzero, hpnl, List.getLast_singleton]
          unfold earned
          rw [flowBetween_self]
          simp
      | cons second rest =>
          rw [cumulativePnl_twrReport hlisted, hpnl, hlisted, List.getLast_cons (List.cons_ne_nil _ _),
            sub_eq_self]
          simp

end reports

/-! ## A deposit before the first snapshot -/

/-- A deposit of the evening, and two snapshots of the days after it that show the same assets.
Source: none: infrastructure. Kind: D -/
def depositBefore : PerformanceTables where
  snapshots := ⟨[⟨1, timedelta 86400, "pre_market", 10500000, 10500000, 0, 0, 0⟩,
    ⟨2, timedelta 172800, "pre_market", 10500000, 10500000, 0, 0, 0⟩], by decide⟩
  cashFlows := ⟨[⟨1, timedelta 64800, 500000, 10000000, 10500000, "manual"⟩], by decide⟩
  trades := Table.empty

/-- **The report shows a loss of 500,000**, the curve none.
Source: `app/services/performance.py` `PerformanceService.twr_report`. Kind: L -/
theorem deposit_before_counts :
    (twrReport depositBefore none none).cumulativePnl = -500000 ∧
    (equityCurve depositBefore none none).items.getLast?.map EquityItem.cumulativePnl = some 0 := by
  decide +kernel

end PerformanceService

end HaruTrade
