import HaruTrade.Services.ReturnChain

/-!
# The cash flows between two items of the equity curve

The curve adds up the cash flows with a pointer, and the returns are computed by filtering them anew for
every period. Both go through the cash flows that the query answers, 5000 at most.

* `earned_step` — what is earned from one snapshot to the next.
* `curve_flows` — **from item to item the cumulative profit grows by what the filter leaves of the change
  of the assets**, and the return is that of the report.
* `curve_misses_flow` — with 5001 cash flows in a period the curve takes the last one for a profit.
-/

namespace HaruTrade

namespace PerformanceService

open PerformanceRepository (listSnapshots listCashFlows)
open CashFlow (sumWhere)

section items

variable {t : PerformanceTables} {cashFlows : List CashFlow} {first prev curr : AccountSnapshot}
  {snapshots : List AccountSnapshot} {start stop : Option Instant} {s : EquityState}

/-- **What is earned in a period** is the change of the assets less the cash flows of the period.
Source: `docs/prd.md` 5.2. Kind: L -/
theorem earned_step (hfirst : first.snapshotTime ≤ prev.snapshotTime)
    (hprev : prev.snapshotTime ≤ curr.snapshotTime) :
    earned cashFlows first curr - earned cashFlows first prev =
      curr.totalAssets - prev.totalAssets -
        flowBetween cashFlows prev.snapshotTime curr.snapshotTime := by
  have hcurr : (sumWhere cashFlows fun x => x.flowTime ≤ curr.snapshotTime) = _ :=
    sumWhere_le_eq_add (hfirst.trans hprev)
  have hstep : (sumWhere cashFlows fun x => x.flowTime ≤ curr.snapshotTime) = _ :=
    sumWhere_le_eq_add hprev
  have hbefore : (sumWhere cashFlows fun x => x.flowTime ≤ prev.snapshotTime) = _ :=
    sumWhere_le_eq_add hfirst
  unfold earned
  linarith

/-- An item carries the time and the assets of its snapshot. Source: `app/services/performance.py`
`PerformanceService.equity_curve`. Kind: L -/
theorem item_of_mem_log {x : AccountSnapshot × EquityItem}
    (hx : x ∈ (equityMachine cashFlows).log s snapshots) :
    x.2.snapshotTime = x.1.snapshotTime ∧ x.2.totalAssets = x.1.totalAssets := by
  obtain ⟨pre, post, hlog⟩ := List.append_of_mem hx
  obtain ⟨js, ks, -, -, hitem⟩ := Machine.log_eq_append_cons hlog
  rw [hitem]
  exact ⟨rfl, rfl⟩

/-- **The last item** has the return of the loop. Source: `app/services/performance.py`
`PerformanceService.equity_curve`. Kind: L -/
theorem twr_getLast?_log (h : snapshots ≠ []) :
    (((equityMachine cashFlows).log s snapshots).map Prod.snd).getLast?.map EquityItem.twr =
      some (((equityMachine cashFlows).after s snapshots).twrCompound - 1) := by
  obtain ⟨front, last, rfl⟩ := List.eq_nil_or_concat' snapshots |>.resolve_left h
  rw [Machine.log_append, Machine.after_append, List.map_append]
  show ((_ ++ [((equityMachine cashFlows).step _ last).2] : List EquityItem).getLast?).map _ = _
  rw [List.getLast?_concat]
  rfl

/-- **A period has the same cash flows in every range around it**, when the query answers them all.
Source: `app/repositories/performance.py` `PerformanceRepository.list_cash_flows`. Kind: L -/
theorem flowBetween_eq_flowSum {p q : Instant}
    (hlimit : (t.cashFlows.rows.filter (inRange CashFlow.flowTime start stop)).length ≤ 5000)
    (hp : start.all (· ≤ p) = true) (hq : stop.all (q ≤ ·) = true) :
    flowBetween (listCashFlows t start stop) p q = t.flowSum p q := by
  have hperm : (listCashFlows t start stop).Perm _ := listByTime_perm hlimit
  unfold flowBetween sumWhere PerformanceTables.flowSum
  rw [((hperm.filter _).map CashFlow.amount).sum_eq, List.filter_filter]
  congr 2
  apply List.filter_congr
  intro x _
  by_cases hx : p < x.flowTime ∧ x.flowTime ≤ q
  · have hin : inRange CashFlow.flowTime start stop x = true := by
      rw [inRange, Bool.and_eq_true]
      constructor
      · cases start with
        | none => rfl
        | some start => simpa using (by simpa using hp : start ≤ p).trans hx.1.le
      · cases stop with
        | none => rfl
        | some stop => simpa using hx.2.trans (by simpa using hq : q ≤ stop)
    rw [hin, Bool.and_true]
  · rw [decide_eq_false hx, Bool.false_and]

variable (t start stop)

/-- The items of the curve are the outputs of its loop. Source: `app/services/performance.py`
`PerformanceService.equity_curve`. Kind: L -/
theorem items_equityCurve :
    (equityCurve t start stop).items =
      ((equityMachine (listCashFlows t start stop)).log { pending := listCashFlows t start stop }
        (listSnapshots t start stop)).map Prod.snd := by
  unfold equityCurve
  cases listSnapshots t start stop with
  | nil => rfl
  | cons first rest => rfl

/-- **The profit grows by what the cash flows of the period leave of the change of the assets.**
Source: `app/services/performance.py` `PerformanceService.equity_curve`. Kind: L -/
theorem pairwise_items :
    (equityCurve t start stop).items.Pairwise fun a b =>
      b.cumulativePnl - a.cumulativePnl = b.totalAssets - a.totalAssets -
        flowBetween (listCashFlows t start stop) a.snapshotTime b.snapshotTime := by
  rw [items_equityCurve, List.pairwise_map]
  cases hlisted : listSnapshots t start stop with
  | nil => exact List.Pairwise.nil
  | cons first rest =>
      have htimes := pairwise_of_listed hlisted
      obtain ⟨hearned, -⟩ := curve_log pairwise_listCashFlows htimes
      have hfst := Machine.map_fst_log (m := equityMachine (listCashFlows t start stop))
        (s := { pending := listCashFlows t start stop }) (first :: rest)
      have hordered := htimes
      rw [← hfst, List.pairwise_map] at hordered
      refine hordered.imp_of_mem fun {a b} ha hb hab => ?_
      have hfirst : first.snapshotTime ≤ a.1.snapshotTime := by
        have hmem : a.1 ∈ first :: rest := by
          rw [← hfst]
          exact List.mem_map_of_mem ha
        rcases List.mem_cons.mp hmem with heq | hmem
        · rw [heq]
        · exact (List.pairwise_cons.mp htimes).1 a.1 hmem
      obtain ⟨hatime, haassets⟩ := item_of_mem_log ha
      obtain ⟨hbtime, hbassets⟩ := item_of_mem_log hb
      rw [hearned a ha, hearned b hb, hatime, hbtime, haassets, hbassets]
      exact earned_step hfirst hab

/-- The times of the items are in the range. Source: `app/services/performance.py`
`PerformanceService.equity_curve`. Kind: L -/
theorem inRange_of_mem_items {item : EquityItem} (h : item ∈ (equityCurve t start stop).items) :
    inRange EquityItem.snapshotTime start stop item = true := by
  rw [items_equityCurve] at h
  obtain ⟨x, hx, rfl⟩ := List.mem_map.mp h
  have hmem : x.1 ∈ listSnapshots t start stop := by
    rw [← Machine.map_fst_log (m := equityMachine (listCashFlows t start stop))
      (s := { pending := listCashFlows t start stop }) (listSnapshots t start stop)]
    exact List.mem_map_of_mem hx
  have hrange : inRange AccountSnapshot.snapshotTime start stop x.1 = true := by
    have hsorted := (List.perm_insertionSort _ _).mem_iff.mp (List.mem_of_mem_take hmem)
    exact (List.mem_filter.mp hsorted).2
  rw [inRange, (item_of_mem_log hx).1]
  exact hrange

/-- **The curve and its cash flows.** For every history and range: from one item to the next the
cumulative profit grows by the change of the assets less the cash flows of the period that the query
answers, which are all cash flows of the period when the range has at most 5000; and the return of the
last item is the one of the curve and of the report, which is zero when there are fewer than two
snapshots. Without snapshots there is no item. Source: `app/services/performance.py`
`PerformanceService.equity_curve`, `PerformanceService.twr_report`. Kind: P -/
theorem curve_flows :
    ((equityCurve t start stop).items.IsChain fun a b =>
        b.cumulativePnl - a.cumulativePnl = b.totalAssets - a.totalAssets -
          flowBetween (listCashFlows t start stop) a.snapshotTime b.snapshotTime) ∧
      ((t.cashFlows.rows.filter (inRange CashFlow.flowTime start stop)).length ≤ 5000 →
        ∀ a ∈ (equityCurve t start stop).items, ∀ b ∈ (equityCurve t start stop).items,
          flowBetween (listCashFlows t start stop) a.snapshotTime b.snapshotTime =
            t.flowSum a.snapshotTime b.snapshotTime) ∧
      (equityCurve t start stop).items.length = (listSnapshots t start stop).length ∧
      (listSnapshots t start stop ≠ [] →
        (equityCurve t start stop).items.getLast?.map EquityItem.twr =
            some (twrReport t start stop).twr ∧
          (equityCurve t start stop).twr = some (twrReport t start stop).twr) ∧
      ((listSnapshots t start stop).length < 2 → (twrReport t start stop).twr = 0) := by
  refine ⟨(pairwise_items t start stop).isChain, ?_, ?_, ?_, ?_⟩
  · intro hlimit a ha b hb
    have harange := inRange_of_mem_items t start stop ha
    have hbrange := inRange_of_mem_items t start stop hb
    rw [inRange, Bool.and_eq_true] at harange hbrange
    exact flowBetween_eq_flowSum hlimit harange.1 hbrange.2
  · rw [items_equityCurve, List.length_map]
    have hfst := congrArg List.length (Machine.map_fst_log
      (m := equityMachine (listCashFlows t start stop))
      (s := { pending := listCashFlows t start stop }) (listSnapshots t start stop))
    rwa [List.length_map] at hfst
  · intro hsome
    have htwr := twr_equityCurve hsome
    refine ⟨?_, htwr⟩
    rw [← htwr, items_equityCurve, twr_getLast?_log hsome]
    unfold equityCurve
    rw [if_neg (by simpa using hsome)]
  · intro hshort
    have hone : 1 + (twrReport t start stop).twr = 1 := by
      rw [one_add_twr]
      rcases hlisted : listSnapshots t start stop with _ | ⟨a, _ | ⟨b, rest⟩⟩
      · rfl
      · rfl
      · rw [hlisted] at hshort
        simp only [List.length_cons] at hshort
        omega
    linarith

end items

/-! ## More cash flows than the query answers -/

/-- A deposit of one at time five. Source: none: infrastructure. Kind: D -/
def deposit (n : ℕ) : CashFlow := ⟨n, 5, 1, 0, 0, "manual"⟩

/-- Source: none: infrastructure. Kind: D -/
def deposits (n : ℕ) : List CashFlow := (List.range n).map deposit

theorem nodup_deposits (n : ℕ) : ((deposits n).map CashFlow.id).Nodup := by
  have hids : CashFlow.id ∘ deposit = id := rfl
  rw [deposits, List.map_map, hids, List.map_id]
  exact List.nodup_range

/-- Two snapshots between which the assets grow by 5001. Source: none: infrastructure. Kind: D -/
def growing : Table AccountSnapshot.id :=
  ⟨[⟨1, 0, "pre_market", 10000, 10000, 0, 0, 0⟩, ⟨2, 10, "pre_market", 15001, 15001, 0, 0, 0⟩],
    by decide⟩

/-- The two snapshots with deposits between them. Source: none: infrastructure. Kind: D -/
def withDeposits (n : ℕ) : PerformanceTables where
  snapshots := growing
  cashFlows := ⟨deposits n, nodup_deposits n⟩
  trades := Table.empty

theorem sumWhere_ones {l : List CashFlow} {p : CashFlow → Prop} [DecidablePred p]
    (h : ∀ x ∈ l, x.amount = 1 ∧ p x) : sumWhere l p = l.length := by
  induction l with
  | nil => rfl
  | cons x l ih =>
      obtain ⟨hone, hx⟩ := h x List.mem_cons_self
      rw [CashFlow.sumWhere_cons, if_pos hx, hone, ih fun y hy => h y (List.mem_cons_of_mem x hy),
        List.length_cons]
      push_cast
      ring

/-- Every deposit is one, between the snapshots. Source: none: infrastructure. Kind: L -/
theorem deposit_between {n : ℕ} :
    ∀ x ∈ deposits n, x.amount = 1 ∧ ((0 : Instant) < x.flowTime ∧ x.flowTime ≤ 10) := by
  intro x hx
  obtain ⟨k, -, rfl⟩ := List.mem_map.mp hx
  exact ⟨rfl, (by decide : (0 : Instant) < 5), (by decide : (5 : Instant) ≤ 10)⟩

theorem flowSum_withDeposits (n : ℕ) : (withDeposits n).flowSum 0 10 = n := by
  have hsum := sumWhere_ones (deposit_between (n := n))
  rw [deposits, List.length_map, List.length_range] at hsum
  exact hsum

/-- **The query leaves deposits out** when there are more than 5000.
Source: `app/repositories/performance.py` `PerformanceRepository.list_cash_flows`. Kind: L -/
theorem flowBetween_withDeposits (n : ℕ) :
    flowBetween (listCashFlows (withDeposits n) none none) 0 10 = min 5000 n := by
  have hall : (deposits n).filter (inRange CashFlow.flowTime none none) = deposits n :=
    List.filter_eq_self.mpr fun _ _ => rfl
  have hsorted : (deposits n).Pairwise fun a b => a.flowTime ≤ b.flowTime := by
    rw [deposits, List.pairwise_map]
    exact List.pairwise_of_forall fun _ _ => le_refl (5 : Instant)
  have hlisted : listCashFlows (withDeposits n) none none = (deposits n).take 5000 := by
    unfold listCashFlows listByTime withDeposits
    rw [hall, hsorted.insertionSort_eq]
  have hsum := sumWhere_ones fun x (hx : x ∈ (deposits n).take 5000) =>
    deposit_between x (List.mem_of_mem_take hx)
  rw [List.length_take, deposits, List.length_map, List.length_range] at hsum
  rw [hlisted, deposits]
  exact_mod_cast hsum

/-- **The last deposit is taken for a profit**: the assets grow by the deposits alone, and the cumulative
profit by one. Source: `app/services/performance.py` `PerformanceService.equity_curve`. Kind: P -/
theorem curve_misses_flow :
    ¬ ∀ (t : PerformanceTables) (start stop : Option Instant),
      (∀ x ∈ t.snapshots.rows, 0 < x.totalAssets) →
      (t.snapshots.rows.Pairwise fun a b => a.snapshotTime ≤ b.snapshotTime) →
      (equityCurve t start stop).items.IsChain fun a b =>
        b.cumulativePnl - a.cumulativePnl = b.totalAssets - a.totalAssets -
          t.flowSum a.snapshotTime b.snapshotTime := by
  intro h
  have hsame : ∀ n : ℕ, ((min 5000 n : ℕ) : ℚ) = n := by
    intro n
    have hclaimed := h (withDeposits n) none none (by simp [withDeposits, growing])
      (by simp [withDeposits, growing])
    have hcomputed := (pairwise_items (withDeposits n) none none).isChain
    have hlisted : listSnapshots (withDeposits n) none none = growing.rows := by
      show listByTime AccountSnapshot.snapshotTime none none 5000 growing.rows = _
      decide +kernel
    rw [items_equityCurve, hlisted] at hclaimed hcomputed
    have hpair := (List.isChain_cons_cons.mp hcomputed).1
    rw [(List.isChain_cons_cons.mp hclaimed).1] at hpair
    have hflows := sub_right_inj.mp hpair
    change (withDeposits n).flowSum 0 10 = flowBetween _ 0 10 at hflows
    rw [flowSum_withDeposits, flowBetween_withDeposits] at hflows
    exact hflows.symm
  have hlast := hsame 5001
  norm_num at hlast

end PerformanceService

end HaruTrade
