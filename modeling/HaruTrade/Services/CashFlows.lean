import HaruTrade.Repositories.Performance

/-!
# Detection of cash flows

What the change of the assets between two snapshots has that no closed trade explains is taken to be
a deposit or a withdrawal, and recorded at the time of the later snapshot. It is not recorded when it
is below the threshold, or when a cash flow is already recorded within 90 seconds of that snapshot.

* `detectPair_fst` — **one pair of snapshots** adds at most one cash flow, of the whole change that
  the trades leave open.
* `flowSum_detectPairs_of_forall` — the pairs before and after it leave a period's cash flows alone.
* `reconciled_iff` — **when a period is reconciled**: detection looks for earlier cash flows near the
  end of the period only, and never at their amounts. So what it records is right exactly when the
  period has none that matters, and what it does not record is right exactly when the cash flows that
  the period already has explain the change.
-/

namespace HaruTrade

namespace PerformanceService

open PerformanceRepository (listSnapshots hasCashFlowNear createCashFlow)

/-! ## The loop over the snapshots -/

/-- Source: `app/services/performance.py` `PerformanceService._sum_realized_pnl`. Kind: D -/
def sumRealizedPnl (t : PerformanceTables) (start stop : Instant) : ℚ :=
  (((PaperRepository.listTrades t (some start) (some stop)).filter
    (PerformanceTables.closedIn start stop)).map fun x => x.pnl.getD 0).sum

/-- `delta_assets - pnl`. Source: `app/services/performance.py`
`PerformanceService.detect_cash_flows`. Kind: D -/
def inferredFlow (t : PerformanceTables) (prev curr : AccountSnapshot) : ℚ :=
  curr.totalAssets - prev.totalAssets - sumRealizedPnl t prev.snapshotTime curr.snapshotTime

/-- One turn of the loop: the tables it leaves, and the row it has created.
Source: `app/services/performance.py` `PerformanceService.detect_cash_flows`. Kind: D -/
def detectPair (threshold : ℚ) (t : PerformanceTables) (prev curr : AccountSnapshot) :
    PerformanceTables × List CashFlow :=
  let flow := inferredFlow t prev curr
  if |flow| < threshold then (t, [])
  else if hasCashFlowNear t curr.snapshotTime then (t, [])
  else
    let (t', row) := createCashFlow t curr.snapshotTime flow (curr.totalAssets - flow)
      curr.totalAssets "auto"
    (t', [row])

/-- `for prev, curr in zip(snapshots, snapshots[1:])`. Source: `app/services/performance.py`
`PerformanceService.detect_cash_flows`. Kind: D -/
def detectPairs (threshold : ℚ) (t : PerformanceTables) :
    List AccountSnapshot → PerformanceTables × List CashFlow
  | prev :: curr :: rest =>
      let (t', rows) := detectPair threshold t prev curr
      let (t'', rows') := detectPairs threshold t' (curr :: rest)
      (t'', rows ++ rows')
  | _ => (t, [])

/-- Source: `app/services/performance.py` `PerformanceService.detect_cash_flows`. Kind: D -/
structure Detection where
  created : ℕ
  items : List CashFlow
  deriving DecidableEq, Repr

/-- `auto_cash_flow_min_amount` when the call names no minimum.
Source: `app/services/performance.py` `PerformanceService.detect_cash_flows`. Kind: D -/
def threshold (autoCashFlowMinAmount : ℚ) (minAmount : Option ℚ) : ℚ :=
  minAmount.getD autoCashFlowMinAmount

/-- Source: `app/services/performance.py` `PerformanceService.detect_cash_flows`. Kind: D -/
def detectCashFlows (autoCashFlowMinAmount : ℚ) (t : PerformanceTables)
    (start stop : Option Instant) (minAmount : Option ℚ) : PerformanceTables × Detection :=
  let snapshots := listSnapshots t start stop
  if snapshots.length < 2 then (t, ⟨0, []⟩)
  else
    let (t', items) := detectPairs (threshold autoCashFlowMinAmount minAmount) t snapshots
    (t', ⟨items.length, items⟩)

/-! ## What reconciliation means -/

/-- What the trades of the period leave open of the change of the assets.
Source: `docs/prd.md` 5.2. Kind: D -/
def unexplained (t : PerformanceTables) (prev curr : AccountSnapshot) : ℚ :=
  curr.totalAssets - prev.totalAssets - t.realizedPnl prev.snapshotTime curr.snapshotTime

/-- The cash flows of the period explain the rest of the change, up to the threshold.
Source: `docs/prd.md` 5.2. Kind: D -/
def Reconciled (threshold : ℚ) (t : PerformanceTables) (prev curr : AccountSnapshot) : Prop :=
  |t.flowSum prev.snapshotTime curr.snapshotTime - unexplained t prev curr| < threshold

/-- The trades of the period are within what one query answers.
Source: `app/repositories/paper.py` `PaperRepository.list_trades`. Kind: D -/
def TradesListed (t : PerformanceTables) (prev curr : AccountSnapshot) : Prop :=
  (t.trades.rows.filter (inRange PaperTrade.createdAt (some prev.snapshotTime)
    (some curr.snapshotTime))).length ≤ 10000

/-- The pair passes both checks, so that its flow is recorded.
Source: `app/services/performance.py` `PerformanceService.detect_cash_flows`. Kind: D -/
def Records (threshold : ℚ) (t : PerformanceTables) (prev curr : AccountSnapshot) : Prop :=
  threshold ≤ |unexplained t prev curr| ∧ hasCashFlowNear t curr.snapshotTime = false

section detection

variable {threshold : ℚ} {t : PerformanceTables} {prev curr : AccountSnapshot}

instance : Decidable (Reconciled threshold t prev curr) := inferInstanceAs (Decidable (_ < _))

instance : Decidable (TradesListed t prev curr) := inferInstanceAs (Decidable (_ ≤ _))

instance : Decidable (Records threshold t prev curr) := inferInstanceAs (Decidable (_ ∧ _))

/-- **The query loses no trade** that the period has closed.
Source: `app/services/performance.py` `PerformanceService._sum_realized_pnl`. Kind: L -/
theorem inferredFlow_eq (h : TradesListed t prev curr) :
    inferredFlow t prev curr = unexplained t prev curr := by
  unfold inferredFlow unexplained
  congr 1
  have hfilter : (t.trades.rows.filter (inRange PaperTrade.createdAt (some prev.snapshotTime)
      (some curr.snapshotTime))).filter
        (PerformanceTables.closedIn prev.snapshotTime curr.snapshotTime) =
      t.trades.rows.filter (PerformanceTables.closedIn prev.snapshotTime curr.snapshotTime) := by
    rw [List.filter_filter]
    apply List.filter_congr
    intro x _
    rw [Bool.and_eq_left_iff_imp]
    intro hx
    have hin : prev.snapshotTime < x.createdAt ∧ x.createdAt ≤ curr.snapshotTime := by
      simpa [PerformanceTables.closedIn] using (Bool.and_eq_true_iff.mp hx).2
    simp [inRange, hin.1.le, hin.2]
  unfold sumRealizedPnl PerformanceTables.realizedPnl PaperRepository.listTrades
  rw [← hfilter]
  exact (((listByTime_perm h).filter _).map _).sum_eq

/-! ## One pair -/

/-- **One pair** records its flow, or leaves the tables alone.
Source: `app/services/performance.py` `PerformanceService.detect_cash_flows`. Kind: L -/
theorem detectPair_fst :
    (detectPair threshold t prev curr).1 =
      if threshold ≤ |inferredFlow t prev curr| ∧ hasCashFlowNear t curr.snapshotTime = false then
        (createCashFlow t curr.snapshotTime (inferredFlow t prev curr)
          (curr.totalAssets - inferredFlow t prev curr) curr.totalAssets "auto").1
      else t := by
  unfold detectPair
  by_cases hsmall : |inferredFlow t prev curr| < threshold
  · rw [if_pos hsmall, if_neg fun h => absurd hsmall (not_lt.mpr h.1)]
  · rw [if_neg hsmall]
    by_cases hnear : hasCashFlowNear t curr.snapshotTime = true
    · rw [if_pos hnear, if_neg fun h => absurd hnear (by simp [h.2])]
    · rw [if_neg hnear, if_pos ⟨not_lt.mp hsmall, Bool.eq_false_of_not_eq_true hnear⟩]

theorem detectPair_trades : (detectPair threshold t prev curr).1.trades = t.trades := by
  rw [detectPair_fst]
  split_ifs
  · rfl
  · rfl

/-- Source: `app/services/performance.py` `PerformanceService.detect_cash_flows`. Kind: L -/
theorem flowSum_detectPair {start stop : Instant} :
    (detectPair threshold t prev curr).1.flowSum start stop =
      t.flowSum start stop +
        if (threshold ≤ |inferredFlow t prev curr| ∧
            hasCashFlowNear t curr.snapshotTime = false) ∧
          (start < curr.snapshotTime ∧ curr.snapshotTime ≤ stop)
        then inferredFlow t prev curr else 0 := by
  rw [detectPair_fst]
  by_cases hrecords : threshold ≤ |inferredFlow t prev curr| ∧
      hasCashFlowNear t curr.snapshotTime = false
  · rw [if_pos hrecords, PerformanceTables.flowSum_createCashFlow]
    simp only [hrecords, true_and]
  · rw [if_neg hrecords, if_neg fun h => hrecords h.1, add_zero]

/-! ## The pairs around it -/

section pairs

variable {l front back : List AccountSnapshot} {start stop : Instant}

theorem detectPairs_cons_cons : (detectPairs threshold t (prev :: curr :: l)).1 =
    (detectPairs threshold (detectPair threshold t prev curr).1 (curr :: l)).1 := by
  rw [detectPairs]

theorem detectPairs_trades : (detectPairs threshold t l).1.trades = t.trades := by
  induction l generalizing t with
  | nil => rfl
  | cons prev l ih =>
      cases l with
      | nil => rfl
      | cons curr l =>
          rw [detectPairs_cons_cons, ih, detectPair_trades]

/-- The loop over a list goes on where the loop over its beginning has ended.
Source: none: infrastructure. Kind: L -/
theorem detectPairs_append :
    (detectPairs threshold t (front ++ prev :: back)).1 =
      (detectPairs threshold (detectPairs threshold t (front ++ [prev])).1 (prev :: back)).1 := by
  induction front generalizing t with
  | nil => simp only [List.nil_append, detectPairs]
  | cons a front ih =>
      cases front with
      | nil =>
          simp only [List.cons_append, List.nil_append, detectPairs_cons_cons]
          simp only [detectPairs]
      | cons b front =>
          simp only [List.cons_append, detectPairs_cons_cons]
          exact ih

/-- **Pairs that end outside a period** leave its cash flows alone.
Source: `app/services/performance.py` `PerformanceService.detect_cash_flows`. Kind: L -/
theorem flowSum_detectPairs_of_forall
    (h : ∀ x ∈ l.tail, ¬ (start < x.snapshotTime ∧ x.snapshotTime ≤ stop)) :
    (detectPairs threshold t l).1.flowSum start stop = t.flowSum start stop := by
  induction l generalizing t with
  | nil => rfl
  | cons prev l ih =>
      cases l with
      | nil => rfl
      | cons curr l =>
          rw [detectPairs_cons_cons, ih, flowSum_detectPair, if_neg, add_zero]
          · intro hcurr
            exact h curr (List.mem_cons_self ..) hcurr.2
          · intro x hx
            exact h x (List.mem_cons_of_mem _ hx)

end pairs

/-! ## What the documentation says -/

section run

variable {autoCashFlowMinAmount : ℚ} {minAmount : Option ℚ} {start stop : Option Instant}
  {front back : List AccountSnapshot}

/-- The tables when the loop comes to the pair of `prev` and the snapshot after it.
Source: `app/services/performance.py` `PerformanceService.detect_cash_flows`. Kind: D -/
def examined (threshold : ℚ) (t : PerformanceTables) (front : List AccountSnapshot)
    (prev : AccountSnapshot) : PerformanceTables :=
  (detectPairs threshold t (front ++ [prev])).1

theorem detectCashFlows_fst
    (hlisted : listSnapshots t start stop = front ++ prev :: curr :: back) :
    (detectCashFlows autoCashFlowMinAmount t start stop minAmount).1 =
      (detectPairs (PerformanceService.threshold autoCashFlowMinAmount minAmount) t
        (front ++ prev :: curr :: back)).1 := by
  unfold detectCashFlows
  rw [hlisted, if_neg]
  simp only [List.length_append, List.length_cons]
  omega

theorem detectCashFlows_trades :
    (detectCashFlows autoCashFlowMinAmount t start stop minAmount).1.trades = t.trades := by
  unfold detectCashFlows
  dsimp only
  split_ifs
  · rfl
  · exact detectPairs_trades

/-- Trades alone decide what is unexplained. Source: none: infrastructure. Kind: L -/
theorem unexplained_congr {t' : PerformanceTables} (h : t'.trades = t.trades) :
    unexplained t' prev curr = unexplained t prev curr := by
  unfold unexplained PerformanceTables.realizedPnl
  rw [h]

theorem tradesListed_congr {t' : PerformanceTables} (h : t'.trades = t.trades)
    (hlisted : TradesListed t prev curr) : TradesListed t' prev curr := by
  unfold TradesListed
  rw [h]
  exact hlisted

/-- **What a period has after the run**: its earlier cash flows, and the recorded one.
Source: `app/services/performance.py` `PerformanceService.detect_cash_flows`. Kind: L -/
theorem flowSum_detectPairs (htrades : TradesListed t prev curr)
    (htimes : (front ++ prev :: curr :: back).Pairwise fun a b => a.snapshotTime < b.snapshotTime) :
    (detectPairs threshold t (front ++ prev :: curr :: back)).1.flowSum prev.snapshotTime
        curr.snapshotTime =
      t.flowSum prev.snapshotTime curr.snapshotTime +
        if Records threshold (examined threshold t front prev) prev curr
        then unexplained t prev curr else 0 := by
  obtain ⟨-, hpairs, hfront⟩ := List.pairwise_append.mp htimes
  obtain ⟨hprev, hpairs⟩ := List.pairwise_cons.mp hpairs
  obtain ⟨hcurr, -⟩ := List.pairwise_cons.mp hpairs
  -- the earlier pairs end at `prev` or before, the later ones after `curr`
  have hbefore : (examined threshold t front prev).flowSum prev.snapshotTime curr.snapshotTime =
      t.flowSum prev.snapshotTime curr.snapshotTime := by
    apply flowSum_detectPairs_of_forall
    intro x hx hin
    rcases List.mem_append.mp (List.mem_of_mem_tail hx) with hx | hx
    · exact absurd hin.1 (hfront x hx prev (List.mem_cons_self ..)).le.not_gt
    · obtain rfl := List.mem_singleton.mp hx
      exact absurd hin.1 (lt_irrefl _)
  have hafter : ∀ x ∈ (curr :: back).tail,
      ¬ (prev.snapshotTime < x.snapshotTime ∧ x.snapshotTime ≤ curr.snapshotTime) := by
    intro x hx hin
    exact absurd hin.2 (hcurr x hx).not_ge
  have hsame : (examined threshold t front prev).trades = t.trades := detectPairs_trades
  have hflow := inferredFlow_eq (tradesListed_congr hsame htrades)
  have hlt : prev.snapshotTime < curr.snapshotTime := hprev curr (List.mem_cons_self ..)
  rw [detectPairs_append, detectPairs_cons_cons, flowSum_detectPairs_of_forall hafter,
    ← examined, flowSum_detectPair, hbefore, hflow]
  congr 1
  by_cases hrecords : Records threshold (examined threshold t front prev) prev curr
  · rw [if_pos ⟨hrecords, hlt, le_refl _⟩, if_pos hrecords, unexplained_congr hsame]
  · rw [if_neg fun h => hrecords h.1, if_neg hrecords]

/-- **When a period is reconciled** after a run over snapshots of different times: where the pair's
flow is recorded, exactly when the cash flows that were there are together below the threshold; where
it is not, exactly when they explain the change.
Source: `app/services/performance.py` `PerformanceService.detect_cash_flows`, `docs/prd.md` 5.2.
Kind: C -/
theorem reconciled_iff
    (hlisted : listSnapshots t start stop = front ++ prev :: curr :: back)
    (htimes : (listSnapshots t start stop).Pairwise fun a b => a.snapshotTime < b.snapshotTime)
    (htrades : TradesListed t prev curr) :
    Reconciled (PerformanceService.threshold autoCashFlowMinAmount minAmount)
        (detectCashFlows autoCashFlowMinAmount t start stop minAmount).1 prev curr ↔
      if Records (PerformanceService.threshold autoCashFlowMinAmount minAmount)
          (examined (PerformanceService.threshold autoCashFlowMinAmount minAmount) t front prev)
          prev curr
      then |t.flowSum prev.snapshotTime curr.snapshotTime| <
        PerformanceService.threshold autoCashFlowMinAmount minAmount
      else Reconciled (PerformanceService.threshold autoCashFlowMinAmount minAmount) t prev curr := by
  generalize hthreshold : PerformanceService.threshold autoCashFlowMinAmount minAmount = threshold
  rw [hlisted] at htimes
  unfold Reconciled
  rw [unexplained_congr detectCashFlows_trades, detectCashFlows_fst hlisted, hthreshold,
    flowSum_detectPairs htrades htimes]
  by_cases hrecords : Records threshold (examined threshold t front prev) prev curr
  · rw [if_pos hrecords, if_pos hrecords, add_sub_cancel_right]
  · rw [if_neg hrecords, if_neg hrecords, add_zero]

end run

end detection

/-! ## A deposit at noon -/

/-- Source: none: infrastructure. Kind: D -/
def morning : AccountSnapshot := ⟨1, 0, "pre_market", 10000000, 10000000, 0, 0, 0⟩

/-- Source: none: infrastructure. Kind: D -/
def nextMorning : AccountSnapshot :=
  ⟨2, timedelta 86400, "pre_market", 10500000, 10500000, 0, 0, 0⟩

/-- A deposit of 500,000 that the user has recorded, between two snapshots that show it.
Source: none: infrastructure. Kind: D -/
def depositDay : PerformanceTables where
  snapshots := ⟨[morning, nextMorning], by decide⟩
  cashFlows := ⟨[⟨1, timedelta 43200, 500000, 10000000, 10500000, "manual"⟩], by decide⟩
  trades := Table.empty

/-- A deposit that the user has not recorded is recorded, once. Source: `app/services/performance.py`
`PerformanceService.detect_cash_flows`. Kind: C -/
theorem reconciled_iff_depositDay :
    Reconciled (threshold 10000 none)
      (detectCashFlows 10000 { depositDay with cashFlows := Table.empty } none none none).1
        morning nextMorning := by
  have hlisted : listSnapshots { depositDay with cashFlows := Table.empty } none none =
      [] ++ morning :: nextMorning :: [] := by
    decide +kernel
  refine (reconciled_iff hlisted (by decide +kernel) (by decide +kernel)).mpr ?_
  rw [if_pos (by decide +kernel)]
  decide +kernel

/-- **The deposit is recorded a second time**: its own row is twelve hours before the snapshot.
Source: `app/services/performance.py` `PerformanceService.detect_cash_flows`. Kind: L -/
theorem deposit_recorded_twice :
    listSnapshots depositDay none none = [morning, nextMorning] ∧
    morning.snapshotTime < nextMorning.snapshotTime ∧ TradesListed depositDay morning nextMorning ∧
    Reconciled (threshold 10000 none) depositDay morning nextMorning ∧
    ¬ Reconciled (threshold 10000 none) (detectCashFlows 10000 depositDay none none none).1
      morning nextMorning := by
  decide +kernel

end PerformanceService

end HaruTrade
