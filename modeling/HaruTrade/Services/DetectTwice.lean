import HaruTrade.Data.StableSort
import HaruTrade.Services.ReturnChain

/-!
# Detecting cash flows twice

Detection does not subtract the cash flows that are recorded: that it records nothing a second time
rests on the look for a cash flow near the later snapshot of a pair. A pair is `Settled` when it is below
the threshold or has such a cash flow.

* `settled_detectPairs` — after a run every pair of its snapshots is settled, and `Settled.detectPairs`:
  what is settled stays settled.
* `detectPairs_eq_nil_iff` — a run records nothing exactly when every pair is settled.
* `isInfix_listSnapshots` — the snapshots of a smaller range are a piece of those of the range.
* `Unambiguous.answersAlike` — the database may find the rows in another order for the second run, which
  shows only when rows have equal times.
* `detect_again_iff` — **a second run records nothing** over the same range, nor over a part of a range
  whose snapshots one query answers; in general, exactly when the pairs that are new to it are settled.
* `detect_again_records` — after a range of 5001 snapshots its last two are detected, and after snapshots
  of one time have changed places the deposit between them is.
-/

namespace HaruTrade

namespace PerformanceService

open PerformanceRepository (listSnapshots hasCashFlowNear createCashFlow)

/-- The pair has nothing to record: it is below the threshold, or a cash flow is near.
Source: `app/services/performance.py` `PerformanceService.detect_cash_flows`. Kind: D -/
def Settled (threshold : ℚ) (t : PerformanceTables) (prev curr : AccountSnapshot) : Prop :=
  |inferredFlow t prev curr| < threshold ∨ hasCashFlowNear t curr.snapshotTime = true

section settled

variable {threshold threshold' : ℚ} {t t' : PerformanceTables} {prev curr a b : AccountSnapshot}
  {l : List AccountSnapshot}

instance : Decidable (Settled threshold t prev curr) := inferInstanceAs (Decidable (_ ∨ _))

theorem Settled.mono (h : Settled threshold t prev curr) (hle : threshold ≤ threshold') :
    Settled threshold' t prev curr :=
  h.imp_left fun hsmall => hsmall.trans_le hle

/-- A settled pair records nothing. Source: `app/services/performance.py`
`PerformanceService.detect_cash_flows`. Kind: L -/
theorem detectPair_of_settled (h : Settled threshold t prev curr) :
    detectPair threshold t prev curr = (t, []) := by
  unfold detectPair
  by_cases hsmall : |inferredFlow t prev curr| < threshold
  · exact if_pos hsmall
  · rw [if_neg hsmall]
    exact if_pos (h.resolve_left hsmall)

/-- A pair that is not settled records one cash flow. Source: `app/services/performance.py`
`PerformanceService.detect_cash_flows`. Kind: L -/
theorem detectPair_of_not_settled (h : ¬ Settled threshold t prev curr) :
    (detectPair threshold t prev curr).2 ≠ [] := by
  obtain ⟨hlarge, hfar⟩ := not_or.mp h
  unfold detectPair
  rw [if_neg hlarge, if_neg hfar]
  exact List.cons_ne_nil _ _

/-- The time of a cash flow is near itself. Source: `app/repositories/performance.py`
`PerformanceRepository.has_cash_flow_near`. Kind: L -/
theorem hasCashFlowNear_of_mem {x : CashFlow} {time : Instant} (hx : x ∈ t.cashFlows.rows)
    (htime : x.flowTime = time) : hasCashFlowNear t time = true := by
  unfold hasCashFlowNear
  rw [List.any_eq_true]
  refine ⟨x, hx, ?_⟩
  have hpos : (0 : ℤ) ≤ timedelta 90 := by decide
  rw [htime, decide_eq_true_eq]
  exact ⟨Int.sub_le_self time hpos, Int.le_add_of_nonneg_right hpos⟩

theorem mem_createCashFlow {flowTime : Instant} {amount totalBefore totalAfter : ℚ}
    {detectedBy : String} :
    (createCashFlow t flowTime amount totalBefore totalAfter detectedBy).2 ∈
      (createCashFlow t flowTime amount totalBefore totalAfter detectedBy).1.cashFlows.rows := by
  unfold createCashFlow
  rw [Table.rows_add]
  exact List.mem_append_right _ List.mem_cons_self

/-- **Detection only adds cash flows.** Source: `app/services/performance.py`
`PerformanceService.detect_cash_flows`. Kind: L -/
theorem subset_detectPair :
    t.cashFlows.rows ⊆ (detectPair threshold t prev curr).1.cashFlows.rows := by
  rw [detectPair_fst]
  split_ifs
  · intro x hx
    unfold createCashFlow
    rw [Table.rows_add]
    exact List.mem_append_left _ hx
  · exact fun _ hx => hx

/-- The trades decide what a pair has to explain. Source: `app/services/performance.py`
`PerformanceService._sum_realized_pnl`. Kind: L -/
theorem inferredFlow_congr (htrades : t'.trades = t.trades) :
    inferredFlow t' prev curr = inferredFlow t prev curr := by
  unfold inferredFlow sumRealizedPnl PaperRepository.listTrades
  rw [htrades]

/-- The trades decide what a pair has to explain, and more cash flows are near more snapshots.
Source: none: infrastructure. Kind: L -/
theorem Settled.of_subset (h : Settled threshold t prev curr) (htrades : t'.trades = t.trades)
    (hflows : t.cashFlows.rows ⊆ t'.cashFlows.rows) : Settled threshold t' prev curr := by
  rcases h with hsmall | hnear
  · left
    rwa [inferredFlow_congr htrades]
  · right
    unfold hasCashFlowNear at hnear ⊢
    rw [List.any_eq_true] at hnear ⊢
    obtain ⟨x, hx, htime⟩ := hnear
    exact ⟨x, hflows hx, htime⟩

/-- **What is settled stays settled.** Source: `app/services/performance.py`
`PerformanceService.detect_cash_flows`. Kind: L -/
theorem Settled.detectPair (h : Settled threshold t a b) :
    Settled threshold (detectPair threshold' t prev curr).1 a b :=
  h.of_subset detectPair_trades subset_detectPair

theorem Settled.detectPairs (h : Settled threshold t a b) :
    Settled threshold (detectPairs threshold' t l).1 a b := by
  induction l generalizing t with
  | nil => exact h
  | cons prev l ih =>
      cases l with
      | nil => exact h
      | cons curr l =>
          rw [detectPairs_cons_cons]
          exact ih h.detectPair

/-- **Its own turn settles a pair**: what it records is at the later snapshot.
Source: `app/services/performance.py` `PerformanceService.detect_cash_flows`. Kind: L -/
theorem settled_detectPair : Settled threshold (detectPair threshold t prev curr).1 prev curr := by
  by_cases h : Settled threshold t prev curr
  · rw [detectPair_of_settled h]
    exact h
  · right
    obtain ⟨hlarge, hfar⟩ := not_or.mp h
    rw [detectPair_fst, if_pos ⟨not_lt.mp hlarge, Bool.eq_false_of_not_eq_true hfar⟩]
    exact hasCashFlowNear_of_mem mem_createCashFlow rfl

theorem pair_infix_cons_cons :
    [a, b] <:+: prev :: curr :: l ↔ (a = prev ∧ b = curr) ∨ [a, b] <:+: curr :: l := by
  rw [List.infix_cons_iff, List.cons_prefix_cons, List.cons_prefix_cons]
  simp only [List.nil_prefix, and_true]

theorem not_pair_infix_singleton : ¬ [a, b] <:+: [prev] := by
  intro h
  have hlen := h.length_le
  simp at hlen

/-- **After a run every pair of its snapshots is settled.** Source: `app/services/performance.py`
`PerformanceService.detect_cash_flows`. Kind: P -/
theorem settled_detectPairs (h : [a, b] <:+: l) :
    Settled threshold (detectPairs threshold t l).1 a b := by
  induction l generalizing t with
  | nil => exact absurd (List.infix_nil.mp h) (by simp)
  | cons prev l ih =>
      cases l with
      | nil => exact absurd h not_pair_infix_singleton
      | cons curr l =>
          rw [detectPairs_cons_cons]
          rcases pair_infix_cons_cons.mp h with ⟨rfl, rfl⟩ | h
          · exact settled_detectPair.detectPairs
          · exact ih h

/-- **A run records nothing exactly when every pair is settled**, and then it leaves the tables as they
are. Source: `app/services/performance.py` `PerformanceService.detect_cash_flows`. Kind: P -/
theorem detectPairs_of_settled (h : ∀ a b, [a, b] <:+: l → Settled threshold t a b) :
    detectPairs threshold t l = (t, []) := by
  induction l with
  | nil => rfl
  | cons prev l ih =>
      cases l with
      | nil => rfl
      | cons curr l =>
          have hfirst := h prev curr (pair_infix_cons_cons.mpr (.inl ⟨rfl, rfl⟩))
          have hrest := ih fun a b hab => h a b (pair_infix_cons_cons.mpr (.inr hab))
          rw [detectPairs, detectPair_of_settled hfirst]
          simp only [hrest, List.append_nil]

theorem detectPairs_eq_nil_iff :
    (detectPairs threshold t l).2 = [] ↔
      ∀ a b, [a, b] <:+: l → Settled threshold t a b := by
  refine ⟨fun h => ?_, fun h => by rw [detectPairs_of_settled h]⟩
  induction l with
  | nil => exact fun a b hab => absurd (List.infix_nil.mp hab) (by simp)
  | cons prev l ih =>
      cases l with
      | nil => exact fun a b hab => absurd hab not_pair_infix_singleton
      | cons curr l =>
          rw [detectPairs] at h
          obtain ⟨hfirst, hrest⟩ := List.append_eq_nil_iff.mp h
          have hsettled : Settled threshold t prev curr := by
            by_contra hnot
            exact detectPair_of_not_settled hnot hfirst
          rw [detectPair_of_settled hsettled] at hrest
          intro a b hab
          rcases pair_infix_cons_cons.mp hab with ⟨rfl, rfl⟩ | hab
          · exact hsettled
          · exact ih hrest a b hab

end settled

/-! ## Ranges -/

section ranges

variable {t : PerformanceTables} {start stop start' stop' : Option Instant}
  {auto : ℚ} {minAmount : Option ℚ}

/-- Every time of the second range is in the first. Source: none: infrastructure. Kind: D -/
def SubRange (start' stop' start stop : Option Instant) : Prop :=
  ∀ x : Instant, inRange id start' stop' x = true → inRange id start stop x = true

/-- A range has what is between two of its rows. Source: none: infrastructure. Kind: L -/
theorem inRange_between {a b c : AccountSnapshot} (hab : a.snapshotTime ≤ b.snapshotTime)
    (hbc : b.snapshotTime ≤ c.snapshotTime)
    (ha : inRange AccountSnapshot.snapshotTime start stop a = true)
    (hc : inRange AccountSnapshot.snapshotTime start stop c = true) :
    inRange AccountSnapshot.snapshotTime start stop b = true := by
  rw [inRange, Bool.and_eq_true] at ha hc ⊢
  constructor
  · cases start with
    | none => rfl
    | some start => simpa using (by simpa using ha.1 : start ≤ a.snapshotTime).trans hab
  · cases stop with
    | none => rfl
    | some stop => simpa using hbc.trans (by simpa using hc.2 : c.snapshotTime ≤ stop)

/-- **The snapshots of a smaller range are a piece of those of the range**, when one query answers the
range. Source: `app/repositories/performance.py` `PerformanceRepository.list_snapshots`. Kind: L -/
theorem isInfix_listSnapshots (hsub : SubRange start' stop' start stop)
    (hlimit : (t.snapshots.rows.filter
      (inRange AccountSnapshot.snapshotTime start stop)).length ≤ 5000) :
    listSnapshots t start' stop' <:+: listSnapshots t start stop := by
  have hrows : t.snapshots.rows.filter (inRange AccountSnapshot.snapshotTime start' stop') =
      (t.snapshots.rows.filter (inRange AccountSnapshot.snapshotTime start stop)).filter
        (inRange AccountSnapshot.snapshotTime start' stop') := by
    rw [List.filter_filter]
    apply List.filter_congr
    intro x _
    by_cases hx : inRange AccountSnapshot.snapshotTime start' stop' x = true
    · have hin : inRange AccountSnapshot.snapshotTime start stop x = true := hsub x.snapshotTime hx
      rw [hx, hin, Bool.and_self]
    · rw [Bool.eq_false_of_not_eq_true hx, Bool.false_and]
  have hwhole : listSnapshots t start stop = sortOn AccountSnapshot.snapshotTime
      (t.snapshots.rows.filter (inRange AccountSnapshot.snapshotTime start stop)) :=
    listByTime_eq hlimit
  have hpart : listSnapshots t start' stop' <+: sortOn AccountSnapshot.snapshotTime
      (t.snapshots.rows.filter (inRange AccountSnapshot.snapshotTime start' stop')) :=
    List.take_prefix _ _
  rw [hrows, ← filter_sortOn_eq] at hpart
  rw [hwhole]
  refine hpart.isInfix.trans (isInfix_filter ?_ pairwise_sortOn)
  exact fun _ _ _ hab hbc ha hc => inRange_between hab hbc ha hc

/-- Source: `app/services/performance.py` `PerformanceService.detect_cash_flows`. Kind: L -/
theorem detectCashFlows_eq : detectCashFlows auto t start stop minAmount =
    ((detectPairs (threshold auto minAmount) t (listSnapshots t start stop)).1,
      ⟨(detectPairs (threshold auto minAmount) t (listSnapshots t start stop)).2.length,
        (detectPairs (threshold auto minAmount) t (listSnapshots t start stop)).2⟩) := by
  unfold detectCashFlows
  by_cases hshort : (listSnapshots t start stop).length < 2
  · rw [if_pos hshort]
    match hlisted : listSnapshots t start stop with
    | [] => rfl
    | [_] => rfl
    | _ :: _ :: _ =>
        rw [hlisted] at hshort
        simp only [List.length_cons] at hshort
        omega
  · rw [if_neg hshort]

theorem detectPairs_snapshots {threshold : ℚ} {l : List AccountSnapshot} :
    (detectPairs threshold t l).1.snapshots = t.snapshots := by
  induction l generalizing t with
  | nil => rfl
  | cons prev l ih =>
      cases l with
      | nil => rfl
      | cons curr l =>
          rw [detectPairs_cons_cons, ih, detectPair_fst]
          split_ifs
          · rfl
          · rfl

/-- A run that has nothing to record leaves the tables as they are.
Source: `app/services/performance.py` `PerformanceService.detect_cash_flows`. Kind: L -/
theorem detectCashFlows_of_settled
    (h : ∀ a b, [a, b] <:+: listSnapshots t start stop → Settled (threshold auto minAmount) t a b) :
    detectCashFlows auto t start stop minAmount = (t, ⟨0, []⟩) := by
  rw [detectCashFlows_eq, detectPairs_of_settled h]
  rfl

end ranges

/-! ## The order of the rows -/

/-- Tables of the same rows, which a later query may find in another order.
Source: `app/repositories/performance.py` `PerformanceRepository.list_snapshots`. Kind: D -/
structure Reordered (t t' : PerformanceTables) : Prop where
  snapshots : t.snapshots.rows.Perm t'.snapshots.rows
  cashFlows : t.cashFlows.rows.Perm t'.cashFlows.rows
  trades : t.trades.rows.Perm t'.trades.rows

/-- The queries for snapshots answer the same rows in the same order, and those for trades the same rows.
Source: `app/repositories/performance.py` `PerformanceRepository.list_snapshots`. Kind: D -/
structure AnswersAlike (t t' : PerformanceTables) : Prop where
  snapshots : ∀ start stop, listSnapshots t' start stop = listSnapshots t start stop
  trades : ∀ start stop, (PaperRepository.listTrades t' start stop).Perm
    (PaperRepository.listTrades t start stop)

/-- No two snapshots have one time, and no two trades, unless one query answers all trades.
Source: none: infrastructure. Kind: D -/
structure Unambiguous (t : PerformanceTables) : Prop where
  snapshots : (t.snapshots.rows.map AccountSnapshot.snapshotTime).Nodup
  trades : (t.trades.rows.map PaperTrade.createdAt).Nodup ∨ t.trades.rows.length ≤ 10000

section order

variable {t t' : PerformanceTables} {prev curr : AccountSnapshot} {start stop : Option Instant}
  {auto : ℚ} {minAmount : Option ℚ}

/-- **Without equal times the order of the rows does not show** in what the queries answer.
Source: `app/repositories/performance.py` `PerformanceRepository.list_snapshots`. Kind: L -/
theorem Unambiguous.answersAlike (hunique : Unambiguous t)
    (hsnapshots : t.snapshots.rows.Perm t'.snapshots.rows)
    (htrades : t.trades.rows.Perm t'.trades.rows) : AnswersAlike t t' where
  snapshots _ _ := (listByTime_eq_of_perm hsnapshots hunique.snapshots).symm
  trades start stop := by
    rcases hunique.trades with htimes | hfew
    · exact List.Perm.of_eq (listByTime_eq_of_perm htrades htimes).symm
    · have hfilter := htrades.filter (inRange PaperTrade.createdAt start stop)
      have hlimit : (t.trades.rows.filter (inRange PaperTrade.createdAt start stop)).length ≤ 10000 :=
        (List.length_filter_le _ _).trans hfew
      exact (listByTime_perm (hfilter.length_eq ▸ hlimit)).trans
        (hfilter.symm.trans (listByTime_perm hlimit).symm)

/-- The flow of a pair depends on which trades are answered, not on their order.
Source: `app/services/performance.py` `PerformanceService._sum_realized_pnl`. Kind: L -/
theorem AnswersAlike.inferredFlow (h : AnswersAlike t t') :
    PerformanceService.inferredFlow t' prev curr = PerformanceService.inferredFlow t prev curr := by
  unfold PerformanceService.inferredFlow sumRealizedPnl
  rw [(((h.trades _ _).filter _).map _).sum_eq]

/-- Detection changes neither snapshots nor trades. Source: `app/services/performance.py`
`PerformanceService.detect_cash_flows`. Kind: L -/
theorem detectCashFlows_tables :
    (detectCashFlows auto t start stop minAmount).1.snapshots = t.snapshots ∧
      (detectCashFlows auto t start stop minAmount).1.trades = t.trades := by
  rw [detectCashFlows_eq]
  exact ⟨detectPairs_snapshots, detectPairs_trades⟩

theorem hasCashFlowNear_of_perm {time : Instant} (h : t.cashFlows.rows.Perm t'.cashFlows.rows) :
    hasCashFlowNear t' time = hasCashFlowNear t time := by
  unfold hasCashFlowNear
  rw [h.any_eq]

/-- **A pair that the first run has seen is settled** when it is seen again with the same flow.
Source: `app/services/performance.py` `PerformanceService.detect_cash_flows`. Kind: L -/
theorem settled_of_seen {minAmount' : Option ℚ}
    (hthreshold : threshold auto minAmount ≤ threshold auto minAmount')
    (hreordered : Reordered (detectCashFlows auto t start stop minAmount).1 t')
    (hlisted : [prev, curr] <:+: listSnapshots t start stop)
    (hflow : inferredFlow t' prev curr = inferredFlow t prev curr) :
    Settled (threshold auto minAmount') t' prev curr := by
  have hsettled : Settled (threshold auto minAmount)
      (detectCashFlows auto t start stop minAmount).1 prev curr := by
    rw [detectCashFlows_eq]
    exact settled_detectPairs hlisted
  rcases hsettled.mono hthreshold with hsmall | hnear
  · left
    rw [hflow]
    rwa [inferredFlow_congr detectCashFlows_tables.2] at hsmall
  · right
    rwa [hasCashFlowNear_of_perm hreordered.cashFlows]

end order

/-- **Detection after detection.** After a run over a range the rows may be found in another order. When no
two snapshots have one time, and no two trades, that does not show. When it does not show, a run with the
same or a larger threshold records nothing and leaves the tables as they are: over the same range, and over
every part of it, when one query answers its snapshots. In any order and over any part of the range, it
records nothing exactly when the pairs of snapshots that the first run did not list, or not with the flow
that is inferred now, are settled. Source: `app/services/performance.py`
`PerformanceService.detect_cash_flows`. Kind: P -/
theorem detect_again_iff (t t' : PerformanceTables) (auto : ℚ)
    (start stop start' stop' : Option Instant) (minAmount minAmount' : Option ℚ)
    (hthreshold : threshold auto minAmount ≤ threshold auto minAmount')
    (hsub : SubRange start' stop' start stop)
    (hreordered : Reordered (detectCashFlows auto t start stop minAmount).1 t') :
    (Unambiguous t → AnswersAlike t t') ∧
    (AnswersAlike t t' →
      ((t.snapshots.rows.filter (inRange AccountSnapshot.snapshotTime start stop)).length ≤ 5000 ∨
        (start' = start ∧ stop' = stop)) →
      detectCashFlows auto t' start' stop' minAmount' = (t', ⟨0, []⟩)) ∧
    ((detectCashFlows auto t' start' stop' minAmount').2.created = 0 ↔
      ∀ prev curr, [prev, curr] <:+: listSnapshots t' start' stop' →
        ¬ ([prev, curr] <:+: listSnapshots t start stop ∧
            inferredFlow t' prev curr = inferredFlow t prev curr) →
          Settled (threshold auto minAmount') t' prev curr) := by
  refine ⟨?_, ?_, ?_⟩
  · intro hunique
    have hsnapshots := hreordered.snapshots
    have htrades := hreordered.trades
    rw [detectCashFlows_tables.1] at hsnapshots
    rw [detectCashFlows_tables.2] at htrades
    exact hunique.answersAlike hsnapshots htrades
  · intro halike hcovered
    apply detectCashFlows_of_settled
    intro prev curr h
    rw [halike.snapshots] at h
    refine settled_of_seen hthreshold hreordered ?_ halike.inferredFlow
    rcases hcovered with hlimit | ⟨rfl, rfl⟩
    · exact h.trans (isInfix_listSnapshots hsub hlimit)
    · exact h
  · rw [detectCashFlows_eq, List.length_eq_zero_iff, detectPairs_eq_nil_iff]
    constructor
    · exact fun h prev curr hpair _ => h prev curr hpair
    · intro h prev curr hpair
      by_cases hseen : [prev, curr] <:+: listSnapshots t start stop ∧
          inferredFlow t' prev curr = inferredFlow t prev curr
      · exact settled_of_seen hthreshold hreordered hseen.1 hseen.2
      · exact h prev curr hpair hseen

/-- A second run over the day of the deposit, with the snapshots found in the other order and a larger
threshold. Source: none: infrastructure. Kind: P -/
theorem detect_again_depositDay :
    let t' : PerformanceTables := { (detectCashFlows 10000 depositDay none none none).1 with
      snapshots := ⟨[nextMorning, morning], by decide⟩ }
    detectCashFlows 10000 t' (some 0) none (some 20000) = (t', ⟨0, []⟩) := by
  intro t'
  have hagain := detect_again_iff depositDay t' 10000 none none (some 0) none none (some 20000)
    (by decide +kernel) (fun _ _ => rfl)
    ⟨by decide +kernel, List.Perm.refl _, List.Perm.refl _⟩
  exact hagain.2.1 (hagain.1 ⟨by decide, Or.inl (by decide)⟩) (Or.inl (by decide))

/-! ## Snapshots of one time -/

/-- Source: none: infrastructure. Kind: D -/
def snapshotAt (id : ℕ) (hours : ℤ) (assets : ℚ) : AccountSnapshot :=
  ⟨id, timedelta (3600 * hours), "manual", assets, assets, 0, 0, 0⟩

/-- Two of four snapshots are of noon, one before and one after a deposit.
Source: none: infrastructure. Kind: D -/
def twoAtNoon : PerformanceTables where
  snapshots := ⟨[snapshotAt 1 0 100, snapshotAt 2 12 100, snapshotAt 3 12 50100,
    snapshotAt 4 24 50100], by decide⟩
  cashFlows := Table.empty
  trades := Table.empty

/-- What a run leaves, with the two snapshots of noon found in the other order.
Source: none: infrastructure. Kind: D -/
def twoAtNoonTurned : PerformanceTables :=
  { (detectCashFlows 10000 twoAtNoon none none none).1 with
    snapshots := ⟨[snapshotAt 1 0 100, snapshotAt 3 12 50100, snapshotAt 2 12 100,
      snapshotAt 4 24 50100], by decide⟩ }

theorem reordered_twoAtNoon :
    Reordered (detectCashFlows 10000 twoAtNoon none none none).1 twoAtNoonTurned where
  snapshots := by
    rw [detectCashFlows_tables.1]
    exact (List.Perm.swap _ _ _).cons _
  cashFlows := List.Perm.refl _
  trades := List.Perm.refl _

/-! ## More snapshots than one query answers -/

/-- Source: none: infrastructure. Kind: D -/
def flat (k : ℕ) : AccountSnapshot := ⟨k, timedelta (3600 * k), "pre_market", 100, 100, 0, 0, 0⟩

/-- The snapshot after `flat m`, when 50,000 have been paid in. Source: none: infrastructure.
Kind: D -/
def jump (m : ℕ) : AccountSnapshot :=
  ⟨m + 1, timedelta (3600 * (m + 1 : ℕ)), "pre_market", 50100, 50100, 0, 0, 0⟩

/-- Hourly snapshots, the last of which shows a deposit. Source: none: infrastructure. Kind: D -/
def hourly (m : ℕ) : List AccountSnapshot := (List.range (m + 1)).map flat ++ [jump m]

theorem nodup_hourly (m : ℕ) : ((hourly m).map AccountSnapshot.id).Nodup := by
  have hids : (hourly m).map AccountSnapshot.id = List.range (m + 1 + 1) := by
    rw [hourly, List.map_append, List.map_map, List.range_succ (n := m + 1)]
    congr 1
    exact List.map_id _
  rw [hids]
  exact List.nodup_range

/-- Source: none: infrastructure. Kind: D -/
def lateDeposit (m : ℕ) : PerformanceTables where
  snapshots := ⟨hourly m, nodup_hourly m⟩
  cashFlows := Table.empty
  trades := Table.empty

theorem flat_lt_flat {k m : ℕ} (h : k < m) : (flat k).snapshotTime < (flat m).snapshotTime := by
  show timedelta (3600 * k) < timedelta (3600 * m)
  unfold timedelta
  omega

theorem flat_lt_jump {k m : ℕ} (h : k ≤ m) : (flat k).snapshotTime < (jump m).snapshotTime := by
  show timedelta (3600 * k) < timedelta (3600 * (m + 1 : ℕ))
  unfold timedelta
  omega

theorem inRange_from {start : Instant} {x : AccountSnapshot} :
    inRange AccountSnapshot.snapshotTime (some start) none x = true ↔ start ≤ x.snapshotTime := by
  simp [inRange]

theorem pairwise_hourly (m : ℕ) :
    (hourly m).Pairwise fun a b => a.snapshotTime ≤ b.snapshotTime := by
  rw [hourly, List.pairwise_append]
  refine ⟨?_, List.pairwise_singleton _ _, ?_⟩
  · rw [List.pairwise_map]
    exact List.pairwise_lt_range.imp fun hij => (flat_lt_flat hij).le
  · intro a ha b hb
    obtain ⟨k, hk, rfl⟩ := List.mem_map.mp ha
    rw [List.mem_singleton.mp hb]
    exact (flat_lt_jump (Nat.lt_succ_iff.mp (List.mem_range.mp hk))).le

/-- **The query leaves the last snapshot out** when there are 5001.
Source: `app/repositories/performance.py` `PerformanceRepository.list_snapshots`. Kind: L -/
theorem listSnapshots_lateDeposit {m : ℕ} (hm : m + 1 = 5000) :
    listSnapshots (lateDeposit m) none none = (List.range (m + 1)).map flat := by
  have hall : (hourly m).filter (inRange AccountSnapshot.snapshotTime none none) = hourly m :=
    List.filter_eq_self.mpr fun _ _ => rfl
  unfold listSnapshots listByTime lateDeposit
  rw [hall, (pairwise_hourly m).insertionSort_eq, hourly, ← hm]
  exact List.take_left' (by rw [List.length_map, List.length_range])

/-- **A part of the range lists it.** Source: `app/repositories/performance.py`
`PerformanceRepository.list_snapshots`. Kind: L -/
theorem listSnapshots_lastHours (m : ℕ) :
    listSnapshots (lateDeposit m) (some (flat m).snapshotTime) none = [flat m, jump m] := by
  have hlast : (hourly m).filter
      (inRange AccountSnapshot.snapshotTime (some (flat m).snapshotTime) none) =
        [flat m, jump m] := by
    have hbefore : ((List.range m).map flat).filter
        (inRange AccountSnapshot.snapshotTime (some (flat m).snapshotTime) none) = [] := by
      rw [List.filter_eq_nil_iff]
      intro a ha hin
      obtain ⟨k, hk, rfl⟩ := List.mem_map.mp ha
      exact absurd (inRange_from.mp hin) (not_le.mpr (flat_lt_flat (List.mem_range.mp hk)))
    rw [hourly, List.range_succ, List.map_append, List.filter_append, List.filter_append, hbefore,
      List.map_singleton, List.filter_cons_of_pos (inRange_from.mpr (le_refl _)),
      List.filter_cons_of_pos (inRange_from.mpr (flat_lt_jump (le_refl m)).le)]
    rfl
  have hsorted : [flat m, jump m].Pairwise fun a b => a.snapshotTime ≤ b.snapshotTime := by
    refine (pairwise_hourly m).sublist ?_
    rw [hourly, List.range_succ, List.map_append, List.append_assoc]
    exact List.sublist_append_right _ _
  unfold listSnapshots listByTime lateDeposit
  rw [hlast, hsorted.insertionSort_eq]
  exact List.take_of_length_le (by simp)

/-- There are no trades to explain a change. Source: `app/services/performance.py`
`PerformanceService._sum_realized_pnl`. Kind: L -/
theorem inferredFlow_lateDeposit {m : ℕ} {prev curr : AccountSnapshot} :
    inferredFlow (lateDeposit m) prev curr = curr.totalAssets - prev.totalAssets := by
  have hnone : PaperRepository.listTrades (lateDeposit m) (some prev.snapshotTime)
      (some curr.snapshotTime) = [] := List.take_nil
  rw [inferredFlow, sumRealizedPnl, hnone, List.filter_nil, List.map_nil, List.sum_nil, sub_zero]

/-- A run over all of them does not see the deposit. Source: `app/services/performance.py`
`PerformanceService.detect_cash_flows`. Kind: L -/
theorem detectCashFlows_lateDeposit {m : ℕ} (hm : m + 1 = 5000) :
    detectCashFlows 10000 (lateDeposit m) none none none = (lateDeposit m, ⟨0, []⟩) := by
  apply detectCashFlows_of_settled
  intro prev curr hpair
  rw [listSnapshots_lateDeposit hm] at hpair
  obtain ⟨i, -, rfl⟩ := List.mem_map.mp (hpair.subset List.mem_cons_self)
  obtain ⟨j, -, rfl⟩ := List.mem_map.mp (hpair.subset (List.mem_cons_of_mem _ List.mem_cons_self))
  left
  rw [inferredFlow_lateDeposit]
  show |(100 : ℚ) - 100| < 10000
  norm_num

/-- The last two snapshots have the deposit to record. Source: `app/services/performance.py`
`PerformanceService.detect_cash_flows`. Kind: L -/
theorem not_settled_lateDeposit (m : ℕ) :
    ¬ Settled 10000 (lateDeposit m) (flat m) (jump m) := by
  rintro (hsmall | hnear)
  · rw [inferredFlow_lateDeposit] at hsmall
    change |(50100 : ℚ) - 100| < 10000 at hsmall
    norm_num at hsmall
  · exact absurd hnear (by simp [hasCashFlowNear, lateDeposit, Table.empty])

/-- **A second run may record more**, for two reasons. The last of 5001 snapshots shows a deposit, which a
run over them all does not see, and one over the last two does. And when the two snapshots of noon are
found in the other order, the deposit between them shows once more at the snapshot after them. Source:
`app/services/performance.py` `PerformanceService.detect_cash_flows`. Kind: P -/
theorem detect_again_records :
    (¬ ∀ (t : PerformanceTables) (auto : ℚ) (start stop start' stop' : Option Instant)
      (minAmount minAmount' : Option ℚ), threshold auto minAmount ≤ threshold auto minAmount' →
      SubRange start' stop' start stop →
      (detectCashFlows auto (detectCashFlows auto t start stop minAmount).1 start' stop'
        minAmount').2.created = 0) ∧
    (¬ ∀ (t t' : PerformanceTables) (auto : ℚ) (start stop : Option Instant) (minAmount : Option ℚ),
      (t.snapshots.rows.filter (inRange AccountSnapshot.snapshotTime start stop)).length ≤ 5000 →
      Reordered (detectCashFlows auto t start stop minAmount).1 t' →
      (detectCashFlows auto t' start stop minAmount).2.created = 0) := by
  constructor
  · intro h
    obtain ⟨m, hm⟩ : ∃ m, m + 1 = 5000 := ⟨4999, rfl⟩
    have hnone := h (lateDeposit m) 10000 none none (some (flat m).snapshotTime) none none none
      (le_refl _) fun _ _ => rfl
    rw [detectCashFlows_lateDeposit hm, detectCashFlows_eq] at hnone
    exact not_settled_lateDeposit m (detectPairs_eq_nil_iff.mp (List.length_eq_zero_iff.mp hnone)
      (flat m) (jump m) ((listSnapshots_lastHours m).symm ▸ List.infix_rfl))
  · intro h
    have hnone := h twoAtNoon twoAtNoonTurned 10000 none none none (by decide) reordered_twoAtNoon
    exact absurd hnone (by decide +kernel)

end PerformanceService

end HaruTrade
