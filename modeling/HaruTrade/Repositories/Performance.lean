import Mathlib.Algebra.BigOperators.Group.List.Basic
import Mathlib.Algebra.Order.Ring.Rat
import Mathlib.Data.List.Sort
import HaruTrade.Data.Calendar
import HaruTrade.Data.StableSort
import HaruTrade.Data.Table

/-!
# Snapshots, cash flows and trades

The tables that the performance reports read, and the queries on them: rows in a closed range of
times, oldest first, up to a limit.

* `listByTime` — the query that the three tables share; `listByTime_eq` — below its limit it is the
  range in order.
* `flowSum`, `realizedPnl` — what happened in a period, which is open at its begin and closed at its
  end.
* `flowSum_createCashFlow` — a new cash flow counts in the periods that contain its time.
-/

namespace HaruTrade

/-- Source: `app/db/models/performance.py` `AccountSnapshot`. Kind: D -/
structure AccountSnapshot where
  id : ℕ
  snapshotTime : Instant
  snapshotType : String
  totalAssets : ℚ
  cash : ℚ
  stockValue : ℚ
  marginUsed : ℚ := 0
  openPositions : ℤ := 0
  deriving DecidableEq, Repr

/-- Source: `app/db/models/performance.py` `CashFlow`. Kind: D -/
structure CashFlow where
  id : ℕ
  flowTime : Instant
  amount : ℚ
  totalBefore : ℚ
  totalAfter : ℚ
  detectedBy : String := "auto"
  deriving DecidableEq, Repr

/-- Source: `app/db/models/paper.py` `PaperTrade`. Kind: D -/
structure PaperTrade where
  id : ℕ
  exitPrice : Option ℚ
  pnl : Option ℚ
  createdAt : Instant
  deriving DecidableEq, Repr

/-- Source: `app/db/models/performance.py`, `app/db/models/paper.py`. Kind: D -/
structure PerformanceTables where
  snapshots : Table AccountSnapshot.id
  cashFlows : Table CashFlow.id
  trades : Table PaperTrade.id

/-! ## Queries -/

section queries

variable {α : Type} (time : α → Instant) (start stop : Option Instant)

/-- `WHERE time >= start AND time <= stop`, each only when it is given.
Source: `app/repositories/performance.py` `PerformanceRepository.list_snapshots`. Kind: D -/
def inRange (row : α) : Bool := start.all (· ≤ time row) && stop.all (time row ≤ ·)

/-- `WHERE ... ORDER BY time ASC LIMIT limit`. Rows of one time come as the database finds them, which
is the order of the table here: a table of the same rows in another order may answer differently.
Source: `app/repositories/performance.py` `PerformanceRepository.list_snapshots`. Kind: D -/
def listByTime (limit : ℕ) (rows : List α) : List α :=
  ((rows.filter (inRange time start stop)).insertionSort fun a b => time a ≤ time b).take limit

variable {time start stop} {limit : ℕ} {rows : List α} {a : α}

/-- **Below its limit** the query answers every row of the range.
Source: `app/repositories/performance.py` `PerformanceRepository.list_snapshots`. Kind: L -/
theorem listByTime_eq (h : (rows.filter (inRange time start stop)).length ≤ limit) :
    listByTime time start stop limit rows =
      (rows.filter (inRange time start stop)).insertionSort fun a b => time a ≤ time b := by
  unfold listByTime
  rw [List.take_of_length_le]
  rw [List.length_insertionSort]
  exact h

theorem listByTime_perm (h : (rows.filter (inRange time start stop)).length ≤ limit) :
    (listByTime time start stop limit rows).Perm (rows.filter (inRange time start stop)) := by
  rw [listByTime_eq h]
  exact List.perm_insertionSort _ _

theorem pairwise_listByTime :
    (listByTime time start stop limit rows).Pairwise fun a b => time a ≤ time b := by
  have : IsTrans α fun a b => time a ≤ time b := ⟨fun _ _ _ h h' => h.trans h'⟩
  have : Std.Total fun a b : α => time a ≤ time b := ⟨fun a b => Int.le_total (time a) (time b)⟩
  exact (List.pairwise_insertionSort _ _).sublist (List.take_sublist _ _)

/-- **The order of the table does not show** in rows of different times.
Source: `app/repositories/performance.py` `PerformanceRepository.list_snapshots`. Kind: L -/
theorem listByTime_eq_of_perm {rows' : List α} (h : rows.Perm rows') (htimes : (rows.map time).Nodup) :
    listByTime time start stop limit rows = listByTime time start stop limit rows' := by
  have hsorted := sortOn_eq_of_perm (h.filter (inRange time start stop))
    (htimes.sublist (List.filter_sublist.map time))
  exact congrArg (List.take limit) hsorted

end queries

namespace PerformanceRepository

variable (t : PerformanceTables) (start stop : Option Instant)

/-- Source: `app/repositories/performance.py` `PerformanceRepository.list_snapshots`. Kind: D -/
def listSnapshots : List AccountSnapshot :=
  listByTime AccountSnapshot.snapshotTime start stop 5000 t.snapshots.rows

/-- Source: `app/repositories/performance.py` `PerformanceRepository.list_cash_flows`. Kind: D -/
def listCashFlows : List CashFlow :=
  listByTime CashFlow.flowTime start stop 5000 t.cashFlows.rows

/-- Source: `app/repositories/performance.py` `PerformanceRepository.has_cash_flow_near`. Kind: D -/
def hasCashFlowNear (flowTime : Instant) (toleranceSeconds : ℤ := 90) : Bool :=
  t.cashFlows.rows.any fun x =>
    flowTime - timedelta toleranceSeconds ≤ x.flowTime ∧
      x.flowTime ≤ flowTime + timedelta toleranceSeconds

/-- Source: `app/repositories/performance.py` `PerformanceRepository.create_cash_flow`. Kind: D -/
def createCashFlow (flowTime : Instant) (amount totalBefore totalAfter : ℚ) (detectedBy : String) :
    PerformanceTables × CashFlow :=
  let row (id : ℕ) : CashFlow := ⟨id, flowTime, amount, totalBefore, totalAfter, detectedBy⟩
  ({ t with cashFlows := t.cashFlows.add row fun _ => rfl }, row t.cashFlows.fresh)

end PerformanceRepository

/-- Source: `app/repositories/paper.py` `PaperRepository.list_trades`. Kind: D -/
def PaperRepository.listTrades (t : PerformanceTables) (start stop : Option Instant) :
    List PaperTrade :=
  listByTime PaperTrade.createdAt start stop 10000 t.trades.rows

/-! ## What happened in a period -/

namespace PerformanceTables

variable (t : PerformanceTables) (start stop : Instant)

/-- The total of the cash flows of a period. Source: `docs/prd.md` 5.2. Kind: D -/
def flowSum : ℚ :=
  ((t.cashFlows.rows.filter fun x => start < x.flowTime ∧ x.flowTime ≤ stop).map
    CashFlow.amount).sum

/-- The trade was closed, with a known profit, in a period. Source: `app/services/performance.py`
`PerformanceService._sum_realized_pnl`. Kind: D -/
def closedIn (x : PaperTrade) : Bool :=
  x.exitPrice.isSome && x.pnl.isSome && (start < x.createdAt ∧ x.createdAt ≤ stop)

/-- The profit of the trades of a period. Source: `docs/prd.md` 5.2. Kind: D -/
def realizedPnl : ℚ :=
  ((t.trades.rows.filter (closedIn start stop)).map fun x => x.pnl.getD 0).sum

variable {t start stop}

/-- **A new cash flow** counts in the periods that contain its time.
Source: `app/repositories/performance.py` `PerformanceRepository.create_cash_flow`. Kind: L -/
theorem flowSum_createCashFlow {flowTime : Instant} {amount totalBefore totalAfter : ℚ}
    {detectedBy : String} :
    (PerformanceRepository.createCashFlow t flowTime amount totalBefore totalAfter
      detectedBy).1.flowSum start stop =
      t.flowSum start stop + if start < flowTime ∧ flowTime ≤ stop then amount else 0 := by
  unfold flowSum PerformanceRepository.createCashFlow
  rw [Table.rows_add, List.filter_append, List.map_append, List.sum_append]
  congr 1
  by_cases h : start < flowTime ∧ flowTime ≤ stop
  · simp [h]
  · simp [h]

end PerformanceTables

end HaruTrade
