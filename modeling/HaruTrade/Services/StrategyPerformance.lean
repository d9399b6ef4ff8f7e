import Mathlib.Data.List.Infix
import Mathlib.Data.Nat.Cast.Order.Ring
import Mathlib.Data.String.Basic
import Mathlib.Order.WithBot
import HaruTrade.Data.Grouping
import HaruTrade.Data.PyText
import HaruTrade.Data.StableSort
import HaruTrade.Repositories.Performance

/-!
# The report on the strategies

`StrategyPerformanceService.report` groups the closed trades by their strategy, computes one item for each,
sorts the items and answers a page of them.

* `PaperRepository.listTradeRows` — the query.
* `compute` — the numbers of one strategy; `consistent_compute` says how they hang together.
* `metrics` — all items; `mem_metrics` says which there are.
* `strategy_report` — **what the report says of the table.**
-/

namespace HaruTrade

/-! ## Trades -/

/-- A trade with the columns that the account's performance does not read.
Source: `app/db/models/paper.py` `PaperTrade`. Kind: D -/
structure TradeRow extends PaperTrade where
  ticker : String
  strategyId : String := "default"
  side : String
  entryPrice : ℚ
  quantity : ℚ
  deriving DecidableEq, Repr

/-- A filter that is given and not blank. Source: `app/repositories/paper.py`
`PaperRepository.list_trades`. Kind: D -/
def given (text : Option String) : Option String := text.filter fun s => PyText.strip s ≠ ""

/-- The filters of the query. Source: `app/repositories/paper.py` `PaperRepository.list_trades`,
`PaperRepository.count_trades`. Kind: D -/
structure TradeQuery where
  start : Option Instant := none
  stop : Option Instant := none
  ticker : Option String := none
  strategyId : Option String := none
  side : Option String := none

/-- The rows that the filters let through; the strategy is compared as it is given, blanks and all.
Source: `app/repositories/paper.py` `PaperRepository.list_trades`, `PaperRepository.count_trades`. Kind: D -/
def TradeQuery.takes (q : TradeQuery) (x : TradeRow) : Bool :=
  inRange (fun y : TradeRow => y.createdAt) q.start q.stop x &&
    (given q.ticker).all (fun text => x.ticker = PyText.strip text) &&
    (given q.strategyId).all (fun text => x.strategyId = text) &&
    (given q.side).all fun text => x.side = PyText.strip text

/-- The trades of a page, by time. Source: `app/repositories/paper.py` `PaperRepository.list_trades`.
Kind: D -/
def PaperRepository.listTradeRows (rows : List TradeRow) (q : TradeQuery) (offset : ℤ := 0)
    (limit : ℕ := 10000) (desc : Bool := false) : List TradeRow :=
  page (max offset 0).toNat limit (sortBy desc (fun x => x.createdAt) (rows.filter q.takes))

/-- Source: `app/repositories/paper.py` `PaperRepository.count_trades`. Kind: D -/
def PaperRepository.countTrades (rows : List TradeRow) (q : TradeQuery) : ℕ :=
  (rows.filter q.takes).length

/-- An exit price and a result. Source: `app/services/strategy_performance.py`
`StrategyPerformanceService.report`. Kind: D -/
def TradeRow.closed (x : TradeRow) : Bool := x.exitPrice.isSome && x.pnl.isSome

/-- `float(x.pnl or 0.0)`. Source: `app/services/strategy_performance.py`
`StrategyPerformanceService._compute`. Kind: D -/
def TradeRow.gain (x : TradeRow) : ℚ := x.pnl.getD 0

/-! ## The numbers of one strategy -/

/-- Source: `app/services/strategy_performance.py` `StrategyMetrics`. Kind: D -/
structure StrategyMetrics where
  strategyId : String
  trades : ℕ
  wins : ℕ
  losses : ℕ
  winRate : ℚ
  totalPnl : ℚ
  avgPnl : ℚ
  expectancy : ℚ
  payoffRatio : Option ℚ
  profitFactor : Option ℚ
  deriving DecidableEq, Repr

namespace StrategyPerformanceService

section pnls

variable (pnls : List ℚ)

/-- Source: `app/services/strategy_performance.py` `StrategyPerformanceService._compute`. Kind: D -/
def wins : ℕ := pnls.countP fun x => 0 < x

/-- Source: `app/services/strategy_performance.py` `StrategyPerformanceService._compute`. Kind: D -/
def losses : ℕ := pnls.countP fun x => x < 0

/-- Source: `app/services/strategy_performance.py` `StrategyPerformanceService._compute`. Kind: D -/
def grossProfit : ℚ := (pnls.filter fun x => 0 < x).sum

/-- Source: `app/services/strategy_performance.py` `StrategyPerformanceService._compute`. Kind: D -/
def grossLossAbs : ℚ := |(pnls.filter fun x => x < 0).sum|

/-- Source: `app/services/strategy_performance.py` `StrategyPerformanceService._compute`. Kind: D -/
def avgWin : ℚ := if 0 < wins pnls then grossProfit pnls / wins pnls else 0

/-- Source: `app/services/strategy_performance.py` `StrategyPerformanceService._compute`. Kind: D -/
def avgLossAbs : ℚ := if 0 < losses pnls then grossLossAbs pnls / losses pnls else 0

/-- `total / trades if trades else 0.0`. Source: `app/services/strategy_performance.py`
`StrategyPerformanceService._compute`. Kind: D -/
def perTrade (total : ℚ) : ℚ := if pnls.length ≠ 0 then total / pnls.length else 0

end pnls

/-- Source: `app/services/strategy_performance.py` `StrategyPerformanceService._compute`. Kind: D -/
def compute (strategyId : String) (rows : List TradeRow) : StrategyMetrics :=
  let pnls := rows.map TradeRow.gain
  { strategyId
    trades := pnls.length
    wins := wins pnls
    losses := losses pnls
    winRate := perTrade pnls (wins pnls)
    totalPnl := pnls.sum
    avgPnl := perTrade pnls pnls.sum
    expectancy := perTrade pnls pnls.sum
    payoffRatio := if 0 < avgLossAbs pnls then some (avgWin pnls / avgLossAbs pnls) else none
    profitFactor := if 0 < grossLossAbs pnls then some (grossProfit pnls / grossLossAbs pnls) else none }

/-! ### Profit and loss -/

section sums

variable {pnls : List ℚ}

/-- The gross loss is that of the losses, which are there when it is positive.
Source: `app/services/strategy_performance.py` `StrategyPerformanceService._compute`. Kind: L -/
theorem sum_losses : (pnls.filter fun x => x < 0).sum ≤ 0 ∧
    ((pnls.filter fun x => x < 0).sum < 0 ↔ 0 < losses pnls) := by
  unfold losses
  induction pnls with
  | nil => exact ⟨le_rfl, by simp⟩
  | cons x pnls ih =>
      obtain ⟨hle, hlt⟩ := ih
      rw [List.filter_cons, List.countP_cons]
      by_cases hx : x < 0
      · simp only [hx, decide_true, if_true, List.sum_cons]
        exact ⟨(add_neg_of_neg_of_nonpos hx hle).le,
          ⟨fun _ => Nat.succ_pos _, fun _ => add_neg_of_neg_of_nonpos hx hle⟩⟩
      · simp only [hx, decide_false, Bool.false_eq_true, if_false, Nat.add_zero]
        exact ⟨hle, hlt⟩

theorem grossLossAbs_eq : grossLossAbs pnls = -(pnls.filter fun x => x < 0).sum :=
  abs_of_nonpos sum_losses.1

theorem grossLossAbs_pos_iff : 0 < grossLossAbs pnls ↔ 0 < losses pnls := by
  rw [grossLossAbs_eq, neg_pos, sum_losses.2]

theorem avgLossAbs_pos_iff : 0 < avgLossAbs pnls ↔ 0 < losses pnls := by
  unfold avgLossAbs
  split_ifs with h
  · exact ⟨fun _ => h, fun _ => div_pos (grossLossAbs_pos_iff.mpr h) (Nat.cast_pos.mpr h)⟩
  · exact ⟨fun hlt => absurd hlt (lt_irrefl 0), fun hlt => absurd hlt h⟩

/-- **What is earned** is what the wins earn and the losses do not lose.
Source: `app/services/strategy_performance.py` `StrategyPerformanceService._compute`. Kind: L -/
theorem sum_eq_sub : pnls.sum = grossProfit pnls - grossLossAbs pnls := by
  rw [grossLossAbs_eq, sub_neg_eq_add]
  unfold grossProfit
  induction pnls with
  | nil => simp
  | cons x pnls ih =>
      rw [List.sum_cons, ih, List.filter_cons, List.filter_cons]
      rcases lt_trichotomy x 0 with hneg | rfl | hpos
      · rw [if_neg (by simpa using hneg.le), if_pos (decide_eq_true hneg), List.sum_cons]
        exact add_left_comm _ _ _
      · rw [if_neg (by simp), if_neg (by simp), zero_add]
      · rw [if_pos (decide_eq_true hpos), if_neg (by simpa using hpos.le), List.sum_cons]
        exact (add_assoc _ _ _).symm

theorem wins_add_losses_le : wins pnls + losses pnls ≤ pnls.length := by
  unfold wins losses
  rw [List.length_eq_countP_add_countP (fun x : ℚ => decide (0 < x)) (l := pnls)]
  refine Nat.add_le_add_left (List.countP_mono_left fun x _ hx => ?_) _
  simpa using (of_decide_eq_true hx).le

theorem perTrade_mul {total : ℚ} (h : pnls.length = 0 → total = 0) :
    perTrade pnls total * pnls.length = total := by
  unfold perTrade
  split_ifs with hlen
  · exact div_mul_cancel₀ _ (Nat.cast_ne_zero.mpr hlen)
  · rw [h (not_not.mp hlen), zero_mul]

theorem avgWin_mul : avgWin pnls * wins pnls = grossProfit pnls := by
  unfold avgWin
  split_ifs with h
  · exact div_mul_cancel₀ _ (Nat.cast_ne_zero.mpr h.ne')
  · have hzero : wins pnls = 0 := Nat.eq_zero_of_not_pos h
    rw [hzero, Nat.cast_zero, mul_zero]
    unfold wins at hzero
    rw [List.countP_eq_length_filter, List.length_eq_zero_iff] at hzero
    rw [grossProfit, hzero, List.sum_nil]

theorem avgLossAbs_mul (h : 0 < losses pnls) : avgLossAbs pnls * losses pnls = grossLossAbs pnls := by
  rw [avgLossAbs, if_pos h]
  exact div_mul_cancel₀ _ (Nat.cast_ne_zero.mpr h.ne')

end sums

/-- How the numbers of a strategy hang together. Source: `app/services/strategy_performance.py`
`StrategyPerformanceService._compute`. Kind: D -/
structure Consistent (m : StrategyMetrics) : Prop where
  counts : m.wins + m.losses ≤ m.trades
  rate : m.winRate * m.trades = m.wins
  average : m.avgPnl * m.trades = m.totalPnl
  expectancy : m.expectancy = m.avgPnl
  payoff : m.payoffRatio.isSome = true ↔ 0 < m.losses
  factor : m.profitFactor.isSome = true ↔ 0 < m.losses
  /-- A strategy earns money exactly when its profit factor is above one. -/
  earns : ∀ f, m.profitFactor = some f → (1 < f ↔ 0 < m.totalPnl)
  /-- The profit factor is the payoff ratio, weighted with the wins and losses. -/
  ratios : ∀ f p, m.profitFactor = some f → m.payoffRatio = some p → f * m.losses = p * m.wins

/-- **The numbers of a strategy.** Source: `app/services/strategy_performance.py`
`StrategyPerformanceService._compute`. Kind: L -/
theorem consistent_compute (strategyId : String) (rows : List TradeRow) :
    Consistent (compute strategyId rows) := by
  unfold compute
  generalize rows.map TradeRow.gain = pnls
  have hnone (h : pnls.length = 0) : (wins pnls : ℚ) = 0 ∧ pnls.sum = 0 := by
    obtain rfl := List.length_eq_zero_iff.mp h
    exact ⟨rfl, rfl⟩
  refine ⟨wins_add_losses_le, perTrade_mul fun h => (hnone h).1, perTrade_mul fun h => (hnone h).2, rfl,
    ?_, ?_, fun f hf => ?_, fun f p hf hp => ?_⟩
  · dsimp only
    rw [← avgLossAbs_pos_iff]
    split_ifs with h
    · exact ⟨fun _ => h, fun _ => rfl⟩
    · exact ⟨fun hsome => absurd hsome Bool.false_ne_true, fun hlt => absurd hlt h⟩
  · dsimp only
    rw [← grossLossAbs_pos_iff]
    split_ifs with h
    · exact ⟨fun _ => h, fun _ => rfl⟩
    · exact ⟨fun hsome => absurd hsome Bool.false_ne_true, fun hlt => absurd hlt h⟩
  · dsimp only at hf ⊢
    split_ifs at hf with h
    rw [← Option.some.inj hf, one_lt_div₀ h, sum_eq_sub, sub_pos]
  · dsimp only at hf hp ⊢
    split_ifs at hf with h
    have hlosses := grossLossAbs_pos_iff.mp h
    have hpos := avgLossAbs_pos_iff.mpr hlosses
    rw [if_pos hpos] at hp
    rw [← Option.some.inj hf, ← Option.some.inj hp, div_mul_eq_mul_div, div_mul_eq_mul_div, avgWin_mul,
      ← avgLossAbs_mul hlosses]
    exact mul_div_mul_right _ _ (Nat.cast_ne_zero.mpr hlosses.ne')

/-- `_sort_value`; a ratio that there is none of counts as minus infinity.
Source: `app/services/strategy_performance.py` `StrategyPerformanceService._sort_value`. Kind: D -/
def sortValue (key : String) (item : StrategyMetrics) : WithBot ℚ :=
  match key with
  | "strategy_id" => ((0 : ℚ) : WithBot ℚ)
  | "trades" => ((item.trades : ℚ) : WithBot ℚ)
  | "wins" => ((item.wins : ℚ) : WithBot ℚ)
  | "losses" => ((item.losses : ℚ) : WithBot ℚ)
  | "win_rate" => (item.winRate : WithBot ℚ)
  | "total_pnl" => (item.totalPnl : WithBot ℚ)
  | "avg_pnl" => (item.avgPnl : WithBot ℚ)
  | "expectancy" => (item.expectancy : WithBot ℚ)
  | "payoff_ratio" => item.payoffRatio
  | "profit_factor" => item.profitFactor
  | _ => (item.totalPnl : WithBot ℚ)

/-! ## The report -/

/-- The arguments of a report. Source: `app/services/strategy_performance.py`
`StrategyPerformanceService.report`. Kind: D -/
structure ReportQuery where
  start : Option Instant := none
  stop : Option Instant := none
  strategyId : Option String := none
  strategyQuery : Option String := none
  offset : ℤ := 0
  limit : ℤ := 100
  minTrades : ℤ := 0
  sortBy : String := "total_pnl"
  sortOrder : String := "desc"

/-- Source: `app/services/strategy_performance.py` `StrategyPerformanceService.report`. Kind: D -/
structure StrategyReport where
  items : List StrategyMetrics
  total : ℕ
  offset : ℕ
  limit : ℕ
  sortBy : String
  sortOrder : String

variable (lower : String → String) (rows : List TradeRow) (q : ReportQuery)

/-- The closed trades that the report is about. Source: `app/services/strategy_performance.py`
`StrategyPerformanceService.report`. Kind: D -/
def closedTrades : List TradeRow :=
  (PaperRepository.listTradeRows rows { start := q.start, stop := q.stop, strategyId := q.strategyId }
    0 100000).filter TradeRow.closed

/-- The items that the report keeps; `lower` is `str.lower`.
Source: `app/services/strategy_performance.py` `StrategyPerformanceService.report`. Kind: D -/
def kept (item : StrategyMetrics) : Bool :=
  max q.minTrades 0 ≤ item.trades ∧
    (given q.strategyQuery).all fun text =>
      (lower (PyText.strip text)).toList <:+: (lower item.strategyId).toList

/-- The items of all strategies. Source: `app/services/strategy_performance.py`
`StrategyPerformanceService.report`. Kind: D -/
def items : List StrategyMetrics :=
  (grouped TradeRow.strategyId (closedTrades rows q)).rows.map fun e => compute e.1 e.2

/-- The items that the report keeps, in their order. Source: `app/services/strategy_performance.py`
`StrategyPerformanceService.report`. Kind: D -/
def metrics : List StrategyMetrics :=
  let items := (items rows q).filter (kept lower q)
  let reverse : Bool := lower q.sortOrder ≠ "asc"
  let key := lower (PyText.strip q.sortBy)
  if key = "strategy_id" then sortBy reverse StrategyMetrics.strategyId items
  else sortBy reverse (sortValue key) items

/-- Source: `app/services/strategy_performance.py` `StrategyPerformanceService.report`. Kind: D -/
def report (answer : Except String (List TradeRow)) : Except String StrategyReport :=
  answer.map fun rows =>
    let items := metrics lower rows q
    let offset := (max q.offset 0).toNat
    let limit := (max q.limit 1).toNat
    { items := page offset limit items
      total := items.length
      offset, limit
      sortBy := q.sortBy
      sortOrder := lower q.sortOrder }

/-! ## What the report says of the table -/

section report

variable {lower rows q} {m : StrategyMetrics} {k : String}

/-- Below its limit the query answers all rows that it is about. Source: `app/repositories/paper.py`
`PaperRepository.list_trades`. Kind: L -/
theorem listTradeRows_eq {query : TradeQuery} {limit : ℕ} {desc : Bool}
    (h : (rows.filter query.takes).length ≤ limit) :
    PaperRepository.listTradeRows rows query 0 limit desc =
      sortBy desc (fun x => x.createdAt) (rows.filter query.takes) := by
  unfold PaperRepository.listTradeRows page
  rw [max_self, Int.toNat_zero, List.drop_zero, List.take_of_length_le]
  rw [perm_sortBy.length_eq]
  exact h

/-- **The items**: one for every strategy with a closed trade, computed from its closed trades.
Source: `app/services/strategy_performance.py` `StrategyPerformanceService.report`. Kind: L -/
theorem mem_items : m ∈ items rows q ↔ ∃ x ∈ closedTrades rows q,
    m = compute x.strategyId ((closedTrades rows q).filter fun y => y.strategyId = x.strategyId) := by
  unfold items
  rw [List.mem_map]
  constructor
  · rintro ⟨⟨k, group⟩, hgroup, rfl⟩
    obtain ⟨hk, rfl⟩ := mem_grouped.mp hgroup
    obtain ⟨x, hx, rfl⟩ := List.mem_map.mp hk
    exact ⟨x, hx, rfl⟩
  · rintro ⟨x, hx, rfl⟩
    exact ⟨(x.strategyId, _), mem_grouped.mpr ⟨List.mem_map_of_mem hx, rfl⟩, rfl⟩

theorem nodup_items : ((items rows q).map StrategyMetrics.strategyId).Nodup := by
  unfold items
  rw [List.map_map]
  exact (grouped TradeRow.strategyId (closedTrades rows q)).nodup

/-- **Nothing is left out** of the items and nothing is counted twice.
Source: `app/services/strategy_performance.py` `StrategyPerformanceService.report`. Kind: L -/
theorem sum_items :
    ((items rows q).map StrategyMetrics.trades).sum = (closedTrades rows q).length ∧
      ((items rows q).map StrategyMetrics.wins).sum =
        (closedTrades rows q).countP (fun x => 0 < x.gain) ∧
      ((items rows q).map StrategyMetrics.losses).sum =
        (closedTrades rows q).countP (fun x => x.gain < 0) ∧
      ((items rows q).map StrategyMetrics.totalPnl).sum =
        ((closedTrades rows q).map TradeRow.gain).sum := by
  have hperm : ((grouped TradeRow.strategyId (closedTrades rows q)).rows.flatMap Prod.snd).Perm
      (closedTrades rows q) := perm_grouped
  unfold items
  rw [List.map_map, List.map_map, List.map_map, List.map_map]
  refine ⟨?_, ?_, ?_, sum_grouped TradeRow.gain⟩
  · rw [← hperm.length_eq, List.length_flatMap]
    exact congrArg List.sum (List.map_congr_left fun e _ => List.length_map _)
  · rw [← hperm.countP_eq, List.countP_flatMap]
    exact congrArg List.sum (List.map_congr_left fun e _ => List.countP_map)
  · rw [← hperm.countP_eq, List.countP_flatMap]
    exact congrArg List.sum (List.map_congr_left fun e _ => List.countP_map)

theorem perm_metrics : (metrics lower rows q).Perm ((items rows q).filter (kept lower q)) := by
  unfold metrics
  dsimp only
  split_ifs
  · exact perm_sortBy
  · exact perm_sortBy

/-- The order of the items. Source: `app/services/strategy_performance.py`
`StrategyPerformanceService.report`. Kind: D -/
def InOrder {κ : Type} [LE κ] (asc : Prop) [Decidable asc] (key : StrategyMetrics → κ)
    (l : List StrategyMetrics) : Prop :=
  l.Pairwise fun a b => if asc then key a ≤ key b else key b ≤ key a

theorem inOrder_sortBy {κ : Type} [LinearOrder κ] {key : StrategyMetrics → κ} {l : List StrategyMetrics}
    {order : String} : InOrder (order = "asc") key (sortBy (order ≠ "asc") key l) := by
  unfold InOrder
  refine pairwise_sortBy.imp fun h => ?_
  by_cases hasc : order = "asc"
  · simpa [hasc] using h
  · simpa [hasc] using h

theorem inOrder_metrics :
    if lower (PyText.strip q.sortBy) = "strategy_id" then
      InOrder (lower q.sortOrder = "asc") StrategyMetrics.strategyId (metrics lower rows q)
    else InOrder (lower q.sortOrder = "asc") (sortValue (lower (PyText.strip q.sortBy)))
      (metrics lower rows q) := by
  unfold metrics
  dsimp only
  by_cases hkey : lower (PyText.strip q.sortBy) = "strategy_id"
  · rw [if_pos hkey, if_pos hkey]
    exact inOrder_sortBy
  · rw [if_neg hkey, if_neg hkey]
    exact inOrder_sortBy

/-- Within the limit of the query, a report on one strategy is about the trades that the report on all has of
it. Source: `app/services/strategy_performance.py` `StrategyPerformanceService.report`. Kind: L -/
theorem closedTrades_of_strategy (hk : PyText.strip k ≠ "")
    (hsize : (rows.filter (inRange (fun x : TradeRow => x.createdAt) q.start q.stop)).length ≤ 100000) :
    closedTrades rows { q with strategyId := some k } =
      (closedTrades rows { q with strategyId := none }).filter fun x => x.strategyId = k := by
  have hgiven : given (some k) = some k := by simp [given, hk]
  have hall : rows.filter { start := q.start, stop := q.stop : TradeQuery }.takes =
      rows.filter (inRange (fun x : TradeRow => x.createdAt) q.start q.stop) :=
    List.filter_congr fun x _ => by simp [TradeQuery.takes, given]
  have hone : rows.filter { start := q.start, stop := q.stop, strategyId := some k : TradeQuery }.takes =
      (rows.filter (inRange (fun x : TradeRow => x.createdAt) q.start q.stop)).filter
        fun x => x.strategyId = k := by
    rw [List.filter_filter]
    refine List.filter_congr fun x _ => ?_
    rw [TradeQuery.takes, hgiven]
    simp [given, Bool.and_comm]
  unfold closedTrades
  dsimp only
  rw [listTradeRows_eq (by rw [hone]; exact (List.length_filter_le _ _).trans hsize),
    listTradeRows_eq (by rw [hall]; exact hsize), hone, hall]
  generalize rows.filter (inRange (fun x : TradeRow => x.createdAt) q.start q.stop) = inside
  unfold sortBy
  rw [if_neg Bool.false_ne_true, if_neg Bool.false_ne_true, filter_sortOn_eq, filter_sortOn_eq,
    filter_sortOn_eq, List.filter_filter, List.filter_filter]
  exact congrArg _ (List.filter_congr fun x _ => Bool.and_comm _ _)

/-- **A report on one strategy** has the item that the report on all has of it.
Source: `app/services/strategy_performance.py` `StrategyPerformanceService.report`. Kind: L -/
theorem mem_items_of_strategy (hk : PyText.strip k ≠ "")
    (hsize : (rows.filter (inRange (fun x : TradeRow => x.createdAt) q.start q.stop)).length ≤ 100000) :
    m ∈ items rows { q with strategyId := some k } ↔
      m ∈ items rows { q with strategyId := none } ∧ m.strategyId = k := by
  rw [mem_items, mem_items, closedTrades_of_strategy hk hsize]
  generalize closedTrades rows { q with strategyId := none } = closed
  have hsame : (closed.filter fun x => x.strategyId = k).filter (fun y => y.strategyId = k) =
      closed.filter fun x => x.strategyId = k := by
    rw [List.filter_filter]
    exact List.filter_congr fun x _ => Bool.and_self _
  constructor
  · rintro ⟨x, hx, rfl⟩
    obtain ⟨hmem, hkey⟩ := List.mem_filter.mp hx
    obtain rfl := of_decide_eq_true hkey
    rw [hsame]
    exact ⟨⟨x, hmem, rfl⟩, rfl⟩
  · rintro ⟨⟨x, hx, rfl⟩, hkey⟩
    have hkey : x.strategyId = k := hkey
    subst hkey
    exact ⟨x, List.mem_filter.mpr ⟨hx, decide_eq_true rfl⟩, by rw [hsame]⟩

/-- Without filters every item is kept. Source: `app/services/strategy_performance.py`
`StrategyPerformanceService.report`. Kind: L -/
theorem filter_kept (hmin : q.minTrades ≤ 1) (hquery : given q.strategyQuery = none) :
    (items rows q).filter (kept lower q) = items rows q := by
  refine List.filter_eq_self.mpr fun item hitem => ?_
  obtain ⟨x, hx, rfl⟩ := mem_items.mp hitem
  have hpos : 0 < ((closedTrades rows q).filter fun y => y.strategyId = x.strategyId).length :=
    List.length_pos_of_mem (List.mem_filter.mpr ⟨hx, decide_eq_true rfl⟩)
  unfold kept
  rw [hquery]
  refine decide_eq_true ⟨?_, rfl⟩
  show max q.minTrades 0 ≤ (((List.map _ _).length : ℕ) : ℤ)
  rw [List.length_map]
  omega

/-- **The report on the strategies.** Whatever the table and the arguments: the report has one item for every
strategy with a closed trade that its filters let through, computed from the closed trades of that strategy;
the numbers of an item hang together; without filters the items add up to all closed trades of the query; the
items are in the order that is asked for; its pages, read one after the other, are all items; and a report on
one strategy has the item that the report on all has of it. Source: `app/services/strategy_performance.py`
`StrategyPerformanceService.report`. Kind: P -/
theorem strategy_report (lower : String → String) (rows : List TradeRow) (q : ReportQuery) :
    let all := metrics lower rows q
    let closed := closedTrades rows q
    (∀ m, m ∈ all ↔ kept lower q m = true ∧ ∃ x ∈ closed,
      m = compute x.strategyId (closed.filter fun y => y.strategyId = x.strategyId)) ∧
    (all.map StrategyMetrics.strategyId).Nodup ∧ (∀ m ∈ all, Consistent m) ∧
    (q.minTrades ≤ 1 → given q.strategyQuery = none →
      (all.map StrategyMetrics.trades).sum = closed.length ∧
      (all.map StrategyMetrics.wins).sum = closed.countP (fun x => 0 < x.gain) ∧
      (all.map StrategyMetrics.losses).sum = closed.countP (fun x => x.gain < 0) ∧
      (all.map StrategyMetrics.totalPnl).sum = (closed.map TradeRow.gain).sum) ∧
    (if lower (PyText.strip q.sortBy) = "strategy_id" then
      InOrder (lower q.sortOrder = "asc") StrategyMetrics.strategyId all
    else InOrder (lower q.sortOrder = "asc") (sortValue (lower (PyText.strip q.sortBy))) all) ∧
    (∀ size n : ℕ, 0 < size → all.length ≤ n * size →
      ((List.range n).flatMap fun i =>
        (report lower { q with offset := (i * size : ℕ), limit := size } (.ok rows)).toOption.elim []
          StrategyReport.items) = all) ∧
    ∀ k, PyText.strip k ≠ "" →
      (rows.filter (inRange (fun x : TradeRow => x.createdAt) q.start q.stop)).length ≤ 100000 →
      ∀ m, m ∈ metrics lower rows { q with strategyId := some k } ↔
        m ∈ metrics lower rows { q with strategyId := none } ∧ m.strategyId = k := by
  intro all closed
  have hmem (m : StrategyMetrics) : m ∈ all ↔ kept lower q m = true ∧ m ∈ items rows q := by
    rw [perm_metrics.mem_iff, List.mem_filter, and_comm]
  refine ⟨fun m => (hmem m).trans (and_congr_right' mem_items), ?_, fun m hm => ?_, fun hmin hquery => ?_,
    inOrder_metrics, fun size n hpos hlen => ?_, fun k hk hsize m => ?_⟩
  · rw [(perm_metrics.map StrategyMetrics.strategyId).nodup_iff]
    exact nodup_items.sublist (List.filter_sublist.map _)
  · obtain ⟨x, -, rfl⟩ := mem_items.mp ((hmem m).mp hm).2
    exact consistent_compute _ _
  · have hperm : all.Perm (items rows q) := by
      rw [← filter_kept hmin hquery]
      exact perm_metrics
    rw [(hperm.map _).sum_eq, (hperm.map _).sum_eq, (hperm.map _).sum_eq, (hperm.map _).sum_eq]
    exact sum_items
  · refine Eq.trans (List.flatMap_congr fun i _ => ?_) (flatMap_page hlen)
    show page (max ((i * size : ℕ) : ℤ) 0).toNat (max (size : ℤ) 1).toNat all = page (i * size) size all
    have hoffset : (max ((i * size : ℕ) : ℤ) 0).toNat = i * size := by omega
    have hlimit : (max (size : ℤ) 1).toNat = size := by omega
    rw [hoffset, hlimit]
  · rw [perm_metrics.mem_iff, perm_metrics.mem_iff, List.mem_filter, List.mem_filter,
      mem_items_of_strategy hk hsize]
    exact ⟨fun h => ⟨⟨h.1.1, h.2⟩, h.1.2⟩, fun h => ⟨⟨h.1.1, h.2⟩, h.1.2⟩⟩

end report

end StrategyPerformanceService

end HaruTrade
