import Mathlib.Data.List.Sort
import HaruTrade.Runtime.World

/-!
# The candle repository

The reads that the price, ATR and candle providers make, and the write of the incremental sync.
-/

namespace HaruTrade

namespace CandleRepository

variable (w : World)

/-- `ORDER BY candle_time ASC`. Source: `app/repositories/candle.py`. Kind: D -/
def byTime (rows : List CandleRow) : List CandleRow :=
  rows.insertionSort fun a b => a.candle.ts ≤ b.candle.ts

/-- The candles of a ticker and timeframe, oldest first. Source: `app/repositories/candle.py`.
Kind: D -/
def history (ticker : String) (timeframe : Timeframe) : List Candle :=
  (byTime (w.candles.select fun r => r.ticker = ticker ∧ r.timeframe = timeframe)).map
    CandleRow.candle

/-- Source: `app/repositories/candle.py` `CandleRepository.get_latest_close`. Kind: D -/
def getLatestClose (ticker : String) : Option ℚ :=
  (byTime (w.candles.select fun r => r.ticker = ticker)).getLast?.map fun r => r.candle.close

/-- Source: `app/repositories/candle.py` `CandleRepository.get_last_candle_time`. Kind: D -/
def getLastCandleTime (ticker : String) (timeframe : Timeframe) : Option Time :=
  (history w ticker timeframe).getLast?.map Candle.ts

/-- Source: `app/repositories/candle.py` `CandleRepository.list_recent`. Kind: D -/
def listRecent (ticker : String) (timeframe : Timeframe) (limit : ℕ) : List Candle :=
  (history w ticker timeframe).drop ((history w ticker timeframe).length - limit)

/-- Source: `app/repositories/candle.py` `CandleRepository.list_range`. Kind: D -/
def listRange (ticker : String) (timeframe : Timeframe) (start : Option Time) (limit : ℕ) :
    List Candle :=
  ((history w ticker timeframe).filter fun c => start.all (· ≤ c.ts)).take (max 1 limit)

/-- Source: `app/repositories/candle.py` `CandleRepository.upsert_incremental`. Kind: D -/
def upsertIncremental (ticker : String) (timeframe : Timeframe) (c : Candle) : World :=
  { w with
    candles := w.candles.upsert ⟨ticker, timeframe, c⟩
      (fun row => { row with candle := { c with ts := row.candle.ts } }) fun _ => rfl }

/-- An upsert stores the candle under its time and leaves the other rows.
Source: `app/repositories/candle.py` `CandleRepository.upsert_incremental`. Kind: L -/
theorem get?_upsertIncremental {w : World} {ticker : String} {timeframe : Timeframe} {c : Candle}
    {k : String × Timeframe × Time} :
    (upsertIncremental w ticker timeframe c).candles.get? k =
      if k = (ticker, timeframe, c.ts) then some ⟨ticker, timeframe, c⟩ else w.candles.get? k := by
  refine Eq.trans Table.get?_upsert ?_
  by_cases hk : k = (ticker, timeframe, c.ts)
  · have hkey : k = CandleRow.key ⟨ticker, timeframe, c⟩ := hk
    rw [if_pos hkey, if_pos hk]
    cases h : w.candles.get? k with
    | none => rfl
    | some row =>
        -- the row that is updated has the key already
        obtain ⟨-, hrow⟩ := Table.get?_eq_some_iff.mp h
        rw [hk] at hrow
        obtain ⟨t, tf, old⟩ := row
        simp only [CandleRow.key, Prod.mk.injEq] at hrow
        obtain ⟨rfl, rfl, hts⟩ := hrow
        rw [Option.elim_some]
        simp only [hts]
  · have hkey : ¬ k = CandleRow.key ⟨ticker, timeframe, c⟩ := hk
    rw [if_neg hkey, if_neg hk]

/-- The candles of a history are the stored ones. Source: `app/repositories/candle.py`. Kind: L -/
theorem mem_history {w : World} {ticker : String} {timeframe : Timeframe} {c : Candle} :
    c ∈ history w ticker timeframe ↔
      w.candles.get? (ticker, timeframe, c.ts) = some ⟨ticker, timeframe, c⟩ := by
  unfold history byTime
  rw [List.mem_map, Table.get?_eq_some_iff]
  simp only [List.mem_insertionSort, Table.select, List.mem_filter, decide_eq_true_eq]
  constructor
  · rintro ⟨⟨t, tf, c'⟩, ⟨hr, rfl, rfl⟩, rfl⟩
    exact ⟨hr, rfl⟩
  · rintro ⟨hr, -⟩
    exact ⟨⟨ticker, timeframe, c⟩, ⟨hr, rfl, rfl⟩, rfl⟩

theorem pairwise_history {w : World} {ticker : String} {timeframe : Timeframe} :
    (history w ticker timeframe).Pairwise fun a b => a.ts ≤ b.ts := by
  have htotal : Std.Total fun a b : CandleRow => a.candle.ts ≤ b.candle.ts :=
    ⟨fun a b => Nat.le_total _ _⟩
  have htrans : IsTrans CandleRow fun a b => a.candle.ts ≤ b.candle.ts :=
    ⟨fun _ _ _ => Nat.le_trans⟩
  unfold history byTime
  rw [List.pairwise_map]
  exact List.pairwise_insertionSort _ _

/-- A ticker without candles has no latest close. Source: `app/repositories/candle.py`
`CandleRepository.get_latest_close`. Kind: L -/
theorem getLatestClose_eq_none_iff {w : World} {ticker : String} :
    getLatestClose w ticker = none ↔ ∀ r ∈ w.candles.rows, r.ticker ≠ ticker := by
  have hlen : (byTime (w.candles.select fun r => r.ticker = ticker)).length =
      (w.candles.select fun r => r.ticker = ticker).length := List.length_insertionSort _ _
  simp only [getLatestClose, Option.map_eq_none_iff, List.getLast?_eq_none_iff]
  rw [← List.length_eq_zero_iff, hlen, List.length_eq_zero_iff]
  simp [Table.select]

end CandleRepository

end HaruTrade
