import Mathlib.Algebra.Order.Field.Rat
import Mathlib.Data.List.Sort
import Mathlib.Order.Interval.Set.Basic
import HaruTrade.Domain.Models

/-!
# The market-data gateway

`fetchCandlesIncremental` reads the rows of a chart reply, keeps those after the last stored time, and
sorts them.

A row is what the gateway reads of it: `parse_price` and `parse_float` answer nothing for a field
that is missing or unreadable, and so does `_parse_row_time`.
-/

namespace HaruTrade

/-- What is read of a row of a chart reply. Source: `app/integrations/kiwoom/market_data.py`
`KiwoomMarketDataGateway.fetch_candles_incremental`. Kind: D -/
structure ChartRow where
  time : Option Time
  openPrice : Option ℚ
  highPrice : Option ℚ
  lowPrice : Option ℚ
  closePrice : Option ℚ
  volume : Option ℚ
  deriving DecidableEq

/-- The candle of a row; what is missing counts as zero, and the high and the low enclose the four
prices. Source: `app/integrations/kiwoom/market_data.py`
`KiwoomMarketDataGateway.fetch_candles_incremental`. Kind: D -/
def ChartRow.candle (row : ChartRow) (ts : Time) : Candle :=
  let openPrice := row.openPrice.getD 0
  let highPrice := row.highPrice.getD 0
  let lowPrice := row.lowPrice.getD 0
  let closePrice := row.closePrice.getD 0
  { «open» := openPrice
    high := max (max (max openPrice highPrice) lowPrice) closePrice
    low := min (min (min openPrice highPrice) lowPrice) closePrice
    close := closePrice
    ts
    volume := row.volume.getD 0 }

namespace KiwoomMarketDataGateway

/-- The candle of a row with a time that is later than `since`.
Source: `app/integrations/kiwoom/market_data.py`
`KiwoomMarketDataGateway.fetch_candles_incremental`. Kind: D -/
def freshCandle (since : Option Time) (row : ChartRow) : Option Candle :=
  row.time.bind fun ts => if since.any (ts ≤ ·) then none else some (row.candle ts)

/-- Source: `app/integrations/kiwoom/market_data.py`
`KiwoomMarketDataGateway.fetch_candles_incremental`. Kind: D -/
def fetchCandlesIncremental (rows : List ChartRow) (since : Option Time) : List Candle :=
  (rows.filterMap (freshCandle since)).insertionSort fun a b => a.ts ≤ b.ts

end KiwoomMarketDataGateway

/-! ## Replies that hold complete candles -/

/-- A row that shows a candle. Source: `app/integrations/kiwoom/market_data.py`
`KiwoomMarketDataGateway.fetch_candles_incremental`. Kind: D -/
def ChartRow.ofCandle (c : Candle) : ChartRow where
  time := some c.ts
  openPrice := some c.open
  highPrice := some c.high
  lowPrice := some c.low
  closePrice := some c.close
  volume := some c.volume

/-- The high and the low of a candle enclose its prices. Source:
`app/integrations/kiwoom/market_data.py` `KiwoomMarketDataGateway.fetch_candles_incremental`. Kind: D -/
structure Candle.Enclosed (c : Candle) : Prop where
  openMem : c.open ∈ Set.Icc c.low c.high
  closeMem : c.close ∈ Set.Icc c.low c.high
  lowLeHigh : c.low ≤ c.high

/-- The gateway reads a candle as it is exactly when its high and low enclose its prices.
Source: `app/integrations/kiwoom/market_data.py`
`KiwoomMarketDataGateway.fetch_candles_incremental`. Kind: L -/
theorem ChartRow.candle_ofCandle_iff {c : Candle} : (ofCandle c).candle c.ts = c ↔ c.Enclosed := by
  obtain ⟨o, h, l, cl, ts, v⟩ := c
  simp only [candle, ofCandle, Option.getD_some, Candle.mk.injEq, true_and, and_true]
  constructor
  · rintro ⟨hhigh, hlow⟩
    have ho : o ≤ h := hhigh ▸ (le_max_left _ _).trans ((le_max_left _ _).trans (le_max_left _ _))
    have hc : cl ≤ h := hhigh ▸ le_max_right _ _
    have ho' : l ≤ o := hlow ▸ (min_le_left _ _).trans ((min_le_left _ _).trans (min_le_left _ _))
    have hc' : l ≤ cl := hlow ▸ min_le_right _ _
    exact ⟨⟨ho', ho⟩, ⟨hc', hc⟩, ho'.trans ho⟩
  · rintro ⟨⟨ho', ho⟩, ⟨hc', hc⟩, hle⟩
    refine ⟨?_, ?_⟩
    · rw [max_eq_right ho, max_eq_left hle, max_eq_left hc]
    · rw [min_eq_left ho, min_eq_right ho', min_eq_left hc']

namespace KiwoomMarketDataGateway

/-- What is kept of complete candles. Source: `app/integrations/kiwoom/market_data.py`
`KiwoomMarketDataGateway.fetch_candles_incremental`. Kind: L -/
theorem mem_fetchCandlesIncremental {api : List Candle} {since : Option Time} {c : Candle} :
    c ∈ fetchCandlesIncremental (api.map ChartRow.ofCandle) since ↔
      ∃ raw ∈ api, (∀ last, since = some last → last < raw.ts) ∧
        (ChartRow.ofCandle raw).candle raw.ts = c := by
  unfold fetchCandlesIncremental
  rw [List.mem_insertionSort, List.mem_filterMap]
  constructor
  · rintro ⟨row, hrow, hfresh⟩
    obtain ⟨raw, hraw, rfl⟩ := List.mem_map.mp hrow
    refine ⟨raw, hraw, ?_⟩
    cases since with
    | none =>
        refine ⟨?_, by simpa [freshCandle, ChartRow.ofCandle] using hfresh⟩
        rintro last ⟨⟩
    | some last =>
        by_cases hle : raw.ts ≤ last
        · simp [freshCandle, ChartRow.ofCandle, hle] at hfresh
        · refine ⟨?_, by simpa [freshCandle, ChartRow.ofCandle, hle] using hfresh⟩
          rintro last' ⟨⟩
          exact not_le.mp hle
  · rintro ⟨raw, hraw, hlater, rfl⟩
    refine ⟨ChartRow.ofCandle raw, List.mem_map_of_mem hraw, ?_⟩
    have hany : since.any (raw.ts ≤ ·) = false := by
      cases since with
      | none => rfl
      | some last => simpa using hlater last rfl
    show (if since.any (raw.ts ≤ ·) = true then none else some _) = _
    rw [if_neg (by rw [hany]; exact Bool.false_ne_true)]

end KiwoomMarketDataGateway

end HaruTrade
