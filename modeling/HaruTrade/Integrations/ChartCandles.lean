import Mathlib.Data.List.ReduceOption
import HaruTrade.Data.StableSort
import HaruTrade.Domain.Python
import HaruTrade.Integrations.ChartRequest
import HaruTrade.Integrations.MarketData

/-!
# The candles of a chart reply

`fetchCandlesIncrementalJson` makes candles of the rows of a decoded reply, whatever its fields hold.

* `SaneBars` — what the readers of candles rely on: times that rise and are new, prices that are
  finite, positive and in order, and no candle of a row without readable prices.
* `sane_ofPrices_iff` — one candle is sane exactly when its open and its close are positive numbers
  and its high and its low are positive numbers or NaN.
* `saneBars_iff` — hence when a whole list is: a missing price counts as zero, and a repeated row is
  kept.
* `fetchCandlesIncrementalJson_readAs` — on rows with finite prices the candles are those that
  `fetchCandlesIncremental` makes of what is read of the rows.
-/

namespace HaruTrade

/-- `a <= b` of two `datetime`s, which fails when only one of them has a time zone.
Source: `app/integrations/kiwoom/market_data.py`
`KiwoomMarketDataGateway.fetch_candles_incremental`. Kind: D -/
def PyDatetime.le? (a b : PyDatetime) : Except Exn Bool :=
  if a.utcOffset.isSome = b.utcOffset.isSome then .ok (a.instant 0 ≤ b.instant 0)
  else .error (.lookup "can't compare offset-naive and offset-aware datetimes")

/-- `since is not None and ts <= since`. Source: `app/integrations/kiwoom/market_data.py`
`KiwoomMarketDataGateway.fetch_candles_incremental`. Kind: D -/
def PyDatetime.notAfter (ts : PyDatetime) : Option PyDatetime → Except Exn Bool
  | none => .ok false
  | some last => ts.le? last

/-- A candle with the numbers as they were read. Source: `app/domain/models.py` `Candle`. Kind: D -/
structure ParsedCandle where
  «open» : PyNum
  high : PyNum
  low : PyNum
  close : PyNum
  ts : PyDatetime
  volume : PyNum
  deriving DecidableEq

namespace ParsedCandle

/-- The candle of four prices; the high and the low enclose all of them.
Source: `app/integrations/kiwoom/market_data.py`
`KiwoomMarketDataGateway.fetch_candles_incremental`. Kind: D -/
def ofPrices (openPrice highPrice lowPrice closePrice volume : PyNum) (ts : PyDatetime) :
    ParsedCandle where
  «open» := openPrice
  high := ((openPrice.pyMax highPrice).pyMax lowPrice).pyMax closePrice
  low := ((openPrice.pyMin highPrice).pyMin lowPrice).pyMin closePrice
  close := closePrice
  ts
  volume

/-- **A sane candle**: its prices are finite, the low is positive and the high and the low enclose the
open and the close. Source: `app/domain/models.py` `Candle`. Kind: D -/
def Sane (c : ParsedCandle) : Prop :=
  ∃ o h l cl : ℚ, c.open = .of o ∧ c.high = .of h ∧ c.low = .of l ∧ c.close = .of cl ∧
    0 < l ∧ l ≤ min o cl ∧ max o cl ≤ h

end ParsedCandle

namespace KiwoomMarketDataGateway

/-! ## The reading of a reply -/

/-- Where a reply may hold its rows. Source: `app/integrations/kiwoom/market_data.py`
`KiwoomMarketDataGateway.fetch_candles_incremental`. Kind: D -/
def rowsKeys : List String :=
  ["candles", "output", "output1", "stk_min_pole_chart_qry", "stk_dt_pole_chart_qry", "items", "rows"]

/-- Source: `app/integrations/kiwoom/market_data.py`
`KiwoomMarketDataGateway.fetch_candles_incremental`. Kind: D -/
def openKeys : List String := ["open", "open_pric", "stck_oprc"]

/-- Source: `app/integrations/kiwoom/market_data.py`
`KiwoomMarketDataGateway.fetch_candles_incremental`. Kind: D -/
def highKeys : List String := ["high", "high_pric", "stck_hgpr"]

/-- Source: `app/integrations/kiwoom/market_data.py`
`KiwoomMarketDataGateway.fetch_candles_incremental`. Kind: D -/
def lowKeys : List String := ["low", "low_pric", "stck_lwpr"]

/-- Source: `app/integrations/kiwoom/market_data.py`
`KiwoomMarketDataGateway.fetch_candles_incremental`. Kind: D -/
def closeKeys : List String := ["close", "cur_prc", "stck_clpr", "stck_prpr"]

/-- Source: `app/integrations/kiwoom/market_data.py`
`KiwoomMarketDataGateway.fetch_candles_incremental`. Kind: D -/
def volumeKeys : List String := ["volume", "trde_qty", "acml_vol", "acc_trde_qty"]

/-- A price of a row, nothing when it is missing or unreadable.
Source: `app/integrations/kiwoom/market_data.py`
`KiwoomMarketDataGateway.fetch_candles_incremental`. Kind: D -/
def price (row : JsonDict) (keys : List String) : Except Exn (Option PyNum) :=
  parsePrice (row.firstNonEmpty keys)

/-- The candle of a row; `or 0.0` puts a zero for what is missing.
Source: `app/integrations/kiwoom/market_data.py`
`KiwoomMarketDataGateway.fetch_candles_incremental`. Kind: D -/
def candleOf (row : JsonDict) (ts : PyDatetime) : Except Exn ParsedCandle := do
  let openPrice ← price row openKeys
  let highPrice ← price row highKeys
  let lowPrice ← price row lowKeys
  let closePrice ← price row closeKeys
  let volume ← parseFloat (row.firstNonEmpty volumeKeys)
  .ok (.ofPrices (openPrice.getD (.of 0)) (highPrice.getD (.of 0)) (lowPrice.getD (.of 0))
    (closePrice.getD (.of 0)) (volume.getD (.of 0)) ts)

variable (r : RowReading) (kstToday : String)

/-- What becomes of a row: a row without a time is passed over, and so is one that is not later than
`since`. Source: `app/integrations/kiwoom/market_data.py`
`KiwoomMarketDataGateway.fetch_candles_incremental`. Kind: D -/
def candleAfter (since : Option PyDatetime) (row : JsonDict) : Except Exn (Option ParsedCandle) :=
  match parseRowTime r row with
  | none => .ok none
  | some ts => do
    let old ← ts.notAfter since
    if old then .ok none
    else (candleOf row ts).map some

/-- **The candles after `since`**; `post` is the client. Source:
`app/integrations/kiwoom/market_data.py` `KiwoomMarketDataGateway.fetch_candles_incremental`. Kind: D -/
def fetchCandlesIncrementalJson (post : ChartRequest → Except Exn JsonDict)
    (ticker timeframe : String) (since : Option PyDatetime) : Except Exn (List ParsedCandle) := do
  let request ← buildChartRequest kstToday ticker timeframe since
  let data ← post request
  let candles ← (data.firstList rowsKeys).mapM (candleAfter r since)
  .ok (sortOn (fun c => c.ts.instant 0) candles.reduceOption)

/-! ## One candle -/

section candle

variable {o h l c v : PyNum} {ts : PyDatetime}

/-- A number above zero. Source: none: infrastructure. Kind: D -/
def IsPositive (x : PyNum) : Prop := ∃ q : ℚ, 0 < q ∧ x = .of q

/-- The high and the low of a sane candle may be NaN, which the largest and the smallest price pass
over. Source: `app/integrations/kiwoom/market_data.py`
`KiwoomMarketDataGateway.fetch_candles_incremental`. Kind: L -/
theorem sane_ofPrices (ho : IsPositive o) (hc : IsPositive c) (hh : h = .nan ∨ IsPositive h)
    (hl : l = .nan ∨ IsPositive l) : (ParsedCandle.ofPrices o h l c v ts).Sane := by
  obtain ⟨o, ho, rfl⟩ := ho
  obtain ⟨c, hc, rfl⟩ := hc
  unfold ParsedCandle.Sane ParsedCandle.ofPrices
  rcases hh with rfl | ⟨h, hh, rfl⟩
  · rcases hl with rfl | ⟨l, hl, rfl⟩
    · refine ⟨o, max o c, min o c, c, by simp, by simp, by simp, by simp, ?_⟩
      exact ⟨lt_min ho hc, le_rfl, le_rfl⟩
    · refine ⟨o, max (max o l) c, min (min o l) c, c, by simp, by simp, by simp, by simp, ?_⟩
      exact ⟨lt_min (lt_min ho hl) hc, min_le_min_right c (min_le_left o l),
        max_le_max_right c (le_max_left o l)⟩
  · rcases hl with rfl | ⟨l, hl, rfl⟩
    · refine ⟨o, max (max o h) c, min (min o h) c, c, by simp, by simp, by simp, by simp, ?_⟩
      exact ⟨lt_min (lt_min ho hh) hc, min_le_min_right c (min_le_left o h),
        max_le_max_right c (le_max_left o h)⟩
    · refine ⟨o, max (max (max o h) l) c, min (min (min o h) l) c, c, by simp, by simp, by simp,
        by simp, ?_⟩
      exact ⟨lt_min (lt_min (lt_min ho hh) hl) hc,
        min_le_min_right c ((min_le_left _ l).trans (min_le_left o h)),
        max_le_max_right c ((le_max_left o h).trans (le_max_left _ l))⟩

/-- A price above the low of a candle with a positive low is positive, when it is no NaN and the high
is finite. Source: `app/integrations/kiwoom/market_data.py`
`KiwoomMarketDataGateway.fetch_candles_incremental`. Kind: L -/
theorem positive_of_sane_ofPrices (hh : h.IsAbs) (hl : l.IsAbs)
    (hsane : (ParsedCandle.ofPrices o h l c v ts).Sane) :
    IsPositive o ∧ IsPositive c ∧ (h = .nan ∨ IsPositive h) ∧ (l = .nan ∨ IsPositive l) := by
  obtain ⟨o', hi, lo, c', ho, hhi, hlo, hc, hpos, hle, -⟩ := hsane
  unfold ParsedCandle.ofPrices at ho hhi hlo hc
  dsimp only at ho hhi hlo hc
  subst ho hc
  have ho' : 0 < o' := hpos.trans_le (hle.trans (min_le_left o' c'))
  have hc' : 0 < c' := hpos.trans_le (hle.trans (min_le_right o' c'))
  refine ⟨⟨o', ho', rfl⟩, ⟨c', hc', rfl⟩, ?_⟩
  cases hh with
  | nan =>
      refine ⟨Or.inl rfl, ?_⟩
      cases hl with
      | nan => exact Or.inl rfl
      | inf => exact absurd hhi (by simp)
      | of l hl0 =>
          have hlow : min (min o' l) c' = lo := by simpa using hlo
          refine Or.inr ⟨l, hpos.trans_le ?_, rfl⟩
          rw [← hlow]
          exact (min_le_left _ c').trans (min_le_right o' l)
  | inf => exact absurd hhi (by simp)
  | of h hh0 =>
      cases hl with
      | nan =>
          have hlow : min (min o' h) c' = lo := by simpa using hlo
          refine ⟨Or.inr ⟨h, hpos.trans_le ?_, rfl⟩, Or.inl rfl⟩
          rw [← hlow]
          exact (min_le_left _ c').trans (min_le_right o' h)
      | inf => exact absurd hhi (by simp)
      | of l hl0 =>
          have hlow : min (min (min o' h) l) c' = lo := by simpa using hlo
          refine ⟨Or.inr ⟨h, hpos.trans_le ?_, rfl⟩, Or.inr ⟨l, hpos.trans_le ?_, rfl⟩⟩
          · rw [← hlow]
            exact (min_le_left _ c').trans ((min_le_left _ l).trans (min_le_right o' h))
          · rw [← hlow]
            exact (min_le_left _ c').trans (min_le_right _ l)

/-- **When a candle is sane.** Source: `app/integrations/kiwoom/market_data.py`
`KiwoomMarketDataGateway.fetch_candles_incremental`. Kind: L -/
theorem sane_ofPrices_iff (hh : h.IsAbs) (hl : l.IsAbs) :
    (ParsedCandle.ofPrices o h l c v ts).Sane ↔
      IsPositive o ∧ IsPositive c ∧ (h = .nan ∨ IsPositive h) ∧ (l = .nan ∨ IsPositive l) :=
  ⟨positive_of_sane_ofPrices hh hl, fun ⟨ho, hc, hh, hl⟩ => sane_ofPrices ho hc hh hl⟩

end candle

/-! ## One row -/

section row

variable {r : RowReading} {row : JsonDict} {keys : List String} {since : Option PyDatetime}
  {ts : PyDatetime} {c : ParsedCandle} {found : Option ParsedCandle}

/-- **The prices of a row can be used**: the open and the close are read as positive numbers, the high
and the low as positive numbers or NaN. Source: `app/integrations/kiwoom/market_data.py`
`KiwoomMarketDataGateway.fetch_candles_incremental`. Kind: D -/
structure PricesUsable (row : JsonDict) : Prop where
  «open» : ∃ x, price row openKeys = .ok (some x) ∧ IsPositive x
  close : ∃ x, price row closeKeys = .ok (some x) ∧ IsPositive x
  high : ∃ x, price row highKeys = .ok (some x) ∧ (x = .nan ∨ IsPositive x)
  low : ∃ x, price row lowKeys = .ok (some x) ∧ (x = .nan ∨ IsPositive x)

/-- A price of the row is missing or unreadable. Source:
`app/integrations/kiwoom/market_data.py` `KiwoomMarketDataGateway.fetch_candles_incremental`. Kind: D -/
def PriceUnreadable (row : JsonDict) : Prop :=
  ∃ keys ∈ [openKeys, highKeys, lowKeys, closeKeys], price row keys = .ok none

/-- What is read as a price is an absolute value. Source: `app/integrations/kiwoom/schema.py`
`parse_price`. Kind: L -/
theorem isAbs_of_price {x : Option PyNum} (h : price row keys = .ok x) : (x.getD (.of 0)).IsAbs := by
  unfold price parsePrice at h
  cases hparse : parseFloat (row.firstNonEmpty keys) with
  | error e =>
      rw [hparse] at h
      exact absurd h (by simp [Except.map])
  | ok y =>
      rw [hparse] at h
      obtain rfl : y.map PyNum.abs = x := Except.ok.inj h
      cases y with
      | none => exact .of 0 le_rfl
      | some y => exact PyNum.isAbs_abs

/-- A price that counts as a positive number or as NaN was read as one, since what is missing counts
as zero. Source: `app/integrations/kiwoom/market_data.py`
`KiwoomMarketDataGateway.fetch_candles_incremental`. Kind: L -/
theorem price_iff {P : PyNum → Prop} {x : Option PyNum} (h : price row keys = .ok x)
    (hzero : ¬ P (.of 0)) :
    P (x.getD (.of 0)) ↔ ∃ y, price row keys = .ok (some y) ∧ P y := by
  rw [h]
  cases x with
  | none => simp [hzero]
  | some x => simp

theorem not_isPositive_zero : ¬ IsPositive (.of 0) := by
  rintro ⟨q, hq, hzero⟩
  obtain rfl : 0 = q := PyNum.of.inj hzero
  exact lt_irrefl 0 hq

/-- **The candle of a row is sane exactly when its prices can be used.**
Source: `app/integrations/kiwoom/market_data.py`
`KiwoomMarketDataGateway.fetch_candles_incremental`. Kind: L -/
theorem sane_candleOf_iff (h : candleOf row ts = .ok c) : c.Sane ↔ PricesUsable row := by
  obtain ⟨openPrice, hopen, h⟩ := ok_of_bind h
  obtain ⟨highPrice, hhigh, h⟩ := ok_of_bind h
  obtain ⟨lowPrice, hlow, h⟩ := ok_of_bind h
  obtain ⟨closePrice, hclose, h⟩ := ok_of_bind h
  obtain ⟨volume, -, h⟩ := ok_of_bind h
  obtain rfl := Except.ok.inj h
  have hnan : ¬ ((PyNum.of 0) = .nan ∨ IsPositive (.of 0)) := by
    rintro (hnan | hpos)
    · exact absurd hnan (by simp)
    · exact not_isPositive_zero hpos
  rw [sane_ofPrices_iff (isAbs_of_price hhigh) (isAbs_of_price hlow),
    price_iff hopen not_isPositive_zero, price_iff hclose not_isPositive_zero,
    price_iff (P := fun x => x = .nan ∨ IsPositive x) hhigh hnan,
    price_iff (P := fun x => x = .nan ∨ IsPositive x) hlow hnan]
  exact ⟨fun ⟨ho, hc, hh, hl⟩ => ⟨ho, hc, hh, hl⟩, fun ⟨ho, hc, hh, hl⟩ => ⟨ho, hc, hh, hl⟩⟩

theorem not_pricesUsable_of_unreadable (h : PriceUnreadable row) : ¬ PricesUsable row := by
  rintro ⟨⟨_, ho, -⟩, ⟨_, hc, -⟩, ⟨_, hh, -⟩, ⟨_, hl, -⟩⟩
  obtain ⟨keys, hkeys, hnone⟩ := h
  simp only [List.mem_cons, List.not_mem_nil, or_false] at hkeys
  rcases hkeys with rfl | rfl | rfl | rfl
  · exact absurd (ho.symm.trans hnone) (by simp)
  · exact absurd (hh.symm.trans hnone) (by simp)
  · exact absurd (hl.symm.trans hnone) (by simp)
  · exact absurd (hc.symm.trans hnone) (by simp)

theorem ts_candleOf (h : candleOf row ts = .ok c) : c.ts = ts := by
  obtain ⟨_, -, h⟩ := ok_of_bind h
  obtain ⟨_, -, h⟩ := ok_of_bind h
  obtain ⟨_, -, h⟩ := ok_of_bind h
  obtain ⟨_, -, h⟩ := ok_of_bind h
  obtain ⟨_, -, h⟩ := ok_of_bind h
  obtain rfl := Except.ok.inj h
  rfl

/-- The instant of a row with a time after `since`. Source:
`app/integrations/kiwoom/market_data.py` `KiwoomMarketDataGateway.fetch_candles_incremental`. Kind: D -/
def freshInstant (r : RowReading) (since : Option PyDatetime) (row : JsonDict) : Option ℤ :=
  ((parseRowTime r row).map fun ts => ts.instant 0).filter fun t =>
    since.all fun last => last.instant 0 < t

/-- What becomes of a row, when nothing fails: nothing or its candle.
Source: `app/integrations/kiwoom/market_data.py`
`KiwoomMarketDataGateway.fetch_candles_incremental`. Kind: L -/
theorem candleAfter_cases (h : candleAfter r since row = .ok found) :
    (found = none ∧ freshInstant r since row = none) ∨
      ∃ ts c, found = some c ∧ candleOf row ts = .ok c ∧
        freshInstant r since row = some (ts.instant 0) := by
  unfold candleAfter at h
  unfold freshInstant
  cases htime : parseRowTime r row with
  | none =>
      rw [htime] at h
      exact Or.inl ⟨(Except.ok.inj h).symm, rfl⟩
  | some ts =>
      rw [htime] at h
      obtain ⟨old, hold, h⟩ := ok_of_bind h
      have hlater : old = !since.all fun last => last.instant 0 < ts.instant 0 := by
        cases since with
        | none => exact (Except.ok.inj hold).symm
        | some last =>
            unfold PyDatetime.notAfter PyDatetime.le? at hold
            dsimp only at hold
            split_ifs at hold
            rw [← Except.ok.inj hold, Option.all_some, ← decide_not]
            exact decide_eq_decide.mpr not_lt.symm
      cases hall : since.all fun last => last.instant 0 < ts.instant 0 with
      | false =>
          rw [hlater, hall] at h
          left
          exact ⟨(Except.ok.inj h).symm, by simp [hall]⟩
      | true =>
          rw [hlater, hall] at h
          cases hcandle : candleOf row ts with
          | error e =>
              rw [hcandle] at h
              exact absurd h (by simp [Except.map])
          | ok c =>
              rw [hcandle] at h
              right
              exact ⟨ts, c, (Except.ok.inj h).symm, hcandle, by simp [hall]⟩

/-- The candle of a row has the instant of the row. Source:
`app/integrations/kiwoom/market_data.py` `KiwoomMarketDataGateway.fetch_candles_incremental`. Kind: L -/
theorem instant_of_candleAfter (h : candleAfter r since row = .ok found) :
    (found.map fun c => c.ts.instant 0) = freshInstant r since row := by
  rcases candleAfter_cases h with ⟨rfl, hfresh⟩ | ⟨ts, c, rfl, hcandle, hfresh⟩
  · exact hfresh.symm
  · rw [hfresh, Option.map_some, ts_candleOf hcandle]

theorem freshInstant_ne_none_of_candleAfter (h : candleAfter r since row = .ok (some c)) :
    freshInstant r since row ≠ none := by
  rw [← instant_of_candleAfter h]
  exact Option.some_ne_none _

/-- The candle of a row is later than `since`. Source: `app/integrations/kiwoom/market_data.py`
`KiwoomMarketDataGateway.fetch_candles_incremental`. Kind: L -/
theorem later_of_candleAfter (h : candleAfter r since row = .ok (some c)) :
    ∀ last ∈ since, last.instant 0 < c.ts.instant 0 := by
  have hinstant := instant_of_candleAfter h
  intro last hlast
  rw [Option.mem_def.mp hlast, freshInstant, Option.map_some, eq_comm, Option.filter_eq_some_iff]
    at hinstant
  simpa using hinstant.2

/-- The candle that a row has is sane exactly when its prices can be used. Source:
`app/integrations/kiwoom/market_data.py` `KiwoomMarketDataGateway.fetch_candles_incremental`. Kind: L -/
theorem sane_candleAfter_iff (h : candleAfter r since row = .ok (some c)) :
    c.Sane ↔ PricesUsable row := by
  rcases candleAfter_cases h with ⟨hnone, -⟩ | ⟨ts, c', hc, hcandle, -⟩
  · exact absurd hnone (Option.some_ne_none c)
  · obtain rfl := Option.some.inj hc
    exact sane_candleOf_iff hcandle

end row

/-! ## The whole list -/

section list

variable {r : RowReading} {kstToday ticker timeframe : String} {since : Option PyDatetime}
  {rows : List JsonDict} {data : JsonDict} {found : List (Option ParsedCandle)}
  {candles : List ParsedCandle}

/-- **What the readers of candles rely on** in a list that was fetched: the times rise and are later
than `since`, the candles are sane, and no row without readable prices has one.
Source: `app/integrations/kiwoom/market_data.py`
`KiwoomMarketDataGateway.fetch_candles_incremental`. Kind: D -/
structure SaneBars (r : RowReading) (since : Option PyDatetime) (rows : List JsonDict)
    (candles : List ParsedCandle) : Prop where
  increasing : candles.Pairwise fun a b => a.ts.instant 0 < b.ts.instant 0
  later : ∀ c ∈ candles, ∀ last ∈ since, last.instant 0 < c.ts.instant 0
  sane : ∀ c ∈ candles, c.Sane
  unreadable : ∀ row ∈ rows, PriceUnreadable row → candleAfter r since row = .ok none

/-- The instants of the candles are those of the new rows. Source:
`app/integrations/kiwoom/market_data.py` `KiwoomMarketDataGateway.fetch_candles_incremental`. Kind: L -/
theorem instants_reduceOption
    (h : List.Forall₂ (fun row c => candleAfter r since row = .ok c) rows found) :
    (found.reduceOption.map fun c => c.ts.instant 0) = rows.filterMap (freshInstant r since) := by
  induction h with
  | nil => rfl
  | cons hrow _ ih =>
      rw [List.filterMap_cons, ← instant_of_candleAfter hrow, ← ih]
      rename_i c _ _ _
      cases c with
      | none => rw [List.reduceOption_cons_of_none, Option.map_none]
      | some c => rw [List.reduceOption_cons_of_some, Option.map_some, List.map_cons]

/-- Each candle is that of a new row. Source: `app/integrations/kiwoom/market_data.py`
`KiwoomMarketDataGateway.fetch_candles_incremental`. Kind: L -/
theorem mem_reduceOption_iff
    (h : List.Forall₂ (fun row c => candleAfter r since row = .ok c) rows found)
    {c : ParsedCandle} :
    c ∈ found.reduceOption ↔ ∃ row ∈ rows, candleAfter r since row = .ok (some c) := by
  rw [List.reduceOption_mem_iff]
  induction h with
  | nil => simp
  | cons hrow _ ih =>
      rw [List.mem_cons, ih, List.exists_mem_cons_iff, hrow, Except.ok.injEq, eq_comm]

/-- Every row is read without failing. Source: none: infrastructure. Kind: L -/
theorem exists_candleAfter
    (h : List.Forall₂ (fun row c => candleAfter r since row = .ok c) rows found) {row : JsonDict}
    (hrow : row ∈ rows) : ∃ c, candleAfter r since row = .ok c := by
  obtain ⟨i, hi, rfl⟩ := List.mem_iff_getElem.mp hrow
  exact ⟨_, (List.forall₂_iff_get.mp h).2 i hi (h.length_eq ▸ hi)⟩

/-- **When the candles of a reply are sane**: exactly when no two new rows are of one instant and the
prices of every new row can be used. Source: `app/integrations/kiwoom/market_data.py`
`KiwoomMarketDataGateway.fetch_candles_incremental`. Kind: P -/
theorem saneBars_iff
    (h : fetchCandlesIncrementalJson r kstToday (fun _ => .ok data) ticker timeframe since =
      .ok candles) :
    SaneBars r since (data.firstList rowsKeys) candles ↔
      ((data.firstList rowsKeys).filterMap (freshInstant r since)).Nodup ∧
        ∀ row ∈ data.firstList rowsKeys, freshInstant r since row ≠ none → PricesUsable row := by
  obtain ⟨request, -, h⟩ := ok_of_bind h
  obtain ⟨reply, hreply, h⟩ := ok_of_bind h
  obtain rfl := Except.ok.inj hreply
  obtain ⟨found, hfound, h⟩ := ok_of_bind h
  obtain rfl := Except.ok.inj h
  have hrows := mapM_eq_ok_iff.mp hfound
  have hmem : ∀ c, c ∈ sortOn (fun c => c.ts.instant 0) found.reduceOption ↔
      ∃ row ∈ data.firstList rowsKeys, candleAfter r since row = .ok (some c) := fun c => by
    rw [isStableSort_sortOn.perm.mem_iff, mem_reduceOption_iff hrows]
  rw [← instants_reduceOption hrows, ← pairwise_lt_sortOn_iff]
  constructor
  · rintro ⟨hincreasing, -, hall, -⟩
    refine ⟨hincreasing, fun row hrow hfresh => ?_⟩
    obtain ⟨c, hc⟩ := exists_candleAfter hrows hrow
    cases c with
    | none => exact absurd (instant_of_candleAfter hc).symm hfresh
    | some c =>
        have hlisted := (hmem c).mpr ⟨row, hrow, hc⟩
        exact (sane_candleAfter_iff hc).mp (hall c hlisted)
  · rintro ⟨hincreasing, husable⟩
    refine ⟨hincreasing, fun c hc => ?_, fun c hc => ?_, fun row hrow hunreadable => ?_⟩
    · obtain ⟨row, -, hrow⟩ := (hmem c).mp hc
      exact later_of_candleAfter hrow
    · obtain ⟨row, hmemRow, hrow⟩ := (hmem c).mp hc
      apply (sane_candleAfter_iff hrow).mpr
      exact husable row hmemRow (freshInstant_ne_none_of_candleAfter hrow)
    · obtain ⟨c, hc⟩ := exists_candleAfter hrows hrow
      cases c with
      | none => exact hc
      | some c =>
          have hfresh := freshInstant_ne_none_of_candleAfter hc
          exact absurd (husable row hrow hfresh) (not_pricesUsable_of_unreadable hunreadable)

/-- A row of the fixtures at a time of its day. Source: `tests/fixtures/kiwoom/candles_output.json`.
Kind: D -/
def fixtureRow (time close : String) : JsonDict :=
  [("stck_bsop_date", .str "20260101"), ("stck_cntg_hour", .str time), ("stck_oprc", .str "100"),
    ("stck_hgpr", .str "102"), ("stck_lwpr", .str "99"), ("stck_clpr", .str close),
    ("acml_vol", .str "1000")]

/-- A reply with three such rows, the last one first. Source:
`tests/fixtures/kiwoom/candles_output.json`. Kind: D -/
def fixtureReply : JsonDict :=
  [("output", .list [.dict (fixtureRow "091000" "100"), .dict (fixtureRow "090500" "102"),
    .dict (fixtureRow "090000" "101")])]

/-- A minute of the hour of the rows. Source: `tests/fixtures/kiwoom/candles_output.json`. Kind: D -/
def fixtureTime (minute : Fin 60) : PyDatetime where
  wall := { year := 2026, month := 1, day := 1, hour := 9, minute := minute.val,
            valid := ⟨by decide, by decide, by decide, by decide, minute.isLt, by decide, by decide⟩ }
  utcOffset := some 0

/-- The candle of such a row. Source: `tests/fixtures/kiwoom/candles_output.json`. Kind: D -/
def fixtureCandle (ts : PyDatetime) (close : ℚ) : ParsedCandle where
  «open» := .of 100
  high := .of 102
  low := .of 99
  close := .of close
  ts
  volume := .of 1000

/-- Such a row can be used when its close is above zero. Source:
`tests/fixtures/kiwoom/candles_output.json`. Kind: L -/
theorem pricesUsable_fixtureRow {time close : String} {q : ℚ}
    (hclose : price (fixtureRow time close) closeKeys = .ok (some (.of q))) (hq : 0 < q) :
    PricesUsable (fixtureRow time close) := by
  have hread {keys : List String} {text : String} {x : PyNum}
      (hfound : (fixtureRow time close).firstNonEmpty keys = some (.str text))
      (hparsed : (parsePrice (some (.str text))).toOption = some (some x)) :
      price (fixtureRow time close) keys = .ok (some x) := by
    unfold price
    rw [hfound]
    exact eq_ok_of_toOption hparsed
  have hopen : price _ openKeys = .ok (some (.of 100)) := hread rfl (by decide +kernel)
  have hhigh : price _ highKeys = .ok (some (.of 102)) := hread rfl (by decide +kernel)
  have hlow : price _ lowKeys = .ok (some (.of 99)) := hread rfl (by decide +kernel)
  exact ⟨⟨_, hopen, 100, by norm_num, rfl⟩, ⟨_, hclose, q, hq, rfl⟩,
    ⟨_, hhigh, Or.inr ⟨102, by norm_num, rfl⟩⟩, ⟨_, hlow, Or.inr ⟨99, by norm_num, rfl⟩⟩⟩

/-- The two rows after the first make sane candles. Source:
`tests/fixtures/kiwoom/candles_output.json`. Kind: P -/
theorem saneBars_iff_fixture :
    SaneBars plainReading (some (fixtureTime 0)) (fixtureReply.firstList rowsKeys)
      [fixtureCandle (fixtureTime 5) 102, fixtureCandle (fixtureTime 10) 100] := by
  have h : fetchCandlesIncrementalJson plainReading "20260101" (fun _ => .ok fixtureReply) "005930"
      "5m" (some (fixtureTime 0)) =
        .ok [fixtureCandle (fixtureTime 5) 102, fixtureCandle (fixtureTime 10) 100] :=
    eq_ok_of_toOption (by decide +kernel)
  refine (saneBars_iff h).mpr ⟨by decide +kernel, fun row hrow hfresh => ?_⟩
  have hold : freshInstant plainReading (some (fixtureTime 0)) (fixtureRow "090000" "101") = none := by
    decide +kernel
  have hrows : fixtureReply.firstList rowsKeys =
      [fixtureRow "091000" "100", fixtureRow "090500" "102", fixtureRow "090000" "101"] := rfl
  rw [hrows, List.mem_cons, List.mem_pair] at hrow
  rcases hrow with rfl | rfl | rfl
  · exact pricesUsable_fixtureRow (eq_ok_of_toOption (by decide +kernel)) (q := 100) (by norm_num)
  · exact pricesUsable_fixtureRow (eq_ok_of_toOption (by decide +kernel)) (q := 102) (by norm_num)
  · exact absurd hold hfresh

/-- A reply with a row that has a time and no prices. Source: `app/integrations/kiwoom/schema.py`
`first_non_empty`. Kind: D -/
def priceless : JsonDict :=
  [("output", .list [.dict [("stck_bsop_date", .str "20260101"), ("stck_cntg_hour", .str "090000")]])]

/-- A candle of zeros is made of a row without prices. Source:
`app/integrations/kiwoom/market_data.py` `KiwoomMarketDataGateway.fetch_candles_incremental`. Kind: P -/
theorem not_saneBars_priceless :
    ∃ c : ParsedCandle, fetchCandlesIncrementalJson plainReading "20260101"
        (fun _ => .ok priceless) "005930" "5m" none = .ok [c] ∧ c.low = .of 0 ∧
      ¬ SaneBars plainReading none (priceless.firstList rowsKeys) [c] := by
  refine ⟨.ofPrices (.of 0) (.of 0) (.of 0) (.of 0) (.of 0) (fixtureTime 0),
    eq_ok_of_toOption (by decide +kernel), by decide +kernel, fun h => ?_⟩
  obtain ⟨o, hi, lo, cl, -, -, hlow, -, hpos, -⟩ := h.sane _ List.mem_cons_self
  obtain rfl : 0 = lo := PyNum.of.inj hlow
  exact lt_irrefl 0 hpos

end list

/-! ## Rows whose prices are finite -/

section finite

variable {r : RowReading} {kstToday ticker timeframe : String} {since : Option PyDatetime}
  {row : JsonDict} {raw : ChartRow} {raws : List ChartRow} {data : JsonDict}
  {clock : PyDatetime → Time} {ts : PyDatetime}

/-- The number that is read, zero for what is not finite. Source: none: infrastructure. Kind: D -/
def finitePart : PyNum → ℚ
  | .of q => q
  | _ => 0

/-- A candle with the rational numbers of its prices and a time that a clock shows.
Source: `app/domain/models.py` `Candle`. Kind: D -/
def toCandle (clock : PyDatetime → Time) (c : ParsedCandle) : Candle where
  «open» := finitePart c.open
  high := finitePart c.high
  low := finitePart c.low
  close := finitePart c.close
  ts := clock c.ts
  volume := finitePart c.volume

/-- **A `ChartRow` is what is read of a row of the reply.**
Source: `app/integrations/kiwoom/market_data.py`
`KiwoomMarketDataGateway.fetch_candles_incremental`. Kind: D -/
structure ReadAs (r : RowReading) (clock : PyDatetime → Time) (row : JsonDict) (raw : ChartRow) :
    Prop where
  time : (parseRowTime r row).map clock = raw.time
  openPrice : price row openKeys = .ok (raw.openPrice.map .of)
  highPrice : price row highKeys = .ok (raw.highPrice.map .of)
  lowPrice : price row lowKeys = .ok (raw.lowPrice.map .of)
  closePrice : price row closeKeys = .ok (raw.closePrice.map .of)
  volume : parseFloat (row.firstNonEmpty volumeKeys) = .ok (raw.volume.map .of)

/-- The candle of a row that is read as a `ChartRow`. Source:
`app/integrations/kiwoom/market_data.py` `KiwoomMarketDataGateway.fetch_candles_incremental`. Kind: L -/
theorem candleOf_readAs (ts : PyDatetime) (h : ReadAs r clock row raw) :
    ∃ c, candleOf row ts = .ok c ∧ toCandle clock c = raw.candle (clock ts) := by
  refine ⟨_, by
    unfold candleOf
    rw [h.openPrice, h.highPrice, h.lowPrice, h.closePrice, h.volume]
    rfl, ?_⟩
  simp [toCandle, ParsedCandle.ofPrices, ChartRow.candle, finitePart]

/-- A clock that shows the order of some times. Source: none: infrastructure. Kind: D -/
def KeepsOrder (clock : PyDatetime → Time) (times : Set PyDatetime) : Prop :=
  ∀ a ∈ times, ∀ b ∈ times, a.instant 0 ≤ b.instant 0 ↔ clock a ≤ clock b

/-- The times of the rows and `since`. Source: `app/integrations/kiwoom/market_data.py`
`KiwoomMarketDataGateway.fetch_candles_incremental`. Kind: D -/
def timesOf (r : RowReading) (since : Option PyDatetime) (rows : List JsonDict) : Set PyDatetime :=
  {ts | since = some ts ∨ ∃ row ∈ rows, parseRowTime r row = some ts}

/-- What becomes of a row that is read as a `ChartRow`. Source:
`app/integrations/kiwoom/market_data.py` `KiwoomMarketDataGateway.fetch_candles_incremental`. Kind: L -/
theorem candleAfter_readAs {rows : List JsonDict} (hrow : row ∈ rows)
    (haware : ∀ last ∈ since, last.utcOffset.isSome = true)
    (hclock : KeepsOrder clock (timesOf r since rows)) (h : ReadAs r clock row raw) :
    ∃ found, candleAfter r since row = .ok found ∧
      found.map (toCandle clock) = freshCandle (since.map clock) raw ∧
      ∀ c ∈ found, c.ts ∈ timesOf r since rows := by
  unfold candleAfter freshCandle
  rw [← h.time]
  cases htime : parseRowTime r row with
  | none => exact ⟨none, rfl, rfl, by simp⟩
  | some ts =>
      have hmem : ts ∈ timesOf r since rows := Or.inr ⟨row, hrow, htime⟩
      have hold : ts.notAfter since = .ok ((since.map clock).any fun last => clock ts ≤ last) := by
        cases since with
        | none => rfl
        | some last =>
            have hzone : ts.utcOffset.isSome = last.utcOffset.isSome := by
              rw [isSome_utcOffset_of_parseRowTime r htime, haware last rfl]
            unfold PyDatetime.notAfter PyDatetime.le?
            dsimp only
            rw [if_pos hzone, Option.map_some, Option.any_some]
            exact congrArg Except.ok (decide_eq_decide.mpr (hclock ts hmem last (Or.inl rfl)))
      dsimp only
      rw [hold, Option.map_some, Option.bind_some]
      cases hany : (since.map clock).any fun last => clock ts ≤ last with
      | true => exact ⟨none, rfl, rfl, by simp⟩
      | false =>
          obtain ⟨c, hcandle, hc⟩ := candleOf_readAs ts h
          refine ⟨some c, ?_, congrArg some hc, ?_⟩
          · show (candleOf row ts).map some = .ok (some c)
            rw [hcandle]
            rfl
          · rintro c' ⟨⟩
            rw [ts_candleOf hcandle]
            exact hmem

/-- What becomes of some of the rows, in their order. Source: `app/integrations/kiwoom/market_data.py`
`KiwoomMarketDataGateway.fetch_candles_incremental`. Kind: L -/
theorem mapM_candleAfter_readAs {all rows : List JsonDict} (hsub : ∀ row ∈ rows, row ∈ all)
    (haware : ∀ last ∈ since, last.utcOffset.isSome = true)
    (hclock : KeepsOrder clock (timesOf r since all)) (h : List.Forall₂ (ReadAs r clock) rows raws) :
    ∃ found, rows.mapM (candleAfter r since) = .ok found ∧
      found.reduceOption.map (toCandle clock) = raws.filterMap (freshCandle (since.map clock)) ∧
      ∀ c ∈ found.reduceOption, c.ts ∈ timesOf r since all := by
  induction h with
  | nil => exact ⟨[], rfl, rfl, by simp⟩
  | cons hrow _ ih =>
      obtain ⟨found, hfound, hmap, htimes⟩ := ih fun row hrow => hsub row (List.mem_cons_of_mem _ hrow)
      obtain ⟨c, hc, hcmap, hctime⟩ :=
        candleAfter_readAs (hsub _ List.mem_cons_self) haware hclock hrow
      refine ⟨c :: found, ?_, ?_, ?_⟩
      · rw [List.mapM_cons, hc, hfound]
        rfl
      · rw [List.filterMap_cons, ← hcmap, ← hmap]
        cases c with
        | none => rw [List.reduceOption_cons_of_none, Option.map_none]
        | some c => rw [List.reduceOption_cons_of_some, Option.map_some, List.map_cons]
      · cases c with
        | none => rwa [List.reduceOption_cons_of_none]
        | some c =>
            rw [List.reduceOption_cons_of_some, List.forall_mem_cons]
            exact ⟨hctime c rfl, htimes⟩

/-- **On rows with finite prices the candles are those of the rows that are read.**
Source: `app/integrations/kiwoom/market_data.py`
`KiwoomMarketDataGateway.fetch_candles_incremental`. Kind: P -/
theorem fetchCandlesIncrementalJson_readAs {request : ChartRequest}
    (hrequest : buildChartRequest kstToday ticker timeframe since = .ok request)
    (haware : ∀ last ∈ since, last.utcOffset.isSome = true)
    (hclock : KeepsOrder clock (timesOf r since (data.firstList rowsKeys)))
    (hrows : List.Forall₂ (ReadAs r clock) (data.firstList rowsKeys) raws) :
    ∃ candles, fetchCandlesIncrementalJson r kstToday (fun _ => .ok data) ticker timeframe since =
        .ok candles ∧
      candles.map (toCandle clock) = fetchCandlesIncremental raws (since.map clock) := by
  obtain ⟨found, hfound, hmap, htimes⟩ :=
    mapM_candleAfter_readAs (fun row hrow => hrow) haware hclock hrows
  refine ⟨sortOn (fun c => c.ts.instant 0) found.reduceOption, ?_, ?_⟩
  · unfold fetchCandlesIncrementalJson
    rw [hrequest]
    show (List.mapM (candleAfter r since) (data.firstList rowsKeys) >>= _) = _
    rw [hfound]
    rfl
  · unfold sortOn fetchCandlesIncremental
    rw [← hmap]
    apply List.map_insertionSort
    exact fun a ha b hb => hclock _ (htimes a ha) _ (htimes b hb)

end finite

end KiwoomMarketDataGateway

end HaruTrade
