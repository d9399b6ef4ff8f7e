import HaruTrade.Data.Ordinal
import HaruTrade.Integrations.ChartRows

/-!
# The request for a chart

`buildChartRequest` asks for the chart up to a date, which is the date in Seoul of the last stored
candle.

* `fmtDate_utc_iff` — the date of a time that is marked as UTC is its date in Seoul only before
  three in the afternoon.
* `baseDt_minuteRow_iff` — the broker's times in Seoul are marked as UTC when they are read, so that
  a request that follows a row of the afternoon asks for the day after.
-/

namespace HaruTrade

/-- The wall-clock time of `dt.astimezone(zone)`, which fails outside of the calendar; the time in UTC
has to be in the calendar as well. Source: `app/integrations/kiwoom/market_data.py`
`KiwoomMarketDataGateway._fmt_date`. Kind: D -/
def PyDatetime.inZone (dt : PyDatetime) (zone : ℤ) : Except Exn DateTime :=
  let wall? := (DateTime.ofMicros? (dt.instant zone)).bind fun utc =>
    DateTime.ofMicros? (astimezone utc.toMicros zone)
  match wall? with
  | some wall => .ok wall
  | none => .error (.other "date value out of range")

/-- The wall-clock time of a `datetime` in a time zone is that of its instant.
Source: `app/integrations/kiwoom/market_data.py` `KiwoomMarketDataGateway._fmt_date`. Kind: L -/
theorem PyDatetime.inZone_eq_ok_iff {dt : PyDatetime} {zone : ℤ} {wall : DateTime} :
    dt.inZone zone = .ok wall ↔
      ∃ utc, DateTime.ofMicros? (dt.instant zone) = some utc ∧
        DateTime.ofMicros? (astimezone utc.toMicros zone) = some wall := by
  rw [← Option.bind_eq_some_iff]
  unfold inZone
  generalize (DateTime.ofMicros? (dt.instant zone)).bind
    (fun utc => DateTime.ofMicros? (astimezone utc.toMicros zone)) = wall?
  cases wall? with
  | none => exact ⟨fun h => (nomatch h), fun h => (nomatch h)⟩
  | some found =>
      exact ⟨fun h => congrArg some (Except.ok.inj h),
        fun h => congrArg Except.ok (Option.some.inj h)⟩

/-- The path, the API and the payload of a chart request. Source:
`app/integrations/kiwoom/market_data.py` `KiwoomMarketDataGateway._build_chart_request`. Kind: D -/
structure ChartRequest where
  path : String := "/api/dostk/chart"
  apiId : String
  stkCd : String
  ticScope : Option String := none
  baseDt : String
  updStkpcTp : String := "1"
  deriving DecidableEq

namespace KiwoomMarketDataGateway

/-- Source: `app/integrations/kiwoom/market_data.py` `KiwoomMarketDataGateway._with_suffix`.
Kind: D -/
def withSuffix (ticker : String) : String := ticker ++ "_AL"

/-- The timeframes in minutes. Source: `app/integrations/kiwoom/market_data.py`
`KiwoomMarketDataGateway._build_chart_request`. Kind: D -/
def minuteMap : List (String × String) := [("3m", "3"), ("5m", "5"), ("15m", "15"), ("60m", "60")]

/-- The timeframes that can be asked for. Source: `app/integrations/kiwoom/market_data.py`
`KiwoomMarketDataGateway._build_chart_request`. Kind: D -/
def chartTimeframes : List String := "1d" :: minuteMap.map Prod.fst

variable (kstToday : String)

/-- The date in Seoul of a time; `kstToday` is the `%Y%m%d` of the clock in Seoul.
Source: `app/integrations/kiwoom/market_data.py` `KiwoomMarketDataGateway._fmt_date`. Kind: D -/
def fmtDate : Option PyDatetime → Except Exn String
  | none => .ok kstToday
  | some value => (value.orUtc.inZone seoulOffset).map fun wall => String.ofList wall.compactDate

/-- **The request for a chart.** Source: `app/integrations/kiwoom/market_data.py`
`KiwoomMarketDataGateway._build_chart_request`. Kind: D -/
def buildChartRequest (ticker timeframe : String) (since : Option PyDatetime) :
    Except Exn ChartRequest :=
  let suffix := withSuffix ticker
  if timeframe = "1d" then
    (fmtDate kstToday since).map fun baseDt => { apiId := "ka10081", stkCd := suffix, baseDt }
  else
    match minuteMap.lookup timeframe with
    | none => .error (.lookup ("unsupported timeframe: " ++ timeframe))
    | some scope =>
      (fmtDate kstToday since).map fun baseDt =>
        { apiId := "ka10080", stkCd := suffix, ticScope := some scope, baseDt }

variable {kstToday} {r : RowReading} {row : JsonDict} {w : DateTime}

/-! ## Dates in Seoul -/

/-- A time nine hours later on the same day. Source: none: infrastructure. Kind: L -/
theorem exists_nine_hours_later (h : w.hour < 15) :
    ∃ later : DateTime, later.toMicros = astimezone w.toMicros seoulOffset ∧
      later.compactDate = w.compactDate := by
  obtain ⟨hy, hm, hd, hh, hmin, hs, hmicro⟩ := w.valid
  refine ⟨{ w with hour := w.hour + 9, valid := ⟨hy, hm, hd, by omega, hmin, hs, hmicro⟩ }, ?_, rfl⟩
  unfold DateTime.toMicros astimezone seoulOffset DateTime.secondOfDay DateTime.toOrdinal
  dsimp only
  omega

/-- From three in the afternoon on it is another day nine hours later.
Source: none: infrastructure. Kind: L -/
theorem compactDate_ne_of_nine_hours_later {later : DateTime} (h : 15 ≤ w.hour)
    (hlater : later.toMicros = astimezone w.toMicros seoulOffset) :
    later.compactDate ≠ w.compactDate := by
  intro hdate
  have hord : later.toOrdinal = w.toOrdinal := DateTime.toOrdinal_eq_of_compactDate hdate
  have hlt := later.secondOfDay_lt
  have hafternoon : 15 * 3600 ≤ w.secondOfDay := by
    unfold DateTime.secondOfDay
    omega
  have hsame := later.toMicros_div
  have hbefore := w.toMicros_div
  rw [hlater, hord] at hsame
  unfold astimezone seoulOffset at hsame
  omega

/-- The time in Seoul of a time marked as UTC. Source: `app/integrations/kiwoom/market_data.py`
`KiwoomMarketDataGateway._fmt_date`. Kind: L -/
theorem inZone_utc_eq_ok_iff {wall : DateTime} :
    (PyDatetime.orUtc ⟨w, some 0⟩).inZone seoulOffset = .ok wall ↔
      DateTime.ofMicros? (astimezone w.toMicros seoulOffset) = some wall := by
  have hinstant : (PyDatetime.orUtc ⟨w, some 0⟩).instant seoulOffset = w.toMicros := by
    unfold PyDatetime.instant PyDatetime.orUtc
    dsimp only
    rw [Option.getD_some, Option.getD_some, zero_mul, sub_zero]
  rw [PyDatetime.inZone_eq_ok_iff, hinstant, w.ofMicros?_toMicros]
  simp

theorem fmtDate_eq_ok_iff {value : PyDatetime} {text : String} :
    fmtDate kstToday (some value) = .ok text ↔
      ∃ wall, value.orUtc.inZone seoulOffset = .ok wall ∧ String.ofList wall.compactDate = text := by
  unfold fmtDate
  dsimp only
  cases value.orUtc.inZone seoulOffset with
  | error e => simp [Except.map]
  | ok wall => simp [Except.map]

/-- **The date that is asked for after a time marked as UTC** is the date of that time exactly before
three in the afternoon. Source: `app/integrations/kiwoom/market_data.py`
`KiwoomMarketDataGateway._fmt_date`. Kind: L -/
theorem fmtDate_utc_iff :
    fmtDate kstToday (some ⟨w, some 0⟩) = .ok (String.ofList w.compactDate) ↔ w.hour < 15 := by
  rw [fmtDate_eq_ok_iff]
  constructor
  · rintro ⟨wall, hwall, hdate⟩
    by_contra hlate
    exact compactDate_ne_of_nine_hours_later (not_lt.mp hlate)
      (DateTime.toMicros_of_ofMicros? (inZone_utc_eq_ok_iff.mp hwall)) (String.ofList_inj.mp hdate)
  · intro hearly
    obtain ⟨later, hlater, hdate⟩ := exists_nine_hours_later hearly
    refine ⟨later, inZone_utc_eq_ok_iff.mpr ?_, congrArg String.ofList hdate⟩
    rw [← hlater]
    exact later.ofMicros?_toMicros

/-! ## A row and the request that follows it -/

/-- **A row of a minute chart**, dated by the broker with the wall-clock time in Seoul: date and time
stand in two fields, the date not under `dt`, or in one text of fourteen digits.
Source: `tests/fixtures/kiwoom/candles_output.json`, `tests/test_kiwoom_market_data_phase11.py`.
Kind: D -/
inductive MinuteRow (row : JsonDict) (w : DateTime) : Prop where
  | split (dateKey timeKey : String) (h : SplitRow row dateKey timeKey w w) (hkey : dateKey ≠ "dt")
  | combined
    (h : row.firstOf combinedKeys = some (.str (String.ofList (w.compactDate ++ w.compactTime))))

/-- The time of a minute row is read for UTC. Source: `app/integrations/kiwoom/market_data.py`
`KiwoomMarketDataGateway._parse_row_time`. Kind: L -/
theorem parseRowTime_minuteRow (h : MinuteRow row w) :
    parseRowTime r row = some ⟨w.withTime w, some 0⟩ := by
  cases h with
  | split dateKey timeKey h hkey =>
      rw [parseRowTime_split h, if_neg fun hand => hkey hand.1]
  | combined h =>
      unfold parseRowTime
      rw [h, Option.bind_some, JsonValue.text?, parseDtAny_compact]

/-- The date in a request for a chart is that of the time. Source:
`app/integrations/kiwoom/market_data.py` `KiwoomMarketDataGateway._build_chart_request`. Kind: L -/
theorem exists_request_iff {ticker timeframe text : String} {since : Option PyDatetime}
    (htimeframe : timeframe ∈ chartTimeframes) :
    (∃ request, buildChartRequest kstToday ticker timeframe since = .ok request ∧
        request.baseDt = text) ↔ fmtDate kstToday since = .ok text := by
  have hmap : ∀ f : String → ChartRequest, (∀ baseDt, (f baseDt).baseDt = baseDt) →
      ((∃ request, (fmtDate kstToday since).map f = .ok request ∧ request.baseDt = text) ↔
        fmtDate kstToday since = .ok text) := by
    intro f hf
    cases fmtDate kstToday since with
    | error e => simp [Except.map]
    | ok baseDt => simp [Except.map, hf]
  unfold buildChartRequest
  dsimp only
  by_cases hday : timeframe = "1d"
  · rw [if_pos hday]
    exact hmap _ fun _ => rfl
  · rw [if_neg hday]
    have hscope : (minuteMap.lookup timeframe).isSome = true := by
      have hall : ∀ tf ∈ chartTimeframes, tf ≠ "1d" → (minuteMap.lookup tf).isSome = true := by
        decide
      exact hall timeframe htimeframe hday
    cases hlookup : minuteMap.lookup timeframe with
    | none =>
        rw [hlookup] at hscope
        exact absurd hscope Bool.false_ne_true
    | some scope => exact hmap _ fun _ => rfl

/-- **When the next request asks for the date of the row**: exactly when the row is of a time before
three in the afternoon. Source: `app/integrations/kiwoom/market_data.py`
`KiwoomMarketDataGateway._parse_row_time`, `KiwoomMarketDataGateway._fmt_date`. Kind: P -/
theorem baseDt_minuteRow_iff {ticker timeframe : String} (h : MinuteRow row w)
    (htimeframe : timeframe ∈ chartTimeframes) :
    (∃ since, parseRowTime r row = some since ∧
        ∃ request, buildChartRequest kstToday ticker timeframe (some since) = .ok request ∧
          request.baseDt = String.ofList w.compactDate) ↔ w.hour < 15 := by
  have hdate : fmtDate kstToday (some ⟨w.withTime w, some 0⟩) = .ok (String.ofList w.compactDate) ↔
      w.hour < 15 := fmtDate_utc_iff
  rw [parseRowTime_minuteRow h, ← hdate, ← exists_request_iff htimeframe]
  constructor
  · rintro ⟨since, hsince, hrequest⟩
    rw [Option.some.inj hsince]
    exact hrequest
  · exact fun hrequest => ⟨_, rfl, hrequest⟩

/-- After a row of the tests its own date is asked for. Source: `tests/test_kiwoom_market_data_phase11.py`.
Kind: P -/
theorem baseDt_minuteRow_iff_fivePastTen :
    ∃ since, parseRowTime plainReading [("cntr_tm", .str "20260202100500")] = some since ∧
      ∃ request, buildChartRequest "20260203" "005930" "5m" (some since) = .ok request ∧
        request.baseDt = String.ofList fivePastTen.compactDate :=
  (baseDt_minuteRow_iff (.combined rfl) (by decide)).mpr (by decide)

/-- The last minute before the close at half past three, on the last day of 2025.
Source: `app/domain/models.py`. Kind: D -/
def lastMinute : DateTime where
  year := 2025
  month := 12
  day := 31
  hour := 15
  minute := 29
  valid := by decide

/-- After its row the first of January is asked for. Source:
`app/integrations/kiwoom/market_data.py` `KiwoomMarketDataGateway._fmt_date`. Kind: P -/
theorem not_baseDt_lastMinute :
    MinuteRow [("stck_bsop_date", .str "20251231"), ("stck_cntg_hour", .str "152900")] lastMinute ∧
      ((parseRowTime plainReading
          [("stck_bsop_date", .str "20251231"), ("stck_cntg_hour", .str "152900")]).map fun since =>
        ((buildChartRequest "20260101" "005930" "5m" (some since)).map ChartRequest.baseDt).toOption) =
      some (some "20260101") ∧
      String.ofList lastMinute.compactDate = "20251231" :=
  ⟨.split "stck_bsop_date" "stck_cntg_hour"
      ⟨by decide, by decide, by decide +kernel, by decide +kernel, by decide +kernel⟩ (by decide),
    by decide +kernel, by decide +kernel⟩

end KiwoomMarketDataGateway

end HaruTrade
