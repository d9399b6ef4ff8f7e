import HaruTrade.Core.TimeSync

/-!
# The rows of a chart reply

What `schema.py` and `market_data.py` read of a decoded JSON reply, over every value that a field may
hold: the first field that is present, the first list of rows, numbers, prices and times.

`parseRowTime` reads the time of a row. It tries one field with a date and a time first, and `dt` is
among those as well as among the fields with a date alone.

* `SplitRow` — a row with its date and its time in two fields.
* `parseRowTime_split` — what is read of such a row: midnight of its date when the date is a text under
  `dt`, its date and time otherwise.
* `parseRowTime_split_iff` — hence when its date and time are read.
-/

namespace HaruTrade

/-! ## Values of decoded JSON -/

/-- A value that `json.loads` returns. The fields of an object are a list in which `lookup` finds the
value of a key. Source: `app/integrations/kiwoom/client.py` `UrllibJsonTransport.post`. Kind: D -/
inductive JsonValue where
  | null
  | bool (b : Bool)
  | int (n : ℤ)
  | float (x : PyNum)
  | str (s : String)
  | list (items : List JsonValue)
  | dict (fields : List (String × JsonValue))

/-- A JSON object. Source: `app/integrations/kiwoom/schema.py` `first_non_empty`. Kind: D -/
abbrev JsonDict := List (String × JsonValue)

namespace JsonValue

/-- Source: `app/integrations/kiwoom/schema.py` `_present`. Kind: D -/
def present : JsonValue → Bool
  | .null => false
  | .str s => PyText.strip s ≠ ""
  | _ => true

/-- `isinstance(value, dict)`. Source: `app/integrations/kiwoom/schema.py` `first_list`. Kind: D -/
def dict? : JsonValue → Option JsonDict
  | .dict fields => some fields
  | _ => none

/-- `isinstance(value, list)`, with the rows of the list.
Source: `app/integrations/kiwoom/schema.py` `first_list`. Kind: D -/
def rows? : JsonValue → Option (List JsonDict)
  | .list items => some (items.filterMap dict?)
  | _ => none

/-- `isinstance(value, str)`. Source: `app/integrations/kiwoom/schema.py` `parse_dt_any`. Kind: D -/
def text? : JsonValue → Option String
  | .str s => some s
  | _ => none

/-- `f"{value}"` of a text or an integer. Source: `app/integrations/kiwoom/schema.py`
`build_datetime`. Kind: D -/
def plain? : JsonValue → Option String
  | .str s => some s
  | .int n => some (toString n)
  | _ => none

end JsonValue

/-! ## Finding fields -/

namespace JsonDict

/-- Where a reply may nest its fields. Source: `app/integrations/kiwoom/schema.py`
`first_non_empty`, `first_list`. Kind: D -/
def containers : List String := ["output", "output1", "output2", "data", "result"]

/-- The value of the first of some keys that is present. Source:
`app/integrations/kiwoom/schema.py` `first_non_empty`, with `deep=False`. Kind: D -/
def firstOf (data : JsonDict) (keys : List String) : Option JsonValue :=
  keys.findSome? fun key => (data.lookup key).filter JsonValue.present

/-- Source: `app/integrations/kiwoom/schema.py` `first_non_empty`. Kind: D -/
def firstNonEmpty (data : JsonDict) (keys : List String) : Option JsonValue :=
  (firstOf data keys).or <| containers.findSome? fun container =>
    ((data.lookup container).bind JsonValue.dict?).bind fun nested => firstOf nested keys

/-- The rows under the first of some keys that holds a list.
Source: `app/integrations/kiwoom/schema.py` `first_list`. Kind: D -/
def listOf (data : JsonDict) (keys : List String) : Option (List JsonDict) :=
  keys.findSome? fun key => (data.lookup key).bind JsonValue.rows?

/-- Source: `app/integrations/kiwoom/schema.py` `first_list`. Kind: D -/
def firstList (data : JsonDict) (keys : List String) : List JsonDict :=
  ((listOf data keys).or <| containers.findSome? fun container =>
    ((data.lookup container).bind JsonValue.dict?).bind fun nested => listOf nested keys).getD []

variable {data : JsonDict} {keys : List String} {key : String} {value : JsonValue}

theorem firstOf_eq_none (h : ∀ key ∈ keys, (data.lookup key).filter JsonValue.present = none) :
    firstOf data keys = none := by
  unfold firstOf
  rw [List.findSome?_eq_none_iff]
  exact h

/-- A key that is present when no other is gives the value.
Source: `app/integrations/kiwoom/schema.py` `first_non_empty`. Kind: L -/
theorem firstOf_eq_some (hkey : key ∈ keys) (hvalue : data.lookup key = some value)
    (hpresent : value.present = true)
    (hother : ∀ other ∈ keys, other ≠ key →
      (data.lookup other).filter JsonValue.present = none) :
    firstOf data keys = some value := by
  have hself : (data.lookup key).filter JsonValue.present = some value := by
    rw [hvalue, Option.filter_some, if_pos hpresent]
  unfold firstOf
  induction keys with
  | nil => exact absurd hkey List.not_mem_nil
  | cons first keys ih =>
      rw [List.findSome?_cons]
      by_cases hfirst : first = key
      · rw [hfirst, hself]
      · rw [hother first List.mem_cons_self hfirst]
        refine ih ?_ fun other hmem => hother other (List.mem_cons_of_mem first hmem)
        rcases List.mem_cons.mp hkey with rfl | hkey
        · exact absurd rfl hfirst
        · exact hkey

end JsonDict

/-! ## Numbers and prices -/

/-- `parse_float`, which fails on an integer that no float is near to.
Source: `app/integrations/kiwoom/schema.py` `parse_float`. Kind: D -/
def parseFloat (value : Option JsonValue) : Except Exn (Option PyNum) :=
  match value with
  | some (.bool b) => .ok (some (.of (if b then 1 else 0)))
  | some (.int n) =>
    match PyNum.binary64 n with
    | .inf _ => .error (.other "int too large to convert to float")
    | x => .ok (some x)
  | some (.float x) => .ok (some x)
  | some (.str s) =>
    let text := PyText.strip (String.ofList (s.toList.filter (· ≠ ',')))
    if text = "" then .ok none else .ok (PyNum.ofFloatText text).toOption
  | _ => .ok none

/-- Source: `app/integrations/kiwoom/schema.py` `parse_price`. Kind: D -/
def parsePrice (value : Option JsonValue) : Except Exn (Option PyNum) :=
  (parseFloat value).map (Option.map PyNum.abs)

/-! ## The time of a row -/

/-- What the time of a row depends on besides the row: `datetime.fromisoformat` of the texts that
`fromisoformat` leaves open, the text of a value that is no text and no integer, and the `%Y%m%d` of
`datetime.now(timezone.utc)`. Source: `app/integrations/kiwoom/schema.py` `parse_dt_any`,
`build_datetime`. Kind: D -/
structure RowReading where
  extended : String → Option PyDatetime
  format : JsonValue → String
  today : List Char

namespace KiwoomMarketDataGateway

/-- The fields that may hold a date and a time. Source: `app/integrations/kiwoom/market_data.py`
`KiwoomMarketDataGateway._parse_row_time`. Kind: D -/
def combinedKeys : List String := ["candle_time", "datetime", "timestamp", "cntr_tm", "dt"]

/-- The fields that may hold a date. Source: `app/integrations/kiwoom/market_data.py`
`KiwoomMarketDataGateway._parse_row_time`. Kind: D -/
def dateKeys : List String := ["stck_bsop_date", "date", "dt"]

/-- The fields that may hold a time of day. Source: `app/integrations/kiwoom/market_data.py`
`KiwoomMarketDataGateway._parse_row_time`. Kind: D -/
def timeKeys : List String := ["stck_cntg_hour", "time", "tm"]

variable (r : RowReading)

/-- A field as `build_datetime` writes it into a text. Source:
`app/integrations/kiwoom/schema.py` `build_datetime`. Kind: D -/
def partText (value : JsonValue) : String := value.plain?.getD (r.format value)

/-- **The time of a row**, when there is one. Source: `app/integrations/kiwoom/market_data.py`
`KiwoomMarketDataGateway._parse_row_time`. Kind: D -/
def parseRowTime (row : JsonDict) : Option PyDatetime :=
  match (row.firstOf combinedKeys).bind fun raw => parseDtAny r.extended raw.text? with
  | some parsed => some parsed
  | none =>
    buildDatetime r.today ((row.firstOf dateKeys).map (partText r))
      ((row.firstOf timeKeys).map (partText r))

/-- The time of a row has a time zone. Source: `app/integrations/kiwoom/market_data.py`
`KiwoomMarketDataGateway._parse_row_time`. Kind: L -/
theorem isSome_utcOffset_of_parseRowTime {row : JsonDict} {ts : PyDatetime}
    (h : parseRowTime r row = some ts) : ts.utcOffset.isSome = true := by
  unfold parseRowTime at h
  cases hraw : (row.firstOf combinedKeys).bind fun raw => parseDtAny r.extended raw.text? with
  | some parsed =>
      rw [hraw] at h
      obtain rfl := Option.some.inj h
      obtain ⟨raw, -, hparsed⟩ := Option.bind_eq_some_iff.mp hraw
      exact isSome_utcOffset_of_parseDtAny hparsed
  | none =>
      rw [hraw] at h
      exact isSome_utcOffset_of_buildDatetime h

/-! ## A date and a time in two fields -/

/-- **A row with its date `YYYYMMDD` and its time `HHMMSS` in two fields**, as texts or as integers,
and nothing in the other fields that may hold a date or a time. Source:
`tests/fixtures/kiwoom/candles_output.json`. Kind: D -/
structure SplitRow (row : JsonDict) (dateKey timeKey : String) (d t : DateTime) : Prop where
  dateKey_mem : dateKey ∈ dateKeys
  timeKey_mem : timeKey ∈ timeKeys
  date : (row.lookup dateKey).bind JsonValue.plain? = some (String.ofList d.compactDate)
  time : (row.lookup timeKey).bind JsonValue.plain? = some (String.ofList t.compactTime)
  other : ∀ key ∈ combinedKeys ++ dateKeys ++ timeKeys, key ≠ dateKey → key ≠ timeKey →
    (row.lookup key).filter JsonValue.present = none

/-- A field that shows digits. Source: `app/integrations/kiwoom/schema.py` `_present`,
`build_datetime`. Kind: L -/
theorem exists_of_plain {value : Option JsonValue} {cs : List Char} (hne : cs ≠ [])
    (hdigits : ∀ c ∈ cs, c.isDigit = true)
    (h : value.bind JsonValue.plain? = some (String.ofList cs)) :
    ∃ v, value = some v ∧ v.present = true ∧ partText r v = String.ofList cs := by
  obtain ⟨v, rfl, hv⟩ := Option.bind_eq_some_iff.mp h
  refine ⟨v, rfl, ?_, by rw [partText, hv, Option.getD_some]⟩
  cases v with
  | str s =>
      obtain rfl : s = String.ofList cs := Option.some.inj hv
      rw [JsonValue.present, strip_digits hdigits]
      simpa using hne
  | int n => rfl
  | _ => exact absurd hv (by simp [JsonValue.plain?])

section splitRow

variable {r : RowReading} {row : JsonDict} {dateKey timeKey : String} {d t : DateTime}

theorem timeKey_ne {key : String} (htime : timeKey ∈ timeKeys) (hkey : key ∈ combinedKeys ++ dateKeys) :
    key ≠ timeKey := by
  have hall : ∀ a ∈ combinedKeys ++ dateKeys, ∀ b ∈ timeKeys, a ≠ b := by decide
  exact hall key hkey timeKey htime

/-- The date of the row is found among the fields that may hold one. Source:
`app/integrations/kiwoom/market_data.py` `KiwoomMarketDataGateway._parse_row_time`. Kind: L -/
theorem SplitRow.exists_date (r : RowReading) (h : SplitRow row dateKey timeKey d t) :
    ∃ dv, row.lookup dateKey = some dv ∧ dv.present = true ∧ row.firstOf dateKeys = some dv ∧
      partText r dv = String.ofList d.compactDate := by
  have hne : d.compactDate ≠ [] := List.ne_nil_of_length_pos (by rw [d.length_compactDate]; omega)
  obtain ⟨dv, hdv, hpresent, htext⟩ :=
    exists_of_plain r hne (fun c => d.isDigit_of_mem_compactDate) h.date
  refine ⟨dv, hdv, hpresent, ?_, htext⟩
  apply JsonDict.firstOf_eq_some h.dateKey_mem hdv hpresent
  intro key hkey hne
  have hmem : key ∈ combinedKeys ++ dateKeys := List.mem_append_right _ hkey
  exact h.other key (List.mem_append_left _ hmem) hne (timeKey_ne h.timeKey_mem hmem)

/-- The time of the row is found among the fields that may hold one. Source:
`app/integrations/kiwoom/market_data.py` `KiwoomMarketDataGateway._parse_row_time`. Kind: L -/
theorem SplitRow.exists_time (r : RowReading) (h : SplitRow row dateKey timeKey d t) :
    ∃ tv, row.firstOf timeKeys = some tv ∧ partText r tv = String.ofList t.compactTime := by
  have hne : t.compactTime ≠ [] := List.ne_nil_of_length_pos (by rw [t.length_compactTime]; omega)
  obtain ⟨tv, htv, hpresent, htext⟩ :=
    exists_of_plain r hne (fun c => t.isDigit_of_mem_compactTime) h.time
  refine ⟨tv, ?_, htext⟩
  apply JsonDict.firstOf_eq_some h.timeKey_mem htv hpresent
  intro key hkey hne
  apply h.other key (List.mem_append_right _ hkey) _ hne
  exact (timeKey_ne hkey (List.mem_append_right _ h.dateKey_mem)).symm

/-- Nothing but the date is in the fields that may hold both. Source:
`app/integrations/kiwoom/market_data.py` `KiwoomMarketDataGateway._parse_row_time`. Kind: L -/
theorem SplitRow.combined (h : SplitRow row dateKey timeKey d t) :
    ∀ key ∈ combinedKeys, key ≠ dateKey → (row.lookup key).filter JsonValue.present = none := by
  intro key hkey hne
  have hmem : key ∈ combinedKeys ++ dateKeys := List.mem_append_left _ hkey
  exact h.other key (List.mem_append_left _ hmem) hne (timeKey_ne h.timeKey_mem hmem)

/-- **What is read of a row with its date and its time in two fields.**
Source: `app/integrations/kiwoom/market_data.py` `KiwoomMarketDataGateway._parse_row_time`. Kind: L -/
theorem parseRowTime_split (h : SplitRow row dateKey timeKey d t) :
    parseRowTime r row =
      if dateKey = "dt" ∧ ((row.lookup dateKey).bind JsonValue.text?).isSome then
        some ⟨d.midnight, some 0⟩
      else some ⟨d.withTime t, some 0⟩ := by
  obtain ⟨dv, hdv, hpresent, hdate, hdtext⟩ := h.exists_date r
  obtain ⟨tv, htime, httext⟩ := h.exists_time r
  have hbuild : buildDatetime r.today ((row.firstOf dateKeys).map (partText r))
      ((row.firstOf timeKeys).map (partText r)) = some ⟨d.withTime t, some 0⟩ := by
    rw [hdate, htime, Option.map_some, Option.map_some, hdtext, httext, buildDatetime_compact]
  unfold parseRowTime
  by_cases hdt : dateKey = "dt"
  · -- the date is found by the branch for a date and a time in one field
    have hfirst : row.firstOf combinedKeys = some dv :=
      JsonDict.firstOf_eq_some (hdt ▸ by decide) hdv hpresent h.combined
    have hplain : dv.plain? = some (String.ofList d.compactDate) := by
      simpa [hdv] using h.date
    rw [hfirst, Option.bind_some, hbuild, hdv, Option.bind_some]
    cases dv with
    | str s =>
        obtain rfl : s = String.ofList d.compactDate := Option.some.inj hplain
        rw [if_pos ⟨hdt, rfl⟩, JsonValue.text?, parseDtAny_compactDate]
    | _ =>
        rw [if_neg fun hand => Bool.false_ne_true hand.2]
        rfl
  · have hfirst : row.firstOf combinedKeys = none := by
      apply JsonDict.firstOf_eq_none
      intro key hkey
      have hboth : ∀ key ∈ combinedKeys, key ∈ dateKeys → key = "dt" := by decide
      apply h.combined key hkey
      rintro rfl
      exact hdt (hboth key hkey h.dateKey_mem)
    rw [hfirst, if_neg fun hand => hdt hand.1]
    exact hbuild

/-- **When the date and the time of such a row are read**: exactly when the date does not stand as a
text under `dt`, which is tried for a date and a time first, or the time is midnight.
Source: `app/integrations/kiwoom/market_data.py` `KiwoomMarketDataGateway._parse_row_time`. Kind: P -/
theorem parseRowTime_split_iff (h : SplitRow row dateKey timeKey d t) :
    parseRowTime r row = some ⟨d.withTime t, some 0⟩ ↔
      dateKey ≠ "dt" ∨ (row.lookup dateKey).bind JsonValue.text? = none ∨ t.secondOfDay = 0 := by
  rw [parseRowTime_split h]
  split_ifs with hcond
  · obtain ⟨hdt, htext⟩ := hcond
    constructor
    · intro hread
      have hmidnight : d.midnight = d.withTime t := congrArg PyDatetime.wall (Option.some.inj hread)
      exact Or.inr (Or.inr ((d.withTime_eq_midnight_iff t).mp hmidnight.symm))
    · rintro (hne | hnone | hzero)
      · exact absurd hdt hne
      · rw [hnone] at htext
        exact absurd htext Bool.false_ne_true
      · rw [(d.withTime_eq_midnight_iff t).mpr hzero]
  · refine iff_of_true rfl ?_
    rcases not_and_or.mp hcond with hne | hnone
    · exact Or.inl hne
    · exact Or.inr (Or.inl (Option.not_isSome_iff_eq_none.mp hnone))

end splitRow

/-- A reading without particular texts. Source: none: infrastructure. Kind: D -/
def plainReading : RowReading where
  extended := fun _ => none
  format := fun _ => ""
  today := "20260101".toList

/-- Five past ten on the second of February 2026. Source:
`tests/test_kiwoom_market_data_phase11.py`. Kind: D -/
def fivePastTen : DateTime where
  year := 2026
  month := 2
  day := 2
  hour := 10
  minute := 5
  valid := by decide

/-- A row with that date and time in two fields. Source: `tests/fixtures/kiwoom/candles_output.json`.
Kind: D -/
def splitRowAt (dateKey timeKey : String) : JsonDict :=
  [(dateKey, .str "20260202"), (timeKey, .str "100500")]

/-- A row of the fixtures is read with its time. Source: `tests/fixtures/kiwoom/candles_output.json`.
Kind: P -/
theorem parseRowTime_split_iff_fixture :
    parseRowTime plainReading (splitRowAt "stck_bsop_date" "stck_cntg_hour") =
      some ⟨fivePastTen.withTime fivePastTen, some 0⟩ := by
  have h : SplitRow (splitRowAt "stck_bsop_date" "stck_cntg_hour") "stck_bsop_date" "stck_cntg_hour"
      fivePastTen fivePastTen :=
    ⟨by decide, by decide, by decide +kernel, by decide +kernel, by decide +kernel⟩
  exact (parseRowTime_split_iff h).mpr (Or.inl (by decide))

/-- Under `dt` the same date loses its time. Source: `app/integrations/kiwoom/market_data.py`
`KiwoomMarketDataGateway._parse_row_time`. Kind: P -/
theorem not_parseRowTime_dt :
    SplitRow (splitRowAt "dt" "time") "dt" "time" fivePastTen fivePastTen ∧
      parseRowTime plainReading (splitRowAt "dt" "time") ≠
        some ⟨fivePastTen.withTime fivePastTen, some 0⟩ :=
  ⟨⟨by decide, by decide, by decide +kernel, by decide +kernel, by decide +kernel⟩,
    by decide +kernel⟩

end KiwoomMarketDataGateway

end HaruTrade
