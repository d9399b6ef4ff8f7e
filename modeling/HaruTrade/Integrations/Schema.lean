import HaruTrade.Data.Calendar
import HaruTrade.Integrations.Kiwoom

/-!
# Dates and times in the broker's replies

`parseDtAny` reads a text that may hold a date and a time, `buildDatetime` one that is given in two
parts. Both take what they read for UTC.

`datetime.fromisoformat` accepts many forms. What it does with six, eight, twelve and fourteen
digits is spelled out here; every other text is left to a parameter `extended`.
-/

namespace HaruTrade

/-- A `datetime`: a wall-clock date and time, and its offset from UTC in seconds when it has a time
zone. Source: `app/integrations/kiwoom/schema.py` `parse_dt_any`. Kind: D -/
structure PyDatetime where
  wall : DateTime
  utcOffset : Option ℤ
  deriving DecidableEq

/-- `dt if dt.tzinfo is not None else dt.replace(tzinfo=timezone.utc)`.
Source: `app/integrations/kiwoom/schema.py` `parse_dt_any`. Kind: D -/
def PyDatetime.orUtc (dt : PyDatetime) : PyDatetime :=
  { dt with utcOffset := some (dt.utcOffset.getD 0) }

variable (extended : String → Option PyDatetime)

/-- Python's `datetime.fromisoformat`: eight digits are a date, and six, twelve or fourteen digits
are refused, the last two because one digit is taken for a separator and an odd number is left for
the time. Source: `app/integrations/kiwoom/schema.py` `parse_dt_any`. Kind: D -/
def fromisoformat (text : String) : Option PyDatetime :=
  if text.toList.all Char.isDigit ∧ text.toList.length ∈ [6, 8, 12, 14] then
    if text.toList.length = 8 then
      (DateTime.ofCompact? (text.toList ++ digits 6 0)).map fun wall => ⟨wall, none⟩
    else none
  else extended text

/-- The digits that `strptime` reads for `%Y%m%d%H%M%S`: a decimal digit of another script may stand
where the format has any digit, which is in the year and behind a first digit that leaves the second
one free. Source: `app/integrations/kiwoom/schema.py` `parse_dt_any`. Kind: D -/
def strptimeDigits (text : List Char) : Option (List Char) :=
  let free := [0, 1, 2, 3] ++ (if text[6]?.any (· ∈ ['1', '2']) then [7] else []) ++
    (if text[8]?.any (· ∈ ['0', '1']) then [9] else []) ++ [11, 13]
  (text.zipIdx).mapM fun (c, i) =>
    if c.isDigit then some c
    else if i ∈ free then (PyText.decimal? c).map Nat.digitChar
    else none

/-- `datetime.strptime(text, "%Y%m%d%H%M%S").replace(tzinfo=timezone.utc)`, with `none` for a
`ValueError`. Source: `app/integrations/kiwoom/schema.py` `parse_dt_any`. Kind: D -/
def strptimeUtc (text : List Char) : Option PyDatetime :=
  (strptimeDigits text).bind fun text => (DateTime.ofCompact? text).map fun wall => ⟨wall, some 0⟩

/-- Pad with zeros on the right, and cut, to fourteen characters.
Source: `app/integrations/kiwoom/schema.py` `parse_dt_any`, `build_datetime`. Kind: D -/
def ljust14 (text : List Char) : List Char :=
  (text ++ List.replicate (14 - text.length) '0').take 14

/-- Source: `app/integrations/kiwoom/schema.py` `parse_dt_any`, on a text or nothing. Kind: D -/
def parseDtAny (value : Option String) : Option PyDatetime :=
  value.bind fun value =>
    let stripped := PyText.strip value
    if stripped = "" then none
    else
      match fromisoformat extended stripped with
      | some dt => some dt.orUtc
      | none =>
        let found := stripped.toList.filter PyText.isDigitChar
        if found.length ∈ [8, 12, 14] then strptimeUtc (ljust14 found) else none

/-- `build_datetime`; `today` is the `%Y%m%d` of `datetime.now(timezone.utc)`.
Source: `app/integrations/kiwoom/schema.py` `build_datetime`. Kind: D -/
def buildDatetime (today : List Char) (datePart timePart : Option String) : Option PyDatetime :=
  if datePart = none ∧ timePart = none then none
  else
    let text := ((datePart.map String.toList).getD today) ++
      ((timePart.map String.toList).getD (digits 6 0))
    strptimeUtc (ljust14 (text.filter PyText.isDigitChar))

/-! ## What is read has a time zone -/

section aware

variable {extended : String → Option PyDatetime} {dt : PyDatetime}

theorem utcOffset_of_strptimeUtc {text : List Char} (h : strptimeUtc text = some dt) :
    dt.utcOffset = some 0 := by
  obtain ⟨cs, -, h⟩ := Option.bind_eq_some_iff.mp h
  obtain ⟨wall, -, rfl⟩ := Option.map_eq_some_iff.mp h
  rfl

/-- Source: `app/integrations/kiwoom/schema.py` `parse_dt_any`. Kind: L -/
theorem isSome_utcOffset_of_parseDtAny {value : Option String}
    (h : parseDtAny extended value = some dt) : dt.utcOffset.isSome = true := by
  obtain ⟨text, -, h⟩ := Option.bind_eq_some_iff.mp h
  dsimp only at h
  cases hiso : fromisoformat extended (PyText.strip text) with
  | some found =>
      rw [hiso] at h
      dsimp only at h
      split_ifs at h
      obtain rfl := Option.some.inj h
      rfl
  | none =>
      rw [hiso] at h
      dsimp only at h
      split_ifs at h
      rw [utcOffset_of_strptimeUtc h, Option.isSome_some]

/-- Source: `app/integrations/kiwoom/schema.py` `build_datetime`. Kind: L -/
theorem isSome_utcOffset_of_buildDatetime {today : List Char} {datePart timePart : Option String}
    (h : buildDatetime today datePart timePart = some dt) : dt.utcOffset.isSome = true := by
  unfold buildDatetime at h
  split_ifs at h
  rw [utcOffset_of_strptimeUtc h, Option.isSome_some]

end aware

/-! ## Texts of digits -/

section digitTexts

variable {extended : String → Option PyDatetime} {cs : List Char}

theorem not_isSpace_of_isDigit {c : Char} (h : c.isDigit = true) : PyText.isSpace c = false := by
  have hrange := toNat_of_isDigit h
  unfold PyText.isSpace
  rw [decide_eq_false_iff_not]
  simp only [List.mem_cons, List.not_mem_nil, or_false]
  omega

theorem strip_digits (h : ∀ c ∈ cs, c.isDigit = true) :
    PyText.strip (String.ofList cs) = String.ofList cs :=
  PyText.strip_of_forall fun c hc => not_isSpace_of_isDigit (h c hc)

theorem isDigitChar_of_isDigit {c : Char} (h : c.isDigit = true) : PyText.isDigitChar c = true := by
  have hrange := toNat_of_isDigit h
  have hzero : PyText.decimal? c = some (c.toNat - 0x30) := by
    unfold PyText.decimal?
    rw [PyText.decimalZeros, List.find?_cons_of_pos (by simp; omega), Option.map_some]
  rw [PyText.isDigitChar, hzero]
  rfl

theorem filter_digits (h : ∀ c ∈ cs, c.isDigit = true) : cs.filter PyText.isDigitChar = cs :=
  List.filter_eq_self.mpr fun c hc => isDigitChar_of_isDigit (h c hc)

theorem strptimeDigits_of_isDigit (h : ∀ c ∈ cs, c.isDigit = true) : strptimeDigits cs = some cs := by
  have hmap : ∀ (f : Char × ℕ → Option Char) (n : ℕ), (∀ c i, c.isDigit = true → f (c, i) = some c) →
      (cs.zipIdx n).mapM f = some cs := by
    intro f
    induction cs with
    | nil => exact fun n _ => rfl
    | cons c cs ih =>
        intro n hf
        rw [List.zipIdx_cons, List.mapM_cons, hf c n (h c List.mem_cons_self),
          ih (fun c hc => h c (List.mem_cons_of_mem _ hc)) (n + 1) hf]
        rfl
  exact hmap _ 0 fun c i hc => if_pos hc

/-- ASCII digits are read as they stand. Source: `app/integrations/kiwoom/schema.py` `parse_dt_any`.
Kind: L -/
theorem strptimeUtc_of_isDigit (h : ∀ c ∈ cs, c.isDigit = true) :
    strptimeUtc cs = (DateTime.ofCompact? cs).map fun wall => ⟨wall, some 0⟩ := by
  rw [strptimeUtc, strptimeDigits_of_isDigit h, Option.bind_some]

theorem ljust14_eq (h : cs.length ≤ 14) :
    ljust14 cs = cs ++ List.replicate (14 - cs.length) '0' := by
  unfold ljust14
  rw [List.take_of_length_le]
  rw [List.length_append, List.length_replicate]
  omega

theorem ljust14_of_length (h : cs.length = 14) : ljust14 cs = cs := by
  rw [ljust14_eq h.le, h, Nat.sub_self, List.replicate_zero, List.append_nil]

/-- Six digits are no date and time. Source: `app/integrations/kiwoom/schema.py` `parse_dt_any`.
Kind: L -/
theorem parseDtAny_six (h : ∀ c ∈ cs, c.isDigit = true) (hlen : cs.length = 6) :
    parseDtAny extended (some (String.ofList cs)) = none := by
  have hall : cs.all Char.isDigit = true := List.all_eq_true.mpr h
  simp only [parseDtAny, Option.bind_some, strip_digits h, fromisoformat, String.toList_ofList,
    filter_digits h]
  simp [hall, hlen]

/-- **Eight, twelve and fourteen digits are padded and read**, by the ISO parser or after it.
Source: `app/integrations/kiwoom/schema.py` `parse_dt_any`. Kind: L -/
theorem parseDtAny_digits (h : ∀ c ∈ cs, c.isDigit = true) (hlen : cs.length ∈ [8, 12, 14]) :
    parseDtAny extended (some (String.ofList cs)) = strptimeUtc (ljust14 cs) := by
  have hall : cs.all Char.isDigit = true := List.all_eq_true.mpr h
  have hne : String.ofList cs ≠ "" := by
    intro hempty
    rw [String.ofList_eq_empty_iff] at hempty
    rw [hempty] at hlen
    exact absurd hlen (by decide)
  simp only [List.mem_cons, List.not_mem_nil, or_false] at hlen
  have hpadded : ∀ c ∈ ljust14 cs, c.isDigit = true := by
    intro c hc
    rw [ljust14_eq (by omega)] at hc
    rcases List.mem_append.mp hc with hc | hc
    · exact h c hc
    · rw [List.eq_of_mem_replicate hc]
      decide
  simp only [parseDtAny, Option.bind_some, strip_digits h, fromisoformat, String.toList_ofList,
    filter_digits h, if_neg hne]
  rcases hlen with hlen | hlen | hlen
  · have hjust : ljust14 cs = cs ++ digits 6 0 := by
      rw [ljust14_eq (by omega), hlen]
      rfl
    rw [hjust] at hpadded
    rw [if_pos ⟨hall, by simp [hlen]⟩, if_pos hlen, if_pos (by simp [hlen]), hjust,
      strptimeUtc_of_isDigit hpadded]
    -- the ISO parser reads what `strptime` reads of the padded digits
    cases DateTime.ofCompact? (cs ++ digits 6 0) with
    | none => rfl
    | some wall => rfl
  · simp [hall, hlen]
  · simp [hall, hlen]

/-- Fourteen digits are read as a date and time in UTC. Source:
`app/integrations/kiwoom/schema.py` `parse_dt_any`. Kind: L -/
theorem parseDtAny_fourteen (h : ∀ c ∈ cs, c.isDigit = true) (hlen : cs.length = 14) :
    parseDtAny extended (some (String.ofList cs)) = strptimeUtc cs := by
  rw [parseDtAny_digits h (by simp [hlen]), ljust14_of_length hlen]

end digitTexts

/-! ## Compact dates and times -/

section compact

variable {extended : String → Option PyDatetime} {today : List Char} (d t : DateTime)

theorem isDigit_of_mem_compact {c : Char} (h : c ∈ d.compactDate ++ t.compactTime) :
    c.isDigit = true := by
  rcases List.mem_append.mp h with h | h
  · exact d.isDigit_of_mem_compactDate h
  · exact t.isDigit_of_mem_compactTime h

theorem length_compact : (d.compactDate ++ t.compactTime).length = 14 := by
  rw [List.length_append, d.length_compactDate, t.length_compactTime]

theorem strptimeUtc_compact :
    strptimeUtc (d.compactDate ++ t.compactTime) = some ⟨d.withTime t, some 0⟩ := by
  rw [strptimeUtc_of_isDigit fun c => isDigit_of_mem_compact d t, d.ofCompact?_append t]
  rfl

/-- A compact date and time in one text. Source: `app/integrations/kiwoom/schema.py` `parse_dt_any`.
Kind: L -/
theorem parseDtAny_compact :
    parseDtAny extended (some (String.ofList (d.compactDate ++ t.compactTime))) =
      some ⟨d.withTime t, some 0⟩ := by
  rw [parseDtAny_fourteen (fun c => isDigit_of_mem_compact d t) (length_compact d t),
    strptimeUtc_compact]

/-- A compact date alone is the beginning of the day. Source:
`app/integrations/kiwoom/schema.py` `parse_dt_any`. Kind: L -/
theorem parseDtAny_compactDate :
    parseDtAny extended (some (String.ofList d.compactDate)) = some ⟨d.midnight, some 0⟩ := by
  have hdigits : ∀ c ∈ d.compactDate, c.isDigit = true := fun c => d.isDigit_of_mem_compactDate
  have hall : d.compactDate.all Char.isDigit = true := List.all_eq_true.mpr hdigits
  have hne : String.ofList d.compactDate ≠ "" := by
    intro hempty
    rw [String.ofList_eq_empty_iff] at hempty
    exact absurd (hempty ▸ d.length_compactDate) (by decide)
  have hiso : fromisoformat extended (String.ofList d.compactDate) = some ⟨d.midnight, none⟩ := by
    rw [fromisoformat, String.toList_ofList, d.length_compactDate,
      if_pos ⟨hall, by decide⟩, if_pos rfl, d.ofCompact?_midnight, Option.map_some]
  unfold parseDtAny
  rw [Option.bind_some, strip_digits hdigits]
  dsimp only
  rw [if_neg hne, hiso]
  rfl

/-- A compact date and a compact time in two texts. Source:
`app/integrations/kiwoom/schema.py` `build_datetime`. Kind: L -/
theorem buildDatetime_compact :
    buildDatetime today (some (String.ofList d.compactDate)) (some (String.ofList t.compactTime)) =
      some ⟨d.withTime t, some 0⟩ := by
  unfold buildDatetime
  rw [if_neg fun h => Option.some_ne_none _ h.1]
  simp only [Option.map_some, Option.getD_some, String.toList_ofList]
  rw [filter_digits fun c => isDigit_of_mem_compact d t, ljust14_of_length (length_compact d t),
    strptimeUtc_compact]

end compact

end HaruTrade
