import HaruTrade.Integrations.Schema

/-!
# Texts of digits as dates and times

A date and time can stand as fourteen digits, as twelve without its seconds, and as eight without its
time of day. `parseDtAny` tries an ISO parser first, which takes eight digits and refuses twelve and
fourteen, and then pads the digits with zeros for `strptime`; `parseDtAny_digits` says that both read
the padded digits.

* `encodings` — the three forms.
* `mem_encodings_of_ljust14` — a text that is padded to fourteen digits of a date is one of them.
* **`decodes_encodings`** — every form is read as what it was written for, and no other text of 8, 12
  or 14 digits is read at all, in whatever script its digits are.
-/

namespace HaruTrade

namespace DateTime

variable (d : DateTime)

/-- The beginning of the minute. Source: none: infrastructure. Kind: D -/
def startOfMinute : DateTime where
  year := d.year
  month := d.month
  day := d.day
  hour := d.hour
  minute := d.minute
  valid := by
    obtain ⟨hy, hm, hd, hh, hmin, -⟩ := d.valid
    exact ⟨hy, hm, hd, hh, hmin, Nat.succ_pos 59, Nat.succ_pos 999999⟩

/-- `HHMM`. Source: none: infrastructure. Kind: D -/
def compactMinute : List Char := digits 2 d.hour ++ digits 2 d.minute

/-- **What digits write**: fourteen of them a date and time to the second, twelve one to the minute,
and eight a date. Source: `app/integrations/kiwoom/schema.py` `parse_dt_any`. Kind: D -/
def encodings : List (List Char) :=
  [d.compactDate ++ d.compactTime, d.compactDate ++ d.compactMinute, d.compactDate]

variable {d}

theorem withTime_self (h : d.microsecond = 0) : d.withTime d = d := by
  obtain ⟨year, month, day, hour, minute, second, microsecond, valid⟩ := d
  obtain rfl : microsecond = 0 := h
  rfl

end DateTime

/-! ## Padding -/

section padding

variable {cs : List Char} (d : DateTime)

theorem ljust14_compactMinute :
    ljust14 (d.compactDate ++ d.compactMinute) = d.compactDate ++ d.startOfMinute.compactTime := by
  have hlen : (d.compactDate ++ d.compactMinute).length = 12 := by
    simp [DateTime.compactMinute, d.length_compactDate]
  have hzeros : List.replicate 2 '0' = digits 2 0 := by decide
  rw [ljust14_eq (by omega), hlen, hzeros, List.append_assoc]
  rfl

/-- A text that is padded to a compact form is one of the three forms.
Source: `app/integrations/kiwoom/schema.py` `parse_dt_any`. Kind: L -/
theorem mem_encodings_of_ljust14 (hlen : cs.length ∈ [8, 12, 14])
    (h : ljust14 cs = d.compactDate ++ d.compactTime) : cs ∈ d.encodings := by
  have hcut : cs = (d.compactDate ++ d.compactTime).take cs.length := by
    simp only [List.mem_cons, List.not_mem_nil, or_false] at hlen
    rw [← h, ljust14_eq (by omega), List.take_left]
  simp only [List.mem_cons, List.not_mem_nil, or_false] at hlen
  rw [DateTime.encodings]
  rcases hlen with hlen | hlen | hlen
  · rw [hlen] at hcut
    rw [hcut]
    exact List.mem_cons_of_mem _ (List.mem_cons_of_mem _ List.mem_cons_self)
  · rw [hlen] at hcut
    rw [hcut]
    exact List.mem_cons_of_mem _ List.mem_cons_self
  · rw [hlen] at hcut
    rw [hcut]
    exact List.mem_cons_self

end padding

/-! ## Digits of other scripts -/

/-- The ASCII digit of the same value. Source: none: infrastructure. Kind: D -/
def PyText.asciiDigit (c : Char) : Char :=
  if c.isDigit then c else ((PyText.decimal? c).map Nat.digitChar).getD c

/-- `datetime.fromisoformat` reads ASCII digits only. A text of eight, twelve or fourteen digits with
one of another script in it is refused: that one stands in the date, or the text behind the separator
has an odd number of digits. Source: `app/integrations/kiwoom/schema.py` `parse_dt_any`. Kind: D -/
def asciiDates (extended : String → Option PyDatetime) (text : String) : Option PyDatetime :=
  if text.toList.all PyText.isDigitChar ∧ text.toList.length ∈ [8, 12, 14] then none
  else extended text

section scripts

variable {extended : String → Option PyDatetime} {cs ds : List Char}

theorem not_isSpace_of_isDigitChar {c : Char} (h : PyText.isDigitChar c = true) :
    PyText.isSpace c = false := by
  -- none of the spaces is a digit
  have hspaces : ∀ n ∈ [0x9, 0xa, 0xb, 0xc, 0xd, 0x1c, 0x1d, 0x1e, 0x1f, 0x20, 0x85, 0xa0, 0x1680,
      0x2000, 0x2001, 0x2002, 0x2003, 0x2004, 0x2005, 0x2006, 0x2007, 0x2008, 0x2009, 0x200a, 0x2028,
      0x2029, 0x202f, 0x205f, 0x3000],
      PyText.decimalZeros.find? (fun z => z ≤ n ∧ n < z + 10) = none ∧
        PyText.otherDigits.any (fun run => run.1 ≤ n ∧ n ≤ run.2) = false := by decide
  cases hspace : PyText.isSpace c with
  | false => rfl
  | true =>
      obtain ⟨hzero, hother⟩ := hspaces c.toNat (of_decide_eq_true hspace)
      rw [PyText.isDigitChar, PyText.decimal?, hzero, hother] at h
      exact absurd h Bool.false_ne_true

theorem asciiDigit_of_isDigit {c : Char} (h : c.isDigit = true) : PyText.asciiDigit c = c := if_pos h

/-- `strptime` reads the values of the digits. Source: `app/integrations/kiwoom/schema.py`
`parse_dt_any`. Kind: L -/
theorem eq_map_of_strptimeDigits (h : strptimeDigits cs = some ds) : ds = cs.map PyText.asciiDigit := by
  have hmap : ∀ (f : Char × ℕ → Option Char),
      (∀ c i d, f (c, i) = some d → d = PyText.asciiDigit c) →
      ∀ (cs ds : List Char) (n : ℕ), (cs.zipIdx n).mapM f = some ds → ds = cs.map PyText.asciiDigit := by
    intro f hf cs
    induction cs with
    | nil =>
        intro ds n hmap
        exact (Option.some.inj hmap).symm
    | cons c cs ih =>
        intro ds n hmap
        rw [List.zipIdx_cons, List.mapM_cons] at hmap
        obtain ⟨d, hd, hmap⟩ := Option.bind_eq_some_iff.mp hmap
        obtain ⟨ds', hds', hmap⟩ := Option.bind_eq_some_iff.mp hmap
        rw [← Option.some.inj hmap, List.map_cons, hf c n d hd, ih ds' (n + 1) hds']
  refine hmap _ ?_ cs ds 0 h
  intro c i d hread
  unfold PyText.asciiDigit
  dsimp only at hread
  by_cases hdigit : c.isDigit = true
  · rw [if_pos hdigit] at hread ⊢
    exact (Option.some.inj hread).symm
  · rw [if_neg hdigit] at hread ⊢
    obtain ⟨-, hread⟩ := Option.ite_none_right_eq_some.mp hread
    rw [hread, Option.getD_some]

theorem map_asciiDigit_ljust14 : (ljust14 cs).map PyText.asciiDigit = ljust14 (cs.map PyText.asciiDigit) := by
  unfold ljust14
  rw [List.map_take, List.map_append, List.map_replicate, asciiDigit_of_isDigit (by decide),
    List.length_map]

/-- **Digits of any script are padded for `strptime`.** Source:
`app/integrations/kiwoom/schema.py` `parse_dt_any`. Kind: L -/
theorem parseDtAny_isDigitChar (h : ∀ c ∈ cs, PyText.isDigitChar c = true)
    (hlen : cs.length ∈ [8, 12, 14]) :
    parseDtAny (asciiDates extended) (some (String.ofList cs)) = strptimeUtc (ljust14 cs) := by
  by_cases hascii : ∀ c ∈ cs, c.isDigit = true
  · exact parseDtAny_digits hascii hlen
  · have hne : String.ofList cs ≠ "" := by
      intro hempty
      rw [String.ofList_eq_empty_iff] at hempty
      rw [hempty] at hlen
      exact absurd hlen (by decide)
    have hiso : fromisoformat (asciiDates extended) (String.ofList cs) = none := by
      unfold fromisoformat asciiDates
      rw [String.toList_ofList, if_neg fun hall => hascii (List.all_eq_true.mp hall.1),
        if_pos ⟨List.all_eq_true.mpr h, hlen⟩]
    unfold parseDtAny
    rw [Option.bind_some, PyText.strip_of_forall fun c hc => not_isSpace_of_isDigitChar (h c hc)]
    dsimp only
    rw [if_neg hne, hiso, String.toList_ofList, List.filter_eq_self.mpr h]
    exact if_pos hlen

end scripts

/-- **Decoding undoes every encoding and accepts nothing else.** Fourteen, twelve and eight digits are
read as the date and time that they write, a date and a time of day in two texts likewise; and a text
of 8, 12 or 14 digits that does not write a date and time is refused.
Source: `app/integrations/kiwoom/schema.py` `parse_dt_any`, `build_datetime`. Kind: P -/
theorem decodes_encodings (extended : String → Option PyDatetime) (today : List Char) :
    (∀ d : DateTime, d.microsecond = 0 →
      parseDtAny (asciiDates extended) (some (String.ofList (d.compactDate ++ d.compactTime))) =
          some ⟨d, some 0⟩ ∧
        parseDtAny (asciiDates extended) (some (String.ofList (d.compactDate ++ d.compactMinute))) =
          some ⟨d.startOfMinute, some 0⟩ ∧
        parseDtAny (asciiDates extended) (some (String.ofList d.compactDate)) =
          some ⟨d.midnight, some 0⟩ ∧
        buildDatetime today (some (String.ofList d.compactDate)) (some (String.ofList d.compactTime)) =
          some ⟨d, some 0⟩) ∧
      ∀ cs : List Char, (∀ c ∈ cs, PyText.isDigitChar c = true) → cs.length ∈ [8, 12, 14] →
        (∀ d : DateTime, cs.map PyText.asciiDigit ∉ d.encodings) →
        parseDtAny (asciiDates extended) (some (String.ofList cs)) = none := by
  constructor
  · intro d hsecond
    have hself := DateTime.withTime_self hsecond
    have hminute : ∀ c ∈ d.compactDate ++ d.compactMinute, c.isDigit = true := by
      intro c hc
      apply isDigit_of_mem_compact d d
      rw [DateTime.compactTime, ← DateTime.compactMinute, ← List.append_assoc]
      exact List.mem_append_left _ hc
    refine ⟨?_, ?_, parseDtAny_compactDate d, ?_⟩
    · rw [parseDtAny_compact, hself]
    · rw [parseDtAny_digits hminute (by simp [DateTime.compactMinute, d.length_compactDate]),
        ljust14_compactMinute, strptimeUtc_compact]
      rfl
    · rw [buildDatetime_compact, hself]
  · intro cs h hlen hforms
    rw [parseDtAny_isDigitChar h hlen, Option.eq_none_iff_forall_ne_some]
    intro dt hread
    obtain ⟨ds, hds, hread⟩ := Option.bind_eq_some_iff.mp hread
    obtain ⟨wall, hwall, -⟩ := Option.map_eq_some_iff.mp hread
    have hpadded := DateTime.eq_of_ofCompact? hwall
    rw [eq_map_of_strptimeDigits hds, map_asciiDigit_ljust14] at hpadded
    exact hforms wall (mem_encodings_of_ljust14 wall (by rwa [List.length_map]) hpadded)

end HaruTrade
