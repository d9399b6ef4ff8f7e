import Mathlib.Algebra.Order.Group.Int
import Mathlib.Data.List.Induction
import Mathlib.Tactic.Ring

/-!
# The calendar

Dates and times of day of the proleptic Gregorian calendar, to the microsecond, and their compact
decimal form. Nothing here names a particular program.

* `Instant`, `timedelta`, `totalSeconds` — points in time and the differences between them.
* `DateTime` — the fields of a date and time, with the proof that there is such a date and time.
* `toMicros` — the microseconds since the beginning of year one; `toMicros_time` splits off the time
  of day.
* `digits`, `ofDigits` — decimal numbers of a fixed width, and back.
* `compactDate`, `compactTime`, `ofCompact?` — `YYYYMMDD`, `HHMMSS` and the reading of fourteen
  digits, with the round trips `ofCompact?_append` and `eq_of_ofCompact?`.
-/

namespace HaruTrade

/-! ## Instants -/

/-- A point in time: microseconds since the epoch. Source: none: infrastructure. Kind: D -/
abbrev Instant := ℤ

/-- `timedelta(seconds=seconds)`. Source: none: infrastructure. Kind: D -/
def timedelta (seconds : ℤ) : ℤ := seconds * 1000000

/-- `int(delta.total_seconds())`. Source: none: infrastructure. Kind: D -/
def totalSeconds (delta : ℤ) : ℤ := delta.tdiv 1000000

/-! ## Decimal digits -/

section digits

/-- The decimal digits of a number, in a fixed width. Source: none: infrastructure. Kind: D -/
def digits : ℕ → ℕ → List Char
  | 0, _ => []
  | width + 1, n => digits width (n / 10) ++ [Nat.digitChar (n % 10)]

/-- The number that decimal digits write. Source: none: infrastructure. Kind: D -/
def ofDigits (cs : List Char) : ℕ := cs.foldl (fun n c => 10 * n + (c.toNat - '0'.toNat)) 0

@[simp] theorem length_digits (width n : ℕ) : (digits width n).length = width := by
  induction width generalizing n with
  | zero => rfl
  | succ width ih => simp [digits, ih]

theorem toNat_digitChar {d : ℕ} (h : d < 10) : (Nat.digitChar d).toNat - '0'.toNat = d := by
  have all : ∀ d < 10, (Nat.digitChar d).toNat - '0'.toNat = d := by decide
  exact all d h

theorem isDigit_digitChar {d : ℕ} (h : d < 10) : (Nat.digitChar d).isDigit = true := by
  have all : ∀ d < 10, (Nat.digitChar d).isDigit = true := by decide
  exact all d h

theorem isDigit_of_mem_digits {width n : ℕ} {c : Char} (h : c ∈ digits width n) :
    c.isDigit = true := by
  induction width generalizing n with
  | zero => exact absurd h List.not_mem_nil
  | succ width ih =>
      rw [digits, List.mem_append, List.mem_singleton] at h
      rcases h with h | rfl
      · exact ih h
      · exact isDigit_digitChar (Nat.mod_lt n (by omega))

theorem ofDigits_digits {width n : ℕ} (h : n < 10 ^ width) : ofDigits (digits width n) = n := by
  induction width generalizing n with
  | zero =>
      rw [pow_zero] at h
      show 0 = n
      omega
  | succ width ih =>
      have hdiv : n / 10 < 10 ^ width := by
        rw [pow_succ] at h
        omega
      have hrec : ofDigits (digits width (n / 10)) = n / 10 := ih hdiv
      unfold ofDigits at hrec ⊢
      rw [digits, List.foldl_append, hrec, List.foldl_cons, List.foldl_nil,
        toNat_digitChar (Nat.mod_lt n (by omega))]
      omega

theorem toNat_of_isDigit {c : Char} (h : c.isDigit = true) : 48 ≤ c.toNat ∧ c.toNat ≤ 57 := by
  simp only [Char.isDigit, Bool.and_eq_true, decide_eq_true_eq, UInt32.le_iff_toNat_le] at h
  exact h

theorem digitChar_toNat {c : Char} (h : c.isDigit = true) :
    Nat.digitChar (c.toNat - '0'.toNat) = c := by
  obtain ⟨hlo, hhi⟩ := toNat_of_isDigit h
  have hall : ∀ d < 10, (Nat.digitChar d).toNat = 48 + d := by decide
  apply Char.ext
  apply UInt32.toNat_inj.mp
  show (Nat.digitChar (c.toNat - 48)).toNat = c.toNat
  rw [hall _ (by omega)]
  omega

/-- **Digits that are read are written again.** Source: none: infrastructure. Kind: L -/
theorem digits_ofDigits {cs : List Char} (h : ∀ c ∈ cs, c.isDigit = true) :
    digits cs.length (ofDigits cs) = cs := by
  induction cs using List.reverseRecOn with
  | nil => rfl
  | append_singleton cs c ih =>
      have hc : c.isDigit = true := h c (List.mem_append_right _ (List.mem_singleton_self c))
      have hrange : c.toNat - '0'.toNat < 10 := by
        obtain ⟨hlo, hhi⟩ := toNat_of_isDigit hc
        show c.toNat - 48 < 10
        omega
      have hvalue : ofDigits (cs ++ [c]) = 10 * ofDigits cs + (c.toNat - '0'.toNat) := by
        rw [ofDigits, List.foldl_append]
        rfl
      rw [List.length_append, List.length_singleton, digits, hvalue,
        show (10 * ofDigits cs + (c.toNat - '0'.toNat)) / 10 = ofDigits cs by omega,
        show (10 * ofDigits cs + (c.toNat - '0'.toNat)) % 10 = c.toNat - '0'.toNat by omega,
        ih fun c hc => h c (List.mem_append_left _ hc), digitChar_toNat hc]

end digits

/-! ## Dates and times -/

namespace Calendar

/-- Source: none: infrastructure. Kind: D -/
def isLeap (year : ℕ) : Bool := year % 4 = 0 ∧ (year % 100 ≠ 0 ∨ year % 400 = 0)

/-- Source: none: infrastructure. Kind: D -/
def daysInMonth (year month : ℕ) : ℕ :=
  if month = 2 then if isLeap year then 29 else 28
  else if month ∈ [4, 6, 9, 11] then 30 else 31

/-- The days before the first of January. Source: none: infrastructure. Kind: D -/
def daysBeforeYear (year : ℕ) : ℕ :=
  (year - 1) * 365 + (year - 1) / 4 - (year - 1) / 100 + (year - 1) / 400

/-- The days of the year before the first of the month. Source: none: infrastructure. Kind: D -/
def daysBeforeMonth (year month : ℕ) : ℕ :=
  ((List.range (month - 1)).map fun m => daysInMonth year (m + 1)).sum

/-- There is such a date and time. Source: none: infrastructure. Kind: D -/
def IsDateTime (year month day hour minute second microsecond : ℕ) : Prop :=
  (1 ≤ year ∧ year ≤ 9999) ∧ (1 ≤ month ∧ month ≤ 12) ∧ (1 ≤ day ∧ day ≤ daysInMonth year month) ∧
    hour < 24 ∧ minute < 60 ∧ second < 60 ∧ microsecond < 1000000

instance (year month day hour minute second microsecond : ℕ) :
    Decidable (IsDateTime year month day hour minute second microsecond) :=
  inferInstanceAs (Decidable (_ ∧ _))

theorem daysInMonth_le (year month : ℕ) : daysInMonth year month ≤ 31 := by
  unfold daysInMonth
  split
  · split <;> omega
  · split <;> omega

end Calendar

open Calendar

/-- **A date and a time of day.** Source: none: infrastructure. Kind: D -/
structure DateTime where
  year : ℕ
  month : ℕ
  day : ℕ
  hour : ℕ := 0
  minute : ℕ := 0
  second : ℕ := 0
  microsecond : ℕ := 0
  valid : IsDateTime year month day hour minute second microsecond
  deriving DecidableEq

namespace DateTime

variable (d : DateTime)

/-- The days since the first day of year one. Source: none: infrastructure. Kind: D -/
def toOrdinal : ℕ := daysBeforeYear d.year + daysBeforeMonth d.year d.month + (d.day - 1)

/-- The second of the day. Source: none: infrastructure. Kind: D -/
def secondOfDay : ℕ := d.hour * 3600 + d.minute * 60 + d.second

/-- The microseconds since the beginning of year one. Source: none: infrastructure. Kind: D -/
def toMicros : ℤ := (d.toOrdinal * 86400 + d.secondOfDay) * 1000000 + d.microsecond

/-- The date, with another time of day to the second. Source: none: infrastructure. Kind: D -/
def withTime (t : DateTime) : DateTime where
  year := d.year
  month := d.month
  day := d.day
  hour := t.hour
  minute := t.minute
  second := t.second
  valid := by
    obtain ⟨hy, hm, hd, -⟩ := d.valid
    obtain ⟨-, -, -, hh, hmin, hs, -⟩ := t.valid
    exact ⟨hy, hm, hd, hh, hmin, hs, by omega⟩

/-- The beginning of the day. Source: none: infrastructure. Kind: D -/
def midnight : DateTime where
  year := d.year
  month := d.month
  day := d.day
  valid := by
    obtain ⟨hy, hm, hd, -⟩ := d.valid
    exact ⟨hy, hm, hd, by omega, by omega, by omega, by omega⟩

theorem secondOfDay_lt : d.secondOfDay < 86400 := by
  obtain ⟨-, -, -, hh, hmin, hs, -⟩ := d.valid
  unfold secondOfDay
  omega

/-- The whole seconds of a date and time. Source: none: infrastructure. Kind: L -/
theorem toMicros_div : d.toMicros / 1000000 = d.toOrdinal * 86400 + d.secondOfDay := by
  obtain ⟨-, -, -, -, -, -, hmicro⟩ := d.valid
  unfold toMicros
  omega

/-- **The second of the day** is what the whole seconds leave over whole days.
Source: none: infrastructure. Kind: L -/
theorem toMicros_time : d.toMicros / 1000000 % 86400 = d.secondOfDay := by
  have h := d.secondOfDay_lt
  rw [toMicros_div]
  omega

/-! ## The compact form -/

/-- `YYYYMMDD`. Source: none: infrastructure. Kind: D -/
def compactDate : List Char := digits 4 d.year ++ digits 2 d.month ++ digits 2 d.day

/-- `HHMMSS`. Source: none: infrastructure. Kind: D -/
def compactTime : List Char := digits 2 d.hour ++ digits 2 d.minute ++ digits 2 d.second

/-- The date and time with the given fields, if there is one. Source: none: infrastructure. Kind: D -/
def ofFields? (year month day hour minute second : ℕ) : Option DateTime :=
  if h : IsDateTime year month day hour minute second 0 then
    some { year, month, day, hour, minute, second, valid := h }
  else none

/-- Read `YYYYMMDDHHMMSS`. Source: none: infrastructure. Kind: D -/
def ofCompact? (cs : List Char) : Option DateTime :=
  if cs.length = 14 ∧ cs.all Char.isDigit then
    ofFields? (ofDigits (cs.take 4)) (ofDigits ((cs.drop 4).take 2)) (ofDigits ((cs.drop 6).take 2))
      (ofDigits ((cs.drop 8).take 2)) (ofDigits ((cs.drop 10).take 2))
      (ofDigits ((cs.drop 12).take 2))
  else none

theorem length_compactDate : d.compactDate.length = 8 := by
  simp [compactDate]

theorem length_compactTime : d.compactTime.length = 6 := by
  simp [compactTime]

theorem isDigit_of_mem_compactDate {c : Char} (h : c ∈ d.compactDate) : c.isDigit = true := by
  simp only [compactDate, List.mem_append] at h
  rcases h with (h | h) | h
  · exact isDigit_of_mem_digits h
  · exact isDigit_of_mem_digits h
  · exact isDigit_of_mem_digits h

theorem isDigit_of_mem_compactTime {c : Char} (h : c ∈ d.compactTime) : c.isDigit = true := by
  simp only [compactTime, List.mem_append] at h
  rcases h with (h | h) | h
  · exact isDigit_of_mem_digits h
  · exact isDigit_of_mem_digits h
  · exact isDigit_of_mem_digits h

theorem secondOfDay_withTime (t : DateTime) : (d.withTime t).secondOfDay = t.secondOfDay := rfl

/-- **A compact date followed by a compact time is read as they were written.**
Source: none: infrastructure. Kind: P -/
theorem ofCompact?_append (t : DateTime) :
    ofCompact? (d.compactDate ++ t.compactTime) = some (d.withTime t) := by
  have hlen : (d.compactDate ++ t.compactTime).length = 14 := by
    rw [List.length_append, length_compactDate, length_compactTime]
  have hall : (d.compactDate ++ t.compactTime).all Char.isDigit = true := by
    rw [List.all_eq_true]
    intro c hc
    rcases List.mem_append.mp hc with hc | hc
    · exact d.isDigit_of_mem_compactDate hc
    · exact t.isDigit_of_mem_compactTime hc
  obtain ⟨⟨hy, hy'⟩, ⟨hm, hm'⟩, ⟨hd, hd'⟩, -⟩ := d.valid
  obtain ⟨-, -, -, hh, hmin, hs, -⟩ := t.valid
  have hday := daysInMonth_le d.year d.month
  -- each field is cut out of the fourteen digits again
  have hyear : (d.compactDate ++ t.compactTime).take 4 = digits 4 d.year := rfl
  have hmonth : ((d.compactDate ++ t.compactTime).drop 4).take 2 = digits 2 d.month := rfl
  have hdays : ((d.compactDate ++ t.compactTime).drop 6).take 2 = digits 2 d.day := rfl
  have hhour : ((d.compactDate ++ t.compactTime).drop 8).take 2 = digits 2 t.hour := rfl
  have hminute : ((d.compactDate ++ t.compactTime).drop 10).take 2 = digits 2 t.minute := rfl
  have hsecond : ((d.compactDate ++ t.compactTime).drop 12).take 2 = digits 2 t.second := rfl
  unfold ofCompact?
  rw [if_pos ⟨hlen, hall⟩, hyear, hmonth, hdays, hhour, hminute, hsecond,
    ofDigits_digits (by omega), ofDigits_digits (by omega), ofDigits_digits (by omega),
    ofDigits_digits (by omega), ofDigits_digits (by omega), ofDigits_digits (by omega)]
  exact dif_pos (d.withTime t).valid

/-- A compact date followed by zeros is the beginning of the day.
Source: none: infrastructure. Kind: L -/
theorem ofCompact?_midnight : ofCompact? (d.compactDate ++ digits 6 0) = some d.midnight :=
  d.ofCompact?_append d.midnight

/-- A field of a text of digits. Source: none: infrastructure. Kind: L -/
theorem digits_ofDigits_slice {cs : List Char} (h : ∀ c ∈ cs, c.isDigit = true) (i width : ℕ)
    (hwidth : i + width ≤ cs.length) :
    digits width (ofDigits ((cs.drop i).take width)) = (cs.drop i).take width := by
  have hlen : ((cs.drop i).take width).length = width := by
    rw [List.length_take, List.length_drop]
    omega
  have hslice : ∀ c ∈ (cs.drop i).take width, c.isDigit = true := fun c hc =>
    h c (List.mem_of_mem_drop (List.mem_of_mem_take hc))
  have hback := digits_ofDigits hslice
  rwa [hlen] at hback

/-- **Fourteen digits that are read** are those of the date and time. Source: none: infrastructure.
Kind: L -/
theorem eq_of_ofCompact? {d : DateTime} {cs : List Char} (h : ofCompact? cs = some d) :
    cs = d.compactDate ++ d.compactTime := by
  unfold ofCompact? at h
  split_ifs at h with htext
  obtain ⟨hlen, hall⟩ := htext
  rw [List.all_eq_true] at hall
  unfold ofFields? at h
  split_ifs at h
  obtain rfl := Option.some.inj h
  have hyear := digits_ofDigits_slice hall 0 4 (by omega)
  have hmonth := digits_ofDigits_slice hall 4 2 (by omega)
  have hday := digits_ofDigits_slice hall 6 2 (by omega)
  have hhour := digits_ofDigits_slice hall 8 2 (by omega)
  have hminute := digits_ofDigits_slice hall 10 2 (by omega)
  have hsecond := digits_ofDigits_slice hall 12 2 (by omega)
  rw [List.drop_zero] at hyear
  unfold compactDate compactTime
  dsimp only
  rw [hyear, hmonth, hday, hhour, hminute, hsecond]
  -- a list of fourteen characters is its six fields
  obtain ⟨a, b, c, e, f, g, i, j, k, l, m, n, o, p, rfl⟩ :
      ∃ a b c e f g i j k l m n o p, cs = [a, b, c, e, f, g, i, j, k, l, m, n, o, p] := by
    match cs, hlen with
    | [a, b, c, e, f, g, i, j, k, l, m, n, o, p], _ =>
      exact ⟨a, b, c, e, f, g, i, j, k, l, m, n, o, p, rfl⟩
  rfl

/-- With another time of day a date is at its beginning only when that is the time of day.
Source: none: infrastructure. Kind: L -/
theorem withTime_eq_midnight_iff (t : DateTime) : d.withTime t = d.midnight ↔ t.secondOfDay = 0 := by
  unfold secondOfDay
  constructor
  · intro h
    have hh : t.hour = 0 := congrArg hour h
    have hmin : t.minute = 0 := congrArg minute h
    have hs : t.second = 0 := congrArg second h
    omega
  · intro h
    obtain ⟨hh, hmin, hs⟩ : t.hour = 0 ∧ t.minute = 0 ∧ t.second = 0 := by omega
    simp [withTime, midnight, hh, hmin, hs]

end DateTime

end HaruTrade
