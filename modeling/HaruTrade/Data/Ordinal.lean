import Mathlib.Data.Nat.Find
import Mathlib.Order.Monotone.Basic
import HaruTrade.Data.Calendar

/-!
# Dates from a number of days

`DateTime.ofMicros?` finds the date and time that lies a number of microseconds after the beginning of
year one, as far as the calendar goes. Nothing here names a particular program.

* `DateTime.toMicros_of_ofMicros?` — what it finds lies there.
* `DateTime.ofMicros?_toMicros` — it finds every date and time.
* `DateTime.toOrdinal_eq_of_compactDate` — the compact form tells dates apart.
* `DateTime.isoDate_eq_iff` — and so does the ISO form.
* `Calendar.isocalendar` — the week of a day; `isocalendar_eq_iff` says which days share one.
-/

namespace HaruTrade

/-- The greatest index whose value is not above `n`, for values that do not fall.
Source: none: infrastructure. Kind: L -/
theorem findGreatest_eq_of_monotone {f : ℕ → ℕ} (hf : Monotone f) {n bound k : ℕ} (hk : k ≤ bound)
    (hle : f k ≤ n) (hlt : n < f (k + 1)) : Nat.findGreatest (f · ≤ n) bound = k := by
  rw [Nat.findGreatest_eq_iff]
  refine ⟨hk, fun _ => hle, fun m hm _ hfm => ?_⟩
  have hnext : f (k + 1) ≤ f m := hf hm
  omega

namespace Calendar

/-! ## Days before years and months -/

/-- Source: none: infrastructure. Kind: D -/
def daysInYear (year : ℕ) : ℕ := if isLeap year then 366 else 365

theorem succ_div_eq (b k : ℕ) :
    (k + 1) / b = k / b + if (k + 1) % b = 0 then 1 else 0 := by
  rw [Nat.succ_div]
  exact congrArg (k / b + ·) (if_congr Nat.dvd_iff_mod_eq_zero rfl rfl)

/-- The days of a year by the three rules of the leap years. Source: none: infrastructure. Kind: L -/
theorem daysInYear_eq (year : ℕ) : daysInYear year = 365 + (if year % 4 = 0 then 1 else 0) -
    (if year % 100 = 0 then 1 else 0) + (if year % 400 = 0 then 1 else 0) := by
  have h100 : year % 100 = 0 → year % 4 = 0 := by omega
  have h400 : year % 400 = 0 → year % 100 = 0 := by omega
  unfold daysInYear isLeap
  by_cases h4 : year % 4 = 0
  · by_cases hc : year % 100 = 0
    · by_cases hq : year % 400 = 0
      · simp [h4, hc, hq]
      · simp [h4, hc, hq]
    · have hq : year % 400 ≠ 0 := fun hq => hc (h400 hq)
      simp [h4, hc, hq]
  · have hc : year % 100 ≠ 0 := fun hc => h4 (h100 hc)
    have hq : year % 400 ≠ 0 := fun hq => hc (h400 hq)
    simp [h4, hc, hq]

theorem daysBeforeYear_succ {year : ℕ} (h : 1 ≤ year) :
    daysBeforeYear (year + 1) = daysBeforeYear year + daysInYear year := by
  obtain ⟨k, rfl⟩ := Nat.exists_eq_add_of_le' h
  have hcentury : k / 100 ≤ k / 4 := Nat.div_le_div_left (by omega) (by omega)
  have hdvd : (k + 1) % 100 = 0 → (k + 1) % 4 = 0 := by omega
  unfold daysBeforeYear
  rw [daysInYear_eq, Nat.add_sub_cancel, Nat.add_sub_cancel, succ_div_eq 4 k, succ_div_eq 100 k,
    succ_div_eq 400 k]
  -- what is left is linear in the three quotients
  generalize k / 4 = a at *
  generalize k / 100 = b at *
  generalize k / 400 = c
  split_ifs <;> omega

theorem le_daysBeforeYear_succ (year : ℕ) : year * 365 ≤ daysBeforeYear (year + 1) := by
  unfold daysBeforeYear
  omega

theorem daysBeforeYear_mono : Monotone daysBeforeYear := by
  refine monotone_nat_of_le_succ fun year => ?_
  rcases Nat.eq_zero_or_pos year with rfl | hpos
  · exact Nat.zero_le _
  · rw [daysBeforeYear_succ hpos]
    exact Nat.le_add_right _ _

theorem daysBeforeMonth_succ {year month : ℕ} (h : 1 ≤ month) :
    daysBeforeMonth year (month + 1) = daysBeforeMonth year month + daysInMonth year month := by
  obtain ⟨m, rfl⟩ := Nat.exists_eq_add_of_le' h
  simp [daysBeforeMonth, List.range_succ]

theorem daysBeforeMonth_mono (year : ℕ) : Monotone (daysBeforeMonth year) := by
  refine monotone_nat_of_le_succ fun month => ?_
  rcases Nat.eq_zero_or_pos month with rfl | hpos
  · exact le_rfl
  · rw [daysBeforeMonth_succ hpos]
    exact Nat.le_add_right _ _

/-- The twelve months make up the year. Source: none: infrastructure. Kind: L -/
theorem daysBeforeMonth_thirteen (year : ℕ) : daysBeforeMonth year 13 = daysInYear year := by
  unfold daysBeforeMonth daysInMonth daysInYear
  by_cases h : isLeap year = true
  · simp [h, List.range_succ]
  · simp [h, List.range_succ]

/-! ## The date of a day -/

/-- The year of a day. Source: none: infrastructure. Kind: D -/
def yearOf (n : ℕ) : ℕ := Nat.findGreatest (daysBeforeYear · ≤ n) (n / 365 + 1)

/-- The month of a day of the year. Source: none: infrastructure. Kind: D -/
def monthOf (year n : ℕ) : ℕ := Nat.findGreatest (daysBeforeMonth year · ≤ n) 12

theorem daysBeforeYear_yearOf_le (n : ℕ) : daysBeforeYear (yearOf n) ≤ n :=
  Nat.findGreatest_spec (P := (daysBeforeYear · ≤ n)) (m := 1) (by omega) (Nat.zero_le n)

theorem daysBeforeMonth_monthOf_le (year n : ℕ) : daysBeforeMonth year (monthOf year n) ≤ n :=
  Nat.findGreatest_spec (P := (daysBeforeMonth year · ≤ n)) (m := 1) (by omega) (Nat.zero_le n)

theorem yearOf_add {year n : ℕ} (h : 1 ≤ year) (hn : n < daysInYear year) :
    yearOf (daysBeforeYear year + n) = year := by
  obtain ⟨k, rfl⟩ := Nat.exists_eq_add_of_le' h
  have hbound := le_daysBeforeYear_succ k
  refine findGreatest_eq_of_monotone daysBeforeYear_mono ?_ (Nat.le_add_right _ _) ?_
  · omega
  · rw [daysBeforeYear_succ h]
    omega

theorem monthOf_add {year month n : ℕ} (h : 1 ≤ month) (h' : month ≤ 12)
    (hn : n < daysInMonth year month) : monthOf year (daysBeforeMonth year month + n) = month := by
  refine findGreatest_eq_of_monotone (daysBeforeMonth_mono year) h' (Nat.le_add_right _ _) ?_
  rw [daysBeforeMonth_succ h]
  omega

theorem lt_daysBeforeYear_succ_yearOf (n : ℕ) : n < daysBeforeYear (yearOf n + 1) := by
  by_cases hbound : yearOf n + 1 ≤ n / 365 + 1
  · exact lt_of_not_ge (Nat.findGreatest_is_greatest (P := (daysBeforeYear · ≤ n))
      (Nat.lt_succ_self _) hbound)
  · have hle := le_daysBeforeYear_succ (yearOf n)
    omega

/-! ## Weeks -/

/-- The Thursday of the week of a day; the first day is a Monday. Source: none: infrastructure.
Kind: D -/
def thursdayOf (n : ℕ) : ℕ := n / 7 * 7 + 3

/-- The year and the number of the week of a day, `date.isocalendar()`: a week is in the year that its
Thursday is in. Source: none: infrastructure. Kind: D -/
def isocalendar (n : ℕ) : ℕ × ℕ :=
  (yearOf (thursdayOf n), (thursdayOf n - daysBeforeYear (yearOf (thursdayOf n))) / 7 + 1)

theorem isocalendar_week_lt (n : ℕ) : (isocalendar n).2 < 100 := by
  have hyear : 1 ≤ yearOf (thursdayOf n) :=
    Nat.le_findGreatest (by omega) (Nat.zero_le (thursdayOf n))
  have hlt := lt_daysBeforeYear_succ_yearOf (thursdayOf n)
  rw [daysBeforeYear_succ hyear] at hlt
  have hdays : daysInYear (yearOf (thursdayOf n)) ≤ 366 := by
    unfold daysInYear
    split_ifs
    · exact le_rfl
    · omega
  unfold isocalendar
  dsimp only
  omega

/-- **Days are in one week** exactly when they have the same Monday. Source: none: infrastructure.
Kind: P -/
theorem isocalendar_eq_iff {a b : ℕ} : isocalendar a = isocalendar b ↔ a / 7 = b / 7 := by
  constructor
  · intro h
    obtain ⟨hyear, hweek⟩ := Prod.mk.inj h
    have ha := daysBeforeYear_yearOf_le (thursdayOf a)
    have hb := daysBeforeYear_yearOf_le (thursdayOf b)
    rw [← hyear] at hb hweek
    unfold thursdayOf at *
    omega
  · intro h
    unfold isocalendar thursdayOf
    rw [h]

end Calendar

open Calendar

namespace DateTime

variable (d : DateTime)

/-- **The date and time a number of microseconds after the beginning of year one**, if the calendar
has it. Source: none: infrastructure. Kind: D -/
def ofMicros? (micros : ℤ) : Option DateTime :=
  let n := micros.toNat / 1000000 / 86400
  let year := yearOf n
  let month := monthOf year (n - daysBeforeYear year)
  let day := n - daysBeforeYear year - daysBeforeMonth year month + 1
  let second := micros.toNat / 1000000
  if h : 0 ≤ micros ∧ IsDateTime year month day (second / 3600 % 24) (second / 60 % 60)
      (second % 60) (micros.toNat % 1000000) then
    some { year, month, day, hour := second / 3600 % 24, minute := second / 60 % 60,
           second := second % 60, microsecond := micros.toNat % 1000000, valid := h.2 }
  else none

/-- **What is found lies at that number of microseconds.** Source: none: infrastructure. Kind: L -/
theorem toMicros_of_ofMicros? {micros : ℤ} {d : DateTime} (h : ofMicros? micros = some d) :
    d.toMicros = micros := by
  unfold ofMicros? at h
  dsimp only at h
  split_ifs at h with hvalid
  have hyear := daysBeforeYear_yearOf_le (micros.toNat / 1000000 / 86400)
  have hmonth := daysBeforeMonth_monthOf_le (yearOf (micros.toNat / 1000000 / 86400))
    (micros.toNat / 1000000 / 86400 - daysBeforeYear (yearOf (micros.toNat / 1000000 / 86400)))
  obtain rfl := Option.some.inj h
  unfold toMicros toOrdinal secondOfDay
  dsimp only
  omega

theorem toOrdinal_lt : daysBeforeMonth d.year d.month + (d.day - 1) < daysInYear d.year := by
  obtain ⟨-, ⟨hm, hm'⟩, ⟨hd, hd'⟩, -⟩ := d.valid
  have hmono : daysBeforeMonth d.year (d.month + 1) ≤ daysBeforeMonth d.year 13 :=
    daysBeforeMonth_mono d.year (by omega)
  rw [daysBeforeMonth_thirteen, daysBeforeMonth_succ hm] at hmono
  omega

theorem toOrdinal_eq :
    d.toOrdinal = daysBeforeYear d.year + (daysBeforeMonth d.year d.month + (d.day - 1)) := by
  rw [toOrdinal, Nat.add_assoc]

theorem toMicros_nonneg : 0 ≤ d.toMicros := by
  unfold toMicros
  omega

theorem toNat_toMicros :
    d.toMicros.toNat = (d.toOrdinal * 86400 + d.secondOfDay) * 1000000 + d.microsecond := by
  unfold toMicros
  omega

theorem toNat_toMicros_second :
    d.toMicros.toNat / 1000000 = d.toOrdinal * 86400 + d.secondOfDay := by
  obtain ⟨-, -, -, -, -, -, hmicro⟩ := d.valid
  rw [toNat_toMicros]
  omega

theorem toNat_toMicros_day : d.toMicros.toNat / 1000000 / 86400 = d.toOrdinal := by
  have hlt := d.secondOfDay_lt
  rw [toNat_toMicros_second]
  omega

/-- The year, the month and the day are found again. Source: none: infrastructure. Kind: L -/
theorem date_of_toOrdinal :
    yearOf d.toOrdinal = d.year ∧ monthOf d.year (d.toOrdinal - daysBeforeYear d.year) = d.month ∧
      d.toOrdinal - daysBeforeYear d.year - daysBeforeMonth d.year d.month + 1 = d.day := by
  obtain ⟨⟨hy, -⟩, ⟨hm, hm'⟩, ⟨hd, hd'⟩, -⟩ := d.valid
  rw [toOrdinal_eq, Nat.add_sub_cancel_left, Nat.add_sub_cancel_left]
  exact ⟨yearOf_add hy d.toOrdinal_lt, monthOf_add hm hm' (by omega), Nat.sub_add_cancel hd⟩

/-- The hour, the minute, the second and the microsecond are found again.
Source: none: infrastructure. Kind: L -/
theorem time_of_toMicros :
    d.toMicros.toNat / 1000000 / 3600 % 24 = d.hour ∧
      d.toMicros.toNat / 1000000 / 60 % 60 = d.minute ∧
      d.toMicros.toNat / 1000000 % 60 = d.second ∧ d.toMicros.toNat % 1000000 = d.microsecond := by
  obtain ⟨-, -, -, hh, hmin, hs, hmicro⟩ := d.valid
  have hmicros : d.toMicros.toNat % 1000000 = d.microsecond := by
    rw [toNat_toMicros]
    omega
  rw [hmicros, toNat_toMicros_second, secondOfDay]
  omega

/-- **Every date and time is found.** Source: none: infrastructure. Kind: L -/
theorem ofMicros?_toMicros : ofMicros? d.toMicros = some d := by
  obtain ⟨hyear, hmonth, hday⟩ := d.date_of_toOrdinal
  obtain ⟨hhour, hminute, hsecond, hmicros⟩ := d.time_of_toMicros
  unfold ofMicros?
  simp only [toNat_toMicros_day, hyear, hmonth, hday, hhour, hminute, hsecond, hmicros]
  exact dif_pos ⟨d.toMicros_nonneg, d.valid⟩

/-- **Dates with one compact form are one date.** Source: none: infrastructure. Kind: L -/
theorem toOrdinal_eq_of_compactDate {d e : DateTime} (h : d.compactDate = e.compactDate) :
    d.toOrdinal = e.toOrdinal := by
  obtain ⟨⟨-, hy⟩, ⟨-, hm⟩, ⟨-, hd⟩, -⟩ := d.valid
  obtain ⟨⟨-, hy'⟩, ⟨-, hm'⟩, ⟨-, hd'⟩, -⟩ := e.valid
  have hdays := daysInMonth_le d.year d.month
  have hdays' := daysInMonth_le e.year e.month
  have hdigits : ∀ width n m : ℕ, n < 10 ^ width → m < 10 ^ width →
      digits width n = digits width m → n = m := by
    intro width n m hn hm heq
    rw [← ofDigits_digits hn, heq, ofDigits_digits hm]
  have hyear : d.year = e.year :=
    hdigits 4 _ _ (by omega) (by omega) (congrArg (List.take 4) h)
  have hmonth : d.month = e.month :=
    hdigits 2 _ _ (by omega) (by omega) (congrArg (fun cs => (cs.drop 4).take 2) h)
  have hday : d.day = e.day :=
    hdigits 2 _ _ (by omega) (by omega) (congrArg (fun cs => (cs.drop 6).take 2) h)
  unfold toOrdinal
  rw [hyear, hmonth, hday]

/-- `date().isoformat()`. Source: none: infrastructure. Kind: D -/
def isoDate : List Char :=
  digits 4 d.year ++ '-' :: digits 2 d.month ++ '-' :: digits 2 d.day

/-- **The ISO form tells dates apart.** Source: none: infrastructure. Kind: L -/
theorem isoDate_eq_iff {d e : DateTime} : d.isoDate = e.isoDate ↔ d.toOrdinal = e.toOrdinal := by
  constructor
  · intro h
    refine toOrdinal_eq_of_compactDate ?_
    exact congrArg (fun cs : List Char => cs.take 4 ++ (cs.drop 5).take 2 ++ cs.drop 8) h
  · intro h
    obtain ⟨hyear, hmonth, hday⟩ := d.date_of_toOrdinal
    obtain ⟨hyear', hmonth', hday'⟩ := e.date_of_toOrdinal
    rw [h, hyear'] at hyear
    rw [h, ← hyear, hmonth'] at hmonth
    rw [h, ← hyear, ← hmonth, hday'] at hday
    rw [isoDate, isoDate, hyear, hmonth, hday]

theorem toOrdinal_mono {d e : DateTime} (h : d.toMicros ≤ e.toMicros) :
    d.toOrdinal ≤ e.toOrdinal := by
  rw [← d.toNat_toMicros_day, ← e.toNat_toMicros_day]
  exact Nat.div_le_div_right (Nat.div_le_div_right (Int.toNat_le_toNat h))

end DateTime

end HaruTrade
