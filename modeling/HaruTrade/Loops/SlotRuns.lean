import HaruTrade.Data.LastKey
import HaruTrade.Loops.LoopB

/-!
# The slots of Loop B

Loop B remembers the last slot that it dealt with, for each ticker and timeframe. This module follows
one ticker through any number of polls, under any pattern of database failures.

* `Closes` — the minutes at which a bar of a timeframe closes, without the clock's hours and minutes.
* `mem_dueTimeframes_iff`, `slotKey_injOn` — the due timeframes are those whose bar closes, and the
  slot keys of such minutes tell them apart.
* `minutesOf_pollAll` — the minutes that are dealt with are those that a memory of the last key deals
  with.
* `count_minutesOf` — hence each minute is dealt with at most once, and exactly once when its bar
  closes and some poll of it succeeds.
-/

namespace HaruTrade

/-! ## Minutes at which bars close -/

/-- A bar of the timeframe closes at this minute since midnight of the first day: from 08:00 to 20:00,
not from 08:30 to 08:59 nor from 15:20 to 15:29, at multiples of the timeframe, and for the day at
15:30. Source: `docs/prd.md`, `tests/test_loop_b_runtime_phase5.py`. Kind: D -/
def Closes (timeframe : Timeframe) (minute : ℕ) : Prop :=
  let ofDay := minute % 1440
  (8 * 60 ≤ ofDay ∧ ofDay ≤ 20 * 60) ∧ ¬ (8 * 60 + 30 ≤ ofDay ∧ ofDay ≤ 8 * 60 + 59) ∧
    ¬ (15 * 60 + 20 ≤ ofDay ∧ ofDay ≤ 15 * 60 + 29) ∧
    match timeframe with
    | .m3 => 3 ∣ ofDay
    | .m5 => 5 ∣ ofDay
    | .m15 => 15 ∣ ofDay
    | .m60 => 60 ∣ ofDay
    | .d1 => ofDay = 15 * 60 + 30

instance (timeframe : Timeframe) (minute : ℕ) : Decidable (Closes timeframe minute) := by
  unfold Closes
  cases timeframe <;> exact inferInstance

namespace MarketSchedule

variable {now a b : Time} {timeframe : Timeframe}

/-- The minutes of the clock at which a timeframe is due, within the hours of the market.
Source: `app/loops/loop_b_runtime.py` `MarketSchedule.due_timeframes`. Kind: D -/
def DueAt (hh mm : ℕ) : Timeframe → Prop
  | .m3 => mm % 3 = 0
  | .m5 => mm % 5 = 0
  | .m15 => mm % 15 = 0
  | .m60 => mm = 0
  | .d1 => hh = 15 ∧ mm = 30

theorem mem_dueTimeframes_clock {hh mm : ℕ} (hhour : Time.hour now = hh)
    (hminute : Time.minute now = mm) :
    timeframe ∈ dueTimeframes now ↔
      ¬ ((hh = 8 ∧ 30 ≤ mm ∧ mm < 60) ∨ (hh = 15 ∧ 20 ≤ mm ∧ mm < 30)) ∧
        ¬ (hh * 60 + mm < 8 * 60 ∨ 20 * 60 < hh * 60 + mm) ∧ DueAt hh mm timeframe := by
  unfold dueTimeframes
  dsimp only
  rw [hhour, hminute]
  by_cases hauction : (hh = 8 ∧ 30 ≤ mm ∧ mm < 60) ∨ (hh = 15 ∧ 20 ≤ mm ∧ mm < 30)
  · rw [if_pos hauction]
    exact iff_of_false List.not_mem_nil fun h => h.1 hauction
  · rw [if_neg hauction, and_iff_right hauction]
    by_cases hclosed : hh * 60 + mm < 8 * 60 ∨ 20 * 60 < hh * 60 + mm
    · rw [if_pos hclosed]
      exact iff_of_false List.not_mem_nil fun h => h.1 hclosed
    · rw [if_neg hclosed, and_iff_right hclosed]
      simp only [List.mem_append, List.mem_ite_nil_right, List.mem_singleton]
      cases timeframe <;> simp [DueAt]

/-- Whether a bar closes, by the hour and the minute of the clock. Source:
`app/loops/loop_b_runtime.py` `MarketSchedule.due_timeframes`. Kind: L -/
theorem closes_iff_clock {ofDay minute : ℕ} (hofDay : minute % 1440 = ofDay) :
    Closes timeframe minute ↔
      ¬ ((ofDay / 60 = 8 ∧ 30 ≤ ofDay % 60 ∧ ofDay % 60 < 60) ∨
          (ofDay / 60 = 15 ∧ 20 ≤ ofDay % 60 ∧ ofDay % 60 < 30)) ∧
        ¬ (ofDay / 60 * 60 + ofDay % 60 < 8 * 60 ∨ 20 * 60 < ofDay / 60 * 60 + ofDay % 60) ∧
          DueAt (ofDay / 60) (ofDay % 60) timeframe := by
  have hhours : ¬ (ofDay / 60 * 60 + ofDay % 60 < 8 * 60 ∨ 20 * 60 < ofDay / 60 * 60 + ofDay % 60) ↔
      8 * 60 ≤ ofDay ∧ ofDay ≤ 20 * 60 := by omega
  have hauction : ¬ ((ofDay / 60 = 8 ∧ 30 ≤ ofDay % 60 ∧ ofDay % 60 < 60) ∨
        (ofDay / 60 = 15 ∧ 20 ≤ ofDay % 60 ∧ ofDay % 60 < 30)) ↔
      ¬ (8 * 60 + 30 ≤ ofDay ∧ ofDay ≤ 8 * 60 + 59) ∧
        ¬ (15 * 60 + 20 ≤ ofDay ∧ ofDay ≤ 15 * 60 + 29) := by omega
  have hdue : DueAt (ofDay / 60) (ofDay % 60) timeframe ↔
      match timeframe with
      | .m3 => 3 ∣ ofDay
      | .m5 => 5 ∣ ofDay
      | .m15 => 15 ∣ ofDay
      | .m60 => 60 ∣ ofDay
      | .d1 => ofDay = 15 * 60 + 30 := by
    cases timeframe <;> simp only [DueAt] <;> omega
  unfold Closes
  dsimp only
  rw [hofDay, hhours, hauction, hdue]
  exact ⟨fun ⟨h₁, h₂, h₃, h₄⟩ => ⟨⟨h₂, h₃⟩, h₁, h₄⟩, fun ⟨⟨h₂, h₃⟩, h₁, h₄⟩ => ⟨h₁, h₂, h₃, h₄⟩⟩

/-- **The due timeframes are those whose bar closes.** Source: `app/loops/loop_b_runtime.py`
`MarketSchedule.due_timeframes`. Kind: L -/
theorem mem_dueTimeframes_iff :
    timeframe ∈ dueTimeframes now ↔ Closes timeframe (now / 60) := by
  have hhour : Time.hour now = now / 60 % 1440 / 60 := by
    unfold Time.hour
    omega
  have hminute : Time.minute now = now / 60 % 1440 % 60 := by
    unfold Time.minute
    omega
  exact (mem_dueTimeframes_clock hhour hminute).trans (closes_iff_clock rfl).symm

theorem nodup_dueTimeframes : (dueTimeframes now).Nodup := by
  unfold dueTimeframes
  dsimp only
  split_ifs <;> decide

/-- The slot key depends on the minute alone. Source: `app/loops/loop_b_runtime.py`
`MarketSchedule.slot_key`. Kind: L -/
theorem slotKey_minute : slotKey now timeframe = slotKey (now / 60 * 60) timeframe := by
  have hday : Time.day (now / 60 * 60) = Time.day now := by
    unfold Time.day
    omega
  have hhour : Time.hour (now / 60 * 60) = Time.hour now := by
    unfold Time.hour
    omega
  have hminute : Time.minute (now / 60 * 60) = Time.minute now := by
    unfold Time.minute
    omega
  cases timeframe <;> simp only [slotKey, hday, hhour, hminute]

/-- Minutes of one day, hour and minute of the hour are one minute. Source: none: infrastructure.
Kind: L -/
theorem minute_eq_of_clock {a b : ℕ} (hday : Time.day (a * 60) = Time.day (b * 60))
    (hhour : Time.hour (a * 60) = Time.hour (b * 60))
    (hminute : Time.minute (a * 60) = Time.minute (b * 60)) : a = b := by
  unfold Time.day at hday
  unfold Time.hour at hhour
  unfold Time.minute at hminute
  omega

/-- A minute of the day that a number of minutes of the hour divides is a multiple of it in its hour.
Source: none: infrastructure. Kind: L -/
theorem minute_of_dvd {n minute : ℕ} (hn : n ∣ 60) (h : n ∣ minute % 1440) :
    Time.minute (minute * 60) / n * n = Time.minute (minute * 60) := by
  refine Nat.div_mul_cancel ?_
  have hmod : Time.minute (minute * 60) = minute % 1440 % 60 := by
    unfold Time.minute
    omega
  rw [hmod]
  exact (Nat.dvd_mod_iff hn).mpr h

/-- Minutes of the day that a number of minutes of the hour divides are told apart by a slot that is
rounded down to it. Source: `app/loops/loop_b_runtime.py` `MarketSchedule.slot_key`. Kind: L -/
theorem minute_eq_of_rounded {n a b : ℕ} (hn : n ∣ 60) (ha : n ∣ a % 1440) (hb : n ∣ b % 1440)
    (hslot : (⟨Time.day (a * 60), some (Time.hour (a * 60), Time.minute (a * 60) / n * n)⟩ : Slot) =
      ⟨Time.day (b * 60), some (Time.hour (b * 60), Time.minute (b * 60) / n * n)⟩) : a = b := by
  rw [minute_of_dvd hn ha, minute_of_dvd hn hb] at hslot
  obtain ⟨hday, hclock⟩ := Slot.mk.inj hslot
  obtain ⟨hhour, hminute⟩ := Prod.mk.inj (Option.some.inj hclock)
  exact minute_eq_of_clock hday hhour hminute

/-- **The slot keys tell the minutes apart at which a bar closes.**
Source: `app/loops/loop_b_runtime.py` `MarketSchedule.slot_key`. Kind: L -/
theorem slotKey_injOn :
    Set.InjOn (fun minute => slotKey (minute * 60) timeframe) {minute | Closes timeframe minute} := by
  intro a ha b hb hkey
  obtain ⟨-, -, -, ha⟩ := ha
  obtain ⟨-, -, -, hb⟩ := hb
  dsimp only at hkey
  cases timeframe with
  | m3 => exact minute_eq_of_rounded (by decide) ha hb hkey
  | m5 => exact minute_eq_of_rounded (by decide) ha hb hkey
  | m15 => exact minute_eq_of_rounded (by decide) ha hb hkey
  | m60 =>
      -- the key leaves the minute out, which is zero at both
      simp only [slotKey, Slot.mk.injEq, Option.some.injEq, Prod.mk.injEq, and_true] at hkey
      refine minute_eq_of_clock hkey.1 hkey.2 ?_
      dsimp only at ha hb
      unfold Time.minute
      omega
  | d1 =>
      -- the key leaves hour and minute out, which are those of the close at both
      simp only [slotKey, Slot.mk.injEq, and_true] at hkey
      dsimp only at ha hb
      refine minute_eq_of_clock hkey ?_ ?_
      · unfold Time.hour
        omega
      · unfold Time.minute
        omega

end MarketSchedule

/-! ## The polls of one ticker -/

/-- A poll of Loop B for a ticker: the time it reads, and what `_sync_and_scan` of each timeframe comes
to when it is called, the number of signals or nothing for a `SQLAlchemyError`.
Source: `app/loops/loop_b_runtime.py` `LoopBRunner.run_once_for_ticker`. Kind: D -/
structure Poll where
  now : Time
  sync : Timeframe → Option ℕ

/-- What is remembered of a ticker: the last slot of each timeframe. The timeframe and the time of each
`_sync_and_scan` that was completed is recorded beside it. Source:
`app/loops/loop_b_runtime.py` `LoopBRunner.__init__`. Kind: D -/
structure SlotMemory where
  processed : Timeframe → Option Slot := fun _ => none
  completed : List (Timeframe × Time) := []

namespace SlotMemory

/-- A completed `_sync_and_scan`. Source: `app/loops/loop_b_runtime.py`
`LoopBRunner.run_once_for_ticker`. Kind: D -/
def complete (m : SlotMemory) (timeframe : Timeframe) (now : Time) : SlotMemory where
  processed := Function.update m.processed timeframe
    (some (MarketSchedule.slotKey now timeframe))
  completed := m.completed ++ [(timeframe, now)]

/-- The minutes at which a timeframe was completed. Source: none: infrastructure. Kind: D -/
def minutesOf (m : SlotMemory) (timeframe : Timeframe) : List ℕ :=
  (m.completed.filter fun done => done.1 = timeframe).map fun done => done.2 / 60

variable {m : SlotMemory} {timeframe tf : Timeframe} {now : Time}

theorem processed_complete_self :
    (m.complete timeframe now).processed timeframe =
      some (MarketSchedule.slotKey now timeframe) := Function.update_self _ _ _

theorem processed_complete_of_ne (h : tf ≠ timeframe) :
    (m.complete timeframe now).processed tf = m.processed tf := Function.update_of_ne h _ _

theorem minutesOf_complete_self :
    (m.complete timeframe now).minutesOf timeframe = m.minutesOf timeframe ++ [now / 60] := by
  simp [minutesOf, complete, List.filter_append]

theorem minutesOf_complete_of_ne (h : tf ≠ timeframe) :
    (m.complete timeframe now).minutesOf tf = m.minutesOf tf := by
  simp [minutesOf, complete, List.filter_append, h.symm]

/-- What is remembered and recorded of one timeframe. Source: none: infrastructure. Kind: D -/
structure OfTimeframe (m : SlotMemory) (timeframe : Timeframe) (slot : Option Slot)
    (minutes : List ℕ) : Prop where
  processed : m.processed timeframe = slot
  minutesOf : m.minutesOf timeframe = minutes

theorem OfTimeframe.complete_of_ne {slot : Option Slot} {minutes : List ℕ}
    (h : m.OfTimeframe tf slot minutes) (hne : tf ≠ timeframe) :
    (m.complete timeframe now).OfTimeframe tf slot minutes :=
  ⟨(processed_complete_of_ne hne).trans h.1, (minutesOf_complete_of_ne hne).trans h.2⟩

end SlotMemory

namespace LoopBRunner

/-- The due timeframes one after another, with the number of signals so far.
Source: `app/loops/loop_b_runtime.py` `LoopBRunner.run_once_for_ticker`. Kind: D -/
def pollTimeframes (p : Poll) : List Timeframe → SlotMemory → ℕ → ℕ × SlotMemory
  | [], m, produced => (produced, m)
  | timeframe :: due, m, produced =>
    if m.processed timeframe = some (MarketSchedule.slotKey p.now timeframe) then
      pollTimeframes p due m produced
    else
      match p.sync timeframe with
      | none => pollTimeframes p due m produced
      | some n => pollTimeframes p due (m.complete timeframe p.now) (produced + n)

/-- **One poll.** Source: `app/loops/loop_b_runtime.py` `LoopBRunner.run_once_for_ticker`. Kind: D -/
def pollOnce (m : SlotMemory) (p : Poll) : ℕ × SlotMemory :=
  pollTimeframes p (MarketSchedule.dueTimeframes p.now) m 0

/-- The memory after some polls. Source: `app/loops/loop_b_runtime.py`
`LoopBRunner.run_once_for_ticker`. Kind: D -/
def pollAll (ps : List Poll) (m : SlotMemory) : SlotMemory :=
  ps.foldl (fun m p => (pollOnce m p).2) m

variable {p : Poll} {ps : List Poll} {m : SlotMemory} {timeframe : Timeframe}
  {due : List Timeframe} {produced : ℕ}

/-! ## One timeframe in a poll -/

/-- A timeframe is left alone when it is not due, when its slot is remembered, and when its sync fails.
Source: `app/loops/loop_b_runtime.py` `LoopBRunner.run_once_for_ticker`. Kind: L -/
theorem pollTimeframes_unchanged {slot : Option Slot} {minutes : List ℕ}
    (hleft : timeframe ∉ due ∨ slot = some (MarketSchedule.slotKey p.now timeframe) ∨
      p.sync timeframe = none) (h : m.OfTimeframe timeframe slot minutes) :
    (pollTimeframes p due m produced).2.OfTimeframe timeframe slot minutes := by
  induction due generalizing m produced with
  | nil => exact h
  | cons first due ih =>
      have hrest := hleft.imp_left fun hnot hmem => hnot (List.mem_cons_of_mem first hmem)
      unfold pollTimeframes
      split_ifs with hskip
      · exact ih hrest h
      · cases hsync : p.sync first with
        | none => exact ih hrest h
        | some n =>
            refine ih hrest (h.complete_of_ne ?_)
            rintro rfl
            rcases hleft with hnot | hslot | hnone
            · exact hnot List.mem_cons_self
            · exact hskip (h.1.trans hslot)
            · exact absurd (hnone.symm.trans hsync) (Option.some_ne_none n).symm

/-- A due timeframe whose slot is not remembered is completed when its sync succeeds.
Source: `app/loops/loop_b_runtime.py` `LoopBRunner.run_once_for_ticker`. Kind: L -/
theorem pollTimeframes_completed {slot : Option Slot} {minutes : List ℕ} {n : ℕ}
    (hdue : timeframe ∈ due) (hslot : slot ≠ some (MarketSchedule.slotKey p.now timeframe))
    (hsync : p.sync timeframe = some n) (h : m.OfTimeframe timeframe slot minutes) :
    (pollTimeframes p due m produced).2.OfTimeframe timeframe
      (some (MarketSchedule.slotKey p.now timeframe)) (minutes ++ [p.now / 60]) := by
  induction due generalizing m produced with
  | nil => exact absurd hdue List.not_mem_nil
  | cons first due ih =>
      unfold pollTimeframes
      by_cases hfirst : timeframe = first
      · subst hfirst
        rw [if_neg (h.1 ▸ hslot), hsync]
        refine pollTimeframes_unchanged (Or.inr (Or.inl rfl)) ⟨?_, ?_⟩
        · exact SlotMemory.processed_complete_self
        · rw [SlotMemory.minutesOf_complete_self, h.2]
      · have hmem : timeframe ∈ due := (List.mem_cons.mp hdue).resolve_left hfirst
        split_ifs
        · exact ih hmem h
        · cases p.sync first with
          | none => exact ih hmem h
          | some n => exact ih hmem (h.complete_of_ne hfirst)

/-! ## Runs -/

/-- The attempts at the bars of a timeframe, with the minute and whether the sync succeeds: one for
each poll at which the timeframe is due. Source: none: infrastructure. Kind: D -/
def attempts (timeframe : Timeframe) (ps : List Poll) : List (ℕ × Bool) :=
  (ps.filter fun p => timeframe ∈ MarketSchedule.dueTimeframes p.now).map fun p =>
    (p.now / 60, (p.sync timeframe).isSome)

/-- The slot key of a minute. Source: `app/loops/loop_b_runtime.py` `MarketSchedule.slot_key`.
Kind: D -/
def minuteKey (timeframe : Timeframe) (minute : ℕ) : Slot :=
  MarketSchedule.slotKey (minute * 60) timeframe

/-- **The minutes that are dealt with are those that a memory of the last key deals with.**
Source: `app/loops/loop_b_runtime.py` `LoopBRunner.run_once_for_ticker`. Kind: L -/
theorem minutesOf_pollAll {slot : Option Slot} {minutes : List ℕ}
    (h : m.OfTimeframe timeframe slot minutes) :
    (pollAll ps m).minutesOf timeframe =
      minutes ++ dealtWith (minuteKey timeframe) slot (attempts timeframe ps) := by
  induction ps generalizing m slot minutes with
  | nil => rw [attempts, List.filter_nil, List.map_nil, dealtWith, List.append_nil]; exact h.2
  | cons p ps ih =>
      have hkey : MarketSchedule.slotKey p.now timeframe = minuteKey timeframe (p.now / 60) :=
        MarketSchedule.slotKey_minute
      show (pollAll ps (pollOnce m p).2).minutesOf timeframe = _
      unfold attempts
      by_cases hdue : timeframe ∈ MarketSchedule.dueTimeframes p.now
      · rw [List.filter_cons_of_pos (by exact decide_eq_true hdue), List.map_cons, dealtWith]
        by_cases hslot : slot = some (minuteKey timeframe (p.now / 60))
        · rw [if_pos hslot]
          exact ih (pollTimeframes_unchanged (Or.inr (Or.inl (hkey ▸ hslot))) h)
        · rw [if_neg hslot]
          cases hsync : p.sync timeframe with
          | none => exact ih (pollTimeframes_unchanged (Or.inr (Or.inr hsync)) h)
          | some n =>
              have hstep : (pollOnce m p).2.OfTimeframe timeframe
                  (some (minuteKey timeframe (p.now / 60))) (minutes ++ [p.now / 60]) :=
                hkey ▸ pollTimeframes_completed hdue (hkey ▸ hslot) hsync h
              rw [ih hstep, List.append_assoc]
              rfl
      · rw [List.filter_cons_of_neg (by rw [decide_eq_false hdue]; exact Bool.false_ne_true)]
        exact ih (pollTimeframes_unchanged (Or.inl hdue) h)

/-- **How often a minute is dealt with**: once when a bar of the timeframe closes at it and some poll
of it succeeds, and never otherwise. Source: `app/loops/loop_b_runtime.py`
`LoopBRunner.run_once_for_ticker`. Kind: L -/
theorem count_minutesOf (hmono : ps.Pairwise fun p q => p.now ≤ q.now) (minute : ℕ)
    [Decidable (∃ p ∈ ps, p.now / 60 = minute ∧ (p.sync timeframe).isSome = true)] :
    ((pollAll ps {}).minutesOf timeframe).count minute =
      if Closes timeframe minute ∧ ∃ p ∈ ps, p.now / 60 = minute ∧ (p.sync timeframe).isSome = true
      then 1 else 0 := by
  have hmem : ∀ minute succeeds, (minute, succeeds) ∈ attempts timeframe ps ↔
      Closes timeframe minute ∧
        ∃ p ∈ ps, p.now / 60 = minute ∧ (p.sync timeframe).isSome = succeeds := by
    intro minute succeeds
    unfold attempts
    rw [List.mem_map]
    constructor
    · rintro ⟨p, hp, hpair⟩
      obtain ⟨hp, hdue⟩ := List.mem_filter.mp hp
      obtain ⟨rfl, rfl⟩ := Prod.mk.inj hpair
      exact ⟨MarketSchedule.mem_dueTimeframes_iff.mp (of_decide_eq_true hdue), p, hp, rfl, rfl⟩
    · rintro ⟨hcloses, p, hp, rfl, rfl⟩
      exact ⟨p, List.mem_filter.mpr
        ⟨hp, decide_eq_true (MarketSchedule.mem_dueTimeframes_iff.mpr hcloses)⟩, rfl⟩
  have hinj : Set.InjOn (minuteKey timeframe) {minute | ∃ s, (minute, s) ∈ attempts timeframe ps} :=
    MarketSchedule.slotKey_injOn.mono fun minute ⟨s, hs⟩ => ((hmem minute s).mp hs).1
  have hsorted : (attempts timeframe ps).Pairwise fun p q => p.1 ≤ q.1 := by
    unfold attempts
    rw [List.pairwise_map]
    exact (hmono.filter _).imp fun hle => Nat.div_le_div_right hle
  rw [minutesOf_pollAll ⟨rfl, rfl⟩]
  show ((dealtWith (minuteKey timeframe) none (attempts timeframe ps))).count minute = _
  rw [count_dealtWith hinj hsorted minute]
  exact if_congr (hmem minute true) rfl rfl

/-- **Loop B completes each bar once.** For polls of a ticker in the order of their times, under any
pattern of database failures, `_sync_and_scan` is completed at most once for each timeframe and minute;
and at a minute with a poll that succeeds it is completed exactly when a bar of the timeframe closes.
Source: `app/loops/loop_b_runtime.py` `LoopBRunner.run_once_for_ticker`. Kind: P -/
theorem completes_each_bar_once (ps : List Poll) (hmono : ps.Pairwise fun p q => p.now ≤ q.now) :
    (∀ timeframe minute, ((pollAll ps {}).minutesOf timeframe).count minute ≤ 1) ∧
      ∀ timeframe minute,
        (∃ p ∈ ps, p.now / 60 = minute ∧ (p.sync timeframe).isSome = true) →
          (((pollAll ps {}).minutesOf timeframe).count minute = 1 ↔ Closes timeframe minute) := by
  refine ⟨fun timeframe minute => ?_, fun timeframe minute hpoll => ?_⟩
  · rw [count_minutesOf hmono minute]
    split_ifs
    · exact le_rfl
    · exact Nat.zero_le 1
  · rw [count_minutesOf hmono minute]
    by_cases hcloses : Closes timeframe minute
    · rw [if_pos ⟨hcloses, hpoll⟩]
      exact iff_of_true rfl hcloses
    · rw [if_neg fun h => hcloses h.1]
      exact iff_of_false (by decide) hcloses

/-- Three polls at nine o'clock; the first fails. Source: `tests/test_loop_b_runtime_phase5.py`.
Kind: D -/
def pollsAtNine : List Poll :=
  [⟨32400, fun _ => none⟩, ⟨32420, fun _ => some 1⟩, ⟨32440, fun _ => some 1⟩]

/-- The statement about three polls at nine o'clock. Source: `tests/test_loop_b_runtime_phase5.py`.
Kind: P -/
theorem completes_each_bar_once_at_nine :
    (∀ timeframe minute, ((pollAll pollsAtNine {}).minutesOf timeframe).count minute ≤ 1) ∧
      ((pollAll pollsAtNine {}).minutesOf .m5).count 540 = 1 :=
  have h := completes_each_bar_once pollsAtNine (by decide)
  ⟨h.1, (h.2 .m5 540 ⟨⟨32420, fun _ => some 1⟩, by simp [pollsAtNine], by decide, rfl⟩).mpr
    (by decide)⟩

end LoopBRunner

end HaruTrade
