import Mathlib.Data.List.Nodup
import Mathlib.Data.List.Perm.Basic
import HaruTrade.Data.Machine
import HaruTrade.Data.Ordinal
import HaruTrade.Domain.Models

/-!
# Reports once per day and per week

`DailyIncidentReporter` sends a report through an alert sink. A call checks the last period that was
recorded, hands the report over, waits, and records the period when the sink has accepted the report.
Calls are switched at their one `await`, so a step of the machine is a call up to its `await`, or what
is left of a call after it.

* `begin`, `answered` — the two halves of a call.
* `machine` — the calls on one reporter; what the sink will answer is an input.
* `Accounted` — a report that was sent is recorded, or a call waits to record it.
* `reports_once_iff` — **at most one report of a day or an ISO week is sent in a run if and only if no
  call passes its guard while a report of its period waits to be recorded or was recorded before.**
* `skipped_was_sent` — a call is skipped only when a report of its period has been sent.
-/

namespace HaruTrade

open Calendar

/-! ## Calls -/

/-- A report, by the days that it is about. Source: `app/services/daily_report.py`
`DailyIncidentReporter`. Kind: D -/
inductive Report where
  | daily (day : ℕ)
  | weekly (startDay endDay : ℕ)
  deriving DecidableEq, Repr

/-- The days and the weeks. Source: `app/services/daily_report.py` `DailyIncidentReporter`.
Kind: D -/
inductive Period where
  | day (day : ℕ)
  | week (year week : ℕ)
  deriving DecidableEq, Repr

/-- Source: `app/services/daily_report.py` `DailyIncidentReporter`. Kind: D -/
def Report.period : Report → Period
  | .daily day => .day day
  | .weekly _ endDay => .week (isocalendar endDay).1 (isocalendar endDay).2

/-- A call of the reporter; days are numbered from 1 January of year one.
Source: `app/services/daily_report.py` `DailyIncidentReporter.send_report_once_per_day`,
`DailyIncidentReporter.send_weekly_report_once_per_week`. Kind: D -/
inductive ReportCall where
  | daily (day : ℕ)
  | weekly (endDay : ℕ) (days : ℤ)
  deriving DecidableEq, Repr

/-- What a call has done when it returns, raises or waits for the sink.
Source: `app/services/daily_report.py` `DailyIncidentReporter.send_report`. Kind: D -/
inductive UpToAwait where
  | returned (sent : Bool)
  | raised (x : Exn)
  | awaiting (report : Report)
  deriving DecidableEq, Repr

/-- `f"{iso.year}-W{iso.week:02d}"`. Source: `app/services/daily_report.py`
`DailyIncidentReporter.send_weekly_report`. Kind: D -/
def weeklyKey (endDay : ℕ) : String :=
  String.ofList (Nat.toDigits 10 (isocalendar endDay).1 ++ ['-', 'W'] ++
    digits 2 (isocalendar endDay).2)

/-- Source: `app/services/daily_report.py` `DailyIncidentReporter.__init__`. Kind: D -/
structure DailyIncidentReporter where
  alertSink : Bool
  lastSentDay : Option ℕ := none
  lastWeeklySentKey : Option String := none
  deriving DecidableEq, Repr

namespace DailyIncidentReporter

variable (r : DailyIncidentReporter)

/-- Source: `app/services/daily_report.py` `DailyIncidentReporter.send_report`. Kind: D -/
def sendReport (day : ℕ) : UpToAwait :=
  if r.alertSink then .awaiting (.daily day) else .returned false

/-- Source: `app/services/daily_report.py` `DailyIncidentReporter.send_report_once_per_day`.
Kind: D -/
def sendReportOncePerDay (day : ℕ) : UpToAwait :=
  if r.lastSentDay = some day then .returned false else r.sendReport day

/-- The first day has to be in the calendar. Source: `app/services/daily_report.py`
`DailyIncidentReporter.send_weekly_report`, `DailyIncidentReporter.build_weekly_report_text`.
Kind: D -/
def sendWeeklyReport (endDay : ℕ) (days : ℤ) : UpToAwait :=
  if r.alertSink then
    let back := (max (days - 1) 0).toNat
    if endDay < back then .raised (.other "date value out of range")
    else .awaiting (.weekly (endDay - back) endDay)
  else .returned false

/-- Source: `app/services/daily_report.py`
`DailyIncidentReporter.send_weekly_report_once_per_week`. Kind: D -/
def sendWeeklyReportOncePerWeek (endDay : ℕ) (days : ℤ) : UpToAwait :=
  if r.lastWeeklySentKey = some (weeklyKey endDay) then .returned false
  else r.sendWeeklyReport endDay days

/-- **A call up to its `await`.** Source: `app/services/daily_report.py`
`DailyIncidentReporter.send_report_once_per_day`,
`DailyIncidentReporter.send_weekly_report_once_per_week`. Kind: D -/
def begin : ReportCall → UpToAwait
  | .daily day => r.sendReportOncePerDay day
  | .weekly endDay days => r.sendWeeklyReportOncePerWeek endDay days

/-- `if ok:` after the `await`. Source: `app/services/daily_report.py`
`DailyIncidentReporter.send_report`, `DailyIncidentReporter.send_weekly_report`. Kind: D -/
def record : Report → DailyIncidentReporter
  | .daily day => { r with lastSentDay := some day }
  | .weekly _ endDay => { r with lastWeeklySentKey := some (weeklyKey endDay) }

/-- The sink has accepted the report: it has answered, and with a true value.
Source: `app/services/daily_report.py` `AlertSink.send_message`. Kind: D -/
def accepts : Except Exn Bool → Bool
  | .ok ok => ok
  | .error _ => false

/-- **A call after its `await`**; an exception of the sink passes through.
Source: `app/services/daily_report.py` `DailyIncidentReporter.send_report`,
`DailyIncidentReporter.send_weekly_report`. Kind: D -/
def answered (report : Report) (answer : Except Exn Bool) : DailyIncidentReporter :=
  if accepts answer then r.record report else r

/-- The reporter remembers the period of the report. Source: `app/services/daily_report.py`
`DailyIncidentReporter`. Kind: D -/
def Remembers : Report → Prop
  | .daily day => r.lastSentDay = some day
  | .weekly _ endDay => r.lastWeeklySentKey = some (weeklyKey endDay)

/-! ## Runs -/

/-- The reporter, the calls that wait for the sink with what it will answer, and two ghosts: the
reports that were recorded, and those that were sent. Source: `app/services/daily_report.py`
`DailyIncidentReporter`. Kind: D -/
structure Reporting where
  reporter : DailyIncidentReporter
  waiting : List (Report × Except Exn Bool) := []
  recorded : List Report := []
  sent : List Report := []

/-- A call comes, with what the sink will answer it, or a waiting call goes on.
Source: none: infrastructure. Kind: D -/
inductive ReportAct where
  | call (call : ReportCall) (answer : Except Exn Bool)
  | resume (i : ℕ)

/-- **One step.** Source: `app/services/daily_report.py` `DailyIncidentReporter`. Kind: D -/
def step (s : Reporting) : ReportAct → Reporting × Option (Except Exn Bool)
  | .call call answer =>
    match s.reporter.begin call with
    | .returned sent => (s, some (.ok sent))
    | .raised x => (s, some (.error x))
    | .awaiting report =>
      ({ s with
          waiting := s.waiting ++ [(report, answer)]
          sent := if accepts answer then s.sent ++ [report] else s.sent }, none)
  | .resume i =>
    match s.waiting[i]? with
    | none => (s, none)
    | some (report, answer) =>
      ({ s with
          reporter := s.reporter.answered report answer
          waiting := s.waiting.eraseIdx i
          recorded := if accepts answer then s.recorded ++ [report] else s.recorded },
        some answer)

/-- Source: none: infrastructure. Kind: D -/
def machine : Machine Reporting ReportAct (Option (Except Exn Bool)) := ⟨step⟩

/-- A reporter that nothing was asked of yet. Source: `app/services/daily_report.py`
`DailyIncidentReporter.__init__`. Kind: D -/
def fresh (alertSink : Bool) : Reporting where
  reporter := { alertSink }

/-- **The guard is right**: when a call has passed it and the sink accepts its report, no accepted
report of the period waits to be recorded, and none was recorded that the reporter has forgotten.
Source: `app/services/daily_report.py` `DailyIncidentReporter`. Kind: D -/
def Clear (s : Reporting) : ReportAct → Prop
  | .call call answer => ∀ report, s.reporter.begin call = .awaiting report →
      accepts answer = true →
        (∀ x ∈ s.waiting, accepts x.2 = true → x.1.period ≠ report.period) ∧
          ∀ old ∈ s.recorded, old.period = report.period → s.reporter.Remembers old
  | .resume _ => True

/-! ## Keys -/

section keys

variable {a b : ℕ}

theorem toDigits_inj {m n : ℕ} (h : Nat.toDigits 10 m = Nat.toDigits 10 n) : m = n := by
  rw [← Nat.ofDigitChars_toDigits (b := 10) (n := m) (by decide) (by decide), h,
    Nat.ofDigitChars_toDigits (by decide) (by decide)]

/-- **The key tells the ISO weeks apart.** Source: `app/services/daily_report.py`
`DailyIncidentReporter.send_weekly_report`. Kind: L -/
theorem weeklyKey_eq_iff : weeklyKey a = weeklyKey b ↔ isocalendar a = isocalendar b := by
  constructor
  · intro h
    rw [weeklyKey, weeklyKey, String.ofList_inj] at h
    obtain ⟨hfront, hweek⟩ := List.append_inj' h (by simp)
    obtain ⟨hyear, -⟩ := List.append_inj' hfront rfl
    have ha : ofDigits (digits 2 (isocalendar a).2) = (isocalendar a).2 :=
      ofDigits_digits (isocalendar_week_lt a)
    have hb : ofDigits (digits 2 (isocalendar b).2) = (isocalendar b).2 :=
      ofDigits_digits (isocalendar_week_lt b)
    exact Prod.ext (toDigits_inj hyear) (ha.symm.trans ((congrArg ofDigits hweek).trans hb))
  · intro h
    rw [weeklyKey, weeklyKey, h]

variable {r : DailyIncidentReporter} {report old : Report} {call : ReportCall}

/-- Reports of one period are remembered together. Source: `app/services/daily_report.py`
`DailyIncidentReporter`. Kind: L -/
theorem remembers_congr (h : old.period = report.period) :
    r.Remembers old ↔ r.Remembers report := by
  cases old with
  | daily day =>
      cases report with
      | daily day' =>
          obtain rfl := Period.day.inj h
          exact Iff.rfl
      | weekly startDay endDay => cases h
  | weekly startDay endDay =>
      cases report with
      | daily day' => cases h
      | weekly startDay' endDay' =>
          obtain ⟨hyear, hweek⟩ := Period.week.inj h
          show r.lastWeeklySentKey = some (weeklyKey endDay) ↔ r.lastWeeklySentKey = some _
          rw [weeklyKey_eq_iff.mpr (Prod.ext hyear hweek)]

/-- **A call that has passed its guard** is of a period that is not remembered.
Source: `app/services/daily_report.py` `DailyIncidentReporter.send_report_once_per_day`,
`DailyIncidentReporter.send_weekly_report_once_per_week`. Kind: L -/
theorem not_remembers_of_begin (h : r.begin call = .awaiting report) : ¬ r.Remembers report := by
  cases call with
  | daily day =>
      simp only [begin, sendReportOncePerDay, sendReport] at h
      split_ifs at h with hguard
      obtain rfl := UpToAwait.awaiting.inj h
      exact hguard
  | weekly endDay days =>
      simp only [begin, sendWeeklyReportOncePerWeek, sendWeeklyReport] at h
      split_ifs at h with hguard
      obtain rfl := UpToAwait.awaiting.inj h
      exact hguard

/-- After a report was recorded, the reporter remembers its period, and of the other kind what it
remembered before. Source: `app/services/daily_report.py` `DailyIncidentReporter.send_report`,
`DailyIncidentReporter.send_weekly_report`. Kind: L -/
theorem remembers_record (h : (r.record report).Remembers old) :
    old.period = report.period ∨ r.Remembers old := by
  cases report with
  | daily day =>
      cases old with
      | daily day' => exact Or.inl (congrArg Period.day (Option.some.inj h).symm)
      | weekly startDay endDay => exact Or.inr h
  | weekly startDay endDay =>
      cases old with
      | daily day' => exact Or.inr h
      | weekly startDay' endDay' =>
          have hweek := weeklyKey_eq_iff.mp (Option.some.inj h)
          refine Or.inl ?_
          rw [Report.period, Report.period, hweek]

end keys

/-! ## What is sent -/

/-- The accepted reports that wait to be recorded. Source: none: infrastructure. Kind: D -/
def acceptedIn (waiting : List (Report × Except Exn Bool)) : List Report :=
  (waiting.filter fun x => accepts x.2).map Prod.fst

/-- **Every report that was sent is recorded, or waits to be**, and the reporter remembers nothing
that was not recorded. Source: `app/services/daily_report.py` `DailyIncidentReporter`. Kind: D -/
structure Accounted (s : Reporting) : Prop where
  sent : s.sent.Perm (s.recorded ++ acceptedIn s.waiting)
  remembered : ∀ report, s.reporter.Remembers report →
    ∃ old ∈ s.recorded, old.period = report.period

section runs

variable {s : Reporting} {act : ReportAct} {acts : List ReportAct} {report : Report}
  {answer : Except Exn Bool} {alertSink : Bool}

theorem accounted_fresh : Accounted (fresh alertSink) where
  sent := List.Perm.refl []
  remembered := by
    intro report h
    cases report with
    | daily day => cases h
    | weekly startDay endDay => cases h

theorem acceptedIn_cons {waiting : List (Report × Except Exn Bool)} :
    acceptedIn ((report, answer) :: waiting) =
      (if accepts answer then [report] else []) ++ acceptedIn waiting := by
  unfold acceptedIn
  rw [List.filter_cons]
  split_ifs
  · rfl
  · rfl

/-- A call that goes on was one of those that wait. Source: none: infrastructure. Kind: L -/
theorem acceptedIn_perm {i : ℕ} (hi : s.waiting[i]? = some (report, answer)) :
    (acceptedIn s.waiting).Perm
      ((if accepts answer then [report] else []) ++ acceptedIn (s.waiting.eraseIdx i)) := by
  obtain ⟨hlt, hget⟩ := List.getElem?_eq_some_iff.mp hi
  have hperm := (List.getElem_cons_eraseIdx_perm hlt).symm
  rw [hget] at hperm
  rw [← acceptedIn_cons]
  exact (hperm.filter _).map Prod.fst

/-- What a call that waits has done. Source: `app/services/daily_report.py`
`DailyIncidentReporter.send_report`. Kind: L -/
theorem accounted_awaiting (h : Accounted s) :
    Accounted { s with
      waiting := s.waiting ++ [(report, answer)]
      sent := if accepts answer then s.sent ++ [report] else s.sent } where
  sent := by
    have hnew : acceptedIn (s.waiting ++ [(report, answer)]) =
        acceptedIn s.waiting ++ if accepts answer then [report] else [] := by
      have hlast : acceptedIn [(report, answer)] = if accepts answer then [report] else [] :=
        acceptedIn_cons.trans (List.append_nil _)
      rw [← hlast, acceptedIn, List.filter_append, List.map_append]
      rfl
    dsimp only
    rw [hnew, ← List.append_assoc]
    split_ifs
    · exact h.sent.append_right [report]
    · rw [List.append_nil]
      exact h.sent
  remembered := h.remembered

/-- What is left of a call. Source: `app/services/daily_report.py`
`DailyIncidentReporter.send_report`. Kind: L -/
theorem accounted_resumed (h : Accounted s) {i : ℕ} (hi : s.waiting[i]? = some (report, answer)) :
    Accounted { s with
      reporter := s.reporter.answered report answer
      waiting := s.waiting.eraseIdx i
      recorded := if accepts answer then s.recorded ++ [report] else s.recorded } where
  sent := by
    refine (h.sent.trans ((acceptedIn_perm hi).append_left s.recorded)).trans (List.Perm.of_eq ?_)
    by_cases hok : accepts answer = true
    · rw [if_pos hok, if_pos hok, List.append_assoc]
    · rw [if_neg hok, if_neg hok, List.nil_append]
  remembered := by
    intro other hother
    unfold answered at hother
    by_cases hok : accepts answer = true
    · simp only [if_pos hok] at hother ⊢
      rcases remembers_record hother with hperiod | hold
      · exact ⟨report, List.mem_append_right _ List.mem_cons_self, hperiod.symm⟩
      · obtain ⟨old, hmem, hperiod⟩ := h.remembered other hold
        exact ⟨old, List.mem_append_left _ hmem, hperiod⟩
    · simp only [if_neg hok] at hother ⊢
      exact h.remembered other hother

/-- **A step keeps the account.** Source: `app/services/daily_report.py` `DailyIncidentReporter`.
Kind: L -/
theorem accounted_step (h : Accounted s) : Accounted (step s act).1 := by
  cases act with
  | call call answer =>
      rw [step]
      cases s.reporter.begin call with
      | returned sent => exact h
      | raised x => exact h
      | awaiting report => exact accounted_awaiting h
  | resume i =>
      rw [step]
      cases hi : s.waiting[i]? with
      | none => exact h
      | some x => exact accounted_resumed h hi

/-- The period of a report that comes to be sent. Source: none: infrastructure. Kind: L -/
theorem period_notMem_sent_iff (h : Accounted s) (hguard : ¬ s.reporter.Remembers report) :
    report.period ∉ s.sent.map Report.period ↔
      (∀ x ∈ s.waiting, accepts x.2 = true → x.1.period ≠ report.period) ∧
        ∀ old ∈ s.recorded, old.period = report.period → s.reporter.Remembers old := by
  rw [(h.sent.map Report.period).mem_iff, List.map_append, List.mem_append, not_or, and_comm]
  refine and_congr ?_ ?_
  · rw [List.mem_map, not_exists]
    constructor
    · intro hnone x hx hok hperiod
      refine hnone x.1 ⟨List.mem_map.mpr ⟨x, List.mem_filter.mpr ⟨hx, hok⟩, rfl⟩, hperiod⟩
    · rintro hall old ⟨hold, hperiod⟩
      obtain ⟨x, hx, rfl⟩ := List.mem_map.mp hold
      obtain ⟨hx, hok⟩ := List.mem_filter.mp hx
      exact hall x hx hok hperiod
  · -- what is recorded and forgotten is what is recorded, since the guard has been passed
    rw [List.mem_map, not_exists]
    constructor
    · intro hnone old hold hperiod
      exact absurd ⟨hold, hperiod⟩ (hnone old)
    · rintro hall old ⟨hold, hperiod⟩
      exact hguard ((remembers_congr hperiod).mp (hall old hold hperiod))

/-- **A step sends no period twice exactly when the guard is right.**
Source: `app/services/daily_report.py` `DailyIncidentReporter`. Kind: L -/
theorem nodup_step_iff (h : Accounted s) : ((step s act).1.sent.map Report.period).Nodup ↔
    (s.sent.map Report.period).Nodup ∧ Clear s act := by
  cases act with
  | resume i =>
      rw [step]
      cases s.waiting[i]? with
      | none => simp [Clear]
      | some x => simp [Clear]
  | call call answer =>
      rw [step, Clear]
      cases hbegin : s.reporter.begin call with
      | returned sent => simp
      | raised x => simp
      | awaiting report =>
          have hclear := period_notMem_sent_iff h (not_remembers_of_begin hbegin)
          dsimp only
          by_cases hok : accepts answer = true
          · rw [if_pos hok, List.map_append, List.map_singleton, ← List.concat_eq_append,
              List.nodup_concat, and_comm, hclear]
            refine and_congr_right fun _ => ⟨fun hall report' heq _ => ?_, fun hall => ?_⟩
            · obtain rfl := UpToAwait.awaiting.inj heq
              exact hall
            · exact hall report rfl hok
          · rw [if_neg hok]
            exact ⟨fun hnodup => ⟨hnodup, fun _ _ hok' => absurd hok' hok⟩, And.left⟩

/-- **A run** sends no period twice exactly when the guard is right at all of its steps.
Source: `app/services/daily_report.py` `DailyIncidentReporter`. Kind: L -/
theorem nodup_run_iff (h : Accounted s) : ((machine.after s acts).sent.map Report.period).Nodup ↔
    (s.sent.map Report.period).Nodup ∧ machine.Along Clear s acts := by
  induction acts generalizing s with
  | nil => exact (and_iff_left trivial).symm
  | cons act acts ih =>
      show ((machine.after (step s act).1 acts).sent.map Report.period).Nodup ↔
        _ ∧ Clear s act ∧ machine.Along Clear (step s act).1 acts
      rw [ih (accounted_step h), nodup_step_iff h, and_assoc]

theorem accounted_run (h : Accounted s) : Accounted (machine.after s acts) := by
  induction acts generalizing s with
  | nil => exact h
  | cons act acts ih => exact ih (accounted_step h)

end runs

/-- **Reports are sent once.** For every sequence of calls, in every order of their halves and with any
answers of the sink: at most one report of each day and of each ISO week is sent if and only if the
guard is right whenever a call has passed it. Source: `app/services/daily_report.py`
`DailyIncidentReporter`. Kind: P -/
theorem reports_once_iff (alertSink : Bool) (acts : List ReportAct) :
    (∀ period, ((machine.after (fresh alertSink) acts).sent.map Report.period).count period ≤ 1) ↔
      machine.Along Clear (fresh alertSink) acts := by
  rw [← List.nodup_iff_count_le_one, nodup_run_iff accounted_fresh]
  exact and_iff_right List.nodup_nil

/-- **Two calls for one day or one week that overlap, and a call for a day that comes again**, send
the report twice. Source: `app/services/daily_report.py` `DailyIncidentReporter`. Kind: C -/
theorem reports_sent_twice :
    ((machine.after (fresh true) [.call (.daily 7) (.ok true), .call (.daily 7) (.ok true),
      .resume 0, .resume 0]).sent.map Report.period).count (.day 7) = 2 ∧
    ((machine.after (fresh true) [.call (.weekly 7 7) (.ok true), .call (.weekly 8 7) (.ok true),
      .resume 0, .resume 0]).sent.map Report.period).count (.week 1 2) = 2 ∧
    ((machine.after (fresh true) [.call (.daily 7) (.ok true), .resume 0,
      .call (.daily 8) (.ok true), .resume 0,
      .call (.daily 7) (.ok true), .resume 0]).sent.map Report.period).count (.day 7) = 2 := by
  decide

/-- **A call that is skipped is not missed**: in every run, when the reporter takes the period of a
call for one that it has sent, then a report of that day, or of a day of that week, was sent.
Source: `app/services/daily_report.py` `DailyIncidentReporter`. Kind: P -/
theorem skipped_was_sent (alertSink : Bool) (acts : List ReportAct) :
    let s := machine.after (fresh alertSink) acts
    (∀ day, s.reporter.lastSentDay = some day → .daily day ∈ s.sent) ∧
      ∀ endDay, s.reporter.lastWeeklySentKey = some (weeklyKey endDay) →
        ∃ startDay endDay', .weekly startDay endDay' ∈ s.sent ∧ endDay' / 7 = endDay / 7 := by
  intro s
  have hs : Accounted s := accounted_run accounted_fresh
  have hsent : ∀ old ∈ s.recorded, old ∈ s.sent :=
    fun old hold => hs.sent.mem_iff.mpr (List.mem_append_left _ hold)
  refine ⟨fun day hday => ?_, fun endDay hweek => ?_⟩
  · obtain ⟨old, hold, hperiod⟩ := hs.remembered (.daily day) hday
    cases old with
    | daily day' =>
        obtain rfl := Period.day.inj hperiod
        exact hsent _ hold
    | weekly startDay endDay => cases hperiod
  · obtain ⟨old, hold, hperiod⟩ := hs.remembered (.weekly endDay endDay) hweek
    cases old with
    | daily day' => cases hperiod
    | weekly startDay endDay' =>
        obtain ⟨hyear, hnumber⟩ := Period.week.inj hperiod
        exact ⟨startDay, endDay', hsent _ hold, isocalendar_eq_iff.mp (Prod.ext hyear hnumber)⟩

end DailyIncidentReporter

end HaruTrade
