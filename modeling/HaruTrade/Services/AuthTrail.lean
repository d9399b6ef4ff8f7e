import Mathlib.Data.List.Nodup
import HaruTrade.Data.PyNumber
import HaruTrade.Services.AuthAudit

/-!
# What the audit trail tells

* `SessionMove` — everything a call can do to the sessions, with what it writes about it.
* `accountsForLocks_run`, `accountsForSessions_run` — in every history the trail accounts for the locks and
  for the open sessions.
* `AuthAuditService.metrics` — the numbers that are counted over what reached the database.
* `audit_locks`, `audit_sessions`, `audit_metrics` — **what the trail tells of every history.**
-/

namespace HaruTrade

namespace OtpAuthService

/-! ## Sessions -/

section sessions

variable {cfg : OtpSettings} {s : OtpAuthService} {ip : String} {now : Instant}
  {j code sessionId : String} {entries more : List AuditEntry} {e : AuditEntry}
  {c : TimedCall} {reply : AuthReply} {t : OtpAuthService}

/-- No entry opens or closes a session. Source: none: infrastructure. Kind: D -/
def KeepsSessions (entries : List AuditEntry) : Prop :=
  ∀ e ∈ entries, e.eventType.opensSession = false ∧ e.eventType.closesSession = false

theorem KeepsSessions.append (h : KeepsSessions entries) (h' : KeepsSessions more) :
    KeepsSessions (entries ++ more) :=
  List.forall_mem_append.mpr ⟨h, h'⟩

theorem KeepsSessions.countP_append (h : KeepsSessions entries) (more : List AuditEntry) :
    (entries ++ more).countP (·.eventType.opensSession) = more.countP (·.eventType.opensSession) ∧
      (entries ++ more).countP (·.eventType.closesSession) =
        more.countP (·.eventType.closesSession) := by
  have hopens : entries.countP (·.eventType.opensSession) = 0 :=
    List.countP_eq_zero.mpr fun e he => by simp [(h e he).1]
  have hcloses : entries.countP (·.eventType.closesSession) = 0 :=
    List.countP_eq_zero.mpr fun e he => by simp [(h e he).2]
  rw [List.countP_append, List.countP_append, hopens, hcloses]
  exact ⟨Nat.zero_add _, Nat.zero_add _⟩

theorem keepsSessions_singleton (h : e.eventType.opensSession = false)
    (h' : e.eventType.closesSession = false) : KeepsSessions [e] :=
  List.forall_mem_singleton.mpr ⟨h, h'⟩

theorem keepsSessions_unlockRateAudit {lock : Option Instant} :
    KeepsSessions (unlockRateAudit ip now lock) := by
  unfold unlockRateAudit
  split_ifs
  · exact keepsSessions_singleton rfl rfl
  · exact fun e he => absurd he List.not_mem_nil

theorem keepsSessions_unlockVerifyAudit {lock : Option Instant} :
    KeepsSessions (unlockVerifyAudit ip now lock) := by
  unfold unlockVerifyAudit
  split_ifs
  · exact keepsSessions_singleton rfl rfl
  · exact fun e he => absurd he List.not_mem_nil

theorem keepsSessions_registerVerifyFailureAudit {failCount : ℕ} {baseError : String} :
    KeepsSessions (registerVerifyFailureAudit cfg ip failCount baseError) := by
  unfold registerVerifyFailureAudit
  split_ifs
  all_goals exact keepsSessions_singleton rfl rfl

theorem keepsSessions_requestOtpAudit : KeepsSessions (s.requestOtpAudit cfg ip now) := by
  unfold requestOtpAudit
  apply keepsSessions_unlockRateAudit.append
  split
  · exact keepsSessions_singleton rfl rfl
  · apply keepsSessions_unlockVerifyAudit.append
    split
    · exact keepsSessions_singleton rfl rfl
    · split_ifs
      all_goals exact keepsSessions_singleton rfl rfl

/-- The session that an answer opens. Source: `app/services/auth.py` `OtpAuthService.verify_otp`.
Kind: D -/
def opened : AuthReply → Option String
  | .sessionOpened sessionId _ _ => some sessionId
  | _ => none

/-- **What a call does to the sessions, and writes about it**: it opens one, it closes one that was
stored, or it leaves them alone. Source: `app/services/auth.py` `OtpAuthService`. Kind: D -/
inductive SessionMove (s t : OtpAuthService) (reply : AuthReply) (entries : List AuditEntry) : Prop
  | opened (id : String) (row : SessionRecord) (hreply : opened reply = some id)
      (hstate : t.sessionById = Function.update s.sessionById id (some row))
      (hopens : entries.countP (·.eventType.opensSession) = 1)
      (hcloses : entries.countP (·.eventType.closesSession) = 0)
  | closed (id : String) (row : SessionRecord) (hreply : OtpAuthService.opened reply = none)
      (hrow : s.sessionById id = some row)
      (hstate : t.sessionById = Function.update s.sessionById id none)
      (hopens : entries.countP (·.eventType.opensSession) = 0)
      (hcloses : entries.countP (·.eventType.closesSession) = 1)
  | kept (hreply : OtpAuthService.opened reply = none) (hstate : t.sessionById = s.sessionById)
      (hquiet : KeepsSessions entries)

/-- What is written before does not matter. Source: none: infrastructure. Kind: L -/
theorem SessionMove.prepend (h : SessionMove s t reply entries) (hmore : KeepsSessions more) :
    SessionMove s t reply (more ++ entries) := by
  obtain ⟨hopens, hcloses⟩ := hmore.countP_append entries
  cases h with
  | opened id row hreply hstate hone hzero =>
      exact .opened id row hreply hstate (hopens.trans hone) (hcloses.trans hzero)
  | closed id row hreply hrow hstate hzero hone =>
      exact .closed id row hreply hrow hstate (hopens.trans hzero) (hcloses.trans hone)
  | kept hreply hstate hquiet => exact .kept hreply hstate (hmore.append hquiet)

theorem requestOtp_sessionMove (drawn : Fin 10000) : SessionMove s (s.requestOtp cfg ip now drawn).1
    (s.requestOtp cfg ip now drawn).2 (s.requestOtpAudit cfg ip now) := by
  have hret := requestOtp_returns cfg s ip now drawn
  generalize s.requestOtp cfg ip now drawn = result at hret ⊢
  cases hret with
  | locked left _ => exact .kept rfl rfl keepsSessions_requestOtpAudit
  | verifyLocked left _ _ => exact .kept rfl (by simp) keepsSessions_requestOtpAudit
  | limited lockedUntil left _ _ => exact .kept rfl (by simp) keepsSessions_requestOtpAudit
  | issued _ _ _ => exact .kept rfl (by simp) keepsSessions_requestOtpAudit

theorem registerVerifyFailure_sessionMove {failCount : ℕ} {baseError : String}
    (hstate : t.sessionById = s.sessionById) :
    SessionMove s (t.registerVerifyFailure cfg ip now baseError).1
      (t.registerVerifyFailure cfg ip now baseError).2
      (registerVerifyFailureAudit cfg ip failCount baseError) := by
  unfold registerVerifyFailure
  simp only
  split_ifs
  all_goals exact .kept rfl hstate keepsSessions_registerVerifyFailureAudit

theorem verifyOtp_sessionMove : SessionMove s (s.verifyOtp cfg ip now code sessionId).1
    (s.verifyOtp cfg ip now code sessionId).2 (s.verifyOtpAudit cfg ip now code sessionId) := by
  unfold verifyOtpAudit verifyOtp
  refine SessionMove.prepend ?_ keepsSessions_unlockVerifyAudit
  simp only [otpByIp_setVerify]
  cases lockLeft (s.verifyState ip now).lockedUntil now with
  | some left => exact .kept rfl rfl (keepsSessions_singleton rfl rfl)
  | none =>
      cases s.otpByIp ip with
      | none => exact registerVerifyFailure_sessionMove rfl
      | some otp =>
          simp only
          split_ifs
          · exact registerVerifyFailure_sessionMove rfl
          · exact registerVerifyFailure_sessionMove rfl
          · exact .opened sessionId _ rfl rfl rfl rfl

theorem validateSession_sessionMove : SessionMove s (s.validateSession ip now sessionId).1
    (s.validateSession ip now sessionId).2 (s.validateSessionAudit ip now sessionId) := by
  unfold validateSessionAudit validateSession
  cases hrow : s.sessionById sessionId with
  | none => exact .kept rfl rfl (keepsSessions_singleton rfl rfl)
  | some row =>
      simp only
      split_ifs
      · exact .closed sessionId row rfl hrow rfl rfl rfl
      · exact .kept rfl rfl (keepsSessions_singleton rfl rfl)
      · exact .kept rfl rfl (keepsSessions_singleton rfl rfl)

theorem revokeSession_sessionMove : SessionMove s (s.revokeSession sessionId).1
    (s.revokeSession sessionId).2 (s.revokeSessionAudit sessionId) := by
  unfold revokeSessionAudit revokeSession
  cases hrow : s.sessionById sessionId with
  | none =>
      refine .kept rfl ?_ fun e he => absurd he List.not_mem_nil
      rw [sessionById_setSession, ← hrow, Function.update_eq_self]
  | some row => exact .closed sessionId row rfl hrow rfl rfl rfl

theorem sessionMove_step (cfg : OtpSettings) (s : OtpAuthService) (c : TimedCall) :
    SessionMove s ((machine cfg).step s c).1 ((machine cfg).step s c).2 (s.audit cfg c) := by
  obtain ⟨now, call⟩ := c
  cases call with
  | requestOtp j drawn => exact requestOtp_sessionMove drawn
  | verifyOtp j code sessionId => exact verifyOtp_sessionMove
  | validateSession sessionId j => exact validateSession_sessionMove
  | revokeSession sessionId => exact revokeSession_sessionMove

end sessions

/-! ## Histories -/

section histories

variable {cfg : OtpSettings} {s : OtpAuthService} {id : String} {calls : List TimedCall}
  {log : List (TimedCall × AuthReply × List AuditEntry)} {c : TimedCall} {t : OtpAuthService}
  {reply : AuthReply} {entries : List AuditEntry}

/-- The service with its trail is the service. Source: none: infrastructure. Kind: L -/
theorem after_auditedMachine (cfg : OtpSettings) (s : OtpAuthService) (calls : List TimedCall) :
    (auditedMachine cfg).after s calls = (machine cfg).after s calls := by
  induction calls generalizing s with
  | nil => rfl
  | cons c calls ih => exact ih _

/-- Source: none: infrastructure. Kind: L -/
theorem log_auditedMachine (cfg : OtpSettings) (s : OtpAuthService) (calls : List TimedCall) :
    ((auditedMachine cfg).log s calls).map (fun e => (e.1, e.2.1)) = (machine cfg).log s calls := by
  induction calls generalizing s with
  | nil => rfl
  | cons c calls ih => exact congrArg (List.cons _) (ih _)

theorem trail_append_singleton :
    trail (log ++ [(c, reply, entries)]) = trail log ++ entries := by
  unfold trail
  rw [List.flatMap_append, List.flatMap_singleton]

/-- **The trail of every history accounts for the locks.** Source: `app/services/auth.py`
`OtpAuthService`. Kind: L -/
theorem accountsForLocks_run (cfg : OtpSettings) (calls : List TimedCall) (ip : String) :
    AccountsForLocks ip (trail ((auditedMachine cfg).log {} calls)) {}
      ((auditedMachine cfg).after {} calls) := by
  refine Machine.invariant (I := fun log s => AccountsForLocks ip (trail log) {} s)
    (C := fun _ _ _ => True) ⟨rfl, rfl⟩ ?_ (fun _ _ _ _ => trivial)
  intro log s c _ h
  have hstep := audit_step cfg s c ip
  rw [show (auditedMachine cfg).step s c = (((machine cfg).step s c).1, ((machine cfg).step s c).2,
    s.audit cfg c) from rfl, trail_append_singleton]
  exact ⟨h.rate.trans hstep.rate, h.verify.trans hstep.verify⟩

/-- An entry of the trail was written by a call. Source: none: infrastructure. Kind: L -/
theorem exists_of_mem_log {e : TimedCall × AuthReply × List AuditEntry}
    (h : e ∈ (auditedMachine cfg).log s calls) :
    ∃ t : OtpAuthService, e.2 = (((machine cfg).step t e.1).2, t.audit cfg e.1) := by
  induction calls generalizing s with
  | nil => exact absurd h List.not_mem_nil
  | cons c calls ih =>
      rcases List.mem_cons.mp h with rfl | h
      · exact ⟨s, rfl⟩
      · exact ih h

/-- The sessions that the calls opened. Source: none: infrastructure. Kind: D -/
def openedIn (log : List (TimedCall × AuthReply × List AuditEntry)) : List String :=
  log.filterMap fun e => opened e.2.1

/-- The sessions that are open. Source: `app/services/auth.py` `OtpAuthService`. Kind: D -/
def openSessions (s : OtpAuthService) (ids : List String) : ℕ :=
  ids.countP fun id => (s.sessionById id).isSome

/-- **The trail accounts for the open sessions.** Source: none: infrastructure. Kind: D -/
structure AccountsForSessions (log : List (TimedCall × AuthReply × List AuditEntry))
    (s : OtpAuthService) : Prop where
  mem : ∀ id row, s.sessionById id = some row → id ∈ openedIn log
  count : (trail log).countP (·.eventType.opensSession) =
    s.openSessions (openedIn log) + (trail log).countP (·.eventType.closesSession)

/-- A session that was not opened before is one more. Source: none: infrastructure. Kind: L -/
theorem openSessions_of_opened {ids : List String} {row : SessionRecord} (hid : id ∉ ids)
    (h : t.sessionById = Function.update s.sessionById id (some row)) :
    t.openSessions (ids ++ [id]) = s.openSessions ids + 1 := by
  unfold openSessions
  rw [List.countP_append, List.countP_singleton, h, Function.update_self, Option.isSome_some,
    if_pos rfl]
  refine congrArg (· + 1) (List.countP_congr fun x hx => ?_)
  rw [Function.update_of_ne fun heq : x = id => hid (heq ▸ hx)]

/-- A session that is removed is one less. Source: none: infrastructure. Kind: L -/
theorem openSessions_of_closed {ids : List String} {row : SessionRecord} (hnodup : ids.Nodup)
    (hid : id ∈ ids) (hrow : s.sessionById id = some row)
    (h : t.sessionById = Function.update s.sessionById id none) :
    s.openSessions ids = t.openSessions ids + 1 := by
  unfold openSessions
  induction ids with
  | nil => exact absurd hid List.not_mem_nil
  | cons x ids ih =>
      obtain ⟨hx, hnodup⟩ := List.nodup_cons.mp hnodup
      rw [List.countP_cons, List.countP_cons]
      rcases List.mem_cons.mp hid with rfl | hid
      · rw [hrow, h, Function.update_self, Option.isSome_some, Option.isSome_none, if_pos rfl,
          if_neg Bool.false_ne_true]
        refine congrArg (· + 1) (List.countP_congr fun y hy => ?_)
        rw [Function.update_of_ne fun heq : y = id => hx (heq ▸ hy)]
      · have hsame : t.sessionById x = s.sessionById x := by
          rw [h, Function.update_of_ne]
          rintro rfl
          exact hx hid
        rw [ih hnodup hid, hsame]
        omega

theorem openedIn_append_singleton :
    openedIn (log ++ [(c, reply, entries)]) = openedIn log ++ (opened reply).toList := by
  unfold openedIn
  rw [List.filterMap_append]
  cases h : opened reply with
  | none => simp [h]
  | some id => simp [h]

/-- **Every call accounts for the open sessions.** Source: `app/services/auth.py` `OtpAuthService`.
Kind: L -/
theorem AccountsForSessions.step (h : AccountsForSessions log s) (hmove : SessionMove s t reply entries)
    (hnodup : (openedIn (log ++ [(c, reply, entries)])).Nodup) :
    AccountsForSessions (log ++ [(c, reply, entries)]) t := by
  rw [openedIn_append_singleton] at hnodup
  cases hmove with
  | opened id row hreply hstate hopens hcloses =>
      rw [hreply, Option.toList_some] at hnodup
      have hid : id ∉ openedIn log := fun hmem =>
        (List.nodup_append.mp hnodup).2.2 id hmem id (List.mem_singleton_self id) rfl
      constructor
      · intro x row' hx
        rw [openedIn_append_singleton, hreply, Option.toList_some]
        by_cases hxid : x = id
        · rw [hxid]
          exact List.mem_append_right _ (List.mem_singleton_self id)
        · rw [hstate, Function.update_of_ne hxid] at hx
          exact List.mem_append_left _ (h.mem x row' hx)
      · rw [trail_append_singleton, List.countP_append, List.countP_append, openedIn_append_singleton,
          hreply, Option.toList_some, openSessions_of_opened hid hstate, hopens, hcloses, h.count]
        omega
  | closed id row hreply hrow hstate hopens hcloses =>
      rw [hreply, Option.toList_none, List.append_nil] at hnodup
      have hless := openSessions_of_closed hnodup (h.mem id row hrow) hrow hstate
      constructor
      · intro x row' hx
        rw [openedIn_append_singleton, hreply, Option.toList_none, List.append_nil]
        by_cases hxid : x = id
        · rw [hxid]
          exact h.mem id row hrow
        · rw [hstate, Function.update_of_ne hxid] at hx
          exact h.mem x row' hx
      · rw [trail_append_singleton, List.countP_append, List.countP_append, openedIn_append_singleton,
          hreply, Option.toList_none, List.append_nil, hopens, hcloses, h.count, hless]
        omega
  | kept hreply hstate hquiet =>
      have hopens : entries.countP (·.eventType.opensSession) = 0 :=
        List.countP_eq_zero.mpr fun e he => by simp [(hquiet e he).1]
      have hcloses : entries.countP (·.eventType.closesSession) = 0 :=
        List.countP_eq_zero.mpr fun e he => by simp [(hquiet e he).2]
      have hsame : t.openSessions (openedIn log) = s.openSessions (openedIn log) := by
        unfold openSessions
        rw [hstate]
      constructor
      · intro x row' hx
        rw [openedIn_append_singleton, hreply, Option.toList_none, List.append_nil]
        exact h.mem x row' (hstate ▸ hx)
      · rw [trail_append_singleton, List.countP_append, List.countP_append, openedIn_append_singleton,
          hreply, Option.toList_none, List.append_nil, hopens, hcloses, h.count, hsame,
          Nat.add_zero, Nat.add_zero]

/-- **The trail of every history accounts for the open sessions.** Source: `app/services/auth.py`
`OtpAuthService`. Kind: L -/
theorem accountsForSessions_run (cfg : OtpSettings) (calls : List TimedCall)
    (hdrawn : (openedIn ((auditedMachine cfg).log {} calls)).Nodup) :
    AccountsForSessions ((auditedMachine cfg).log {} calls) ((auditedMachine cfg).after {} calls) := by
  refine Machine.invariant (I := AccountsForSessions)
    (C := fun log s c => (openedIn (log ++ [(c, ((machine cfg).step s c).2, s.audit cfg c)])).Nodup)
    ⟨fun id row h => absurd h.symm (Option.some_ne_none row), rfl⟩ ?_ ?_
  · intro log s c hnodup h
    exact h.step (sessionMove_step cfg s c) hnodup
  · intro pre c post hcalls
    rw [hcalls, show pre ++ c :: post = (pre ++ [c]) ++ post by simp, Machine.log_append,
      Machine.log_append] at hdrawn
    refine List.Nodup.sublist ?_ hdrawn
    exact (List.sublist_append_left _ _).filterMap _

end histories

end OtpAuthService

/-! ## What reached the database -/

/-- Source: `app/db/models/auth_audit.py` `AuthAuditLog`. Kind: D -/
structure AuthAuditLog where
  eventType : String
  ip : String
  ok : Bool
  detail : Option String
  createdAt : Instant
  deriving DecidableEq, Repr

/-- The entries with the time at which each was stored; an entry whose insert failed is lost.
Source: `app/services/auth_audit.py` `AuthAuditService.log_event`. Kind: D -/
def AuthAuditService.recorded (isoformat : Instant → String)
    (written : List (AuditEntry × Option Instant)) : List AuthAuditLog :=
  written.filterMap fun w => w.2.map fun createdAt =>
    { eventType := w.1.eventType.name, ip := w.1.ip, ok := w.1.ok
      detail := w.1.detail.map (AuditDetail.text isoformat), createdAt }

/-- What the rows are filtered by. Source: `app/repositories/auth_audit.py`
`AuthAuditRepository.count`. Kind: D -/
structure AuditQuery where
  eventType : Option String := none
  eventTypes : List String := []
  ip : Option String := none
  ok : Option Bool := none
  start : Option Instant := none
  «end» : Option Instant := none
  deriving DecidableEq, Repr

/-- A text filter that is missing or blank takes every row. Source: `app/repositories/auth_audit.py`
`AuthAuditRepository.count`. Kind: D -/
def AuditQuery.takes (wanted : Option String) (value : String) : Bool :=
  wanted.all fun text => PyText.strip text = "" ∨ value = text

/-- Source: `app/repositories/auth_audit.py` `AuthAuditRepository.count`. Kind: D -/
def AuditQuery.matches (q : AuditQuery) (row : AuthAuditLog) : Bool :=
  let normalized := q.eventTypes.filter fun x => PyText.strip x ≠ ""
  takes q.eventType row.eventType ∧ (normalized = [] ∨ row.eventType ∈ normalized) ∧
    takes q.ip row.ip ∧ (q.ok.all fun ok => row.ok = ok) ∧
    (q.start.all fun start => start ≤ row.createdAt) ∧ (q.end.all fun last => row.createdAt ≤ last)

/-- Source: `app/repositories/auth_audit.py` `AuthAuditRepository.count`. Kind: D -/
def AuthAuditRepository.count (db : List AuthAuditLog) (q : AuditQuery) : ℕ := db.countP q.matches

namespace AuthAuditService

/-- Source: `app/services/auth_audit.py` `AuthAuditService.LOCKED_EVENTS`. Kind: D -/
def lockedEvents : List String :=
  ["otp_request_locked", "otp_request_rate_limited", "otp_request_denied_verify_locked",
    "otp_verify_locked"]

/-- Source: `app/services/auth_audit.py` `AuthAuditService.UNLOCKED_EVENTS`. Kind: D -/
def unlockedEvents : List String := ["otp_request_unlocked", "otp_verify_unlocked"]

/-- Source: `app/services/auth_audit.py` `AuthAuditService.metrics`. Kind: D -/
structure Metrics where
  total : ℕ
  successful : ℕ
  failed : ℕ
  locked : ℕ
  unlocked : ℕ
  failureRate : PyNum

/-- **The numbers of the dashboard**, all of them from one state of the table.
Source: `app/services/auth_audit.py` `AuthAuditService.metrics`. Kind: D -/
def metrics (db : List AuthAuditLog) (lastHours : ℤ) (ip : Option String) (now : Instant) : Metrics :=
  let safeHours := max lastHours 1
  let q : AuditQuery := { ip, start := some (now - timedelta (3600 * safeHours)), «end» := some now }
  let total := AuthAuditRepository.count db q
  let failed := AuthAuditRepository.count db { q with ok := some false }
  { total
    failed
    locked := AuthAuditRepository.count db { q with eventTypes := lockedEvents }
    unlocked := AuthAuditRepository.count db { q with eventTypes := unlockedEvents }
    successful := AuthAuditRepository.count db { q with ok := some true }
    failureRate := if 0 < total then PyNum.binary64 ((failed : ℚ) / total) else .of 0 }

/-! ## What the numbers say -/

section metrics

variable {isoformat : Instant → String} {written : List (AuditEntry × Option Instant)}
  {db : List AuthAuditLog} {row : AuthAuditLog} {event : AuditEvent} {entries : List AuditEntry}
  {e : AuditEntry} {lastHours : ℤ} {now : Instant} {j : String}

theorem ok_of_mem_lockedEvents (h : event.name ∈ lockedEvents) : event.ok = false := by
  revert h
  cases event <;> decide

theorem ok_of_mem_unlockedEvents (h : event.name ∈ unlockedEvents) : event.ok = true := by
  revert h
  cases event <;> decide

theorem mem_unlockedEvents_iff :
    event.name ∈ unlockedEvents ↔ event = .otpRequestUnlocked ∨ event = .otpVerifyUnlocked := by
  cases event <;> decide

/-- A row of the log says of an event what the event always says. Source: none: infrastructure.
Kind: D -/
def Faithful (db : List AuthAuditLog) : Prop :=
  ∀ row ∈ db, ∃ event : AuditEvent, row.eventType = event.name ∧ row.ok = event.ok

theorem faithful_recorded (isoformat : Instant → String) (h : ∀ w ∈ written, w.1.ok = w.1.eventType.ok) :
    Faithful (recorded isoformat written) := by
  intro row hrow
  obtain ⟨w, hw, heq⟩ := List.mem_filterMap.mp hrow
  cases htime : w.2 with
  | none =>
      rw [htime] at heq
      exact absurd heq.symm (Option.some_ne_none row)
  | some t =>
      rw [htime, Option.map_some, Option.some.injEq] at heq
      rw [← heq]
      exact ⟨w.1.eventType, rfl, h w hw⟩

theorem matches_ok {q : AuditQuery} (hq : q.ok = none) (ok : Bool) :
    ({ q with ok := some ok } : AuditQuery).matches row = (q.matches row && decide (row.ok = ok)) := by
  unfold AuditQuery.matches
  simp only [hq, Option.all_some, Option.all_none, decide_eq_true_eq, true_and]
  rw [← Bool.decide_and]
  apply decide_eq_decide.mpr
  tauto

theorem matches_eventTypes {q : AuditQuery} (hq : q.eventTypes = []) {events : List String}
    (hevents : (events.filter fun x => PyText.strip x ≠ "") = events) (hne : events ≠ []) :
    ({ q with eventTypes := events } : AuditQuery).matches row =
      (q.matches row && decide (row.eventType ∈ events)) := by
  unfold AuditQuery.matches
  simp only [hq, hevents, List.filter_nil, hne, false_or, true_or, true_and]
  rw [← Bool.decide_and]
  apply decide_eq_decide.mpr
  tauto

/-- The counts of two kinds that exclude one another, and together are a third.
Source: none: infrastructure. Kind: L -/
theorem countP_add_of_iff {α : Type} {p q r : α → Bool} {l : List α} (h : ∀ a ∈ l, p a = (q a || r a))
    (hne : ∀ a ∈ l, (q a && r a) = false) : l.countP q + l.countP r = l.countP p := by
  induction l with
  | nil => rfl
  | cons a l ih =>
      have ih := ih (fun b hb => h b (List.mem_cons_of_mem a hb))
        fun b hb => hne b (List.mem_cons_of_mem a hb)
      have hhead := h a List.mem_cons_self
      have hexcl := hne a List.mem_cons_self
      rw [List.countP_cons, List.countP_cons, List.countP_cons, hhead]
      cases hq : q a with
      | false =>
          simp only [Bool.false_or, Bool.false_eq_true, if_false]
          omega
      | true =>
          rw [hq, Bool.true_and] at hexcl
          simp only [hexcl, Bool.or_false, if_true, Bool.false_eq_true, if_false]
          omega

/-- What is written for an address in the window, and reached the database, is counted.
Source: `app/repositories/auth_audit.py` `AuthAuditRepository.count`. Kind: L -/
theorem count_recorded {start : Instant} {events : List String}
    (hstored : ∀ w ∈ written, w.1.ip = j → ∃ t, w.2 = some t ∧ start ≤ t ∧ t ≤ now)
    (hj : PyText.strip j ≠ "")
    (hevents : (events.filter fun x => PyText.strip x ≠ "") = events) (hne : events ≠ []) :
    AuthAuditRepository.count (recorded isoformat written)
        { eventTypes := events, ip := some j, start := some start, «end» := some now } =
      (written.map Prod.fst).countP fun e => decide (e.eventType.name ∈ events ∧ e.ip = j) := by
  unfold AuthAuditRepository.count recorded
  rw [List.countP_filterMap, List.countP_map]
  refine List.countP_congr fun w hw => ?_
  by_cases hip : w.1.ip = j
  · obtain ⟨t, htime, hfrom, hto⟩ := hstored w hw hip
    rw [htime, Option.map_some, Option.map_some, Option.getD_some]
    unfold AuditQuery.matches AuditQuery.takes
    simp only [hevents, hne, hj, hfrom, hto, Option.all_none, Option.all_some, false_or, decide_true,
      true_and, and_true, decide_eq_true_eq, Function.comp_apply]
  · -- an entry of another address is not counted, whether it was stored or not
    cases htime : w.2 with
    | none => simp [hip]
    | some t =>
        rw [Option.map_some, Option.map_some, Option.getD_some]
        unfold AuditQuery.matches AuditQuery.takes
        simp [hip, hj]

/-- **Every lock that ended has started**, of both kinds. Source: `app/services/auth.py`
`OtpAuthService`. Kind: L -/
theorem unlocks_le_locks (cfg : OtpSettings) (calls : List TimedCall) (j : String) :
    (OtpAuthService.trail ((OtpAuthService.auditedMachine cfg).log {} calls)).countP
        (fun e => decide (e.eventType.name ∈ unlockedEvents ∧ e.ip = j)) ≤
      (OtpAuthService.trail ((OtpAuthService.auditedMachine cfg).log {} calls)).countP
        (fun e => decide (e.eventType.name ∈ lockedEvents ∧ e.ip = j)) := by
  have hrun := OtpAuthService.accountsForLocks_run cfg calls j
  generalize OtpAuthService.trail ((OtpAuthService.auditedMachine cfg).log {} calls) = entries at hrun ⊢
  have hends : entries.countP (OtpAuthService.endsRateLock j) +
      entries.countP (OtpAuthService.endsVerifyLock j) =
        entries.countP fun e => decide (e.eventType.name ∈ unlockedEvents ∧ e.ip = j) := by
    apply countP_add_of_iff
    · intro e _
      unfold OtpAuthService.endsRateLock OtpAuthService.endsVerifyLock
      rw [← Bool.decide_or]
      apply decide_eq_decide.mpr
      rw [mem_unlockedEvents_iff]
      tauto
    · intro e _
      unfold OtpAuthService.endsRateLock OtpAuthService.endsVerifyLock
      rw [← Bool.decide_and]
      apply decide_eq_false
      rintro ⟨⟨hrate, -⟩, hverify, -⟩
      rw [hrate] at hverify
      exact AuditEvent.noConfusion hverify
  have hstarts : entries.countP (OtpAuthService.startsRateLock j) +
      entries.countP (OtpAuthService.startsVerifyLock j) ≤
        entries.countP fun e => decide (e.eventType.name ∈ lockedEvents ∧ e.ip = j) := by
    rw [countP_add_of_iff (p := fun e => OtpAuthService.startsRateLock j e ||
      OtpAuthService.startsVerifyLock j e) (fun _ _ => rfl)]
    · refine List.countP_mono_left fun e _ he => decide_eq_true ?_
      rcases Bool.or_eq_true _ _ ▸ he with he | he
      · obtain ⟨hevent, hip⟩ := of_decide_eq_true he
        exact ⟨by rw [hevent]; decide, hip⟩
      · obtain ⟨hevent, hip, -⟩ := of_decide_eq_true he
        exact ⟨by rw [hevent]; decide, hip⟩
    · intro e _
      unfold OtpAuthService.startsRateLock OtpAuthService.startsVerifyLock
      rw [← Bool.decide_and]
      apply decide_eq_false
      rintro ⟨⟨hrate, -⟩, hverify, -⟩
      rw [hrate] at hverify
      exact AuditEvent.noConfusion hverify
  have hrate : entries.countP (OtpAuthService.startsRateLock j) + 0 = _ := hrun.rate
  have hverify : entries.countP (OtpAuthService.startsVerifyLock j) + 0 = _ := hrun.verify
  omega

/-- The counts of the rows that are a success and of those that are not.
Source: `app/repositories/auth_audit.py` `AuthAuditRepository.count`. Kind: L -/
theorem count_ok (db : List AuthAuditLog) {q : AuditQuery} (hq : q.ok = none) :
    AuthAuditRepository.count db { q with ok := some true } +
        AuthAuditRepository.count db { q with ok := some false } = AuthAuditRepository.count db q := by
  apply countP_add_of_iff
  · intro row _
    rw [matches_ok hq, matches_ok hq, ← Bool.and_or_distrib_left]
    cases row.ok <;> simp
  · intro row _
    rw [matches_ok hq, matches_ok hq]
    cases row.ok <;> simp

/-- Rows of some events are rows with their `ok`. Source: `app/services/auth_audit.py`
`AuthAuditService.metrics`. Kind: L -/
theorem count_events_le (h : Faithful db) {q : AuditQuery} (hq : q.ok = none) (hq' : q.eventTypes = [])
    {events : List String} {ok : Bool}
    (hevents : (events.filter fun x => PyText.strip x ≠ "") = events) (hne : events ≠ [])
    (hok : ∀ event : AuditEvent, event.name ∈ events → event.ok = ok) :
    AuthAuditRepository.count db { q with eventTypes := events } ≤
      AuthAuditRepository.count db { q with ok := some ok } := by
  refine List.countP_mono_left fun row hrow hmatches => ?_
  obtain ⟨event, hname, hrowOk⟩ := h row hrow
  rw [matches_eventTypes hq' hevents hne, Bool.and_eq_true] at hmatches
  rw [matches_ok hq, hmatches.1, Bool.true_and, hrowOk]
  exact decide_eq_true (hok event (hname ▸ of_decide_eq_true hmatches.2))

end metrics

end AuthAuditService

/-! ## What the trail tells of every history -/

open OtpAuthService

/-- **Locks.** In every history of the service, every call that answers with `ok` has written an entry,
its last one, with the same `ok`, every entry has the `ok` of its type, and for every address the trail
has one more start of a lock than it has ends of one, if the address is locked at the end, and as many
otherwise. That holds of the lock of the requests and of that of the verifications.
Source: `app/services/auth.py` `OtpAuthService`. Kind: P -/
theorem audit_locks (cfg : OtpSettings) (calls : List TimedCall) :
    ((auditedMachine cfg).log {} calls).map (fun e => (e.1, e.2.1)) = (machine cfg).log {} calls ∧
      (∀ e ∈ (auditedMachine cfg).log {} calls, ∀ ok, e.2.1.ok = some ok →
        e.2.2.getLast?.map AuditEntry.ok = some ok) ∧
      (∀ e ∈ trail ((auditedMachine cfg).log {} calls), e.ok = e.eventType.ok) ∧
      ∀ ip, (trail ((auditedMachine cfg).log {} calls)).countP (startsRateLock ip) =
            (trail ((auditedMachine cfg).log {} calls)).countP (endsRateLock ip) +
              (if (((machine cfg).after {} calls).rateLock ip).isSome then 1 else 0) ∧
          (trail ((auditedMachine cfg).log {} calls)).countP (startsVerifyLock ip) =
            (trail ((auditedMachine cfg).log {} calls)).countP (endsVerifyLock ip) +
              if (((machine cfg).after {} calls).verifyLock ip).isSome then 1 else 0 := by
  refine ⟨log_auditedMachine cfg {} calls, fun e he => ?_, fun e he => ?_, fun ip => ?_⟩
  · obtain ⟨t, heq⟩ := exists_of_mem_log he
    rw [heq]
    exact lastSays_audit cfg t e.1
  · obtain ⟨entry, hentry, hmem⟩ := List.mem_flatMap.mp he
    obtain ⟨t, heq⟩ := exists_of_mem_log hentry
    rw [heq] at hmem
    exact ok_of_mem_audit hmem
  · have hrun := accountsForLocks_run cfg calls ip
    rw [after_auditedMachine] at hrun
    exact ⟨hrun.rate, hrun.verify⟩

/-- **Sessions.** In every history in which no two verifications drew the same session, the trail has as
many successful verifications as there are open sessions at the end, revocations and expirations together,
and every session that the service holds was opened in it.
Source: `app/services/auth.py` `OtpAuthService`. Kind: P -/
theorem audit_sessions (cfg : OtpSettings) (calls : List TimedCall)
    (hdrawn : (openedIn ((auditedMachine cfg).log {} calls)).Nodup) :
    (∀ id row, ((machine cfg).after {} calls).sessionById id = some row →
        id ∈ openedIn ((auditedMachine cfg).log {} calls)) ∧
      (trail ((auditedMachine cfg).log {} calls)).countP (·.eventType.opensSession) =
        ((machine cfg).after {} calls).openSessions (openedIn ((auditedMachine cfg).log {} calls)) +
          (trail ((auditedMachine cfg).log {} calls)).countP (·.eventType.closesSession) := by
  have hrun := accountsForSessions_run cfg calls hdrawn
  rw [after_auditedMachine] at hrun
  exact ⟨hrun.mem, hrun.count⟩

/-- One address logs in twice and logs out once, another one asks too often.
Source: none: infrastructure. Kind: D -/
def busyCalls : List TimedCall :=
  [⟨0, .requestOtp "10.0.0.1" 7⟩, ⟨1, .verifyOtp "10.0.0.1" "0007" "aa"⟩,
    ⟨2, .requestOtp "10.0.0.1" 8⟩, ⟨3, .verifyOtp "10.0.0.1" " 0008 " "bb"⟩,
    ⟨4, .requestOtp "10.0.0.2" 1⟩, ⟨5, .requestOtp "10.0.0.2" 2⟩, ⟨6, .requestOtp "10.0.0.2" 3⟩,
    ⟨7, .requestOtp "10.0.0.2" 4⟩, ⟨8, .revokeSession "aa"⟩, ⟨9, .revokeSession "aa"⟩]

/-- Both sessions of `busyCalls` were opened, and one of them is still open.
Source: none: infrastructure. Kind: P -/
theorem audit_sessions_busy :
    openedIn ((auditedMachine {}).log {} busyCalls) = ["aa", "bb"] ∧
      (trail ((auditedMachine {}).log {} busyCalls)).countP (·.eventType.opensSession) =
        ((machine {}).after {} busyCalls).openSessions (openedIn ((auditedMachine {}).log {} busyCalls)) +
          (trail ((auditedMachine {}).log {} busyCalls)).countP (·.eventType.closesSession) := by
  have hopened : openedIn ((auditedMachine {}).log {} busyCalls) = ["aa", "bb"] := by decide +kernel
  refine ⟨hopened, (audit_sessions {} busyCalls ?_).2⟩
  rw [hopened]
  decide

/-- **The numbers of the dashboard.** Whatever part of the trail of a history reached the database: every
counted event is either successful or failed, the locks are among the failed ones and their ends among
the successful ones. If everything about one address was stored within the window that is asked for,
then no lock of the address ended that is not counted. Source: `app/services/auth_audit.py`
`AuthAuditService.metrics`. Kind: P -/
theorem audit_metrics (cfg : OtpSettings) (calls : List TimedCall) (isoformat : Instant → String)
    (written : List (AuditEntry × Option Instant))
    (hwritten : written.map Prod.fst = trail ((auditedMachine cfg).log {} calls))
    (lastHours : ℤ) (now : Instant) :
    (∀ ip, let m := AuthAuditService.metrics (AuthAuditService.recorded isoformat written) lastHours ip now
      m.total = m.successful + m.failed ∧ m.locked ≤ m.failed ∧ m.unlocked ≤ m.successful) ∧
    ∀ j, PyText.strip j ≠ "" →
      (∀ w ∈ written, w.1.ip = j →
        ∃ t, w.2 = some t ∧ now - timedelta (3600 * max lastHours 1) ≤ t ∧ t ≤ now) →
      let m :=
        AuthAuditService.metrics (AuthAuditService.recorded isoformat written) lastHours (some j) now
      m.unlocked ≤ m.locked := by
  have hok : ∀ w ∈ written, w.1.ok = w.1.eventType.ok := by
    intro w hw
    have hmem : w.1 ∈ trail ((auditedMachine cfg).log {} calls) := hwritten ▸ List.mem_map_of_mem hw
    obtain ⟨entry, hentry, hmem⟩ := List.mem_flatMap.mp hmem
    obtain ⟨t, heq⟩ := exists_of_mem_log hentry
    rw [heq] at hmem
    exact ok_of_mem_audit hmem
  have hfaithful := AuthAuditService.faithful_recorded isoformat hok
  refine ⟨fun ip => ⟨(AuthAuditService.count_ok _ rfl).symm, ?_, ?_⟩, fun j hj hstored => ?_⟩
  · exact AuthAuditService.count_events_le hfaithful rfl rfl (by decide +kernel) (by decide)
      fun event => AuthAuditService.ok_of_mem_lockedEvents
  · exact AuthAuditService.count_events_le hfaithful rfl rfl (by decide +kernel) (by decide)
      fun event => AuthAuditService.ok_of_mem_unlockedEvents
  · show AuthAuditRepository.count _ _ ≤ AuthAuditRepository.count _ _
    rw [AuthAuditService.count_recorded hstored hj (by decide +kernel) (by decide),
      AuthAuditService.count_recorded hstored hj (by decide +kernel) (by decide), hwritten]
    exact AuthAuditService.unlocks_le_locks cfg calls j

/-- One address asks too often, and once again when its lock has run out; another one asks in between.
Source: none: infrastructure. Kind: D -/
def lockedOutCalls : List TimedCall :=
  [⟨0, .requestOtp "10.0.0.2" 1⟩, ⟨1, .requestOtp "10.0.0.2" 2⟩, ⟨2, .requestOtp "10.0.0.2" 3⟩,
    ⟨3, .requestOtp "10.0.0.2" 4⟩, ⟨4, .requestOtp "10.0.0.1" 6⟩,
    ⟨timedelta 601, .requestOtp "10.0.0.2" 5⟩]

/-- The trail of `lockedOutCalls`, of which the database has what is about one address.
Source: none: infrastructure. Kind: D -/
def lockedOutWritten : List (AuditEntry × Option Instant) :=
  (trail ((auditedMachine {}).log {} lockedOutCalls)).map fun e =>
    (e, if e.ip = "10.0.0.2" then some (timedelta 601) else none)

/-- All about the address is stored, a lock and its end.
Source: none: infrastructure. Kind: P -/
theorem audit_metrics_lockedOut :
    let m := AuthAuditService.metrics (AuthAuditService.recorded (fun _ => "") lockedOutWritten) 24
      (some "10.0.0.2") (timedelta 700)
    m.total = 6 ∧ m.unlocked = 1 ∧ m.unlocked ≤ m.locked ∧ m.total = m.successful + m.failed := by
  have hmetrics := audit_metrics {} lockedOutCalls (fun _ => "") lockedOutWritten
    (by unfold lockedOutWritten; rw [List.map_map]; exact List.map_id _) 24 (timedelta 700)
  refine ⟨by decide +kernel, by decide +kernel, hmetrics.2 "10.0.0.2" (by decide +kernel) ?_,
    (hmetrics.1 (some "10.0.0.2")).1⟩
  intro w hw hip
  obtain ⟨e, -, rfl⟩ := List.mem_map.mp hw
  exact ⟨timedelta 601, if_pos hip, by decide, by decide⟩

end HaruTrade
