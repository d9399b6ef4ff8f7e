import HaruTrade.Services.AuthLimits

/-!
# The audit trail of the authentication

Every call of `OtpAuthService` writes what it decided to an audit log: requests, verifications, locks and
their ends, and what becomes of sessions.

* `requestOtpAudit`, `verifyOtpAudit`, `validateSessionAudit`, `revokeSessionAudit` — what the calls write;
  `auditedMachine` is the service with it.
* `Accounts` — some entries start one lock more than they end exactly when the address is locked after
  them.
* `audit_step` — what a call writes accounts for what it does to the locks of every address.
* `ok_of_mem_audit`, `lastSays_audit` — the `ok` of an entry is that of its type, and the last one of a call
  is what the call answers.
-/

namespace HaruTrade

/-! ## Entries -/

/-- The values of `event_type`. Source: `app/services/auth.py` `OtpAuthService`. Kind: D -/
inductive AuditEvent
  | otpRequestUnlocked
  | otpRequestLocked
  | otpRequestDeniedVerifyLocked
  | otpRequestRateLimited
  | otpRequestIssued
  | otpVerifyUnlocked
  | otpVerifyLocked
  | otpVerifyFailed
  | otpVerifySuccess
  | sessionValidateNotFound
  | sessionValidateExpired
  | sessionValidateIpMismatch
  | sessionValidateOk
  | sessionRevoke
  deriving DecidableEq, Repr

/-- Source: `app/services/auth.py` `OtpAuthService`. Kind: D -/
def AuditEvent.name : AuditEvent → String
  | otpRequestUnlocked => "otp_request_unlocked"
  | otpRequestLocked => "otp_request_locked"
  | otpRequestDeniedVerifyLocked => "otp_request_denied_verify_locked"
  | otpRequestRateLimited => "otp_request_rate_limited"
  | otpRequestIssued => "otp_request_issued"
  | otpVerifyUnlocked => "otp_verify_unlocked"
  | otpVerifyLocked => "otp_verify_locked"
  | otpVerifyFailed => "otp_verify_failed"
  | otpVerifySuccess => "otp_verify_success"
  | sessionValidateNotFound => "session_validate_not_found"
  | sessionValidateExpired => "session_validate_expired"
  | sessionValidateIpMismatch => "session_validate_ip_mismatch"
  | sessionValidateOk => "session_validate_ok"
  | sessionRevoke => "session_revoke"

/-- Source: none: infrastructure. Kind: D -/
def AuditEvent.isAboutSession : AuditEvent → Bool
  | sessionValidateNotFound | sessionValidateExpired | sessionValidateIpMismatch => true
  | sessionValidateOk | sessionRevoke => true
  | _ => false

/-- A session was opened. Source: `app/services/auth.py` `OtpAuthService.verify_otp`. Kind: D -/
def AuditEvent.opensSession (event : AuditEvent) : Bool := event = .otpVerifySuccess

/-- A stored session was removed. Source: `app/services/auth.py` `OtpAuthService`. Kind: D -/
def AuditEvent.closesSession (event : AuditEvent) : Bool :=
  event = .sessionRevoke ∨ event = .sessionValidateExpired

/-- Whether an event of the type is a success. Source: `app/services/auth.py` `OtpAuthService`.
Kind: D -/
def AuditEvent.ok : AuditEvent → Bool
  | otpRequestUnlocked | otpVerifyUnlocked => true
  | otpRequestIssued | otpVerifySuccess => true
  | sessionValidateOk | sessionRevoke => true
  | _ => false

/-- What `detail` says. Source: `app/services/auth.py` `OtpAuthService`. Kind: D -/
inductive AuditDetail
  | lockExpired
  | retryAfter (left : ℤ)
  | expiresAt (expiresAt : Instant)
  | failCount (failCount : ℕ)
  | failed (baseError : String) (failCount : ℕ)
  | session (sessionId : String)
  | expected (ip : String)
  deriving DecidableEq, Repr

/-- `detail`; `isoformat` is that of a `datetime`. Source: `app/services/auth.py` `OtpAuthService`.
Kind: D -/
def AuditDetail.text (isoformat : Instant → String) : AuditDetail → String
  | lockExpired => "lock_expired"
  | retryAfter left => s!"retry_after={left}"
  | expiresAt t => s!"expires_at={isoformat t}"
  | failCount n => s!"fail_count={n}"
  | failed baseError n => s!"{baseError};fail_count={n}"
  | session sessionId => "session=" ++ String.ofList (sessionId.toList.take 8)
  | expected ip => s!"expected={ip}"

/-- The failures that the limit was reached with. Source: none: infrastructure. Kind: D -/
def AuditDetail.failCount? : AuditDetail → Option ℕ
  | failCount n => some n
  | _ => none

/-- Source: `app/services/auth.py` `OtpAuthService._audit`. Kind: D -/
structure AuditEntry where
  eventType : AuditEvent
  ip : String
  ok : Bool
  detail : Option AuditDetail := none
  deriving DecidableEq, Repr

/-- An entry about an address, with the `ok` of its type. Source: `app/services/auth.py`
`OtpAuthService._audit`. Kind: D -/
def AuditEntry.Of (ip : String) (e : AuditEntry) : Prop := e.ip = ip ∧ e.ok = e.eventType.ok

/-- What an answer has under `ok`. Source: `app/services/auth.py` `OtpAuthService`. Kind: D -/
def AuthReply.ok : AuthReply → Option Bool
  | denied _ _ _ => some false
  | otpIssued _ _ => some true
  | sessionOpened _ _ _ => some true
  | sessionValid _ _ _ => some true
  | nothing => none

namespace OtpAuthService

/-! ## What the calls write -/

variable (cfg : OtpSettings) (s : OtpAuthService) (ip : String) (now : Instant)

/-- The lock of the requests has run out. Source: `app/services/auth.py` `OtpAuthService.request_otp`.
Kind: D -/
def unlockRateAudit (lockedUntil : Option Instant) : List AuditEntry :=
  if lockedUntil.any (· ≤ now) then [⟨.otpRequestUnlocked, ip, true, some .lockExpired⟩] else []

/-- Source: `app/services/auth.py` `OtpAuthService._unlock_verify_if_expired`. Kind: D -/
def unlockVerifyAudit (lockedUntil : Option Instant) : List AuditEntry :=
  if lockedUntil.any (· ≤ now) then [⟨.otpVerifyUnlocked, ip, true, some .lockExpired⟩] else []

/-- Source: `app/services/auth.py` `OtpAuthService.request_otp`. Kind: D -/
def requestOtpAudit : List AuditEntry :=
  unlockRateAudit ip now ((s.rateByIp ip).bind RequestRateState.lockedUntil) ++
  match lockLeft (s.rateState ip now).lockedUntil now with
  | some left => [⟨.otpRequestLocked, ip, false, some (.retryAfter (totalSeconds left))⟩]
  | none =>
    unlockVerifyAudit ip now ((s.verifyByIp ip).bind VerifyFailState.lockedUntil) ++
    match lockLeft (((s.unlockVerify ip now).verifyByIp ip).bind VerifyFailState.lockedUntil) now with
    | some left =>
        [⟨.otpRequestDeniedVerifyLocked, ip, false, some (.retryAfter (totalSeconds left))⟩]
    | none =>
      if cfg.requestLimitPerWindow < (countRequest cfg now (s.rateState ip now)).requestCount then
        [⟨.otpRequestRateLimited, ip, false,
          some (.retryAfter (totalSeconds (now + timedelta cfg.lockSeconds - now)))⟩]
      else [⟨.otpRequestIssued, ip, true, some (.expiresAt (now + timedelta cfg.otpTtlSeconds))⟩]

/-- `failCount` is the count before this failure. Source: `app/services/auth.py`
`OtpAuthService._register_verify_failure`. Kind: D -/
def registerVerifyFailureAudit (failCount : ℕ) (baseError : String) : List AuditEntry :=
  if cfg.verifyFailLimit ≤ (failCount + 1 : ℕ) then
    [⟨.otpVerifyLocked, ip, false, some (.failCount (failCount + 1))⟩]
  else [⟨.otpVerifyFailed, ip, false, some (.failed baseError (failCount + 1))⟩]

/-- Source: `app/services/auth.py` `OtpAuthService.verify_otp`. Kind: D -/
def verifyOtpAudit (code sessionId : String) : List AuditEntry :=
  unlockVerifyAudit ip now ((s.verifyByIp ip).bind VerifyFailState.lockedUntil) ++
  match lockLeft (s.verifyState ip now).lockedUntil now with
  | some left => [⟨.otpVerifyLocked, ip, false, some (.retryAfter (totalSeconds left))⟩]
  | none =>
    let failCount := (s.verifyState ip now).failCount
    match s.otpByIp ip with
    | none => registerVerifyFailureAudit cfg ip failCount "otp_not_requested"
    | some otp =>
      if otp.expiresAt < now then registerVerifyFailureAudit cfg ip failCount "otp_expired"
      else if otp.code ≠ PyText.strip code then
        registerVerifyFailureAudit cfg ip failCount "otp_mismatch"
      else [⟨.otpVerifySuccess, ip, true, some (.session sessionId)⟩]

/-- Source: `app/services/auth.py` `OtpAuthService.validate_session`. Kind: D -/
def validateSessionAudit (sessionId : String) : List AuditEntry :=
  match s.sessionById sessionId with
  | none => [⟨.sessionValidateNotFound, ip, false, none⟩]
  | some row =>
    if row.expiresAt < now then [⟨.sessionValidateExpired, ip, false, none⟩]
    else if row.ip ≠ ip then
      [⟨.sessionValidateIpMismatch, ip, false, some (.expected row.ip)⟩]
    else [⟨.sessionValidateOk, ip, true, none⟩]

/-- Source: `app/services/auth.py` `OtpAuthService.revoke_session`. Kind: D -/
def revokeSessionAudit (sessionId : String) : List AuditEntry :=
  match s.sessionById sessionId with
  | none => []
  | some row => [⟨.sessionRevoke, row.ip, true, some (.session sessionId)⟩]

/-- What a call writes. Source: `app/services/auth.py` `OtpAuthService`. Kind: D -/
def audit (c : TimedCall) : List AuditEntry :=
  match c.call with
  | .requestOtp ip _ => s.requestOtpAudit cfg ip c.now
  | .verifyOtp ip code sessionId => s.verifyOtpAudit cfg ip c.now code sessionId
  | .validateSession sessionId ip => s.validateSessionAudit ip c.now sessionId
  | .revokeSession sessionId => s.revokeSessionAudit sessionId

/-- **The service with what it writes.** Source: `app/services/auth.py` `OtpAuthService`. Kind: D -/
def auditedMachine : Machine OtpAuthService TimedCall (AuthReply × List AuditEntry) where
  step s c := (((machine cfg).step s c).1, ((machine cfg).step s c).2, s.audit cfg c)

/-- The audit trail of a history. Source: none: infrastructure. Kind: D -/
def trail (log : List (TimedCall × AuthReply × List AuditEntry)) : List AuditEntry :=
  log.flatMap fun e => e.2.2

/-! ## Locks -/

/-- The lock of the requests of an address. Source: `app/services/auth.py` `OtpAuthService`. Kind: D -/
def rateLock : Option Instant := (s.rateByIp ip).bind RequestRateState.lockedUntil

/-- The lock of the verifications of an address. Source: `app/services/auth.py` `OtpAuthService`.
Kind: D -/
def verifyLock : Option Instant := (s.verifyByIp ip).bind VerifyFailState.lockedUntil

/-- Source: none: infrastructure. Kind: D -/
def startsRateLock (e : AuditEntry) : Bool := e.eventType = .otpRequestRateLimited ∧ e.ip = ip

/-- Source: none: infrastructure. Kind: D -/
def endsRateLock (e : AuditEntry) : Bool := e.eventType = .otpRequestUnlocked ∧ e.ip = ip

/-- An address is locked by the failure that reaches the limit; the other entries of the same type say that
it was locked already. Source: `app/services/auth.py` `OtpAuthService._register_verify_failure`. Kind: D -/
def startsVerifyLock (e : AuditEntry) : Bool :=
  e.eventType = .otpVerifyLocked ∧ e.ip = ip ∧ (e.detail.bind AuditDetail.failCount?).isSome

/-- Source: none: infrastructure. Kind: D -/
def endsVerifyLock (e : AuditEntry) : Bool := e.eventType = .otpVerifyUnlocked ∧ e.ip = ip

/-- **Starts and ends account for a lock** over some entries. Source: none: infrastructure. Kind: D -/
def Accounts (starts ends : AuditEntry → Bool) (entries : List AuditEntry)
    (before after : Option Instant) : Prop :=
  entries.countP starts + (if before.isSome then 1 else 0) =
    entries.countP ends + if after.isSome then 1 else 0

/-- No entry starts or ends a lock. Source: none: infrastructure. Kind: D -/
def Quiet (starts ends : AuditEntry → Bool) (entries : List AuditEntry) : Prop :=
  ∀ e ∈ entries, starts e = false ∧ ends e = false

/-- Some entries account for both locks of an address. Source: none: infrastructure. Kind: D -/
structure AccountsForLocks (entries : List AuditEntry) (s t : OtpAuthService) : Prop where
  rate : Accounts (startsRateLock ip) (endsRateLock ip) entries (s.rateLock ip) (t.rateLock ip)
  verify : Accounts (startsVerifyLock ip) (endsVerifyLock ip) entries (s.verifyLock ip) (t.verifyLock ip)

/-- The last entry of a call says what the call answers. Source: none: infrastructure. Kind: D -/
def LastSays (entries : List AuditEntry) (reply : AuthReply) : Prop :=
  ∀ ok, reply.ok = some ok → entries.getLast?.map AuditEntry.ok = some ok

section locks

variable {cfg s ip now} {lock : Option Instant} {starts ends : AuditEntry → Bool} {e : AuditEntry}
  {entries more : List AuditEntry} {before after later : Option Instant} {j : String}

theorem Accounts.trans (h : Accounts starts ends entries before after)
    (h' : Accounts starts ends more after later) :
    Accounts starts ends (entries ++ more) before later := by
  unfold Accounts at h h' ⊢
  rw [List.countP_append, List.countP_append]
  omega

theorem accounts_of_quiet (h : Quiet starts ends entries) :
    Accounts starts ends entries before before := by
  unfold Accounts
  rw [List.countP_eq_zero.mpr fun e he => by simp [(h e he).1],
    List.countP_eq_zero.mpr fun e he => by simp [(h e he).2]]

theorem accounts_start (hs : starts e = true) (he : ends e = false) (t : Instant) :
    Accounts starts ends [e] none (some t) := by
  unfold Accounts
  rw [List.countP_singleton, List.countP_singleton, if_pos hs, he]
  rfl

theorem quiet_singleton (hs : starts e = false) (he : ends e = false) : Quiet starts ends [e] := by
  intro e' h'
  rw [List.mem_singleton.mp h']
  exact ⟨hs, he⟩

theorem Quiet.append (h : Quiet starts ends entries) (h' : Quiet starts ends more) :
    Quiet starts ends (entries ++ more) := by
  intro e he
  rcases List.mem_append.mp he with he | he
  · exact h e he
  · exact h' e he

/-- Once it was looked at, a lock is either still running, and was left alone, or it is gone.
Source: `app/services/auth.py` `OtpAuthService`. Kind: L -/
theorem lock_cases (lock : Option Instant) (now : Instant) :
    (lock.any (· ≤ now) = false ∧ ∃ left, lockLeft lock now = some left) ∨
      lock.any (· ≤ now) = lock.isSome := by
  cases lock with
  | none => exact .inr rfl
  | some t =>
      by_cases hle : t ≤ now
      · exact .inr (decide_eq_true hle)
      · refine .inl ⟨decide_eq_false hle, t - now, ?_⟩
        unfold lockLeft
        rw [Option.filter_some, if_pos (decide_eq_true (not_le.mp hle)), Option.map_some]

theorem rateState_lock : (s.rateState ip now).lockedUntil =
    if (s.rateLock ip).any (· ≤ now) then none else s.rateLock ip := by
  unfold rateState rateLock RequestRateState.unlockIfExpired
  cases s.rateByIp ip with
  | none => rfl
  | some state =>
      rw [Option.getD_some, Option.bind_some]
      split_ifs
      · rfl
      · rfl

theorem verifyState_lock : (s.verifyState ip now).lockedUntil =
    if (s.verifyLock ip).any (· ≤ now) then none else s.verifyLock ip := by
  unfold verifyState verifyLock VerifyFailState.unlockIfExpired
  cases s.verifyByIp ip with
  | none => rfl
  | some state =>
      rw [Option.getD_some, Option.bind_some]
      split_ifs
      · rfl
      · rfl

theorem unlockVerify_lock : ((s.unlockVerify ip now).verifyByIp ip).bind VerifyFailState.lockedUntil =
    if (s.verifyLock ip).any (· ≤ now) then none else s.verifyLock ip := by
  simp only [unlockVerify_eq, Function.update_self]
  unfold verifyLock VerifyFailState.unlockIfExpired
  cases s.verifyByIp ip with
  | none => rfl
  | some state =>
      rw [Option.map_some, Option.bind_some, Option.bind_some]
      split_ifs
      · rfl
      · rfl

/-- The end of a lock is written. Source: `app/services/auth.py` `OtpAuthService.request_otp`. Kind: L -/
theorem unlockRate_accounts (ip : String) (now : Instant) (lock : Option Instant) :
    Accounts (startsRateLock ip) (endsRateLock ip) (unlockRateAudit ip now lock) lock
      (if lock.any (· ≤ now) then none else lock) := by
  unfold Accounts unlockRateAudit
  rcases lock_cases lock now with ⟨hfalse, -⟩ | hexpired
  · rw [hfalse]
    rfl
  · rw [hexpired]
    cases lock with
    | none => rfl
    | some t => simp [startsRateLock, endsRateLock]

/-- Source: `app/services/auth.py` `OtpAuthService._unlock_verify_if_expired`. Kind: L -/
theorem unlockVerify_accounts (ip : String) (now : Instant) (lock : Option Instant) :
    Accounts (startsVerifyLock ip) (endsVerifyLock ip) (unlockVerifyAudit ip now lock) lock
      (if lock.any (· ≤ now) then none else lock) := by
  unfold Accounts unlockVerifyAudit
  rcases lock_cases lock now with ⟨hfalse, -⟩ | hexpired
  · rw [hfalse]
    rfl
  · rw [hexpired]
    cases lock with
    | none => rfl
    | some t => simp [startsVerifyLock, endsVerifyLock]

/-- What is written of one lock is not about the other. Source: none: infrastructure. Kind: L -/
theorem unlockRate_quiet : Quiet (startsVerifyLock j) (endsVerifyLock j) (unlockRateAudit ip now lock) := by
  unfold unlockRateAudit
  split_ifs
  · exact quiet_singleton rfl rfl
  · exact fun e he => absurd he List.not_mem_nil

theorem unlockVerify_quiet : Quiet (startsRateLock j) (endsRateLock j) (unlockVerifyAudit ip now lock) := by
  unfold unlockVerifyAudit
  split_ifs
  · exact quiet_singleton rfl rfl
  · exact fun e he => absurd he List.not_mem_nil

end locks

/-! ### The calls of the address -/

section calls

variable {cfg s ip now} {j code sessionId : String} {e : AuditEntry}

@[simp] theorem rateLock_setRate (state : RequestRateState) :
    (s.setRate ip state).rateLock ip = state.lockedUntil := by
  unfold rateLock
  rw [rateByIp_setRate, Function.update_self, Option.bind_some]

@[simp] theorem rateLock_setOtp (otp : Option OtpRecord) :
    (s.setOtp j otp).rateLock ip = s.rateLock ip := rfl

@[simp] theorem verifyLock_setRate (state : RequestRateState) :
    (s.setRate j state).verifyLock ip = s.verifyLock ip := rfl

@[simp] theorem verifyLock_setOtp (otp : Option OtpRecord) :
    (s.setOtp j otp).verifyLock ip = s.verifyLock ip := rfl

@[simp] theorem verifyLock_setVerify (state : VerifyFailState) :
    (s.setVerify ip state).verifyLock ip = state.lockedUntil := by
  unfold verifyLock
  rw [verifyByIp_setVerify, Function.update_self, Option.bind_some]

/-- Counting a request does not lock the address, and it takes no running lock away.
Source: `app/services/auth.py` `OtpAuthService.request_otp`. Kind: L -/
theorem countRequest_lock {state : RequestRateState} (h : state.lockedUntil = none) :
    (countRequest cfg now state).lockedUntil = none := by
  unfold countRequest
  split_ifs
  · rfl
  · exact h

/-- Past the check of the lock there is none. Source: `app/services/auth.py`
`OtpAuthService.request_otp`. Kind: L -/
theorem rateState_lock_of_left (h : lockLeft (s.rateState ip now).lockedUntil now = none) :
    (s.rateState ip now).lockedUntil = none := by
  rw [rateState_lock] at h ⊢
  rcases lock_cases (s.rateLock ip) now with ⟨hfalse, left, hleft⟩ | hexpired
  · rw [hfalse, if_neg Bool.false_ne_true, hleft] at h
    exact absurd h (Option.some_ne_none left)
  · rw [hexpired]
    cases s.rateLock ip with
    | none => rfl
    | some t => rfl

theorem unlockVerify_setRate (state : RequestRateState) :
    (s.setRate ip state).unlockVerify ip now = (s.unlockVerify ip now).setRate ip state := by
  rw [unlockVerify_eq, unlockVerify_eq]
  rfl

/-- **A request accounts for both locks of its address**, and its last entry says whether it was granted.
Source: `app/services/auth.py` `OtpAuthService.request_otp`. Kind: L -/
theorem requestOtp_accounts (cfg : OtpSettings) (s : OtpAuthService) (ip : String) (now : Instant)
    (drawn : Fin 10000) :
    AccountsForLocks ip (s.requestOtpAudit cfg ip now) s (s.requestOtp cfg ip now drawn).1 ∧
      LastSays (s.requestOtpAudit cfg ip now) (s.requestOtp cfg ip now drawn).2 := by
  unfold requestOtpAudit requestOtp
  simp only [unlockVerify_setRate, verifyByIp_setRate]
  have hrateEnd := unlockRate_accounts ip now (s.rateLock ip)
  have hverifyEnd := unlockVerify_accounts ip now (s.verifyLock ip)
  rw [← rateState_lock] at hrateEnd
  rw [← unlockVerify_lock] at hverifyEnd
  cases hrate : lockLeft (s.rateState ip now).lockedUntil now with
  | some left =>
      refine ⟨⟨?_, ?_⟩, ?_⟩
      · rw [rateLock_setRate]
        exact hrateEnd.trans (accounts_of_quiet (quiet_singleton rfl rfl))
      · rw [verifyLock_setRate]
        exact accounts_of_quiet (unlockRate_quiet.append (quiet_singleton rfl rfl))
      · rintro ok ⟨⟩
        simp
  | none =>
      cases hverify : lockLeft (((s.unlockVerify ip now).verifyByIp ip).bind
          VerifyFailState.lockedUntil) now with
      | some left =>
          refine ⟨⟨?_, ?_⟩, ?_⟩
          · rw [rateLock_setRate]
            apply hrateEnd.trans
            exact accounts_of_quiet (unlockVerify_quiet.append (quiet_singleton rfl rfl))
          · rw [verifyLock_setRate]
            apply (accounts_of_quiet unlockRate_quiet).trans
            exact hverifyEnd.trans (accounts_of_quiet (quiet_singleton rfl rfl))
          · rintro ok ⟨⟩
            simp
      | none =>
          rw [rateState_lock_of_left hrate] at hrateEnd
          simp only
          split_ifs with hlimit
          · refine ⟨⟨?_, ?_⟩, ?_⟩
            · rw [rateLock_setRate]
              apply hrateEnd.trans
              apply (accounts_of_quiet unlockVerify_quiet).trans
              exact accounts_start (by simp [startsRateLock]) rfl _
            · rw [verifyLock_setRate, verifyLock_setRate]
              apply (accounts_of_quiet unlockRate_quiet).trans
              exact hverifyEnd.trans (accounts_of_quiet (quiet_singleton rfl rfl))
            · rintro ok ⟨⟩
              simp
          · refine ⟨⟨?_, ?_⟩, ?_⟩
            · rw [rateLock_setOtp, rateLock_setRate, countRequest_lock (rateState_lock_of_left hrate)]
              apply hrateEnd.trans
              exact accounts_of_quiet (unlockVerify_quiet.append (quiet_singleton rfl rfl))
            · rw [verifyLock_setOtp, verifyLock_setRate, verifyLock_setRate]
              apply (accounts_of_quiet unlockRate_quiet).trans
              exact hverifyEnd.trans (accounts_of_quiet (quiet_singleton rfl rfl))
            · rintro ok ⟨⟩
              simp

@[simp] theorem rateLock_setVerify (state : VerifyFailState) :
    (s.setVerify j state).rateLock ip = s.rateLock ip := rfl

@[simp] theorem rateLock_setSession (row : Option SessionRecord) :
    (s.setSession sessionId row).rateLock ip = s.rateLock ip := rfl

@[simp] theorem verifyLock_setSession (row : Option SessionRecord) :
    (s.setSession sessionId row).verifyLock ip = s.verifyLock ip := rfl

/-- **A failure accounts for the lock it sets.** Source: `app/services/auth.py`
`OtpAuthService._register_verify_failure`. Kind: L -/
theorem registerVerifyFailure_accounts (cfg : OtpSettings) (now : Instant) (baseError : String)
    {state : VerifyFailState} (hstate : s.verifyByIp ip = some state) (hfree : state.lockedUntil = none) :
    AccountsForLocks ip (registerVerifyFailureAudit cfg ip state.failCount baseError) s
        (s.registerVerifyFailure cfg ip now baseError).1 ∧
      LastSays (registerVerifyFailureAudit cfg ip state.failCount baseError)
        (s.registerVerifyFailure cfg ip now baseError).2 := by
  have hlock : s.verifyLock ip = none := by
    unfold verifyLock
    rw [hstate, Option.bind_some, hfree]
  unfold registerVerifyFailureAudit registerVerifyFailure
  simp only [hstate, Option.getD_some]
  split_ifs with hlimit
  · refine ⟨⟨accounts_of_quiet (quiet_singleton rfl rfl), ?_⟩, ?_⟩
    · rw [verifyLock_setVerify, hlock]
      exact accounts_start (by simp [startsVerifyLock, AuditDetail.failCount?]) rfl _
    · rintro ok ⟨⟩
      rfl
  · refine ⟨⟨accounts_of_quiet (quiet_singleton rfl rfl), ?_⟩, ?_⟩
    · rw [verifyLock_setVerify, hlock, hfree]
      exact accounts_of_quiet (quiet_singleton rfl rfl)
    · rintro ok ⟨⟩
      rfl

/-- Entries are added before the last ones. Source: none: infrastructure. Kind: L -/
theorem LastSays.prepend {reply : AuthReply} {entries : List AuditEntry} (h : LastSays entries reply)
    (more : List AuditEntry) : LastSays (more ++ entries) reply := by
  intro ok hok
  have hlast := h ok hok
  rw [List.getLast?_append]
  cases hl : entries.getLast? with
  | none =>
      rw [hl] at hlast
      exact absurd hlast.symm (Option.some_ne_none ok)
  | some e => rwa [hl] at hlast

/-- **A verification accounts for both locks of its address**, and its last entry says whether it
succeeded. Source: `app/services/auth.py` `OtpAuthService.verify_otp`. Kind: L -/
theorem verifyOtp_accounts (cfg : OtpSettings) (s : OtpAuthService) (ip : String) (now : Instant)
    (code sessionId : String) :
    AccountsForLocks ip (s.verifyOtpAudit cfg ip now code sessionId) s
        (s.verifyOtp cfg ip now code sessionId).1 ∧
      LastSays (s.verifyOtpAudit cfg ip now code sessionId)
        (s.verifyOtp cfg ip now code sessionId).2 := by
  -- the lock is looked at first, and the rest goes on from there
  have hfirst : ∀ entries t reply, AccountsForLocks ip entries (s.setVerify ip (s.verifyState ip now)) t ∧
      LastSays entries reply → AccountsForLocks ip
        (unlockVerifyAudit ip now (s.verifyLock ip) ++ entries) s t ∧
        LastSays (unlockVerifyAudit ip now (s.verifyLock ip) ++ entries) reply := by
    rintro entries t reply ⟨haccounts, hlast⟩
    refine ⟨⟨(accounts_of_quiet unlockVerify_quiet).trans haccounts.rate, ?_⟩, hlast.prepend _⟩
    have hend := unlockVerify_accounts ip now (s.verifyLock ip)
    have hverify := haccounts.verify
    rw [verifyLock_setVerify, verifyState_lock] at hverify
    exact hend.trans hverify
  unfold verifyOtpAudit verifyOtp
  apply hfirst
  simp only [otpByIp_setVerify]
  have hset : (s.setVerify ip (s.verifyState ip now)).verifyByIp ip = some (s.verifyState ip now) := by
    rw [verifyByIp_setVerify, Function.update_self]
  cases hlock : lockLeft (s.verifyState ip now).lockedUntil now with
  | some left =>
      refine ⟨⟨accounts_of_quiet (quiet_singleton rfl rfl), ?_⟩, ?_⟩
      · exact accounts_of_quiet (quiet_singleton (by simp [startsVerifyLock, AuditDetail.failCount?]) rfl)
      · rintro ok ⟨⟩
        rfl
  | none =>
      have hfree : (s.verifyState ip now).lockedUntil = none := VerifyFailState.lockedUntil_of_lockLeft hlock
      cases hotp : s.otpByIp ip with
      | none => exact registerVerifyFailure_accounts cfg now "otp_not_requested" hset hfree
      | some otp =>
          simp only
          split_ifs
          · have hset' : ((s.setVerify ip (s.verifyState ip now)).setOtp ip none).verifyByIp ip =
                some (s.verifyState ip now) := hset
            obtain ⟨haccounts, hlast⟩ := registerVerifyFailure_accounts cfg now "otp_expired" hset' hfree
            exact ⟨⟨haccounts.rate, haccounts.verify⟩, hlast⟩
          · exact registerVerifyFailure_accounts cfg now "otp_mismatch" hset hfree
          · refine ⟨⟨accounts_of_quiet (quiet_singleton rfl rfl), ?_⟩, ?_⟩
            · rw [verifyLock_setVerify, verifyLock_setVerify, hfree]
              exact accounts_of_quiet (quiet_singleton rfl rfl)
            · rintro ok ⟨⟩
              rfl

end calls

/-! ### Every call -/

section step

variable {cfg s ip now} {j code sessionId : String} {entries : List AuditEntry} {e : AuditEntry}
  {c : TimedCall}

/-- Entries of other addresses are about other locks. Source: none: infrastructure. Kind: L -/
theorem quiet_of_ip_ne (h : ∀ e ∈ entries, e.Of j) (hj : ip ≠ j) :
    Quiet (startsRateLock ip) (endsRateLock ip) entries ∧
      Quiet (startsVerifyLock ip) (endsVerifyLock ip) entries := by
  have hne : ∀ e ∈ entries, e.ip ≠ ip := fun e he => (h e he).1.trans_ne hj.symm
  refine ⟨fun e he => ?_, fun e he => ?_⟩
  · exact ⟨decide_eq_false fun hyes => hne e he hyes.2, decide_eq_false fun hyes => hne e he hyes.2⟩
  · exact ⟨decide_eq_false fun hyes => hne e he hyes.2.1, decide_eq_false fun hyes => hne e he hyes.2⟩

theorem of_unlockRateAudit {lock : Option Instant} : ∀ e ∈ unlockRateAudit j now lock, e.Of j := by
  unfold unlockRateAudit
  split_ifs
  · exact List.forall_mem_singleton.mpr ⟨rfl, rfl⟩
  · exact fun e he => absurd he List.not_mem_nil

theorem of_unlockVerifyAudit {lock : Option Instant} : ∀ e ∈ unlockVerifyAudit j now lock, e.Of j := by
  unfold unlockVerifyAudit
  split_ifs
  · exact List.forall_mem_singleton.mpr ⟨rfl, rfl⟩
  · exact fun e he => absurd he List.not_mem_nil

theorem of_registerVerifyFailureAudit {failCount : ℕ} {baseError : String} :
    ∀ e ∈ registerVerifyFailureAudit cfg j failCount baseError, e.Of j := by
  unfold registerVerifyFailureAudit
  split_ifs
  all_goals exact List.forall_mem_singleton.mpr ⟨rfl, rfl⟩

theorem of_requestOtpAudit : ∀ e ∈ s.requestOtpAudit cfg j now, e.Of j := by
  unfold requestOtpAudit
  refine List.forall_mem_append.mpr ⟨of_unlockRateAudit, ?_⟩
  split
  · exact List.forall_mem_singleton.mpr ⟨rfl, rfl⟩
  · refine List.forall_mem_append.mpr ⟨of_unlockVerifyAudit, ?_⟩
    split
    · exact List.forall_mem_singleton.mpr ⟨rfl, rfl⟩
    · split_ifs
      all_goals exact List.forall_mem_singleton.mpr ⟨rfl, rfl⟩

theorem of_verifyOtpAudit : ∀ e ∈ s.verifyOtpAudit cfg j now code sessionId, e.Of j := by
  unfold verifyOtpAudit
  refine List.forall_mem_append.mpr ⟨of_unlockVerifyAudit, ?_⟩
  split
  · exact List.forall_mem_singleton.mpr ⟨rfl, rfl⟩
  · split
    · exact of_registerVerifyFailureAudit
    · split_ifs
      · exact of_registerVerifyFailureAudit
      · exact of_registerVerifyFailureAudit
      · exact List.forall_mem_singleton.mpr ⟨rfl, rfl⟩

/-- What the calls about sessions write is about no lock. Source: `app/services/auth.py`
`OtpAuthService.validate_session`. Kind: L -/
theorem of_validateSessionAudit : ∀ e ∈ s.validateSessionAudit j now sessionId,
    e.Of j ∧ e.eventType.isAboutSession = true := by
  unfold validateSessionAudit
  split
  · exact List.forall_mem_singleton.mpr ⟨⟨rfl, rfl⟩, rfl⟩
  · split_ifs
    all_goals exact List.forall_mem_singleton.mpr ⟨⟨rfl, rfl⟩, rfl⟩

theorem of_revokeSessionAudit : ∀ e ∈ s.revokeSessionAudit sessionId,
    e.Of e.ip ∧ e.eventType.isAboutSession = true := by
  unfold revokeSessionAudit
  split
  · exact fun e he => absurd he List.not_mem_nil
  · exact List.forall_mem_singleton.mpr ⟨⟨rfl, rfl⟩, rfl⟩

theorem quiet_of_isAboutSession (h : ∀ e ∈ entries, e.eventType.isAboutSession = true) :
    Quiet (startsRateLock ip) (endsRateLock ip) entries ∧
      Quiet (startsVerifyLock ip) (endsVerifyLock ip) entries := by
  have hne : ∀ e ∈ entries, ∀ event : AuditEvent, event.isAboutSession = false →
      e.eventType ≠ event := by
    rintro e he event hevent heq
    rw [← heq, h e he] at hevent
    exact Bool.noConfusion hevent
  refine ⟨fun e he => ?_, fun e he => ?_⟩
  · exact ⟨decide_eq_false fun hyes => hne e he _ rfl hyes.1,
      decide_eq_false fun hyes => hne e he _ rfl hyes.1⟩
  · exact ⟨decide_eq_false fun hyes => hne e he _ rfl hyes.1,
      decide_eq_false fun hyes => hne e he _ rfl hyes.1⟩

/-- **Every type of event is always written with the same `ok`.** Source: `app/services/auth.py`
`OtpAuthService._audit`. Kind: P -/
theorem ok_of_mem_audit (h : e ∈ s.audit cfg c) : e.ok = e.eventType.ok := by
  obtain ⟨now, call⟩ := c
  cases call with
  | requestOtp j drawn => exact (of_requestOtpAudit e h).2
  | verifyOtp j code sessionId => exact (of_verifyOtpAudit e h).2
  | validateSession sessionId j => exact (of_validateSessionAudit e h).1.2
  | revokeSession sessionId => exact (of_revokeSessionAudit e h).1.2

/-- A call from another address touches neither lock of this one. Source: `app/services/auth.py`
`OtpAuthService`. Kind: L -/
theorem requestOtp_locks_other (cfg : OtpSettings) (s : OtpAuthService) (now : Instant)
    (drawn : Fin 10000) (hj : ip ≠ j) :
    (s.requestOtp cfg j now drawn).1.rateLock ip = s.rateLock ip ∧
      (s.requestOtp cfg j now drawn).1.verifyLock ip = s.verifyLock ip := by
  have hunlock : (s.unlockVerify j now).verifyByIp ip = s.verifyByIp ip := by
    simp only [unlockVerify_eq, Function.update_of_ne hj]
  unfold rateLock verifyLock
  have hret := requestOtp_returns cfg s j now drawn
  generalize s.requestOtp cfg j now drawn = result at hret ⊢
  cases hret with
  | locked left _ => simp [Function.update_of_ne hj]
  | verifyLocked left _ _ => simp [Function.update_of_ne hj, hunlock]
  | limited lockedUntil left _ _ => simp [Function.update_of_ne hj, hunlock]
  | issued _ _ _ => simp [Function.update_of_ne hj, hunlock]

theorem verifyOtp_locks_other (cfg : OtpSettings) (s : OtpAuthService) (now : Instant)
    (code sessionId : String) (hj : ip ≠ j) :
    (s.verifyOtp cfg j now code sessionId).1.rateLock ip = s.rateLock ip ∧
      (s.verifyOtp cfg j now code sessionId).1.verifyLock ip = s.verifyLock ip := by
  have hrate : (s.verifyOtp cfg j now code sessionId).1.rateByIp ip = s.rateByIp ip :=
    rateByIp_step (c := ⟨now, .verifyOtp j code sessionId⟩) fun drawn h => AuthCall.noConfusion h
  unfold rateLock verifyLock
  rw [hrate, verifyByIp_verifyOtp_other hj.symm]
  exact ⟨rfl, rfl⟩

/-- A session that is validated or revoked touches no lock. Source: `app/services/auth.py`
`OtpAuthService.validate_session`. Kind: L -/
theorem validateSession_locks : (s.validateSession j now sessionId).1.rateLock ip = s.rateLock ip ∧
    (s.validateSession j now sessionId).1.verifyLock ip = s.verifyLock ip := by
  unfold validateSession
  split
  · exact ⟨rfl, rfl⟩
  · split_ifs
    all_goals exact ⟨rfl, rfl⟩

/-- A call that touches no lock of an address and writes nothing about it accounts for its locks.
Source: none: infrastructure. Kind: L -/
theorem accountsForLocks_of_quiet {t : OtpAuthService}
    (hlocks : t.rateLock ip = s.rateLock ip ∧ t.verifyLock ip = s.verifyLock ip)
    (hquiet : Quiet (startsRateLock ip) (endsRateLock ip) entries ∧
      Quiet (startsVerifyLock ip) (endsVerifyLock ip) entries) : AccountsForLocks ip entries s t := by
  constructor
  · rw [hlocks.1]
    exact accounts_of_quiet hquiet.1
  · rw [hlocks.2]
    exact accounts_of_quiet hquiet.2

/-- **Every call accounts for both locks of every address.** Source: `app/services/auth.py`
`OtpAuthService`. Kind: L -/
theorem audit_step (cfg : OtpSettings) (s : OtpAuthService) (c : TimedCall) (ip : String) :
    AccountsForLocks ip (s.audit cfg c) s ((machine cfg).step s c).1 := by
  obtain ⟨now, call⟩ := c
  cases call with
  | requestOtp j drawn =>
      by_cases hj : ip = j
      · subst hj
        exact (requestOtp_accounts cfg s ip now drawn).1
      · exact accountsForLocks_of_quiet (requestOtp_locks_other cfg s now drawn hj)
          (quiet_of_ip_ne of_requestOtpAudit hj)
  | verifyOtp j code sessionId =>
      by_cases hj : ip = j
      · subst hj
        exact (verifyOtp_accounts cfg s ip now code sessionId).1
      · exact accountsForLocks_of_quiet (verifyOtp_locks_other cfg s now code sessionId hj)
          (quiet_of_ip_ne of_verifyOtpAudit hj)
  | validateSession sessionId j =>
      exact accountsForLocks_of_quiet validateSession_locks
        (quiet_of_isAboutSession fun e he => (of_validateSessionAudit e he).2)
  | revokeSession sessionId =>
      exact accountsForLocks_of_quiet ⟨rfl, rfl⟩
        (quiet_of_isAboutSession fun e he => (of_revokeSessionAudit e he).2)

/-- **The last entry of a call says what it answers.** Source: `app/services/auth.py`
`OtpAuthService._audit`. Kind: L -/
theorem lastSays_audit (cfg : OtpSettings) (s : OtpAuthService) (c : TimedCall) :
    LastSays (s.audit cfg c) ((machine cfg).step s c).2 := by
  obtain ⟨now, call⟩ := c
  cases call with
  | requestOtp j drawn => exact (requestOtp_accounts cfg s j now drawn).2
  | verifyOtp j code sessionId => exact (verifyOtp_accounts cfg s j now code sessionId).2
  | validateSession sessionId j =>
      show LastSays (s.validateSessionAudit j now sessionId) (s.validateSession j now sessionId).2
      unfold validateSessionAudit validateSession
      cases s.sessionById sessionId with
      | none =>
          rintro ok ⟨⟩
          rfl
      | some row =>
          simp only
          split_ifs
          all_goals
            rintro ok ⟨⟩
            rfl
  | revokeSession sessionId => exact fun ok h => absurd h.symm (Option.some_ne_none ok)

end step

end OtpAuthService

end HaruTrade
