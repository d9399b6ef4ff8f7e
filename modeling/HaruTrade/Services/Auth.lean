import Mathlib.Algebra.GroupWithZero.Nat
import Mathlib.Algebra.Order.Group.Int
import Mathlib.Logic.Function.Basic
import HaruTrade.Data.Calendar
import HaruTrade.Data.Machine
import HaruTrade.Data.PyText

/-!
# One-time passwords and sessions

`OtpAuthService` issues one-time passwords, exchanges them for sessions and answers whether a
session is valid. Every call runs under the service's lock, so a history of the service is a list of
calls with the times they read; the random numbers it draws are data of the calls.

* `requestOtp`, `verifyOtp`, `validateSession`, `revokeSession` — the calls.
* `requestOtp_cases`, `verifyOtp_cases` — everything such a call can do, one case per return.
* `machine` — the service as a `Machine` over timed calls.
-/

namespace HaruTrade

/-! ## Records -/

/-- Source: `app/services/auth.py` `OtpRecord`. Kind: D -/
structure OtpRecord where
  code : String
  expiresAt : Instant
  deriving DecidableEq, Repr

/-- Source: `app/services/auth.py` `RequestRateState`. Kind: D -/
structure RequestRateState where
  windowStart : Instant
  requestCount : ℕ
  lockedUntil : Option Instant := none
  deriving DecidableEq, Repr

/-- Source: `app/services/auth.py` `VerifyFailState`. Kind: D -/
structure VerifyFailState where
  failCount : ℕ := 0
  lockedUntil : Option Instant := none
  deriving DecidableEq, Repr

/-- Source: `app/services/auth.py` `SessionRecord`. Kind: D -/
structure SessionRecord where
  sessionId : String
  ip : String
  issuedAt : Instant
  expiresAt : Instant
  deriving DecidableEq, Repr

/-- The settings of the service. Source: `app/services/auth.py` `OtpAuthService.__init__`.
Kind: D -/
structure OtpSettings where
  otpTtlSeconds : ℤ := 180
  requestWindowSeconds : ℤ := 60
  requestLimitPerWindow : ℤ := 3
  lockSeconds : ℤ := 600
  verifyFailLimit : ℤ := 5
  verifyLockSeconds : ℤ := 600
  sessionTtlSeconds : ℤ := 86400
  deriving DecidableEq, Repr

/-- The dictionaries of the service. Source: `app/services/auth.py` `OtpAuthService.__init__`.
Kind: D -/
structure OtpAuthService where
  otpByIp : String → Option OtpRecord := fun _ => none
  rateByIp : String → Option RequestRateState := fun _ => none
  verifyByIp : String → Option VerifyFailState := fun _ => none
  sessionById : String → Option SessionRecord := fun _ => none

/-- What a call returns: a dictionary with `ok` false or true, or nothing.
Source: `app/services/auth.py` `OtpAuthService`. Kind: D -/
inductive AuthReply
  | denied (error : String) (retryAfterSeconds : Option ℤ) (failCount : Option ℕ)
  | otpIssued (expiresInSeconds : ℤ) (requestedAt : Instant)
  | sessionOpened (sessionId : String) (expiresAt : Instant) (expiresInSeconds : ℤ)
  | sessionValid (sessionId : String) (issuedAt expiresAt : Instant)
  | nothing
  deriving DecidableEq, Repr

/-! ## The locks -/

/-- `locked_until is not None and now < locked_until`: the time that is left.
Source: `app/services/auth.py` `OtpAuthService`. Kind: D -/
def lockLeft (lockedUntil : Option Instant) (now : Instant) : Option ℤ :=
  (lockedUntil.filter fun until_ => now < until_).map fun until_ => until_ - now

/-- The lock of the requests has run out: counting starts again.
Source: `app/services/auth.py` `OtpAuthService.request_otp`. Kind: D -/
def RequestRateState.unlockIfExpired (state : RequestRateState) (now : Instant) :
    RequestRateState :=
  if state.lockedUntil.any (· ≤ now) then
    { lockedUntil := none, requestCount := 0, windowStart := now }
  else state

/-- Source: `app/services/auth.py` `OtpAuthService._unlock_verify_if_expired`. Kind: D -/
def VerifyFailState.unlockIfExpired (state : VerifyFailState) (now : Instant) : VerifyFailState :=
  if state.lockedUntil.any (· ≤ now) then { lockedUntil := none, failCount := 0 } else state

namespace OtpAuthService

variable (cfg : OtpSettings) (s : OtpAuthService) (ip : String) (now : Instant)

/-- `self._rate_by_ip[ip] = state`. Source: `app/services/auth.py` `OtpAuthService`. Kind: D -/
def setRate (state : RequestRateState) : OtpAuthService :=
  { s with rateByIp := Function.update s.rateByIp ip (some state) }

/-- `self._verify_by_ip[ip] = state`. Source: `app/services/auth.py` `OtpAuthService`. Kind: D -/
def setVerify (state : VerifyFailState) : OtpAuthService :=
  { s with verifyByIp := Function.update s.verifyByIp ip (some state) }

/-- `self._otp_by_ip[ip] = otp`, or `self._otp_by_ip.pop(ip, None)`.
Source: `app/services/auth.py` `OtpAuthService`. Kind: D -/
def setOtp (otp : Option OtpRecord) : OtpAuthService :=
  { s with otpByIp := Function.update s.otpByIp ip otp }

/-- `self._session_by_id[session_id] = row`, or `self._session_by_id.pop(session_id, None)`.
Source: `app/services/auth.py` `OtpAuthService`. Kind: D -/
def setSession (sessionId : String) (row : Option SessionRecord) : OtpAuthService :=
  { s with sessionById := Function.update s.sessionById sessionId row }

instance : NeZero 10000 := ⟨by decide⟩

/-- `f"{secrets.randbelow(10000):04d}"`. Source: `app/services/auth.py`
`OtpAuthService._generate_otp`. Kind: D -/
def generateOtp (drawn : Fin 10000) : String :=
  String.ofList ((Nat.toDigits 10 drawn).leftpad 4 '0')

/-! ## Requests -/

/-- The request count of an address, its lock released when it has run out.
Source: `app/services/auth.py` `OtpAuthService.request_otp`. Kind: D -/
def rateState : RequestRateState :=
  ((s.rateByIp ip).getD { windowStart := now, requestCount := 0 }).unlockIfExpired now

/-- Count a request, in a new window when the last one is over.
Source: `app/services/auth.py` `OtpAuthService.request_otp`. Kind: D -/
def countRequest (state : RequestRateState) : RequestRateState :=
  let state :=
    if timedelta cfg.requestWindowSeconds ≤ now - state.windowStart then
      { windowStart := now, requestCount := 0, lockedUntil := none }
    else state
  { state with requestCount := state.requestCount + 1 }

/-- The failures of an address are looked up, and their lock released when it has run out.
Source: `app/services/auth.py` `OtpAuthService.request_otp`. Kind: D -/
def unlockVerify : OtpAuthService :=
  match s.verifyByIp ip with
  | some state => s.setVerify ip (state.unlockIfExpired now)
  | none => s

/-- **Ask for a one-time password.** Source: `app/services/auth.py` `OtpAuthService.request_otp`.
Kind: D -/
def requestOtp (drawn : Fin 10000) : OtpAuthService × AuthReply :=
  let state := s.rateState ip now
  let s := s.setRate ip state
  match lockLeft state.lockedUntil now with
  | some left => (s, .denied "otp_request_locked" (some (max (totalSeconds left) 1)) none)
  | none =>
    let s := s.unlockVerify ip now
    match lockLeft ((s.verifyByIp ip).bind VerifyFailState.lockedUntil) now with
    | some left => (s, .denied "otp_verify_locked" (some (max (totalSeconds left) 1)) none)
    | none =>
      let state := countRequest cfg now state
      if cfg.requestLimitPerWindow < state.requestCount then
        let lockedUntil := now + timedelta cfg.lockSeconds
        let left := totalSeconds (lockedUntil - now)
        (s.setRate ip { state with lockedUntil := some lockedUntil },
          .denied "otp_request_rate_limited" (some (max left 1)) none)
      else
        let otp := { code := generateOtp drawn, expiresAt := now + timedelta cfg.otpTtlSeconds }
        ((s.setRate ip state).setOtp ip (some otp), .otpIssued cfg.otpTtlSeconds now)

/-! ## Verification -/

/-- Source: `app/services/auth.py` `OtpAuthService._register_verify_failure`. Kind: D -/
def registerVerifyFailure (baseError : String) : OtpAuthService × AuthReply :=
  let state := (s.verifyByIp ip).getD {}
  let failCount := state.failCount + 1
  if cfg.verifyFailLimit ≤ failCount then
    let lockedUntil := now + timedelta cfg.verifyLockSeconds
    let left := totalSeconds (lockedUntil - now)
    (s.setVerify ip { failCount, lockedUntil := some lockedUntil },
      .denied "otp_verify_locked" (some (max left 1)) (some failCount))
  else (s.setVerify ip { state with failCount }, .denied baseError none (some failCount))

/-- The failures of an address, their lock released when it has run out.
Source: `app/services/auth.py` `OtpAuthService.verify_otp`. Kind: D -/
def verifyState : VerifyFailState := ((s.verifyByIp ip).getD {}).unlockIfExpired now

/-- **Exchange a one-time password for a session.** Source: `app/services/auth.py`
`OtpAuthService.verify_otp`; `sessionId` is the drawn `secrets.token_hex(24)`. Kind: D -/
def verifyOtp (code sessionId : String) : OtpAuthService × AuthReply :=
  let cleanCode := PyText.strip code
  let state := s.verifyState ip now
  let s := s.setVerify ip state
  match lockLeft state.lockedUntil now with
  | some left => (s, .denied "otp_verify_locked" (some (max (totalSeconds left) 1)) none)
  | none =>
    match s.otpByIp ip with
    | none => s.registerVerifyFailure cfg ip now "otp_not_requested"
    | some otp =>
      if otp.expiresAt < now then
        (s.setOtp ip none).registerVerifyFailure cfg ip now "otp_expired"
      else if otp.code ≠ cleanCode then s.registerVerifyFailure cfg ip now "otp_mismatch"
      else
        let expiresAt := now + timedelta cfg.sessionTtlSeconds
        (((s.setSession sessionId (some { sessionId, ip, issuedAt := now, expiresAt })).setOtp ip
            none).setVerify ip {},
          .sessionOpened sessionId expiresAt cfg.sessionTtlSeconds)

/-! ## Sessions -/

/-- Source: `app/services/auth.py` `OtpAuthService.validate_session`. Kind: D -/
def validateSession (sessionId : String) : OtpAuthService × AuthReply :=
  match s.sessionById sessionId with
  | none => (s, .denied "session_not_found" none none)
  | some row =>
    if row.expiresAt < now then
      (s.setSession sessionId none, .denied "session_expired" none none)
    else if row.ip ≠ ip then (s, .denied "session_ip_mismatch" none none)
    else (s, .sessionValid row.sessionId row.issuedAt row.expiresAt)

/-- Source: `app/services/auth.py` `OtpAuthService.revoke_session`. Kind: D -/
def revokeSession (sessionId : String) : OtpAuthService × AuthReply :=
  (s.setSession sessionId none, .nothing)

end OtpAuthService

/-! ## What the calls do -/

theorem lockLeft_eq_none_iff {lockedUntil : Option Instant} {now : Instant} :
    lockLeft lockedUntil now = none ↔ ∀ t, lockedUntil = some t → t ≤ now := by
  simp [lockLeft, Option.filter_eq_none_iff]

/-- A lock that has not run out is left alone. Source: `app/services/auth.py`
`OtpAuthService._unlock_verify_if_expired`. Kind: L -/
theorem VerifyFailState.unlockIfExpired_of_lt {state : VerifyFailState} {now : Instant}
    (h : ∀ t, state.lockedUntil = some t → now < t) : state.unlockIfExpired now = state := by
  unfold unlockIfExpired
  cases hu : state.lockedUntil with
  | none => rfl
  | some t => simp [not_le.mpr (h t hu)]

/-- Once the lock is looked at, it is either gone or still running. Source: `app/services/auth.py`
`OtpAuthService._unlock_verify_if_expired`. Kind: L -/
theorem VerifyFailState.lockedUntil_of_lockLeft {state : VerifyFailState} {now : Instant}
    (h : lockLeft (state.unlockIfExpired now).lockedUntil now = none) :
    (state.unlockIfExpired now).lockedUntil = none := by
  rw [lockLeft_eq_none_iff] at h
  unfold unlockIfExpired at h ⊢
  cases hu : state.lockedUntil with
  | none => simp [hu]
  | some t =>
      by_cases hle : t ≤ now
      · simp [hle]
      · simp only [hu, Option.any_some, hle, decide_false, Bool.false_eq_true, if_false] at h
        exact absurd (h t rfl) hle

namespace OtpAuthService

variable {cfg : OtpSettings} {s : OtpAuthService} {ip : String} {now : Instant}

section fields

variable {rate : RequestRateState} {verify : VerifyFailState} {otp : Option OtpRecord}
  {row : Option SessionRecord} {sessionId : String}

@[simp] theorem otpByIp_setRate : (s.setRate ip rate).otpByIp = s.otpByIp := rfl
@[simp] theorem otpByIp_setVerify : (s.setVerify ip verify).otpByIp = s.otpByIp := rfl
@[simp] theorem otpByIp_setSession : (s.setSession sessionId row).otpByIp = s.otpByIp := rfl
@[simp] theorem otpByIp_setOtp : (s.setOtp ip otp).otpByIp = Function.update s.otpByIp ip otp := rfl

@[simp] theorem rateByIp_setVerify : (s.setVerify ip verify).rateByIp = s.rateByIp := rfl
@[simp] theorem rateByIp_setSession : (s.setSession sessionId row).rateByIp = s.rateByIp := rfl
@[simp] theorem rateByIp_setOtp : (s.setOtp ip otp).rateByIp = s.rateByIp := rfl
@[simp] theorem rateByIp_setRate :
    (s.setRate ip rate).rateByIp = Function.update s.rateByIp ip (some rate) := rfl

@[simp] theorem verifyByIp_setRate : (s.setRate ip rate).verifyByIp = s.verifyByIp := rfl
@[simp] theorem verifyByIp_setSession : (s.setSession sessionId row).verifyByIp = s.verifyByIp := rfl
@[simp] theorem verifyByIp_setOtp : (s.setOtp ip otp).verifyByIp = s.verifyByIp := rfl
@[simp] theorem verifyByIp_setVerify :
    (s.setVerify ip verify).verifyByIp = Function.update s.verifyByIp ip (some verify) := rfl

@[simp] theorem sessionById_setRate : (s.setRate ip rate).sessionById = s.sessionById := rfl
@[simp] theorem sessionById_setVerify : (s.setVerify ip verify).sessionById = s.sessionById := rfl
@[simp] theorem sessionById_setOtp : (s.setOtp ip otp).sessionById = s.sessionById := rfl
@[simp] theorem sessionById_setSession :
    (s.setSession sessionId row).sessionById = Function.update s.sessionById sessionId row := rfl

end fields

/-- Looking at the failures changes nothing but the failures of the address.
Source: `app/services/auth.py` `OtpAuthService.request_otp`. Kind: L -/
theorem unlockVerify_eq : s.unlockVerify ip now = { s with
    verifyByIp := Function.update s.verifyByIp ip
      ((s.verifyByIp ip).map fun state => state.unlockIfExpired now) } := by
  unfold unlockVerify
  split
  · next state h =>
      rw [h]
      rfl
  · next h => rw [h, Option.map_none, ← h, Function.update_eq_self]

@[simp] theorem otpByIp_unlockVerify : (s.unlockVerify ip now).otpByIp = s.otpByIp := by
  rw [unlockVerify_eq]

@[simp] theorem rateByIp_unlockVerify : (s.unlockVerify ip now).rateByIp = s.rateByIp := by
  rw [unlockVerify_eq]

@[simp] theorem sessionById_unlockVerify : (s.unlockVerify ip now).sessionById = s.sessionById := by
  rw [unlockVerify_eq]

/-- **Everything a request can do**, one case per return: it is rejected by one of the two locks, it
locks the requests of the address, or it issues a password. Source: `app/services/auth.py`
`OtpAuthService.request_otp`. Kind: D -/
inductive RequestReturns (cfg : OtpSettings) (s : OtpAuthService) (ip : String) (now : Instant)
    (drawn : Fin 10000) : OtpAuthService × AuthReply → Prop
  | locked (left : ℤ) (hrate : lockLeft (s.rateState ip now).lockedUntil now = some left) :
      RequestReturns cfg s ip now drawn (s.setRate ip (s.rateState ip now),
        .denied "otp_request_locked" (some (max (totalSeconds left) 1)) none)
  | verifyLocked (left : ℤ) (hrate : lockLeft (s.rateState ip now).lockedUntil now = none)
      (hverify : lockLeft (((s.unlockVerify ip now).verifyByIp ip).bind
        VerifyFailState.lockedUntil) now = some left) :
      RequestReturns cfg s ip now drawn ((s.unlockVerify ip now).setRate ip (s.rateState ip now),
        .denied "otp_verify_locked" (some (max (totalSeconds left) 1)) none)
  | limited (lockedUntil : Instant) (left : ℤ)
      (hrate : lockLeft (s.rateState ip now).lockedUntil now = none)
      (hverify : lockLeft (((s.unlockVerify ip now).verifyByIp ip).bind
        VerifyFailState.lockedUntil) now = none) :
      RequestReturns cfg s ip now drawn ((s.unlockVerify ip now).setRate ip
          { countRequest cfg now (s.rateState ip now) with lockedUntil := some lockedUntil },
        .denied "otp_request_rate_limited" (some left) none)
  | issued (hrate : lockLeft (s.rateState ip now).lockedUntil now = none)
      (hverify : lockLeft (((s.unlockVerify ip now).verifyByIp ip).bind
        VerifyFailState.lockedUntil) now = none)
      (hlimit : (countRequest cfg now (s.rateState ip now)).requestCount ≤
        cfg.requestLimitPerWindow) :
      RequestReturns cfg s ip now drawn
        (((s.unlockVerify ip now).setRate ip (countRequest cfg now (s.rateState ip now))).setOtp ip
            (some { code := generateOtp drawn
                    expiresAt := now + timedelta cfg.otpTtlSeconds }),
          .otpIssued cfg.otpTtlSeconds now)

theorem requestOtp_returns (cfg : OtpSettings) (s : OtpAuthService) (ip : String) (now : Instant)
    (drawn : Fin 10000) :
    RequestReturns cfg s ip now drawn (s.requestOtp cfg ip now drawn) := by
  have hunlock : ∀ state, (s.setRate ip state).unlockVerify ip now =
      (s.unlockVerify ip now).setRate ip state := by
    intro state
    simp only [unlockVerify_eq]
    rfl
  have hverify : ∀ state, ((s.unlockVerify ip now).setRate ip state).verifyByIp =
      (s.unlockVerify ip now).verifyByIp := fun state => rfl
  have htwice : ∀ (t : OtpAuthService) (a b : RequestRateState),
      (t.setRate ip a).setRate ip b = t.setRate ip b := by
    intro t a b
    simp [setRate]
  unfold requestOtp
  simp only [hunlock, hverify, htwice]
  split
  · next left hleft => exact .locked left hleft
  · next hrate =>
      split
      · next left hleft => exact .verifyLocked left hrate hleft
      · next hv =>
          split
          · exact .limited _ _ hrate hv
          · next hle => exact .issued hrate hv (not_lt.mp hle)

/-- The failure of a verification is counted, and the limit sets the lock.
Source: `app/services/auth.py` `OtpAuthService._register_verify_failure`. Kind: P -/
theorem registerVerifyFailure_cases (cfg : OtpSettings) (s : OtpAuthService) (ip : String)
    (now : Instant) (otp : Option OtpRecord) (baseError : String) :
    ∃ state error left,
      ((s.setVerify ip (s.verifyState ip now)).setOtp ip otp).registerVerifyFailure cfg ip now
          baseError =
        ((s.setOtp ip otp).setVerify ip state, .denied error left (some state.failCount)) ∧
      state.failCount = (s.verifyState ip now).failCount + 1 ∧
      (state.failCount < cfg.verifyFailLimit ∧
          state.lockedUntil = (s.verifyState ip now).lockedUntil ∨
        cfg.verifyFailLimit ≤ state.failCount ∧
          state.lockedUntil = some (now + timedelta cfg.verifyLockSeconds)) := by
  have hstate : ((s.setVerify ip (s.verifyState ip now)).setOtp ip otp).verifyByIp ip =
      some (s.verifyState ip now) := by simp
  have htwice : ∀ state, ((s.setVerify ip (s.verifyState ip now)).setOtp ip otp).setVerify ip state =
      (s.setOtp ip otp).setVerify ip state := by
    intro state
    simp [setVerify, setOtp]
  unfold registerVerifyFailure
  simp only [hstate, Option.getD_some, htwice]
  split
  · next h => exact ⟨_, _, _, rfl, rfl, Or.inr ⟨h, rfl⟩⟩
  · next h => exact ⟨_, _, _, rfl, rfl, Or.inl ⟨not_le.mp h, rfl⟩⟩

/-- **Everything a verification can do**, one case per kind of return: it is rejected by the lock,
it fails and the failure is registered, or it opens a session. Source: `app/services/auth.py`
`OtpAuthService.verify_otp`. Kind: D -/
inductive VerifyReturns (cfg : OtpSettings) (s : OtpAuthService) (ip : String) (now : Instant)
    (code sessionId : String) : OtpAuthService × AuthReply → Prop
  | locked (left : ℤ) (hlock : lockLeft (s.verifyState ip now).lockedUntil now = some left) :
      VerifyReturns cfg s ip now code sessionId (s.setVerify ip (s.verifyState ip now),
        .denied "otp_verify_locked" (some (max (totalSeconds left) 1)) none)
  | failed (baseError : String) (otp : Option OtpRecord)
      (hlock : lockLeft (s.verifyState ip now).lockedUntil now = none)
      (hotp : otp = s.otpByIp ip ∨ otp = none) :
      VerifyReturns cfg s ip now code sessionId
        (((s.setVerify ip (s.verifyState ip now)).setOtp ip otp).registerVerifyFailure cfg ip now
          baseError)
  | opened (otp : OtpRecord) (hlock : lockLeft (s.verifyState ip now).lockedUntil now = none)
      (hotp : s.otpByIp ip = some otp) (hexp : now ≤ otp.expiresAt)
      (hcode : otp.code = PyText.strip code) :
      VerifyReturns cfg s ip now code sessionId
        (((s.setSession sessionId (some
            { sessionId, ip, issuedAt := now
              expiresAt := now + timedelta cfg.sessionTtlSeconds })).setOtp ip none).setVerify ip {},
          .sessionOpened sessionId (now + timedelta cfg.sessionTtlSeconds) cfg.sessionTtlSeconds)

theorem verifyOtp_returns (cfg : OtpSettings) (s : OtpAuthService) (ip : String) (now : Instant)
    (code sessionId : String) :
    VerifyReturns cfg s ip now code sessionId (s.verifyOtp cfg ip now code sessionId) := by
  have hsame : ∀ t : OtpAuthService, t.setOtp ip (t.otpByIp ip) = t := by
    intro t
    simp [setOtp]
  unfold verifyOtp
  simp only [otpByIp_setVerify]
  split
  · next left hleft => exact .locked left hleft
  · next hlock =>
      have hfail : ∀ error, VerifyReturns cfg s ip now code sessionId
          ((s.setVerify ip (s.verifyState ip now)).registerVerifyFailure cfg ip now error) := by
        intro error
        have h : VerifyReturns cfg s ip now code sessionId
            (((s.setVerify ip (s.verifyState ip now)).setOtp ip
              ((s.setVerify ip (s.verifyState ip now)).otpByIp ip)).registerVerifyFailure cfg ip now
                error) := .failed error _ hlock (Or.inl rfl)
        rwa [hsame] at h
      split
      · exact hfail _
      · next otp hotp =>
          split
          · exact .failed _ _ hlock (Or.inr rfl)
          · next hexp =>
              split
              · exact hfail _
              · next hcode =>
                  have hset : ∀ a b : VerifyFailState, (((s.setVerify ip a).setSession sessionId
                      (some { sessionId, ip, issuedAt := now
                              expiresAt := now + timedelta cfg.sessionTtlSeconds })).setOtp ip
                        none).setVerify ip b = ((s.setSession sessionId
                      (some { sessionId, ip, issuedAt := now
                              expiresAt := now + timedelta cfg.sessionTtlSeconds })).setOtp ip
                        none).setVerify ip b := by
                    intro a b
                    simp [setVerify, setSession, setOtp]
                  rw [hset]
                  exact .opened otp hlock hotp (not_lt.mp hexp) (not_not.mp hcode)

end OtpAuthService

/-! ## Histories -/

/-- A call with the random values it would draw. Source: `app/services/auth.py` `OtpAuthService`.
Kind: D -/
inductive AuthCall
  | requestOtp (ip : String) (drawn : Fin 10000)
  | verifyOtp (ip code sessionId : String)
  | validateSession (sessionId ip : String)
  | revokeSession (sessionId : String)
  deriving DecidableEq, Repr

/-- A call and the time it reads. Source: none: infrastructure. Kind: D -/
structure TimedCall where
  now : Instant
  call : AuthCall
  deriving DecidableEq, Repr

/-- **The service over timed calls.** Source: `app/services/auth.py` `OtpAuthService`. Kind: D -/
def OtpAuthService.machine (cfg : OtpSettings) : Machine OtpAuthService TimedCall AuthReply where
  step s c :=
    match c.call with
    | .requestOtp ip drawn => s.requestOtp cfg ip c.now drawn
    | .verifyOtp ip code sessionId => s.verifyOtp cfg ip c.now code sessionId
    | .validateSession sessionId ip => s.validateSession ip c.now sessionId
    | .revokeSession sessionId => s.revokeSession sessionId

end HaruTrade
