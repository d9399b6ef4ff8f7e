import HaruTrade.Services.AuthSessions

/-!
# How often a password can be tried, and how often one is issued

Both limits of `OtpAuthService` are kept by a counter and a lock for each address.

* `verify_attempts_le` — between two successful verifications of an address, no window of the length
  of the verification lock has more attempts than the limit.
* `request_resets_failures` — a request at the end of the lock sets the count of failures to zero.
* `issued_otps_le` — no request window has more issued passwords than the limit, as long as the
  counting never restarts too early; `issued_otps_straddle` is a history in which it does.
-/

namespace HaruTrade

open OtpAuthService AuthEvent

variable {cfg : OtpSettings} {s : OtpAuthService} {ip code sessionId : String} {now : Instant}

/-! ## Attempts to verify -/

/-- A verification from the address that the lock did not reject: it opened a session, or its
failure was counted. Source: `app/services/auth.py` `OtpAuthService.verify_otp`. Kind: D -/
def AuthEvent.attempts (ip : String) (e : AuthEvent) : Bool :=
  match e.1.call, e.2 with
  | .verifyOtp _ _ _, .denied _ _ none => false
  | .verifyOtp j _ _, _ => j = ip
  | _, _ => false

/-- A verification that opens no session is rejected by the lock, or its failure is counted and the
limit sets the lock. Source: `app/services/auth.py` `OtpAuthService.verify_otp`. Kind: L -/
theorem verifyOtp_denied
    (h : ∀ id expiresAt ttl,
      (s.verifyOtp cfg ip now code sessionId).2 ≠ .sessionOpened id expiresAt ttl) :
    (∃ error left, (s.verifyOtp cfg ip now code sessionId).2 = .denied error left none ∧
        (s.verifyOtp cfg ip now code sessionId).1.verifyByIp ip = some (s.verifyState ip now)) ∨
      ((s.verifyState ip now).lockedUntil = none ∧ ∃ state error left,
        (s.verifyOtp cfg ip now code sessionId).2 = .denied error left (some state.failCount) ∧
        (s.verifyOtp cfg ip now code sessionId).1.verifyByIp ip = some state ∧
        state.failCount = (s.verifyState ip now).failCount + 1 ∧
        (state.failCount < cfg.verifyFailLimit ∧ state.lockedUntil = none ∨
          state.lockedUntil = some (now + timedelta cfg.verifyLockSeconds))) := by
  have hret := verifyOtp_returns cfg s ip now code sessionId
  generalize s.verifyOtp cfg ip now code sessionId = result at hret h ⊢
  cases hret with
  | locked left _ => exact Or.inl ⟨_, _, rfl, by simp⟩
  | failed baseError otp hlock _ =>
      right
      have hnone := VerifyFailState.lockedUntil_of_lockLeft hlock
      refine ⟨hnone, ?_⟩
      obtain ⟨state, error, left, heq, hcount, hlimit⟩ :=
        registerVerifyFailure_cases cfg s ip now otp baseError
      rw [heq]
      refine ⟨state, error, left, rfl, by simp, hcount, ?_⟩
      rcases hlimit with ⟨hlt, hkeep⟩ | ⟨-, hset⟩
      · exact Or.inl ⟨hlt, hkeep.trans hnone⟩
      · exact Or.inr hset
  | opened otp _ _ _ _ => exact absurd rfl (h _ _ _)

/-- A verification from another address does not touch the failures of this one.
Source: `app/services/auth.py` `OtpAuthService.verify_otp`. Kind: L -/
theorem verifyByIp_verifyOtp_other {j : String} (hj : j ≠ ip) :
    (s.verifyOtp cfg j now code sessionId).1.verifyByIp ip = s.verifyByIp ip := by
  have hret := verifyOtp_returns cfg s j now code sessionId
  generalize s.verifyOtp cfg j now code sessionId = result at hret ⊢
  cases hret with
  | locked left _ => simp [Function.update_of_ne hj.symm]
  | failed baseError otp _ _ =>
      obtain ⟨state, error, left, heq, -⟩ :=
        registerVerifyFailure_cases cfg s j now otp baseError
      rw [heq]
      simp [Function.update_of_ne hj.symm]
  | opened otp _ _ _ _ => simp [Function.update_of_ne hj.symm]

/-- A request only looks at the failures of its address. Source: `app/services/auth.py`
`OtpAuthService.request_otp`. Kind: L -/
theorem verifyByIp_requestOtp (cfg : OtpSettings) (s : OtpAuthService) (ip j : String)
    (now : Instant) (drawn : Fin 10000) :
    (s.requestOtp cfg j now drawn).1.verifyByIp ip = s.verifyByIp ip ∨
      (s.requestOtp cfg j now drawn).1.verifyByIp ip =
        (s.verifyByIp ip).map fun state => state.unlockIfExpired now := by
  have hunlock : (s.unlockVerify j now).verifyByIp ip = s.verifyByIp ip ∨
      (s.unlockVerify j now).verifyByIp ip =
        (s.verifyByIp ip).map fun state => state.unlockIfExpired now := by
    rw [unlockVerify_eq]
    by_cases hj : j = ip
    · subst hj
      exact Or.inr (by simp)
    · exact Or.inl (by simp [Function.update_of_ne (Ne.symm hj)])
  have hret := requestOtp_returns cfg s j now drawn
  generalize s.requestOtp cfg j now drawn = result at hret ⊢
  cases hret with
  | locked left _ => exact Or.inl rfl
  | verifyLocked left _ _ => exact hunlock
  | limited lockedUntil left _ _ => exact hunlock
  | issued _ _ _ => exact hunlock

/-- A call that is no verification from the address at most looks at its failures.
Source: `app/services/auth.py` `OtpAuthService`. Kind: L -/
theorem verifyByIp_step (cfg : OtpSettings) (s : OtpAuthService) {c : TimedCall}
    (hc : ∀ code sessionId, c.call ≠ .verifyOtp ip code sessionId) :
    ((machine cfg).step s c).1.verifyByIp ip = s.verifyByIp ip ∨
      ((machine cfg).step s c).1.verifyByIp ip =
        (s.verifyByIp ip).map fun state => state.unlockIfExpired c.now := by
  obtain ⟨now, call⟩ := c
  cases call with
  | requestOtp j drawn => exact verifyByIp_requestOtp cfg s ip j now drawn
  | verifyOtp j code sessionId =>
      have hj : j ≠ ip := fun h => hc code sessionId (h ▸ rfl)
      exact Or.inl (verifyByIp_verifyOtp_other hj)
  | validateSession id j =>
      left
      show (s.validateSession j now id).1.verifyByIp ip = _
      unfold OtpAuthService.validateSession
      repeat' split
      all_goals rfl
  | revokeSession id => exact Or.inl rfl

/-- The attempts of the address in a window of the length of the lock.
Source: none: infrastructure. Kind: D -/
abbrev attemptsIn (cfg : OtpSettings) (ip : String) (a : Instant) (log : List AuthEvent) : ℕ :=
  countIn a (timedelta cfg.verifyLockSeconds) (TimedCall.now ∘ Prod.fst) (attempts ip) log

/-- Inside a window with attempts: they are all in the failure count, which is below the limit, or
the address is locked until the window is over. Source: `app/services/auth.py`
`OtpAuthService.verify_otp`. Kind: D -/
def AttemptsCounted (cfg : OtpSettings) (ip : String) (a : Instant) (log : List AuthEvent)
    (s : OtpAuthService) : Prop :=
  (attemptsIn cfg ip a log : ℤ) ≤ cfg.verifyFailLimit ∧ ∃ state, s.verifyByIp ip = some state ∧
    (state.lockedUntil = none ∧ attemptsIn cfg ip a log ≤ state.failCount ∧
        state.failCount < cfg.verifyFailLimit ∨
      ∃ t, state.lockedUntil = some t ∧ a + timedelta cfg.verifyLockSeconds ≤ t)

variable {a : Instant} {log : List AuthEvent} {c : TimedCall}

/-- Inside the window looking at the failures changes nothing.
Source: `app/services/auth.py` `OtpAuthService._unlock_verify_if_expired`. Kind: L -/
theorem AttemptsCounted.unlock (h : AttemptsCounted cfg ip a log s)
    (hnow : now < a + timedelta cfg.verifyLockSeconds) :
    ((s.verifyByIp ip).map fun state => state.unlockIfExpired now) = s.verifyByIp ip := by
  obtain ⟨-, state, hstate, hlock⟩ := h
  rw [hstate, Option.map_some, VerifyFailState.unlockIfExpired_of_lt]
  intro t ht
  rcases hlock with ⟨hnone, -⟩ | ⟨u, hu, hle⟩
  · rw [hnone] at ht
    exact absurd ht (by simp)
  · rw [hu, Option.some.injEq] at ht
    rw [← ht]
    exact lt_of_lt_of_le hnow hle

/-- A failure that is counted at `now` leaves the attempts counted, when the failure count covers
them. Source: `app/services/auth.py` `OtpAuthService._register_verify_failure`. Kind: L -/
theorem attemptsCounted_of_failure {state : VerifyFailState} {t : OtpAuthService}
    (hstate : t.verifyByIp ip = some state) (hwin : a ≤ now)
    (hle : (attemptsIn cfg ip a log : ℤ) ≤ cfg.verifyFailLimit)
    (hcount : attemptsIn cfg ip a log ≤ state.failCount)
    (hlock : state.failCount < cfg.verifyFailLimit ∧ state.lockedUntil = none ∨
      state.lockedUntil = some (now + timedelta cfg.verifyLockSeconds)) :
    AttemptsCounted cfg ip a log t := by
  refine ⟨hle, state, hstate, ?_⟩
  rcases hlock with ⟨hlt, hnone⟩ | hset
  · exact Or.inl ⟨hnone, hcount, hlt⟩
  · exact Or.inr ⟨_, hset, Int.add_le_add_right hwin _⟩

/-- A call from the address that opens no session is a denied verification, or no verification at
all. Source: none: infrastructure. Kind: L -/
theorem attempts_step_cases (cfg : OtpSettings) (ip : String) (c : TimedCall)
    (s : OtpAuthService) :
    (∃ now code sessionId, c = ⟨now, .verifyOtp ip code sessionId⟩) ∨
      (∀ code sessionId, c.call ≠ .verifyOtp ip code sessionId) ∧
        attempts ip (c, ((machine cfg).step s c).2) = false := by
  obtain ⟨now, call⟩ := c
  cases call with
  | verifyOtp j code sessionId =>
      by_cases hj : j = ip
      · subst hj
        exact Or.inl ⟨now, code, sessionId, rfl⟩
      · right
        refine ⟨?_, ?_⟩
        · intro code' id h
          injection h with h
          exact hj h
        · unfold attempts
          split
          · rfl
          · next heq _ =>
              injection heq with heq
              simp [← heq, hj]
          · rfl
  | requestOtp j drawn => exact Or.inr ⟨by rintro code id ⟨⟩, rfl⟩
  | validateSession id j => exact Or.inr ⟨by rintro code id ⟨⟩, rfl⟩
  | revokeSession id => exact Or.inr ⟨by rintro code id ⟨⟩, rfl⟩

/-- **The first attempt in a window** is counted. Source: `app/services/auth.py`
`OtpAuthService.verify_otp`. Kind: L -/
theorem attemptsCounted_first (hlimit : 0 < cfg.verifyFailLimit)
    (hfail : ¬ Opens ip (c, ((machine cfg).step s c).2))
    (hwin : InWindow a (timedelta cfg.verifyLockSeconds) c.now)
    (hzero : attemptsIn cfg ip a log = 0)
    (hatt : attempts ip (c, ((machine cfg).step s c).2) = true) :
    AttemptsCounted cfg ip a (log ++ [(c, ((machine cfg).step s c).2)])
      ((machine cfg).step s c).1 := by
  have hone : attemptsIn cfg ip a (log ++ [(c, ((machine cfg).step s c).2)]) = 1 := by
    rw [attemptsIn, countIn_append_counted hatt hwin]
    exact congrArg (· + 1) hzero
  rcases attempts_step_cases cfg ip c s with ⟨now, code, sessionId, rfl⟩ | ⟨-, hno⟩
  · rcases verifyOtp_denied fun id exp ttl h => hfail ⟨code, sessionId, id, exp, ttl, rfl, h⟩ with
      ⟨error, left, hreply, -⟩ | ⟨-, state, error, left, -, hstate, hcount, hlock⟩
    · have hrejected : attempts ip ((⟨now, .verifyOtp ip code sessionId⟩ : TimedCall),
          (s.verifyOtp cfg ip now code sessionId).2) = false := by
        rw [hreply]
        rfl
      exact absurd (hrejected.symm.trans hatt) Bool.false_ne_true
    · refine attemptsCounted_of_failure hstate hwin.1 ?_ ?_ hlock
      · rw [hone]
        omega
      · rw [hone, hcount]
        omega
  · exact absurd (hno.symm.trans hatt) Bool.false_ne_true

/-- **A further step in the window** keeps the attempts counted. Source: `app/services/auth.py`
`OtpAuthService.verify_otp`. Kind: L -/
theorem attemptsCounted_next (hfail : ¬ Opens ip (c, ((machine cfg).step s c).2))
    (hwin : InWindow a (timedelta cfg.verifyLockSeconds) c.now)
    (h : AttemptsCounted cfg ip a log s) :
    AttemptsCounted cfg ip a (log ++ [(c, ((machine cfg).step s c).2)])
      ((machine cfg).step s c).1 := by
  have hunlock := h.unlock hwin.2
  obtain ⟨hle, old, hold, hlock⟩ := h
  have hsame : ∀ reply, attempts ip (c, reply) = false →
      attemptsIn cfg ip a (log ++ [(c, reply)]) = attemptsIn cfg ip a log :=
    fun reply hno => countIn_append_other fun hyes => by
      rw [hno] at hyes
      exact Bool.false_ne_true hyes.1
  rcases attempts_step_cases cfg ip c s with ⟨now, code, sessionId, hc⟩ | ⟨hc, hno⟩
  · have hstep : (machine cfg).step s c = s.verifyOtp cfg ip now code sessionId := by
      rw [hc]
      rfl
    rw [hc] at hwin hunlock
    rw [hstep] at hfail ⊢
    have hstate : s.verifyState ip now = old := by
      rw [hold, Option.map_some, Option.some.injEq] at hunlock
      rw [verifyState, hold]
      exact hunlock
    rcases verifyOtp_denied fun id exp ttl hr =>
        hfail ⟨code, sessionId, id, exp, ttl, congrArg TimedCall.call hc, hr⟩ with
      ⟨error, left, hreply, hkeep⟩ | ⟨hnone, state, error, left, hreply, hnew, hcount, hlimit⟩
    · -- the lock rejected it
      have hcounted : attemptsIn cfg ip a
          (log ++ [(c, (s.verifyOtp cfg ip now code sessionId).2)]) = attemptsIn cfg ip a log := by
        refine hsame _ ?_
        rw [hreply, hc]
        rfl
      rw [hstate] at hkeep
      refine ⟨hcounted ▸ hle, old, hkeep, ?_⟩
      rw [hcounted]
      exact hlock
    · -- its failure was counted, so the address was not locked
      have hcounted : attemptsIn cfg ip a
          (log ++ [(c, (s.verifyOtp cfg ip now code sessionId).2)]) =
            attemptsIn cfg ip a log + 1 := by
        rw [hreply, hc]
        exact countIn_append_counted (by simp [attempts]) hwin
      rw [hstate] at hnone hcount
      rcases hlock with ⟨-, hcov, hlt⟩ | ⟨u, hu, -⟩
      · refine attemptsCounted_of_failure hnew hwin.1 ?_ ?_ hlimit
        · rw [hcounted]
          omega
        · rw [hcounted, hcount]
          omega
      · rw [hnone] at hu
        exact absurd hu (by simp)
  · have hkeep : ((machine cfg).step s c).1.verifyByIp ip = some old := by
      rcases verifyByIp_step cfg s hc with heq | heq
      · rw [heq, hold]
      · rw [heq, hunlock, hold]
    have hcounted := hsame _ hno
    refine ⟨hcounted ▸ hle, old, hkeep, ?_⟩
    rw [hcounted]
    exact hlock

/-- A request changes the failures of an address only when its lock has run out.
Source: `app/services/auth.py` `OtpAuthService.request_otp`. Kind: L -/
theorem verifyByIp_requestOtp_of_running {j : String} (drawn : Fin 10000)
    (hrun : ∀ state t, s.verifyByIp ip = some state → state.lockedUntil = some t → now < t) :
    (s.requestOtp cfg j now drawn).1.verifyByIp ip = s.verifyByIp ip := by
  rcases verifyByIp_requestOtp cfg s ip j now drawn with h | h
  · exact h
  · rw [h]
    cases hstate : s.verifyByIp ip with
    | none => rfl
    | some state =>
        rw [Option.map_some, VerifyFailState.unlockIfExpired_of_lt fun t ht => hrun state t hstate ht]

/-- **The brute-force bound.** Between two successful verifications of an address (and before the
first and after the last), no window of the length of the verification lock has more attempts than
the limit, whatever is requested in between; and a request never changes the failure count of an
address whose lock has not run out. Source: `app/services/auth.py`
`OtpAuthService.verify_otp`. Kind: P -/
theorem verify_attempts_le (cfg : OtpSettings) (ip : String) (calls : List TimedCall)
    (clock : calls.Pairwise fun b c => b.now ≤ c.now) (hlimit : 0 < cfg.verifyFailLimit)
    (pre between post : List AuthEvent)
    (hlog : (machine cfg).log {} calls = pre ++ between ++ post)
    (hfail : ∀ e ∈ between, ¬ Opens ip e) :
    (∀ a : Instant, (attemptsIn cfg ip a between : ℤ) ≤ cfg.verifyFailLimit) ∧
      ∀ (s : OtpAuthService) (j : String) (now : Instant) (drawn : Fin 10000),
        (∀ state t, s.verifyByIp ip = some state → state.lockedUntil = some t → now < t) →
        (s.requestOtp cfg j now drawn).1.verifyByIp ip = s.verifyByIp ip := by
  refine ⟨?_, fun s j now drawn hrun => verifyByIp_requestOtp_of_running drawn hrun⟩
  intro a
  obtain ⟨js, ks, rfl, hjs, -⟩ := Machine.log_eq_append hlog
  obtain ⟨before, during, rfl, -, rfl⟩ := Machine.log_eq_append hjs.symm
  have hsorted : during.Pairwise fun b c => b.now ≤ c.now :=
    (List.pairwise_append.mp (List.pairwise_append.mp clock).1).2.1
  have hbound : attemptsIn cfg ip a ((machine cfg).log ((machine cfg).after {} before) during) ≤
      cfg.verifyFailLimit.toNat := by
    refine Machine.countIn_log_le
      (C := fun _ t c => ¬ Opens ip (c, ((machine cfg).step t c).2)) hsorted ?_
      (fun l t h => ?_) (fun l t c hC hw h0 hcnt => attemptsCounted_first hlimit hC hw h0 hcnt)
      (fun l t c hC hw h => attemptsCounted_next hC hw h)
    · intro front c back hduring
      refine hfail _ ?_
      rw [hduring, Machine.log_append]
      exact List.mem_append_right _ List.mem_cons_self
    · exact Int.le_toNat hlimit.le |>.mpr h.1
  omega

/-- Two wrong codes, a new password, and further wrong codes until and after the lock.
Source: `tests/test_auth_phase18.py`. Kind: D -/
def guessingCalls : List TimedCall :=
  [⟨0, .requestOtp "10.0.0.1" 42⟩, ⟨1, .verifyOtp "10.0.0.1" "0000" "a"⟩,
    ⟨2, .verifyOtp "10.0.0.1" "0001" "b"⟩, ⟨3, .requestOtp "10.0.0.1" 43⟩,
    ⟨4, .verifyOtp "10.0.0.1" "0002" "c"⟩, ⟨5, .verifyOtp "10.0.0.1" "0043" "d"⟩]

/-- No verification of a log opened a session. Source: none: infrastructure. Kind: D -/
def opensNone (log : List AuthEvent) : Bool :=
  log.all fun e =>
    match e.2 with
    | .sessionOpened _ _ _ => false
    | _ => true

theorem not_opens {log : List AuthEvent} (h : opensNone log = true) : ∀ e ∈ log, ¬ Opens ip e := by
  rintro e he ⟨code, drawn, sessionId, expiresAt, ttl, -, hreply⟩
  have hclosed := List.all_eq_true.mp h e he
  rw [hreply] at hclosed
  exact Bool.false_ne_true hclosed

/-- With a limit of three the lock rejects the right code after three wrong ones.
Source: `tests/test_auth_phase18.py`. Kind: P -/
theorem verify_attempts_le_guessing :
    attemptsIn { verifyFailLimit := 3 } "10.0.0.1" 0
        ((machine { verifyFailLimit := 3 }).log {} guessingCalls) = 3 ∧
      (attemptsIn { verifyFailLimit := 3 } "10.0.0.1" 0
        ((machine { verifyFailLimit := 3 }).log {} guessingCalls) : ℤ) ≤ 3 := by
  refine ⟨by decide +kernel, ?_⟩
  exact (verify_attempts_le { verifyFailLimit := 3 } "10.0.0.1" guessingCalls (by decide)
    (by decide) [] _ [] (by simp) (not_opens (by decide +kernel))).1 0

/-- The failures that are counted for an address. Source: `app/services/auth.py` `VerifyFailState`.
Kind: D -/
def failCountOf (s : OtpAuthService) (ip : String) : ℕ :=
  (s.verifyByIp ip).elim 0 VerifyFailState.failCount

/-- A password is used, five wrong codes lock the next one, and when the lock runs out a new one is
requested and used. Source: `tests/test_auth_phase18.py`. Kind: D -/
def relockedCalls : List TimedCall :=
  [⟨0, .requestOtp "10.0.0.1" 42⟩, ⟨1000000, .verifyOtp "10.0.0.1" "0042" "a"⟩,
    ⟨2000000, .requestOtp "10.0.0.1" 43⟩, ⟨3000000, .verifyOtp "10.0.0.1" "0000" "b"⟩,
    ⟨3000000, .verifyOtp "10.0.0.1" "0001" "c"⟩, ⟨3000000, .verifyOtp "10.0.0.1" "0002" "d"⟩,
    ⟨3000000, .verifyOtp "10.0.0.1" "0003" "e"⟩, ⟨3000000, .verifyOtp "10.0.0.1" "0004" "f"⟩,
    ⟨603000000, .requestOtp "10.0.0.1" 44⟩, ⟨603000000, .verifyOtp "10.0.0.1" "0044" "g"⟩]

/-- **A request may reset the failures**: between two successful verifications the request at the end
of the lock takes them from five to zero. Source: `app/services/auth.py`
`OtpAuthService._unlock_verify_if_expired`. Kind: C -/
theorem request_resets_failures :
    ¬ ∀ (cfg : OtpSettings) (ip : String) (calls : List TimedCall),
      calls.Pairwise (fun b c => b.now ≤ c.now) → 0 < cfg.verifyFailLimit →
      0 < cfg.verifyLockSeconds → ∀ (pre between post : List AuthEvent) (opening closing : AuthEvent),
        (machine cfg).log {} calls = pre ++ opening :: (between ++ closing :: post) →
        Opens ip opening → Opens ip closing → (∀ e ∈ between, ¬ Opens ip e) →
        ∀ front e back, between = front ++ e :: back → (∃ drawn, e.1.call = .requestOtp ip drawn) →
          let before := (pre ++ opening :: front).map Prod.fst
          failCountOf ((machine cfg).after {} (before ++ [e.1])) ip =
            failCountOf ((machine cfg).after {} before) ip := by
  intro never
  let log := (machine {}).log {} relockedCalls
  let opening : AuthEvent := (relockedCalls[1], .sessionOpened "a" 86401000000 86400)
  let request : AuthEvent := (relockedCalls[8], .otpIssued 180 603000000)
  let closing : AuthEvent := (relockedCalls[9], .sessionOpened "g" 87003000000 86400)
  have hlog : log = log.take 1 ++ opening :: (((log.drop 2).take 6 ++ [request]) ++ [closing]) := by
    decide +kernel
  have hwrong : ∀ e ∈ (log.drop 2).take 6 ++ [request], ¬ Opens "10.0.0.1" e :=
    not_opens (by decide +kernel)
  have hreset := never {} "10.0.0.1" relockedCalls (by decide) (by decide) (by decide) _ _ _ _ _ hlog
    ⟨"0042", "a", _, _, _, rfl, rfl⟩ ⟨"0044", "g", _, _, _, rfl, rfl⟩ hwrong _ request [] rfl ⟨44, rfl⟩
  exact absurd hreset (by decide +kernel)

/-! ## Issued passwords -/

/-- A password was issued to the address. Source: `app/services/auth.py`
`OtpAuthService.request_otp`. Kind: D -/
def AuthEvent.issues (ip : String) (e : AuthEvent) : Bool :=
  match e.1.call, e.2 with
  | .requestOtp j _, .otpIssued _ _ => j = ip
  | _, _ => false

/-- The passwords issued to the address in a request window from `a`.
Source: none: infrastructure. Kind: D -/
abbrev issuedIn (cfg : OtpSettings) (ip : String) (a : Instant) (log : List AuthEvent) : ℕ :=
  countIn a (timedelta cfg.requestWindowSeconds) (TimedCall.now ∘ Prod.fst) (issues ip) log

/-- A request would start the count of the address again: its lock has run out, or it is not locked
and its counting window is over. Source: `app/services/auth.py` `OtpAuthService.request_otp`.
Kind: D -/
def restartsCount (cfg : OtpSettings) (s : OtpAuthService) (ip : String) (now : Instant) : Bool :=
  match s.rateByIp ip with
  | none => false
  | some state =>
    match state.lockedUntil with
    | some t => t ≤ now
    | none =>
      lockLeft (((s.unlockVerify ip now).verifyByIp ip).bind VerifyFailState.lockedUntil) now = none ∧
        timedelta cfg.requestWindowSeconds ≤ now - state.windowStart

/-- Whenever a request starts the count of the address again, the passwords issued to the address so
far are at least a request window old. Source: none: infrastructure. Kind: D -/
def RestartsLate (cfg : OtpSettings) (ip : String) (calls : List TimedCall) : Prop :=
  ∀ pre c post drawn, calls = pre ++ c :: post → c.call = .requestOtp ip drawn →
    restartsCount cfg ((machine cfg).after {} pre) ip c.now = true →
    ∀ e ∈ (machine cfg).log {} pre, issues ip e = true →
      e.1.now + timedelta cfg.requestWindowSeconds ≤ c.now

/-- A call that is no request of the address leaves its request count alone.
Source: `app/services/auth.py` `OtpAuthService`. Kind: L -/
theorem rateByIp_step (hc : ∀ drawn, c.call ≠ .requestOtp ip drawn) :
    ((machine cfg).step s c).1.rateByIp ip = s.rateByIp ip := by
  obtain ⟨now, call⟩ := c
  cases call with
  | requestOtp j drawn =>
      have hj : ip ≠ j := fun h => hc drawn (h ▸ rfl)
      show (s.requestOtp cfg j now drawn).1.rateByIp ip = _
      have hret := requestOtp_returns cfg s j now drawn
      generalize s.requestOtp cfg j now drawn = result at hret ⊢
      cases hret with
      | locked left _ => simp [Function.update_of_ne hj]
      | verifyLocked left _ _ => simp [Function.update_of_ne hj]
      | limited lockedUntil left _ _ => simp [Function.update_of_ne hj]
      | issued _ _ _ => simp [Function.update_of_ne hj]
  | verifyOtp j code sessionId =>
      show (s.verifyOtp cfg j now code sessionId).1.rateByIp ip = _
      have hret := verifyOtp_returns cfg s j now code sessionId
      generalize s.verifyOtp cfg j now code sessionId = result at hret ⊢
      cases hret with
      | locked left _ => rfl
      | failed baseError otp _ _ =>
          obtain ⟨state, error, left, heq, -⟩ :=
            registerVerifyFailure_cases cfg s j now otp baseError
          rw [heq]
          rfl
      | opened otp _ _ _ _ => rfl
  | validateSession id j =>
      show (s.validateSession j now id).1.rateByIp ip = _
      unfold OtpAuthService.validateSession
      repeat' split
      all_goals rfl
  | revokeSession id => rfl

/-- What the machine does on a request. Source: none: infrastructure. Kind: L -/
theorem step_of_requestOtp (cfg : OtpSettings) (s : OtpAuthService) {drawn : Fin 10000}
    (hcall : c.call = .requestOtp ip drawn) :
    (machine cfg).step s c = s.requestOtp cfg ip c.now drawn := by
  obtain ⟨now, call⟩ := c
  subst hcall
  rfl

/-- A request that issues a password has counted it, within the limit.
Source: `app/services/auth.py` `OtpAuthService.request_otp`. Kind: L -/
theorem rateByIp_of_issued {drawn : Fin 10000} {ttl : ℤ} {requestedAt : Instant}
    (h : (s.requestOtp cfg ip now drawn).2 = .otpIssued ttl requestedAt) :
    ∃ state, (s.requestOtp cfg ip now drawn).1.rateByIp ip = some state ∧
      1 ≤ state.requestCount ∧ state.requestCount ≤ cfg.requestLimitPerWindow := by
  have hret := requestOtp_returns cfg s ip now drawn
  generalize s.requestOtp cfg ip now drawn = result at hret h ⊢
  cases hret with
  | locked left _ => exact AuthReply.noConfusion h
  | verifyLocked left _ _ => exact AuthReply.noConfusion h
  | limited lockedUntil left _ _ => exact AuthReply.noConfusion h
  | issued _ _ hlimit =>
      exact ⟨countRequest cfg now (s.rateState ip now), by simp, Nat.le_add_left 1 _, hlimit⟩

/-- **A request that does not start the count again** leaves it, or adds one to it, and adds one when
it issues a password. Source: `app/services/auth.py` `OtpAuthService.request_otp`. Kind: L -/
theorem requestCount_requestOtp (drawn : Fin 10000) {state : RequestRateState}
    (hstate : s.rateByIp ip = some state) (hcount : restartsCount cfg s ip now = false) :
    ∃ new, (s.requestOtp cfg ip now drawn).1.rateByIp ip = some new ∧
      state.requestCount ≤ new.requestCount ∧
      ((∃ ttl requestedAt, (s.requestOtp cfg ip now drawn).2 = .otpIssued ttl requestedAt) →
        new.requestCount = state.requestCount + 1) := by
  unfold restartsCount at hcount
  rw [hstate] at hcount
  have hrate : s.rateState ip now = state := by
    unfold rateState RequestRateState.unlockIfExpired
    rw [hstate, Option.getD_some]
    cases hu : state.lockedUntil with
    | none => rfl
    | some t =>
        simp only [hu] at hcount
        simp [hcount]
  -- past both locks the counting window is not over
  have hadd : lockLeft state.lockedUntil now = none →
      lockLeft (((s.unlockVerify ip now).verifyByIp ip).bind VerifyFailState.lockedUntil) now = none →
      countRequest cfg now state = { state with requestCount := state.requestCount + 1 } := by
    intro hfree hverify
    have hwin : ¬ timedelta cfg.requestWindowSeconds ≤ now - state.windowStart := by
      rw [lockLeft_eq_none_iff] at hfree
      cases hu : state.lockedUntil with
      | none => simpa [hu, hverify] using hcount
      | some t =>
          simp only [hu, decide_eq_false_iff_not] at hcount
          exact absurd (hfree t hu) hcount
    unfold countRequest
    rw [if_neg hwin]
  have hret := requestOtp_returns cfg s ip now drawn
  generalize s.requestOtp cfg ip now drawn = result at hret ⊢
  cases hret with
  | locked left _ =>
      refine ⟨s.rateState ip now, by simp, by rw [hrate], ?_⟩
      rintro ⟨ttl, requestedAt, h⟩
      exact AuthReply.noConfusion h
  | verifyLocked left _ _ =>
      refine ⟨s.rateState ip now, by simp, by rw [hrate], ?_⟩
      rintro ⟨ttl, requestedAt, h⟩
      exact AuthReply.noConfusion h
  | limited lockedUntil left hfree hverify =>
      rw [hrate] at hfree
      rw [hrate, hadd hfree hverify]
      refine ⟨{ state with requestCount := state.requestCount + 1, lockedUntil := some lockedUntil },
        by simp, Nat.le_succ _, ?_⟩
      rintro ⟨ttl, requestedAt, h⟩
      exact AuthReply.noConfusion h
  | issued hfree hverify _ =>
      rw [hrate] at hfree
      rw [hrate, hadd hfree hverify]
      exact ⟨{ state with requestCount := state.requestCount + 1 }, by simp, Nat.le_succ _,
        fun _ => rfl⟩

/-- Inside a window with issued passwords: they are within the limit and all in the request count.
Source: `app/services/auth.py` `OtpAuthService.request_otp`. Kind: D -/
def IssuesCounted (cfg : OtpSettings) (ip : String) (a : Instant) (log : List AuthEvent)
    (s : OtpAuthService) : Prop :=
  0 < issuedIn cfg ip a log ∧ (issuedIn cfg ip a log : ℤ) ≤ cfg.requestLimitPerWindow ∧
    ∃ state, s.rateByIp ip = some state ∧ issuedIn cfg ip a log ≤ state.requestCount

/-- Only an issuing request of the address counts. Source: none: infrastructure. Kind: L -/
theorem call_of_issues {e : AuthEvent} (h : issues ip e = true) :
    ∃ drawn ttl requestedAt, e.1.call = .requestOtp ip drawn ∧ e.2 = .otpIssued ttl requestedAt := by
  unfold issues at h
  split at h
  · next j drawn ttl requestedAt hcall hreply =>
      exact ⟨drawn, ttl, requestedAt, by rw [hcall, of_decide_eq_true h], hreply⟩
  · exact absurd h Bool.false_ne_true

/-- **The first password issued in a window** is counted. Source: `app/services/auth.py`
`OtpAuthService.request_otp`. Kind: L -/
theorem issuesCounted_first (hwin : InWindow a (timedelta cfg.requestWindowSeconds) c.now)
    (hzero : issuedIn cfg ip a log = 0)
    (hissues : issues ip (c, ((machine cfg).step s c).2) = true) :
    IssuesCounted cfg ip a (log ++ [(c, ((machine cfg).step s c).2)]) ((machine cfg).step s c).1 := by
  have hone : issuedIn cfg ip a (log ++ [(c, ((machine cfg).step s c).2)]) = 1 := by
    rw [issuedIn, countIn_append_counted hissues hwin]
    exact congrArg (· + 1) hzero
  obtain ⟨drawn, ttl, requestedAt, hcall, hreply⟩ := call_of_issues hissues
  obtain ⟨now, call⟩ := c
  subst hcall
  obtain ⟨state, hstate, hpos, hlimit⟩ := rateByIp_of_issued hreply
  refine ⟨by rw [hone]; exact Nat.one_pos, ?_, state, hstate, by rw [hone]; exact hpos⟩
  rw [hone]
  exact le_trans (by exact_mod_cast hpos) hlimit

/-- **A further step in the window** keeps the issued passwords counted, unless it starts the count
again. Source: `app/services/auth.py` `OtpAuthService.request_otp`. Kind: L -/
theorem issuesCounted_next (hwin : InWindow a (timedelta cfg.requestWindowSeconds) c.now)
    (hrestart : (∃ drawn, c.call = .requestOtp ip drawn) → restartsCount cfg s ip c.now = false)
    (h : IssuesCounted cfg ip a log s) :
    IssuesCounted cfg ip a (log ++ [(c, ((machine cfg).step s c).2)]) ((machine cfg).step s c).1 := by
  obtain ⟨hpos, hle, old, hold, hcount⟩ := h
  by_cases hreq : ∃ drawn, c.call = .requestOtp ip drawn
  · obtain ⟨drawn, hcall⟩ := hreq
    obtain ⟨new, hnew, hge, hadd⟩ := requestCount_requestOtp drawn hold
      (hrestart ⟨drawn, hcall⟩)
    have hstep := step_of_requestOtp cfg s hcall
    by_cases hissues : issues ip (c, ((machine cfg).step s c).2) = true
    · have hcounted : issuedIn cfg ip a (log ++ [(c, ((machine cfg).step s c).2)]) =
          issuedIn cfg ip a log + 1 := countIn_append_counted hissues hwin
      obtain ⟨_, ttl, requestedAt, -, hreply⟩ := call_of_issues hissues
      rw [hstep] at hcounted hreply ⊢
      obtain ⟨state, hstate, -, hlimit⟩ := rateByIp_of_issued hreply
      have hsame : state = new := Option.some.inj (hstate.symm.trans hnew)
      have hsucc := hadd ⟨ttl, requestedAt, hreply⟩
      rw [hsame] at hlimit
      refine ⟨by omega, ?_, new, hnew, by omega⟩
      omega
    · have hcounted : issuedIn cfg ip a (log ++ [(c, ((machine cfg).step s c).2)]) =
          issuedIn cfg ip a log := countIn_append_other fun hyes => hissues hyes.1
      refine ⟨by rwa [hcounted], by rwa [hcounted], new, by rwa [hstep], ?_⟩
      rw [hcounted]
      exact hcount.trans hge
  · have hcounted : issuedIn cfg ip a (log ++ [(c, ((machine cfg).step s c).2)]) =
        issuedIn cfg ip a log := by
      refine countIn_append_other fun hyes => hreq ?_
      obtain ⟨drawn, _, _, hcall, -⟩ := call_of_issues hyes.1
      exact ⟨drawn, hcall⟩
    have hkeep : ((machine cfg).step s c).1.rateByIp ip = s.rateByIp ip :=
      rateByIp_step fun drawn hcall => hreq ⟨drawn, hcall⟩
    refine ⟨by rwa [hcounted], by rwa [hcounted], old, hkeep.trans hold, by rwa [hcounted]⟩

/-- **The request limit.** In every history with a non-decreasing clock in which the count of the
address starts again only when the passwords issued to it are a request window old, no request
window has more issued passwords than the limit. Source: `app/services/auth.py`
`OtpAuthService.request_otp`. Kind: P -/
theorem issued_otps_le (cfg : OtpSettings) (ip : String) (calls : List TimedCall)
    (clock : calls.Pairwise fun b c => b.now ≤ c.now) (hlate : RestartsLate cfg ip calls)
    (a : Instant) :
    (issuedIn cfg ip a ((machine cfg).log {} calls) : ℤ) ≤ max cfg.requestLimitPerWindow 0 := by
  have hbound : issuedIn cfg ip a ((machine cfg).log {} calls) ≤
      cfg.requestLimitPerWindow.toNat := by
    refine Machine.countIn_log_le (C := fun l t c => (∃ drawn, c.call = .requestOtp ip drawn) →
        restartsCount cfg t ip c.now = true → ∀ e ∈ l, issues ip e = true →
          e.1.now + timedelta cfg.requestWindowSeconds ≤ c.now) clock ?_
      (fun l t h => ?_) (fun l t c _ hw h0 hcnt => issuesCounted_first hw h0 hcnt)
      (fun l t c hC hw h => issuesCounted_next hw (fun hreq => ?_) h)
    · rintro pre c post hcalls ⟨drawn, hcall⟩ hrestart
      exact hlate pre c post drawn hcalls hcall hrestart
    · exact Int.le_toNat (by have := h.2.1; omega) |>.mpr h.2.1
    · -- a restart inside the window would forget an issued password of the window
      by_contra hyes
      obtain ⟨e, he, hissues, hin⟩ := exists_of_countIn_pos h.1
      have hold := hC hreq (by simpa using hyes) e he hissues
      exact absurd hold (not_le_of_gt (lt_of_lt_of_le hw.2 (Int.add_le_add_right hin.1 _)))
  omega

/-- One request, two just before its counting window is over, and two just after.
Source: `tests/test_auth_phase18.py`. Kind: D -/
def straddlingCalls : List TimedCall :=
  [⟨0, .requestOtp "10.0.0.1" 1⟩, ⟨timedelta 59, .requestOtp "10.0.0.1" 2⟩,
    ⟨timedelta 59, .requestOtp "10.0.0.1" 3⟩, ⟨timedelta 60, .requestOtp "10.0.0.1" 4⟩,
    ⟨timedelta 60, .requestOtp "10.0.0.1" 5⟩]

/-- The count starts again after sixty seconds, so four passwords are issued within one second, and
the limit is three a minute. Source: `app/services/auth.py` `OtpAuthService.request_otp`. Kind: P -/
theorem issued_otps_straddle :
    (straddlingCalls.Pairwise fun b c => b.now ≤ c.now) ∧
      ({} : OtpSettings).requestLimitPerWindow <
        issuedIn {} "10.0.0.1" (timedelta 59) ((machine {}).log {} straddlingCalls) :=
  ⟨by decide, by decide +kernel⟩

/-- Two requests a minute apart. Source: none: infrastructure. Kind: D -/
def spacedCalls : List TimedCall :=
  [⟨0, .requestOtp "10.0.0.1" 1⟩, ⟨timedelta 60, .requestOtp "10.0.0.1" 2⟩]

/-- The second request of `spacedCalls` starts the count again, a window after the first password.
Source: none: infrastructure. Kind: P -/
theorem issued_otps_le_spaced :
    (issuedIn {} "10.0.0.1" 0 ((machine {}).log {} spacedCalls) : ℤ) ≤ 3 := by
  refine issued_otps_le {} "10.0.0.1" spacedCalls (by decide) ?_ 0
  rintro pre c post drawn hcalls - - e he -
  rcases pre with _ | ⟨x, _ | ⟨y, pre⟩⟩
  · exact absurd he List.not_mem_nil
  · injection hcalls with hx hrest
    injection hrest with hc
    rw [Machine.log, Machine.log, List.mem_singleton] at he
    rw [he, ← hx, ← hc]
    decide
  · exact absurd (congrArg List.length hcalls) (by simp [spacedCalls])

end HaruTrade
