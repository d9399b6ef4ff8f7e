import HaruTrade.Services.Auth

/-!
# Sessions come from passwords, and passwords from requests

What a history of `OtpAuthService` says about the sessions it accepts and the passwords it takes.

* `AuthTables` — the invariant: every stored session was opened by a verification of its address and
  not revoked since, and every stored password was issued to its address and neither replaced nor
  taken since.
* `authTables_step` — every call keeps it.
* `auth_sessions` — what follows for every answer of every history.
-/

namespace HaruTrade

open OtpAuthService

/-- A call with its answer. Source: none: infrastructure. Kind: D -/
abbrev AuthEvent := TimedCall × AuthReply

namespace AuthEvent

/-- A password was issued to the address. Source: `app/services/auth.py`
`OtpAuthService.request_otp`. Kind: D -/
def Issues (ip : String) (e : AuthEvent) : Prop :=
  ∃ drawn ttl requestedAt, e.1.call = .requestOtp ip drawn ∧ e.2 = .otpIssued ttl requestedAt

/-- The password `code` was issued to the address. Source: `app/services/auth.py`
`OtpAuthService.request_otp`. Kind: D -/
def IssuesCode (ip code : String) (e : AuthEvent) : Prop :=
  ∃ drawn ttl requestedAt, e.1.call = .requestOtp ip drawn ∧ e.2 = .otpIssued ttl requestedAt ∧
    code = generateOtp drawn

/-- A verification from the address succeeded. Source: `app/services/auth.py`
`OtpAuthService.verify_otp`. Kind: D -/
def Opens (ip : String) (e : AuthEvent) : Prop :=
  ∃ code drawn sessionId expiresAt ttl, e.1.call = .verifyOtp ip code drawn ∧
    e.2 = .sessionOpened sessionId expiresAt ttl

/-- A verification from the address returned the session. Source: `app/services/auth.py`
`OtpAuthService.verify_otp`. Kind: D -/
def OpensSession (ip sessionId : String) (e : AuthEvent) : Prop :=
  ∃ code drawn expiresAt ttl, e.1.call = .verifyOtp ip code drawn ∧
    e.2 = .sessionOpened sessionId expiresAt ttl

/-- The session was revoked. Source: `app/services/auth.py` `OtpAuthService.revoke_session`.
Kind: D -/
def Revokes (sessionId : String) (e : AuthEvent) : Prop := e.1.call = .revokeSession sessionId

end AuthEvent

open AuthEvent

variable {cfg : OtpSettings}

/-- **What the tables of the service say about its history.** Source: `app/services/auth.py`
`OtpAuthService`. Kind: D -/
structure AuthTables (cfg : OtpSettings) (log : List AuthEvent) (s : OtpAuthService) : Prop where
  sessions : ∀ sessionId row, s.sessionById sessionId = some row →
    row.expiresAt = row.issuedAt + timedelta cfg.sessionTtlSeconds ∧
      Since (fun e => OpensSession row.ip sessionId e ∧ e.1.now = row.issuedAt) (Revokes sessionId)
        log
  otps : ∀ ip otp, s.otpByIp ip = some otp →
    Since (fun e => IssuesCode ip otp.code e ∧
      otp.expiresAt = e.1.now + timedelta cfg.otpTtlSeconds) (fun e => Issues ip e ∨ Opens ip e) log

/-- A call that neither opens nor revokes a session and neither issues nor takes a password keeps
the tables in order as long as it adds nothing to them. Source: none: infrastructure. Kind: L -/
theorem AuthTables.shrink {log : List AuthEvent} {s t : OtpAuthService} {e : AuthEvent}
    (h : AuthTables cfg log s) (hsessions : ∀ id row, t.sessionById id = some row →
      s.sessionById id = some row ∧ ¬ Revokes id e)
    (hotps : ∀ ip otp, t.otpByIp ip = some otp →
      s.otpByIp ip = some otp ∧ ¬ (Issues ip e ∨ Opens ip e)) : AuthTables cfg (log ++ [e]) t where
  sessions id row hrow := by
    obtain ⟨hs, hrevoke⟩ := hsessions id row hrow
    obtain ⟨hexp, hsince⟩ := h.sessions id row hs
    exact ⟨hexp, hsince.later hrevoke⟩
  otps ip otp hotp := by
    obtain ⟨hs, hother⟩ := hotps ip otp hotp
    exact (h.otps ip otp hs).later hother

variable {log : List AuthEvent} {s : OtpAuthService} {ip code sessionId : String} {now : Instant}

/-- A call that is not a revocation and whose answer is a denial, or nothing to do with passwords
and sessions. Source: none: infrastructure. Kind: L -/
theorem AuthTables.shrink_of_denied {t : OtpAuthService} {c : TimedCall} {error : String}
    {left : Option ℤ} {count : Option ℕ} (h : AuthTables cfg log s)
    (hcall : ∀ id, c.call ≠ .revokeSession id)
    (hsessions : ∀ id row, t.sessionById id = some row → s.sessionById id = some row)
    (hotps : ∀ ip otp, t.otpByIp ip = some otp → s.otpByIp ip = some otp) :
    AuthTables cfg (log ++ [(c, .denied error left count)]) t := by
  refine h.shrink (fun id row hrow => ⟨hsessions id row hrow, hcall id⟩) ?_
  intro ip otp hotp
  refine ⟨hotps ip otp hotp, ?_⟩
  rintro (⟨drawn, ttl, requestedAt, -, hreply⟩ | ⟨code, drawn, id, exp, ttl, -, hreply⟩)
  · exact AuthReply.noConfusion hreply
  · exact AuthReply.noConfusion hreply

theorem AuthTables.requestOtp (h : AuthTables cfg log s) (drawn : Fin 10000) :
    AuthTables cfg (log ++ [(⟨now, .requestOtp ip drawn⟩, (s.requestOtp cfg ip now drawn).2)])
      (s.requestOtp cfg ip now drawn).1 := by
  have hcall : ∀ id, AuthCall.requestOtp ip drawn ≠ .revokeSession id := by
    rintro id ⟨⟩
  have hret := requestOtp_returns cfg s ip now drawn
  generalize s.requestOtp cfg ip now drawn = result at hret
  cases hret with
  | locked left _ => exact h.shrink_of_denied hcall (fun _ _ hr => hr) fun _ _ ho => ho
  | verifyLocked left _ _ =>
      exact h.shrink_of_denied hcall (fun id row hrow => by simpa using hrow)
        fun j otp hotp => by simpa using hotp
  | limited lockedUntil left _ _ =>
      exact h.shrink_of_denied hcall (fun id row hrow => by simpa using hrow)
        fun j otp hotp => by simpa using hotp
  | issued _ _ _ =>
      constructor
      · intro id row hrow
        obtain ⟨hexp, hsince⟩ := h.sessions id row (by simpa using hrow)
        exact ⟨hexp, hsince.later (hcall id)⟩
      · intro j otp hotp
        by_cases hj : j = ip
        · subst hj
          simp only [otpByIp_setOtp, Function.update_self, Option.some.injEq] at hotp
          subst hotp
          exact Since.now ⟨⟨drawn, _, _, rfl, rfl, rfl⟩, rfl⟩
        · rw [otpByIp_setOtp, Function.update_of_ne hj, otpByIp_setRate,
            otpByIp_unlockVerify] at hotp
          refine (h.otps j otp hotp).later ?_
          rintro (⟨d, ttl, requestedAt, hc, -⟩ | ⟨code, d, id, exp, ttl, hc, -⟩)
          · injection hc with hip
            exact hj hip.symm
          · exact AuthCall.noConfusion hc

theorem AuthTables.verifyOtp (h : AuthTables cfg log s) :
    AuthTables cfg
      (log ++ [(⟨now, .verifyOtp ip code sessionId⟩,
        (s.verifyOtp cfg ip now code sessionId).2)])
      (s.verifyOtp cfg ip now code sessionId).1 := by
  have hcall : ∀ id, AuthCall.verifyOtp ip code sessionId ≠ .revokeSession id := by
    rintro id ⟨⟩
  have hret := verifyOtp_returns cfg s ip now code sessionId
  generalize s.verifyOtp cfg ip now code sessionId = result at hret
  cases hret with
  | locked left _ => exact h.shrink_of_denied hcall (fun _ _ hr => hr) fun _ _ ho => ho
  | failed baseError otp _ hotp =>
      obtain ⟨state, error, left, heq, -⟩ :=
        registerVerifyFailure_cases cfg s ip now otp baseError
      rw [heq]
      refine h.shrink_of_denied hcall (fun _ _ hr => hr) ?_
      -- the password of the address is kept or dropped
      intro j o ho
      by_cases hj : j = ip
      · subst hj
        simp only [otpByIp_setVerify, otpByIp_setOtp, Function.update_self] at ho
        rcases hotp with rfl | rfl
        · exact ho
        · exact absurd ho (Option.some_ne_none o).symm
      · simpa [Function.update_of_ne hj] using ho
  | opened otp _ hotp hexp hcode =>
      constructor
      · intro id row hrow
        by_cases hid : id = sessionId
        · subst hid
          simp only [sessionById_setVerify, sessionById_setOtp, sessionById_setSession,
            Function.update_self, Option.some.injEq] at hrow
          subst hrow
          exact ⟨rfl, Since.now ⟨⟨code, id, _, _, rfl, rfl⟩, rfl⟩⟩
        · simp only [sessionById_setVerify, sessionById_setOtp, sessionById_setSession,
            Function.update_of_ne hid] at hrow
          obtain ⟨hrowexp, hsince⟩ := h.sessions id row hrow
          exact ⟨hrowexp, hsince.later (hcall id)⟩
      · intro j o ho
        by_cases hj : j = ip
        · subst hj
          simp at ho
        · simp only [otpByIp_setVerify, otpByIp_setOtp, otpByIp_setSession,
            Function.update_of_ne hj] at ho
          refine (h.otps j o ho).later ?_
          rintro (⟨d, ttl, requestedAt, hc, -⟩ | ⟨code', d, id, exp, ttl, hc, -⟩)
          · exact AuthCall.noConfusion hc
          · injection hc with hip
            exact hj hip.symm

/-- Dropping a session adds none. Source: none: infrastructure. Kind: L -/
theorem sessionById_of_setSession_none {id : String} {row : SessionRecord}
    (h : (s.setSession sessionId none).sessionById id = some row) :
    id ≠ sessionId ∧ s.sessionById id = some row := by
  by_cases hid : id = sessionId
  · subst hid
    simp at h
  · refine ⟨hid, ?_⟩
    simpa [Function.update_of_ne hid] using h

theorem AuthTables.validateSession (h : AuthTables cfg log s) :
    AuthTables cfg
      (log ++ [(⟨now, .validateSession sessionId ip⟩, (s.validateSession ip now sessionId).2)])
      (s.validateSession ip now sessionId).1 := by
  have hcall : ∀ id, AuthCall.validateSession sessionId ip ≠ .revokeSession id := by
    rintro id ⟨⟩
  unfold OtpAuthService.validateSession
  split
  · exact h.shrink_of_denied hcall (fun _ _ hr => hr) fun _ _ ho => ho
  · split
    · exact h.shrink_of_denied hcall (fun id row hr => (sessionById_of_setSession_none hr).2)
        fun _ _ ho => ho
    · split
      · exact h.shrink_of_denied hcall (fun _ _ hr => hr) fun _ _ ho => ho
      · refine h.shrink (fun id row hr => ⟨hr, hcall id⟩) fun j otp ho => ⟨ho, ?_⟩
        rintro (⟨d, ttl, requestedAt, hc, -⟩ | ⟨code', d, id, exp, ttl, hc, -⟩)
        · exact AuthCall.noConfusion hc
        · exact AuthCall.noConfusion hc

theorem AuthTables.revokeSession (h : AuthTables cfg log s) :
    AuthTables cfg
      (log ++ [(⟨now, .revokeSession sessionId⟩, (s.revokeSession sessionId).2)])
      (s.revokeSession sessionId).1 := by
  refine h.shrink ?_ fun j otp ho => ⟨ho, ?_⟩
  · intro id row hrow
    obtain ⟨hid, hs⟩ := sessionById_of_setSession_none hrow
    refine ⟨hs, ?_⟩
    intro hrevoke
    injection hrevoke with hsame
    exact hid hsame.symm
  · rintro (⟨d, ttl, requestedAt, hc, -⟩ | ⟨code', d, id, exp, ttl, hc, -⟩)
    · exact AuthCall.noConfusion hc
    · exact AuthCall.noConfusion hc

/-- **Every call keeps the tables in order.** Source: `app/services/auth.py` `OtpAuthService`.
Kind: P -/
theorem authTables_step (h : AuthTables cfg log s) (c : TimedCall) :
    AuthTables cfg (log ++ [(c, ((machine cfg).step s c).2)]) ((machine cfg).step s c).1 := by
  obtain ⟨now, call⟩ := c
  cases call with
  | requestOtp ip drawn => exact h.requestOtp drawn
  | verifyOtp ip code sessionId => exact h.verifyOtp
  | validateSession sessionId ip => exact h.validateSession
  | revokeSession sessionId => exact h.revokeSession

theorem authTables_run (calls : List TimedCall) :
    AuthTables cfg ((machine cfg).log {} calls) ((machine cfg).after {} calls) := by
  refine Machine.invariant (C := fun _ _ _ => True) ?_ (fun l t c _ h => authTables_step h c)
    fun _ _ _ _ => trivial
  exact ⟨by rintro id row ⟨⟩, by rintro ip otp ⟨⟩⟩

/-- The session that an accepting `validate_session` looked up. Source: `app/services/auth.py`
`OtpAuthService.validate_session`. Kind: L -/
theorem validateSession_valid {id : String} {issuedAt expiresAt : Instant}
    (h : (s.validateSession ip now sessionId).2 = .sessionValid id issuedAt expiresAt) :
    ∃ row, s.sessionById sessionId = some row ∧ row.ip = ip ∧ now ≤ row.expiresAt := by
  unfold OtpAuthService.validateSession at h
  split at h
  · exact AuthReply.noConfusion h
  · next row hrow =>
      split at h
      · exact AuthReply.noConfusion h
      · next hexp =>
          split at h
          · exact AuthReply.noConfusion h
          · next hip => exact ⟨row, hrow, not_not.mp hip, not_lt.mp hexp⟩

/-- The password that a successful `verify_otp` took. Source: `app/services/auth.py`
`OtpAuthService.verify_otp`. Kind: L -/
theorem verifyOtp_opened {id : String} {expiresAt : Instant} {ttl : ℤ}
    (h : (s.verifyOtp cfg ip now code sessionId).2 = .sessionOpened id expiresAt ttl) :
    ∃ otp, s.otpByIp ip = some otp ∧ now ≤ otp.expiresAt ∧ otp.code = PyText.strip code := by
  have hret := verifyOtp_returns cfg s ip now code sessionId
  generalize s.verifyOtp cfg ip now code sessionId = result at hret h
  cases hret with
  | locked left _ => exact AuthReply.noConfusion h
  | failed baseError otp _ _ =>
      obtain ⟨state, error, left, heq, -⟩ :=
        registerVerifyFailure_cases cfg s ip now otp baseError
      rw [heq] at h
      exact AuthReply.noConfusion h
  | opened otp _ hotp hexp hcode => exact ⟨otp, hotp, hexp, hcode⟩

/-- In a history with a non-decreasing clock, what is logged before a call is not later than it.
Source: none: infrastructure. Kind: L -/
theorem le_now_of_mem_log {m : Machine OtpAuthService TimedCall AuthReply} {s : OtpAuthService}
    {pre post : List TimedCall} {c : TimedCall}
    (clock : (pre ++ c :: post).Pairwise fun a b => a.now ≤ b.now) :
    ∀ e ∈ m.log s pre, e.1.now ≤ c.now := by
  intro e he
  have hmem : e.1 ∈ pre := by
    rw [← Machine.map_fst_log (m := m) (s := s) pre]
    exact List.mem_map_of_mem he
  exact (List.pairwise_append.mp clock).2.2 e.1 hmem c List.mem_cons_self

/-- **Sessions and passwords.** In every history with a non-decreasing clock: a session is accepted
only after a verification of the same address returned it, at most its lifetime ago, and without a
revocation since; a verification succeeds only with a password that was issued to its address, at
most the password's lifetime ago, and neither replaced nor taken by another verification since; and
so a password that was taken is never taken again: between two successful verifications of an
address a new one was issued to it. Source: `app/services/auth.py` `OtpAuthService`. Kind: P -/
theorem auth_sessions (cfg : OtpSettings) (calls : List TimedCall)
    (clock : calls.Pairwise fun a b => a.now ≤ b.now) :
    (∀ pre post c ip sessionId id issuedAt expiresAt,
      (machine cfg).log {} calls = pre ++ (c, .sessionValid id issuedAt expiresAt) :: post →
      c.call = .validateSession sessionId ip →
      Since (fun e => OpensSession ip sessionId e ∧ e.1.now ≤ c.now ∧
        c.now ≤ e.1.now + timedelta cfg.sessionTtlSeconds) (Revokes sessionId) pre) ∧
    (∀ pre post c ip code drawn id expiresAt ttl,
      (machine cfg).log {} calls = pre ++ (c, .sessionOpened id expiresAt ttl) :: post →
      c.call = .verifyOtp ip code drawn →
      Since (fun e => IssuesCode ip (PyText.strip code) e ∧ e.1.now ≤ c.now ∧
        c.now ≤ e.1.now + timedelta cfg.otpTtlSeconds) (fun e => Issues ip e ∨ Opens ip e) pre) ∧
    (∀ pre mid post e e' ip, (machine cfg).log {} calls = pre ++ e :: mid ++ e' :: post →
      Opens ip e → Opens ip e' → ∃ issue ∈ mid, Issues ip issue) := by
  refine ⟨?_, ?_, ?_⟩
  · intro pre post c ip sessionId id issuedAt expiresAt hlog hcall
    obtain ⟨js, ks, rfl, rfl, hreply⟩ := Machine.log_eq_append_cons hlog
    obtain ⟨now, call⟩ := c
    subst hcall
    obtain ⟨row, hrow, rfl, hexp⟩ := validateSession_valid hreply.symm
    obtain ⟨hrowexp, hsince⟩ := (authTables_run js).sessions sessionId row hrow
    refine hsince.imp ?_
    rintro e he ⟨hopens, hat⟩
    refine ⟨hopens, le_now_of_mem_log clock e he, ?_⟩
    rw [hat, ← hrowexp]
    exact hexp
  · intro pre post c ip code drawn id expiresAt ttl hlog hcall
    obtain ⟨js, ks, rfl, rfl, hreply⟩ := Machine.log_eq_append_cons hlog
    obtain ⟨now, call⟩ := c
    subst hcall
    obtain ⟨otp, hotp, hexp, hcode⟩ := verifyOtp_opened hreply.symm
    refine ((authTables_run js).otps ip otp hotp).imp ?_
    rintro e he ⟨hissues, hat⟩
    refine ⟨hcode ▸ hissues, le_now_of_mem_log clock e he, ?_⟩
    rw [← hat]
    exact hexp
  · rintro pre mid post e ⟨c, reply⟩ ip hlog hopens ⟨code, drawn, id, expiresAt, ttl, hcall, rfl⟩
    obtain ⟨js, ks, rfl, hpre, hreply⟩ := Machine.log_eq_append_cons hlog
    obtain ⟨now, call⟩ := c
    subst hcall
    obtain ⟨otp, hotp, -⟩ := verifyOtp_opened hreply.symm
    have hsince := (authTables_run js).otps ip otp hotp
    rw [← hpre] at hsince
    have hnot : ¬ (IssuesCode ip otp.code e ∧
        otp.expiresAt = e.1.now + timedelta cfg.otpTtlSeconds) := by
      rintro ⟨⟨d, t, at_, hc, -⟩, -⟩
      obtain ⟨code', d', id', exp', ttl', hc', -⟩ := hopens
      rw [hc] at hc'
      exact AuthCall.noConfusion hc'
    obtain ⟨issue, hmem, ⟨d, t, at_, hc, hr, -⟩, -⟩ := hsince.exists_mem (Or.inr hopens) hnot
    exact ⟨issue, hmem, d, t, at_, hc, hr⟩

/-- A password is asked for and exchanged, and the session is looked at half a day later.
Source: `tests/test_auth_phase18.py`. Kind: D -/
def loginCalls : List TimedCall :=
  [⟨0, .requestOtp "10.0.0.1" 42⟩, ⟨timedelta 100, .verifyOtp "10.0.0.1" " 0042" "5e55"⟩,
    ⟨timedelta 43200, .validateSession "5e55" "10.0.0.1"⟩]

/-- The session of `loginCalls` was opened by the verification before it.
Source: `tests/test_auth_phase18.py`. Kind: P -/
theorem auth_sessions_login :
    Since (fun e => OpensSession "10.0.0.1" "5e55" e ∧ e.1.now ≤ timedelta 43200 ∧
        timedelta 43200 ≤ e.1.now + timedelta 86400) (Revokes "5e55")
      ((machine {}).log {} (loginCalls.take 2)) :=
  (auth_sessions {} loginCalls (by decide)).1 _ []
    ⟨timedelta 43200, .validateSession "5e55" "10.0.0.1"⟩ _ _ "5e55" (timedelta 100)
    (timedelta 86500) (by decide +kernel) rfl

end HaruTrade
