import HaruTrade.Integrations.Token
import Mathlib.Algebra.BigOperators.Group.Finset.Piecewise
import Mathlib.Algebra.Order.BigOperators.Group.Finset

/-!
# The tokens of interleaved requests

Any number of requests of one `KiwoomApiClient` run on one event loop. Several of them may find the token
expiring at once and ask for a new one each; the last reply wins, and a reply whose token is taken may
fail at its expiry.

* `Justified` — what holds at every event of the client's history.
* `Phase`, `clientProtocol` — how far a request is, and what it may do next; `post_follows`.
* `Knows` — what a request that has not awaited since knows of the client.
* `token_histories` — **every history is justified**: a request is sent with the token that was taken
  last, and either that token was taken just before, or the expiry that was read last is more than five
  minutes ahead; a token is asked for only when there is none, or that expiry is near.
-/

namespace HaruTrade

open Coro

namespace KiwoomApiClient

/-! ## Histories -/

/-- The token that an event takes. Source: none: infrastructure. Kind: D -/
def ClientEvent.token? : ClientEvent → Option JsonValue
  | .took token => some token
  | _ => none

/-- The expiry that an event takes. Source: none: infrastructure. Kind: D -/
def ClientEvent.expiry? : ClientEvent → Option ℤ
  | .expires expiresAt => some expiresAt
  | _ => none

/-- Is the event the attempt with this index? Source: none: infrastructure. Kind: D -/
def ClientEvent.isAttempt (i : ℕ) : ClientEvent → Bool
  | .asked index _ => index = i
  | _ => false

/-- Is the event an attempt? Source: none: infrastructure. Kind: D -/
def ClientEvent.isAsked : ClientEvent → Bool
  | .asked _ _ => true
  | _ => false

/-- The token that was taken last. Source: none: infrastructure. Kind: D -/
def lastToken (history : List ClientEvent) : Option JsonValue := lastOf ClientEvent.token? history

/-- The expiry that was read last. Source: none: infrastructure. Kind: D -/
def lastExpiry (history : List ClientEvent) : Option ℤ := lastOf ClientEvent.expiry? history

/-- How often the attempt with this index was made. Source: none: infrastructure. Kind: D -/
def attemptCount (i : ℕ) (history : List ClientEvent) : ℕ := history.countP (ClientEvent.isAttempt i)

/-- A token and its expiry were taken just before. Source: none: infrastructure. Kind: D -/
def JustTaken (history : List ClientEvent) : Prop :=
  ∃ front token expiresAt, history = front ++ [.took token, .expires expiresAt]

/-- The expiry is more than five minutes ahead. Source: `app/integrations/kiwoom/client.py`
`KiwoomApiClient.token_expiring`. Kind: D -/
def Ahead (expiresAt : Option ℤ) (now : ℤ) : Prop := ∃ e, expiresAt = some e ∧ now < e - buffer

/-- **What justifies an event**, given the ones before it; `n` is the number of attempts that a request
for a token has. Source: `app/integrations/kiwoom/client.py` `KiwoomApiClient`. Kind: D -/
def Justified (n : ℕ) (before : List ClientEvent) : ClientEvent → Prop
  | .asked 0 now => 0 < n ∧ (lastToken before = none ∨ ¬ Ahead (lastExpiry before) now)
  | .asked (i + 1) _ => i + 1 < n ∧ attemptCount (i + 1) before < attemptCount i before
  | .took token => token.truthy = true
  | .expires _ => ∃ front token, before = front ++ [.took token]
  | .sent token now => (∃ t, token = some t ∧ t.truthy = true) ∧ token = lastToken before ∧
      (JustTaken before ∨ Ahead (lastExpiry before) now)

variable {n : ℕ} {history : List ClientEvent} {e : ClientEvent}

theorem attemptCount_append_singleton (i : ℕ) :
    attemptCount i (history ++ [e]) = attemptCount i history + if e.isAttempt i then 1 else 0 := by
  unfold attemptCount
  rw [List.countP_append, List.countP_singleton]

/-- Later attempts are not made more often than earlier ones. Source: none: infrastructure. Kind: L -/
theorem attemptCount_le_first (h : AtEvery (Justified n) history) (i : ℕ) :
    attemptCount i history ≤ attemptCount 0 history := by
  suffices hstep : ∀ i, attemptCount (i + 1) history ≤ attemptCount i history by
    induction i with
    | zero => exact le_rfl
    | succ i ih => exact (hstep i).trans ih
  intro i
  induction history using List.reverseRecOn with
  | nil => exact le_rfl
  | append_singleton history e ih =>
      obtain ⟨hbefore, he⟩ := atEvery_append_singleton.mp h
      have hle := ih hbefore
      rw [attemptCount_append_singleton, attemptCount_append_singleton]
      by_cases hattempt : e.isAttempt (i + 1) = true
      · -- an event that is an attempt makes only its own count greater
        obtain ⟨now, rfl⟩ : ∃ now, e = .asked (i + 1) now := by
          cases e with
          | asked index now => exact ⟨now, by rw [of_decide_eq_true hattempt]⟩
          | took token => exact absurd hattempt (by simp [ClientEvent.isAttempt])
          | expires expiresAt => exact absurd hattempt (by simp [ClientEvent.isAttempt])
          | sent token now => exact absurd hattempt (by simp [ClientEvent.isAttempt])
        have hlt : attemptCount (i + 1) history < attemptCount i history := he.2
        rw [if_pos hattempt]
        omega
      · rw [if_neg hattempt]
        omega

/-- **A token is asked for at most `n` times as often as one was found to be needed.**
Source: `app/integrations/kiwoom/client.py` `KiwoomApiClient.refresh_token`. Kind: L -/
theorem countP_isAsked_le (h : AtEvery (Justified n) history) :
    history.countP ClientEvent.isAsked ≤ n * attemptCount 0 history := by
  have hsum : history.countP ClientEvent.isAsked =
      ∑ i ∈ Finset.range n, attemptCount i history := by
    induction history using List.reverseRecOn with
    | nil => simp [attemptCount]
    | append_singleton history e ih =>
        obtain ⟨hbefore, he⟩ := atEvery_append_singleton.mp h
        rw [List.countP_append, ih hbefore, List.countP_singleton]
        simp only [attemptCount_append_singleton, Finset.sum_add_distrib]
        congr 1
        cases e with
        | asked index now =>
            have hindex : index < n := by
              cases index with
              | zero => exact he.1
              | succ index => exact he.1
            simp [ClientEvent.isAsked, ClientEvent.isAttempt, Finset.sum_ite_eq, hindex]
        | took token => simp [ClientEvent.isAsked, ClientEvent.isAttempt]
        | expires expiresAt => simp [ClientEvent.isAsked, ClientEvent.isAttempt]
        | sent token now => simp [ClientEvent.isAsked, ClientEvent.isAttempt]
  calc history.countP ClientEvent.isAsked
      = ∑ i ∈ Finset.range n, attemptCount i history := hsum
    _ ≤ ∑ _i ∈ Finset.range n, attemptCount 0 history :=
        Finset.sum_le_sum fun i _ => attemptCount_le_first h i
    _ = n * attemptCount 0 history := by
        rw [Finset.sum_const_nat fun _ _ => rfl, Finset.card_range]

/-! ## Phases -/

/-- How far a request is: it has begun; it has read the fields; it has found the token valid, or stale;
it has made attempts; it has taken a token; it has taken its expiry; it has read the fields after that;
it has the token in hand; it has sent its request. Source: `app/integrations/kiwoom/client.py`
`KiwoomApiClient.post`. Kind: D -/
inductive Phase where
  | begun
  | looked (expiresAt : ℤ)
  | valid
  | stale
  | asking (made : ℕ)
  | taken
  | fresh
  | noted
  | ready (token : Option JsonValue)
  | finished

/-- Source: `app/integrations/kiwoom/client.py` `KiwoomApiClient.post`. Kind: D -/
def Phase.allows (n : ℕ) : Phase → ClientCall → Prop
  | .begun, .request => True
  | .begun, .client => True
  | .looked _, .now => True
  | .valid, .client => True
  | .stale, .submitToken i => i = 0 ∧ 0 < n
  | .asking made, .submitToken i => i = made ∧ 0 < made ∧ made < n
  | .asking _, .sleep _ => True
  | .asking _, .setToken token => token.truthy = true
  | .taken, .now => True
  | .taken, .setExpiresAt _ => True
  | .fresh, .client => True
  | .noted, .now => True
  | .noted, .setRateToken _ _ => True
  | .noted, .client => True
  | .ready held, .submit _ token => token = held
  | _, _ => False

/-- The phase after the first look at the fields. Source: `app/integrations/kiwoom/client.py`
`KiwoomApiClient.token_expiring`. Kind: D -/
def Phase.looking : Option JsonValue → Option ℤ → Phase
  | some _, some expiresAt => .looked expiresAt
  | _, _ => .stale

/-- Source: `app/integrations/kiwoom/client.py` `KiwoomApiClient.post`. Kind: D -/
def Phase.next : Phase → (e : ClientCall) → e.Reply → Phase
  | .begun, .client, held => .looking (held.1.filter JsonValue.truthy) held.2
  | .looked expiresAt, .now, now => if expiresAt - buffer ≤ now then .stale else .valid
  | .valid, .client, held => .ready (held.1.filter JsonValue.truthy)
  | .stale, .submitToken _, _ => .asking 1
  | .asking made, .submitToken _, _ => .asking (made + 1)
  | .asking _, .setToken _, _ => .taken
  | .taken, .setExpiresAt _, _ => .fresh
  | .fresh, .client, _ => .noted
  | .noted, .client, held => .ready (held.1.filter JsonValue.truthy)
  | .ready _, .submit _ _, _ => .finished
  | m, _, _ => m

/-- **What a request may do, step by step.** Source: `app/integrations/kiwoom/client.py`
`KiwoomApiClient.post`. Kind: D -/
def clientProtocol (n : ℕ) : Protocol ClientCall ClientCall.Reply Phase where
  allows := Phase.allows n
  next := Phase.next

section follows

variable {cfg : Setup}

/-- Source: `app/integrations/kiwoom/client.py` `KiwoomApiClient.token_expiring`. Kind: L -/
theorem expiring_follows (token : Option JsonValue) (expiresAt : Option ℤ) :
    Follows (clientProtocol n) (fun out m => out = .ok true ∧ m = .stale ∨
      out = .ok false ∧ m = .valid) (.looking token expiresAt) (expiring token expiresAt) := by
  cases token with
  | none => exact .inl ⟨rfl, rfl⟩
  | some token =>
      cases expiresAt with
      | none => exact .inl ⟨rfl, rfl⟩
      | some expiresAt =>
          refine ⟨trivial, fun now => ?_⟩
          show Follows (clientProtocol n) _
            (if expiresAt - buffer ≤ now then Phase.stale else Phase.valid)
            (ret (decide (expiresAt - buffer ≤ now)))
          by_cases hnow : expiresAt - buffer ≤ now
          · rw [if_pos hnow, decide_eq_true hnow]
            exact .inl ⟨rfl, rfl⟩
          · rw [if_neg hnow, decide_eq_false hnow]
            exact .inr ⟨rfl, rfl⟩

/-- Source: `app/integrations/kiwoom/client.py` `KiwoomApiClient.token_expiring`. Kind: L -/
theorem tokenExpiring_follows :
    Follows (clientProtocol n) (fun out m => out = .ok true ∧ m = .stale ∨
      out = .ok false ∧ m = .valid) .begun tokenExpiring :=
  ⟨trivial, fun _ => expiring_follows _ _⟩

/-- Source: `app/integrations/kiwoom/client.py` `KiwoomApiClient.refresh_token`. Kind: L -/
theorem attempts_follows {backoffs : List ℚ} {index : ℕ} {lastError : Option Exn} {m : Phase}
    (hn : index + backoffs.length = n) (hm : m = .stale ∧ index = 0 ∨ m = .asking index ∧ 0 < index) :
    Follows (clientProtocol n)
      (fun out m' => ∀ made, out = .ok made → made.1 ≠ none → ∃ i, m' = .asking i)
      m (attempts index backoffs lastError) := by
  induction backoffs generalizing index lastError m with
  | nil =>
      rintro made hmade hdata
      exact absurd (congrArg Prod.fst (Except.ok.inj hmade)).symm hdata
  | cons backoff later ih =>
      rw [List.length_cons] at hn
      have hnext : ∀ reply, m.next (.submitToken index) reply = .asking (index + 1) := by
        rcases hm with ⟨rfl, rfl⟩ | ⟨rfl, -⟩
        · exact fun _ => rfl
        · exact fun _ => rfl
      refine ⟨?_, fun reply => ?_⟩
      · rcases hm with ⟨rfl, rfl⟩ | ⟨rfl, hpos⟩
        · exact ⟨rfl, by omega⟩
        · exact ⟨rfl, hpos, by omega⟩
      show Follows (clientProtocol n) _ (m.next (.submitToken index) reply) _
      rw [hnext]
      cases reply with
      | ok data => exact fun _ _ _ => ⟨index + 1, rfl⟩
      | error x =>
          have hrest := @ih (index + 1) (some x) (.asking (index + 1)) (by omega)
            (.inr ⟨rfl, by omega⟩)
          by_cases hlater : later ≠ []
          · simp only [ret_bind, if_pos hlater]
            exact ⟨trivial, fun _ => hrest⟩
          · simp only [ret_bind, if_neg hlater]
            exact hrest

/-- Source: `app/integrations/kiwoom/client.py` `KiwoomApiClient.refresh_token`. Kind: L -/
theorem expiryOf_follows (cfg : Setup) (data : JsonDict) :
    Follows (clientProtocol n) (fun _ m => m = .taken) .taken (expiryOf cfg data) := by
  unfold expiryOf
  cases (data.lookup "expires_dt").filter JsonValue.truthy with
  | some expiresDt => exact follows_ofExcept.mpr rfl
  | none =>
      refine (follows_ofExcept.mpr rfl : Follows (clientProtocol n) (fun _ m => m = .taken) .taken
        (ofExcept (intOf cfg ((data.lookup "expires_in").getD (.int 3600))))).bind ?_ ?_
      · rintro expiresIn m rfl
        exact ⟨trivial, fun now => follows_ofExcept.mpr rfl⟩
      · exact fun _ _ h => h

/-- Source: `app/integrations/kiwoom/client.py` `KiwoomApiClient.refresh_token`. Kind: L -/
theorem takeReply_follows (cfg : Setup) (made : ℕ) (data : JsonValue) :
    Follows (clientProtocol n) (fun out m => ∀ token, out = .ok token → m = .fresh)
      (.asking made) (takeReply cfg data) := by
  have hraise : ∀ x : Exn, Follows (clientProtocol n)
      (fun out m => ∀ token, out = .ok token → m = .fresh) (.asking made)
        (raise x : ClientProg JsonValue) :=
    fun x token h => absurd h (by simp)
  unfold takeReply
  cases data.dict? with
  | none => exact hraise _
  | some fields =>
      dsimp only
      cases htoken : replyToken fields with
      | none => exact hraise _
      | some token =>
          have htruthy : token.truthy = true := by
            rcases Option.or_eq_some_iff.mp htoken with h | ⟨-, h⟩
            · exact (Option.filter_eq_some_iff.mp h).2
            · exact (Option.filter_eq_some_iff.mp h).2
          refine ⟨htruthy, fun _ => ?_⟩
          refine (expiryOf_follows cfg fields).bind ?_ ?_
          · rintro expiresAt m rfl
            exact ⟨trivial, fun _ _ _ => rfl⟩
          · intro x m _ token h
            exact absurd h (by simp)

/-- Source: `app/integrations/kiwoom/client.py` `KiwoomApiClient.refresh_token`. Kind: L -/
theorem refreshToken_follows (cfg : Setup) :
    Follows (clientProtocol cfg.tokenRetryBackoff.length)
      (fun out m => ∀ token, out = .ok token → m = .fresh) .stale (refreshToken cfg) := by
  unfold refreshToken
  split_ifs
  · intro token h
    exact absurd h (by simp)
  · refine (attempts_follows (Nat.zero_add _) (.inl ⟨rfl, rfl⟩)).bind ?_ ?_
    · rintro ⟨data, lastError⟩ m hmade
      cases data with
      | none =>
          intro token h
          exact absurd h (by simp)
      | some data =>
          obtain ⟨made, rfl⟩ := hmade _ rfl (by simp)
          exact takeReply_follows cfg made data
    · intro x m _ token h
      exact absurd h (by simp)

/-- Source: `app/integrations/kiwoom/client.py` `KiwoomApiClient.ensure_token`. Kind: L -/
theorem handOn_follows (token : Option JsonValue) (expiresAt : Option ℤ) :
    Follows (clientProtocol n) (fun _ m => m = .noted) .noted (handOn token expiresAt) := by
  cases token with
  | none => rfl
  | some token =>
      cases expiresAt with
      | none => rfl
      | some expiresAt => exact ⟨trivial, fun now => ⟨trivial, fun _ => rfl⟩⟩

/-- **A request has the token in hand that it read last.** Source:
`app/integrations/kiwoom/client.py` `KiwoomApiClient.ensure_token`. Kind: L -/
theorem ensureToken_follows (cfg : Setup) :
    Follows (clientProtocol cfg.tokenRetryBackoff.length)
      (fun out m => ∀ token, out = .ok token → m = .ready token) .begun (ensureToken cfg) := by
  have hread : ∀ m, m = .valid ∨ m = .noted → Follows (clientProtocol cfg.tokenRetryBackoff.length)
      (fun out m => ∀ token, out = .ok token → m = .ready token) m
        ((ask .client).bind fun held => (ret (held.1.filter JsonValue.truthy) : ClientProg _)) := by
    rintro m (rfl | rfl)
    · refine ⟨trivial, fun held token h => ?_⟩
      rw [← Except.ok.inj h]
      rfl
    · refine ⟨trivial, fun held token h => ?_⟩
      rw [← Except.ok.inj h]
      rfl
  refine tokenExpiring_follows.bind ?_ ?_
  · rintro expiring m (⟨hexpiring, rfl⟩ | ⟨hexpiring, rfl⟩)
    · obtain rfl := Except.ok.inj hexpiring
      refine (refreshToken_follows cfg).bind ?_ ?_
      · intro token m hm
        obtain rfl := hm token rfl
        refine ⟨trivial, fun held => ?_⟩
        refine (handOn_follows _ _).bind ?_ ?_
        · rintro - m rfl
          exact hread _ (.inr rfl)
        · intro x m _ token h
          exact absurd h (by simp)
      · intro x m _ token h
        exact absurd h (by simp)
    · obtain rfl := Except.ok.inj hexpiring
      exact hread _ (.inl rfl)
  · rintro x m (⟨h, -⟩ | ⟨h, -⟩)
    · exact absurd h (by simp)
    · exact absurd h (by simp)

/-- A request, from the moment its caller hands it over. Source:
`app/integrations/kiwoom/client.py` `KiwoomApiClient.post`. Kind: D -/
def posting (cfg : Setup) : ClientProg JsonValue := do
  let req ← ask .request
  post cfg req

/-- **A request follows the protocol**, whatever its calls are answered. Source:
`app/integrations/kiwoom/client.py` `KiwoomApiClient.post`. Kind: P -/
theorem posting_follows (cfg : Setup) :
    Follows (clientProtocol cfg.tokenRetryBackoff.length) (fun _ _ => True) .begun (posting cfg) := by
  refine ⟨trivial, fun req => ?_⟩
  refine (ensureToken_follows cfg).bind ?_ fun _ _ _ => trivial
  intro token m hm
  obtain rfl := hm token rfl
  exact ⟨rfl, fun reply => follows_ofExcept.mpr trivial⟩

end follows

/-! ## The invariant -/

/-- **What a request knows** that has not awaited since it read the fields or took a token.
Source: `app/integrations/kiwoom/client.py` `KiwoomApiClient.ensure_token`. Kind: D -/
def Phase.knows : Phase → Option (ClientWorld → Prop)
  | .looked expiresAt => some fun w => w.token ≠ none ∧ w.expiresAt = some expiresAt
  | .valid => some fun w => w.token ≠ none ∧ Ahead w.expiresAt w.clock
  | .stale => some fun w => w.token = none ∨ ¬ Ahead w.expiresAt w.clock
  | .taken => some fun w => ∃ front token, w.history = front ++ [.took token]
  | .fresh => some fun w => JustTaken w.history
  | .noted => some fun w => JustTaken w.history
  | .ready token => some fun w => token = w.token ∧ token ≠ none ∧
      (JustTaken w.history ∨ Ahead w.expiresAt w.clock)
  | _ => none

/-- The fields are what the history says, and the history is justified.
Source: `app/integrations/kiwoom/client.py` `KiwoomApiClient`. Kind: D -/
structure ClientInv (n : ℕ) (w : ClientWorld) : Prop where
  token : w.token = lastToken w.history
  expiresAt : w.expiresAt = lastExpiry w.history
  truthy : ∀ token, w.token = some token → token.truthy = true
  history : AtEvery (Justified n) w.history

/-- Is a request, with the given number of attempts made, still in them? Source: none:
infrastructure. Kind: D -/
def made (i : ℕ) : Phase × Bool → Bool
  | (.asking j, false) => j = i
  | _ => false

/-- Every attempt but the first of a request follows one that is not followed by another yet.
Source: `app/integrations/kiwoom/client.py` `KiwoomApiClient.refresh_token`. Kind: D -/
def Paced (history : List ClientEvent) (st : List (Phase × Bool)) : Prop :=
  ∀ i, attemptCount (i + 1) history + st.countP (made (i + 1)) ≤ attemptCount i history

variable {w w' : ClientWorld} {st : List (Phase × Bool)} {m m' : Phase} {t : ℕ} {b : Bool}

theorem ClientInv.filter_token (h : ClientInv n w) : w.token.filter JsonValue.truthy = w.token := by
  cases htoken : w.token with
  | none => rfl
  | some token => rw [Option.filter_some, if_pos (h.truthy token htoken)]

/-- Source: none: infrastructure. Kind: L -/
theorem ClientInv.of_eq (h : ClientInv n w) (htoken : w'.token = w.token)
    (hexpires : w'.expiresAt = w.expiresAt) (hhistory : w'.history = w.history) :
    ClientInv n w' where
  token := by rw [htoken, hhistory, h.token]
  expiresAt := by rw [hexpires, hhistory, h.expiresAt]
  truthy := by rw [htoken]; exact h.truthy
  history := by rw [hhistory]; exact h.history

/-- An event that takes nothing. Source: none: infrastructure. Kind: L -/
theorem ClientInv.append (h : ClientInv n w) (he : Justified n w.history e) (htoken : e.token? = none)
    (hexpiry : e.expiry? = none) : ClientInv n { w with history := w.history ++ [e] } where
  token := by
    unfold lastToken
    rw [lastOf_append_singleton, htoken, Option.none_or]
    exact h.token
  expiresAt := by
    unfold lastExpiry
    rw [lastOf_append_singleton, hexpiry, Option.none_or]
    exact h.expiresAt
  truthy := h.truthy
  history := atEvery_append_singleton.mpr ⟨h.history, he⟩

theorem ClientInv.took (h : ClientInv n w) {token : JsonValue} (htoken : token.truthy = true) :
    ClientInv n { w with token := some token, history := w.history ++ [.took token] } where
  token := by
    unfold lastToken
    rw [lastOf_append_singleton]
    rfl
  expiresAt := by
    unfold lastExpiry
    rw [lastOf_append_singleton]
    exact h.expiresAt
  truthy := by
    rintro token' heq
    obtain rfl := Option.some.inj heq
    exact htoken
  history := atEvery_append_singleton.mpr ⟨h.history, htoken⟩

theorem ClientInv.expires (h : ClientInv n w) (expiresAt : ℤ)
    (hlast : ∃ front token, w.history = front ++ [.took token]) :
    ClientInv n { w with
      expiresAt := some expiresAt, history := w.history ++ [.expires expiresAt] } where
  token := by
    unfold lastToken
    rw [lastOf_append_singleton]
    exact h.token
  expiresAt := by
    unfold lastExpiry
    rw [lastOf_append_singleton]
    rfl
  truthy := h.truthy
  history := atEvery_append_singleton.mpr ⟨h.history, hlast⟩

/-- A client that has just taken a token holds one. Source: none: infrastructure. Kind: L -/
theorem ClientInv.token_ne_none (h : ClientInv n w) (hjust : JustTaken w.history) :
    w.token ≠ none := by
  obtain ⟨front, token, expiresAt, heq⟩ := hjust
  have hcut : w.history = (front ++ [.took token]) ++ [.expires expiresAt] := by
    rw [heq, List.append_assoc]
    rfl
  rw [h.token, hcut]
  unfold lastToken
  rw [lastOf_append_singleton, lastOf_append_singleton]
  exact Option.some_ne_none token

/-- A step that is no attempt keeps the pace, if it does not add to the requests in their attempts.
Source: none: infrastructure. Kind: L -/
theorem Paced.set {history' : List ClientEvent} (h : Paced history st) (ht : st[t]? = some (m, false))
    (hcount : ∀ i, attemptCount i history' = attemptCount i history)
    (hmade : ∀ i, made i (m', b) = true → made i (m, false) = true) :
    Paced history' (st.set t (m', b)) := by
  intro i
  have hlt : t < st.length := (List.getElem?_eq_some_iff.mp ht).1
  have hget : st[t] = (m, false) := (List.getElem?_eq_some_iff.mp ht).2
  have hle := h i
  rw [hcount, hcount, List.countP_set hlt, hget]
  by_cases hold : made (i + 1) (m, false) = true
  · have hpos : 0 < st.countP (made (i + 1)) :=
      List.countP_pos_iff.mpr ⟨_, List.mem_of_getElem? ht, hold⟩
    rw [if_pos hold]
    split_ifs <;> omega
  · rw [if_neg hold, if_neg fun hnew => hold (hmade _ hnew)]
    omega

/-- **An attempt keeps the pace.** Source: `app/integrations/kiwoom/client.py`
`KiwoomApiClient.refresh_token`. Kind: L -/
theorem Paced.asked {now : ℤ} {i : ℕ} (h : Paced history st) (ht : st[t]? = some (m, false))
    (hm : m = .stale ∧ i = 0 ∨ m = .asking i ∧ 0 < i) :
    Paced (history ++ [.asked i now]) (st.set t (.asking (i + 1), b)) := by
  intro j
  have hlt : t < st.length := (List.getElem?_eq_some_iff.mp ht).1
  have hget : st[t] = (m, false) := (List.getElem?_eq_some_iff.mp ht).2
  have hle := h j
  have hnew : made (j + 1) (.asking (i + 1), b) = true → i = j := by
    cases b with
    | true => exact fun hfalse => absurd hfalse (by simp [made])
    | false => exact fun heq => Nat.succ.inj (of_decide_eq_true heq)
  rw [attemptCount_append_singleton, attemptCount_append_singleton, List.countP_set hlt, hget]
  simp only [ClientEvent.isAttempt, decide_eq_true_eq]
  by_cases hij : i = j
  · subst hij
    have hne : ¬ made (i + 1) (m, false) = true := by
      rcases hm with ⟨rfl, -⟩ | ⟨rfl, -⟩
      · simp [made]
      · simp [made]
    rw [if_neg (by omega), if_pos rfl, if_neg hne]
    split_ifs <;> omega
  · rw [if_neg hij, if_neg fun hsame => hij (hnew hsame)]
    by_cases hsucc : i = j + 1
    · have hold : made (j + 1) (m, false) = true := by
        rcases hm with ⟨-, rfl⟩ | ⟨rfl, -⟩
        · exact absurd hsucc (by omega)
        · exact decide_eq_true hsucc
      have hpos : 0 < st.countP (made (j + 1)) :=
        List.countP_pos_iff.mpr ⟨_, List.mem_of_getElem? ht, hold⟩
      rw [if_pos hsucc, if_pos hold]
      omega
    · rw [if_neg hsucc]
      split_ifs <;> omega

/-! ## Runs -/

/-- **What holds of the client and its requests at every moment.** Source:
`app/integrations/kiwoom/client.py` `KiwoomApiClient`. Kind: D -/
structure RunInv (n : ℕ) (w : ClientWorld) (st : List (Phase × Bool)) (holder : Option ℕ) : Prop where
  client : ClientInv n w
  knows : System.Holds Phase.knows w st holder
  paced : Paced w.history st

variable {holder : Option ℕ} {susp : Bool}

/-- A call that changes neither the token, the expiry nor the history. Source: none: infrastructure.
Kind: L -/
theorem RunInv.quiet (h : RunInv n w st holder) (hr : holder = none ∨ holder = some t)
    (ht : st[t]? = some (m, false)) (htoken : w'.token = w.token)
    (hexpires : w'.expiresAt = w.expiresAt) (hhistory : w'.history = w.history)
    (hmade : ∀ i, made i (m', b) = true → made i (m, false) = true)
    (hnext : ∀ K, m'.knows = some K → susp = false ∧ K w') :
    RunInv n w' (st.set t (m', b)) (if susp || b then none else some t) where
  client := h.client.of_eq htoken hexpires hhistory
  knows := h.knows.perform hr fun K _ hK => hnext K hK
  paced := h.paced.set ht (fun i => by rw [hhistory]) hmade

theorem not_made {i : ℕ} (h : ∀ j, m ≠ .asking j) : ¬ made i (m, b) = true := by
  cases m with
  | asking j => exact absurd rfl (h j)
  | _ => simp [made]

/-- What the first look finds: both fields, or not. Source: `app/integrations/kiwoom/client.py`
`KiwoomApiClient.token_expiring`. Kind: L -/
theorem Phase.looking_eq (token : Option JsonValue) (expiresAt : Option ℤ) :
    Phase.looking token expiresAt = .stale ∧ (token = none ∨ expiresAt = none) ∨
      ∃ e, Phase.looking token expiresAt = .looked e ∧ token ≠ none ∧ expiresAt = some e := by
  cases token with
  | none => exact .inl ⟨rfl, .inl rfl⟩
  | some token =>
      cases expiresAt with
      | none => exact .inl ⟨rfl, .inr rfl⟩
      | some e => exact .inr ⟨e, rfl, by simp, rfl⟩

theorem not_ahead_none {now : ℤ} : ¬ Ahead none now := by
  rintro ⟨e, he, -⟩
  exact absurd he (by simp)

/-- The first look at the fields. Source: `app/integrations/kiwoom/client.py`
`KiwoomApiClient.token_expiring`. Kind: L -/
theorem RunInv.look (h : RunInv n w st holder) (hr : holder = none ∨ holder = some t)
    (ht : st[t]? = some (.begun, false)) :
    RunInv n w (st.set t (.looking (w.token.filter JsonValue.truthy) w.expiresAt, b))
      (if false || b then none else some t) := by
  rw [h.client.filter_token]
  rcases Phase.looking_eq w.token w.expiresAt with ⟨heq, hmissing⟩ | ⟨e, heq, htoken, hexpires⟩
  · rw [heq]
    refine h.quiet hr ht rfl rfl rfl (fun i hi => absurd hi (not_made fun _ => by simp)) ?_
    rintro K ⟨⟩
    refine ⟨rfl, hmissing.imp id fun hnone => ?_⟩
    rw [hnone]
    exact not_ahead_none
  · rw [heq]
    refine h.quiet hr ht rfl rfl rfl (fun i hi => absurd hi (not_made fun _ => by simp)) ?_
    rintro K ⟨⟩
    exact ⟨rfl, htoken, hexpires⟩

/-- The reading of the clock after it. Source: `app/integrations/kiwoom/client.py`
`KiwoomApiClient.token_expiring`. Kind: L -/
theorem RunInv.compare {expiresAt : ℤ} (now : ℤ) (h : RunInv n w st holder)
    (hr : holder = none ∨ holder = some t) (ht : st[t]? = some (.looked expiresAt, false)) :
    RunInv n { w with clock := now }
      (st.set t (if expiresAt - buffer ≤ now then .stale else .valid, b))
      (if false || b then none else some t) := by
  obtain ⟨-, htoken, hexpires⟩ := h.knows t _ _ ht rfl
  by_cases hnow : expiresAt - buffer ≤ now
  · rw [if_pos hnow]
    refine h.quiet hr ht rfl rfl rfl (fun i hi => absurd hi (not_made fun _ => by simp)) ?_
    rintro K ⟨⟩
    refine ⟨rfl, .inr ?_⟩
    rintro ⟨e, he, hlt⟩
    obtain rfl := Option.some.inj (hexpires.symm.trans he)
    exact absurd hlt (not_lt_of_ge hnow)
  · rw [if_neg hnow]
    refine h.quiet hr ht rfl rfl rfl (fun i hi => absurd hi (not_made fun _ => by simp)) ?_
    rintro K ⟨⟩
    exact ⟨rfl, htoken, expiresAt, hexpires, lt_of_not_ge hnow⟩

/-- An attempt to get a token. Source: `app/integrations/kiwoom/client.py`
`KiwoomApiClient.refresh_token`. Kind: L -/
theorem RunInv.asked {i : ℕ} (h : RunInv n w st holder) (hr : holder = none ∨ holder = some t)
    (ht : st[t]? = some (m, false))
    (hm : m = .stale ∧ i = 0 ∧ 0 < n ∨ m = .asking i ∧ 0 < i ∧ i < n) :
    RunInv n { w with history := w.history ++ [.asked i w.clock] } (st.set t (.asking (i + 1), b))
      (if true || b then none else some t) where
  client := by
    refine h.client.append ?_ rfl rfl
    rcases hm with ⟨rfl, rfl, hn⟩ | ⟨rfl, hpos, hn⟩
    · obtain ⟨-, hstale⟩ := h.knows t _ _ ht rfl
      exact ⟨hn, by rwa [← h.client.token, ← h.client.expiresAt]⟩
    · obtain ⟨j, rfl⟩ := Nat.exists_eq_succ_of_ne_zero hpos.ne'
      have hstands : 0 < st.countP (made (j + 1)) :=
        List.countP_pos_iff.mpr ⟨_, List.mem_of_getElem? ht, decide_eq_true rfl⟩
      exact ⟨hn, by have := h.paced j; omega⟩
  knows := h.knows.perform hr fun K _ hK => absurd hK (by simp [Phase.knows])
  paced := h.paced.asked ht (hm.imp (fun h => ⟨h.1, h.2.1⟩) fun h => ⟨h.1, h.2.1⟩)

/-- Taking the token of a reply. Source: `app/integrations/kiwoom/client.py`
`KiwoomApiClient.refresh_token`. Kind: L -/
theorem RunInv.took {token : JsonValue} {i : ℕ} (h : RunInv n w st holder)
    (hr : holder = none ∨ holder = some t) (ht : st[t]? = some (.asking i, false))
    (htoken : token.truthy = true) :
    RunInv n { w with token := some token, history := w.history ++ [.took token] }
      (st.set t (.taken, b)) (if false || b then none else some t) where
  client := h.client.took htoken
  knows := by
    refine h.knows.perform hr ?_
    rintro K - ⟨⟩
    exact ⟨rfl, w.history, token, rfl⟩
  paced := by
    refine h.paced.set ht (fun i => ?_) fun i hi => absurd hi (not_made fun _ => by simp)
    rw [attemptCount_append_singleton]
    rfl

/-- Taking its expiry. Source: `app/integrations/kiwoom/client.py`
`KiwoomApiClient.refresh_token`. Kind: L -/
theorem RunInv.expires (expiresAt : ℤ) (h : RunInv n w st holder)
    (hr : holder = none ∨ holder = some t) (ht : st[t]? = some (.taken, false)) :
    RunInv n { w with expiresAt := some expiresAt, history := w.history ++ [.expires expiresAt] }
      (st.set t (.fresh, b)) (if false || b then none else some t) := by
  obtain ⟨-, front, token, hlast⟩ := h.knows t _ _ ht rfl
  refine ⟨h.client.expires expiresAt ⟨front, token, hlast⟩, ?_, ?_⟩
  · refine h.knows.perform hr ?_
    rintro K - ⟨⟩
    refine ⟨rfl, front, token, expiresAt, ?_⟩
    rw [hlast, List.append_assoc]
    rfl
  · refine h.paced.set ht (fun i => ?_) fun i hi => absurd hi (not_made fun _ => by simp)
    rw [attemptCount_append_singleton]
    rfl

/-- Between taking a token and the last look: what was just taken stays what was just taken.
Source: `app/integrations/kiwoom/client.py` `KiwoomApiClient.ensure_token`. Kind: L -/
theorem RunInv.still (h : RunInv n w st holder) (hr : holder = none ∨ holder = some t)
    (ht : st[t]? = some (m, false))
    (hm : m = .taken ∧ m' = .taken ∨ (m = .fresh ∨ m = .noted) ∧ m' = .noted)
    (htoken : w'.token = w.token) (hexpires : w'.expiresAt = w.expiresAt)
    (hhistory : w'.history = w.history) :
    RunInv n w' (st.set t (m', b)) (if false || b then none else some t) := by
  rcases hm with ⟨rfl, rfl⟩ | ⟨hm, rfl⟩
  · refine h.quiet hr ht htoken hexpires hhistory
      (fun i hi => absurd hi (not_made fun _ => by simp)) ?_
    rintro K ⟨⟩
    obtain ⟨-, hlast⟩ := h.knows t _ _ ht rfl
    exact ⟨rfl, by simpa only [hhistory] using hlast⟩
  · refine h.quiet hr ht htoken hexpires hhistory
      (fun i hi => absurd hi (not_made fun _ => by simp)) ?_
    rintro K ⟨⟩
    have hjust : JustTaken w.history := by
      rcases hm with rfl | rfl
      · exact (h.knows t _ _ ht rfl).2
      · exact (h.knows t _ _ ht rfl).2
    exact ⟨rfl, by simpa only [hhistory] using hjust⟩

/-- The last look at the fields. Source: `app/integrations/kiwoom/client.py`
`KiwoomApiClient.ensure_token`. Kind: L -/
theorem RunInv.lookAgain (h : RunInv n w st holder) (hr : holder = none ∨ holder = some t)
    (ht : st[t]? = some (m, false)) (hm : m = .valid ∨ m = .noted) :
    RunInv n w (st.set t (.ready (w.token.filter JsonValue.truthy), b))
      (if false || b then none else some t) := by
  have hheld : w.token ≠ none ∧ (JustTaken w.history ∨ Ahead w.expiresAt w.clock) := by
    rcases hm with rfl | rfl
    · obtain ⟨-, htoken, hahead⟩ := h.knows t _ _ ht rfl
      exact ⟨htoken, .inr hahead⟩
    · obtain ⟨-, hjust⟩ := h.knows t _ _ ht rfl
      exact ⟨h.client.token_ne_none hjust, .inl hjust⟩
  rw [h.client.filter_token]
  refine h.quiet hr ht rfl rfl rfl (fun i hi => absurd hi (not_made fun _ => by simp)) ?_
  rintro K ⟨⟩
  exact ⟨rfl, rfl, hheld⟩

/-- Submitting the request. Source: `app/integrations/kiwoom/client.py` `KiwoomApiClient.post`.
Kind: L -/
theorem RunInv.sent {token : Option JsonValue} (h : RunInv n w st holder)
    (hr : holder = none ∨ holder = some t) (ht : st[t]? = some (.ready token, false)) :
    RunInv n { w with history := w.history ++ [.sent token w.clock] } (st.set t (.finished, b))
      (if true || b then none else some t) := by
  obtain ⟨-, rfl, htoken, hvalid⟩ := h.knows t _ _ ht rfl
  refine ⟨h.client.append ?_ rfl rfl, ?_, ?_⟩
  · obtain ⟨held, hheld⟩ := Option.ne_none_iff_exists'.mp htoken
    exact ⟨⟨held, hheld, h.client.truthy held hheld⟩, h.client.token,
      by rwa [← h.client.expiresAt]⟩
  · exact h.knows.perform hr fun K _ hK => absurd hK (by simp [Phase.knows])
  · refine h.paced.set ht (fun i => ?_) fun i hi => absurd hi (not_made fun _ => by simp)
    rw [attemptCount_append_singleton]
    rfl

/-- **One call of a request keeps the invariant.** Source: `app/integrations/kiwoom/client.py`
`KiwoomApiClient.post`. Kind: P -/
theorem RunInv.perform {call : ClientCall} (a : ClientAnswer) (h : RunInv n w st holder)
    (hr : holder = none ∨ holder = some t) (ht : st[t]? = some (m, false))
    (hallows : m.allows n call) :
    RunInv n (exec call a w).2 (st.set t (m.next call (exec call a w).1, b))
      (if call.suspends || b then none else some t) := by
  unfold Phase.allows at hallows
  split at hallows
  · -- the caller hands its request over
    exact h.quiet hr ht rfl rfl rfl (fun i hi => hi) fun K hK =>
      absurd hK (by simp [Phase.next, Phase.knows])
  · exact h.look hr ht
  · exact h.compare a.now hr ht
  · exact h.lookAgain hr ht (.inl rfl)
  · next i =>
      obtain ⟨rfl, hn⟩ := hallows
      exact h.asked hr ht (.inl ⟨rfl, rfl, hn⟩)
  · next made i =>
      obtain ⟨rfl, hpos, hn⟩ := hallows
      exact h.asked hr ht (.inr ⟨rfl, hpos, hn⟩)
  · -- a sleep between two attempts
    refine h.quiet hr ht rfl rfl rfl (fun i hi => ?_) fun K hK =>
      absurd hK (by simp [Phase.next, Phase.knows])
    cases b with
    | false => exact hi
    | true => exact absurd hi (by simp [made, Phase.next])
  · exact h.took hr ht hallows
  · -- the clock, for an expiry that is given in seconds
    exact h.still hr ht (.inl ⟨rfl, rfl⟩) rfl rfl rfl
  · exact h.expires _ hr ht
  · exact h.still hr ht (.inr ⟨.inl rfl, rfl⟩) rfl rfl rfl
  · exact h.still hr ht (.inr ⟨.inr rfl, rfl⟩) rfl rfl rfl
  · exact h.still hr ht (.inr ⟨.inr rfl, rfl⟩) rfl rfl rfl
  · exact h.lookAgain hr ht (.inr rfl)
  · next held token =>
      subst hallows
      exact h.sent hr ht
  · exact hallows.elim

/-- **The event loop** with any number of requests of one client. Source:
`app/integrations/kiwoom/client.py` `KiwoomApiClient`. Kind: D -/
def clients (cfg : Setup) :
    System ClientCall ClientCall.Reply Exn JsonValue ClientWorld ClientAnswer Empty Phase where
  exec := exec
  suspends := ClientCall.suspends
  handle := fun v => v.elim
  protocol := clientProtocol cfg.tokenRetryBackoff.length
  root := posting cfg
  start := .begun

/-- The loop before the first request of a new client. Source: `app/integrations/kiwoom/client.py`
`KiwoomApiClient.__init__`. Kind: D -/
def fresh : Pool ClientCall ClientCall.Reply Exn JsonValue ClientWorld Phase := ⟨{}, [], none⟩

theorem runInv_fresh : RunInv n {} [] none where
  client := ⟨rfl, rfl, by rintro token ⟨⟩, atEvery_nil⟩
  knows := by
    intro t m K ht
    exact absurd ht (by simp)
  paced := fun i => le_rfl

/-- **Every history of a client is justified**, however its requests interleave and whatever the broker
replies: a request is sent with a token, the one that was taken last, and either it was taken with its
expiry just before or the expiry that was read last is more than five minutes ahead; a token is asked for
only when there is none or that expiry is not, and at most as often as the setup allows for each time it
was needed. Source: `app/integrations/kiwoom/client.py` `KiwoomApiClient.post`. Kind: P -/
theorem token_histories (cfg : Setup)
    {c : Pool ClientCall ClientCall.Reply Exn JsonValue ClientWorld Phase}
    (h : (clients cfg).Run (fun _ _ _ => True) fresh c) :
    AtEvery (Justified cfg.tokenRetryBackoff.length) c.shared.history ∧
      c.shared.history.countP ClientEvent.isAsked ≤
        cfg.tokenRetryBackoff.length * attemptCount 0 c.shared.history := by
  have hrun := h.invariant_held (I := RunInv cfg.tokenRetryBackoff.length) (posting_follows cfg)
    (fun w st r hI => ⟨hI.client, hI.knows.spawn rfl, fun i => by
      have hle := hI.paced i
      rwa [List.countP_append, List.countP_singleton, if_neg (not_made fun _ => by simp [clients]),
        Nat.add_zero]⟩)
    (fun w st r v => v.elim)
    (fun w st r t m e a b hI hr ht hallows _ => hI.perform a hr ht hallows)
    (fun _ ht => absurd ht List.not_mem_nil) runInv_fresh
  have hjustified := hrun.1.client.history
  exact ⟨hjustified, countP_isAsked_le hjustified⟩

/-- A client with the documented backoff. Source: `app/integrations/kiwoom/client.py`
`KiwoomApiClient.__init__`. Kind: D -/
def setup : Setup where
  appKey := "key"
  appSecret := "secret"
  format := fun _ => ""
  repr := fun text => text
  extended := fun _ => none

/-- Two requests at once: both find no token; the first is refused one and sleeps, the second gets one for
an hour; then the first gets another for four minutes and a third request finds that one expiring.
Source: none: infrastructure. Kind: D -/
def rush : List (Label ClientAnswer Empty) :=
  let reply (token : String) (seconds : ℤ) : ClientAnswer :=
    { reply := .ok (.dict [("token", .str token), ("expires_in", .int seconds)]) }
  let sending (t : ℕ) : List (Label ClientAnswer Empty) := List.replicate 8 (.resume t {})
  [.spawn, .spawn, .resume 0 {}, .resume 0 {}, .resume 0 {}, .resume 1 {}, .resume 1 {},
    .resume 1 (reply "A" 3600)] ++ sending 1 ++ [.resume 0 {}, .resume 0 (reply "B" 240)] ++
    sending 0 ++ [.spawn, .resume 2 {}, .resume 2 {}, .resume 2 {}, .resume 2 (reply "C" 3600)]

/-- The statement for `rush`: four attempts, two requests sent. Source:
`app/integrations/kiwoom/client.py` `KiwoomApiClient.post`. Kind: P -/
theorem token_histories_rush : ∃ c : Pool ClientCall ClientCall.Reply Exn JsonValue ClientWorld Phase,
    c.shared.history.countP ClientEvent.isAsked = 4 ∧ attemptCount 0 c.shared.history = 3 ∧
      AtEvery (Justified 3) c.shared.history := by
  have hreached : ((clients setup).replay (fun _ _ _ => true) fresh rush).any (fun c =>
      c.shared.history.countP ClientEvent.isAsked = 4 ∧ attemptCount 0 c.shared.history = 3) =
        true := by
    decide +kernel
  obtain ⟨c, hc, hcounts⟩ := (Option.any_eq_true _ _).mp hreached
  have hrun := (System.run_of_replay hc).mono fun _ _ _ _ => trivial
  obtain ⟨hasked, hfirst⟩ := of_decide_eq_true hcounts
  exact ⟨c, hasked, hfirst, (token_histories setup hrun).1⟩

end KiwoomApiClient

end HaruTrade
