import HaruTrade.Runtime.Calls

/-!
# Placing an order with reconcile

`placeWithReconcile` places an order, checks the status of a failed order that has an id, and
retries once. Both attempts run the same lines of the source with their own texts (`attempt`).

* `Regime` — which runs a result is about: the gateway's replies, the database faults, and what
  holds where an order is placed, a signal taken or a decision made.
* `Attempted`, `Reconciled` — the transcripts of gateway events one attempt, and one reconcile, can
  leave, with the result each ends with.
* `exec_placeWithReconcile` — **the specification**: a reconcile appends such a transcript to the
  gateway log, may raise the halt flag, and touches nothing else.
-/

namespace HaruTrade

open Coro

/-- Which runs a result is about: the gateway's replies, whether a write of an order, signal or
position row may fail, and what holds where an order is placed, a signal is taken from the queue
and a decision is made. Source: none: infrastructure. Kind: D -/
structure Regime where
  /-- The gateway may answer a call so. -/
  event : GatewayEvent → Prop := fun _ => True
  /-- A commit, or the refresh after it, may raise. -/
  writesFail : Prop
  /-- An order may be placed in this world. -/
  place : World → Ticket → Prop := fun _ _ => True
  /-- This signal may be taken from the queue. -/
  take : Signal → Prop := fun _ => True
  /-- This position may be decided at this price. -/
  decides : Position → ℚ → Prop := fun _ _ => True

/-- The answered calls a regime admits. Source: none: infrastructure. Kind: D -/
def Regime.ok (R : Regime) : Op → Answer → World → Prop
  | .placeOrder t att, a, w =>
      R.event (.placed t att (a.reply a.order) a.live a.filled) ∧ R.place w t
  | .getOrderStatus t att id, a, _ => R.event (.checked t att id (a.reply a.status))
  | .createSignal _, a, _ => a.db ≠ none → R.writesFail
  | .createOrder _, a, _ => a.db ≠ none → R.writesFail
  | .openPosition _, a, _ => a.db ≠ none → R.writesFail
  | .applyTransition _ _, a, _ => a.db ≠ none → R.writesFail
  | .popOne, _, w => ∀ signal ∈ w.queue.head?, R.take signal
  | .decide p price _ _, _, _ => R.decides p price
  | _, _, _ => True

/-- A call is admitted when the guards of its own kind hold. Source: none: infrastructure. Kind: L -/
theorem Regime.ok_of {R : Regime} {e : Op} {a : Answer} {w : World}
    (hfault : a.db ≠ none → R.writesFail)
    (hplace : ∀ t att, e = .placeOrder t att →
      R.event (.placed t att (a.reply a.order) a.live a.filled) ∧ R.place w t)
    (hstatus : ∀ t att id, e = .getOrderStatus t att id →
      R.event (.checked t att id (a.reply a.status)))
    (htake : e = .popOne → ∀ signal ∈ w.queue.head?, R.take signal)
    (hdecides : ∀ p price atr mult, e = .decide p price atr mult → R.decides p price) :
    R.ok e a w := by
  cases e with
  | placeOrder t att => exact hplace t att rfl
  | getOrderStatus t att id => exact hstatus t att id rfl
  | popOne => exact htake rfl
  | decide p price atr mult => exact hdecides p price atr mult rfl
  | _ => first | exact True.intro | exact hfault

namespace OrderService

/-- Source: `app/orders/service.py` `OrderService._critical`. Kind: D -/
def critical (code message : String) : Prog Unit := ask (.critical code message)

/-- The texts in which the two attempts differ: the code of a raising `place_order`, and the name
in the message of a raising status check.
Source: `app/orders/service.py` `OrderService.place_with_reconcile`. Kind: D -/
def Attempt.placeCode : Attempt → String
  | .first => "order_place_exception"
  | .second => "order_retry_exception"

@[inherit_doc Attempt.placeCode]
def Attempt.label : Attempt → String
  | .first => "first"
  | .second => "second"

/-- `try: await gateway.place_order(req)`, with the failed result a raise is turned into.
Source: `app/orders/service.py` `OrderService.place_with_reconcile`. Kind: D -/
def place (t : Ticket) (att : Attempt) : Prog OrderResult := do
  match ← ask (.placeOrder t att) with
  | .ok r => return r
  | .error x =>
      critical (Attempt.placeCode att) (t.req.ticker ++ " " ++ t.req.side ++ ": " ++ x.str)
      return { ok := false, orderId := none, error := some x.str }

/-- One attempt: `Sum.inl` is a result that the reconcile returns, `Sum.inr` the failed placement
that it goes on from. Source: `app/orders/service.py` `OrderService.place_with_reconcile`.
Kind: D -/
def attempt (t : Ticket) (att : Attempt) : Prog (OrderResult ⊕ OrderResult) := do
  let placed ← place t att
  if placed.ok then
    return .inl placed
  else
    match placed.orderId with
    | none => return .inr placed
    | some orderId =>
        -- an empty order id is false in `if first.order_id`
        if orderId = "" then
          return .inr placed
        else
          match ← ask (.getOrderStatus t att orderId) with
          | .error x =>
              critical "order_status_check_failed"
                (t.req.ticker ++ " " ++ Attempt.label att ++ " order_id=" ++ orderId ++ ": " ++ x.str)
              return .inl { ok := false, orderId := some orderId,
                            error := some "status_check_failed" }
          | .ok st =>
              if st.settles then
                return .inl { ok := true, orderId := some orderId }
              else
                return .inr placed

/-- **Place, check, retry once, check.**
Source: `app/orders/service.py` `OrderService.place_with_reconcile`. Kind: D -/
def placeWithReconcile (t : Ticket) : Prog OrderResult := do
  match ← attempt t .first with
  | .inl result => return result
  | .inr first =>
      match ← attempt t .second with
      | .inl result => return result
      | .inr second =>
          critical "order_unresolved"
            (t.req.ticker ++ " " ++ t.req.side ++ " unresolved after reconcile")
          return { ok := false, orderId := second.orderId,
                   error := orElse second.error (orElse first.error (some "unresolved")) }

/-- The calls of a reconcile. Source: `app/orders/service.py` `OrderService.place_with_reconcile`.
Kind: L -/
theorem uses_placeWithReconcile {U : Op → Prop} {t : Ticket}
    (hplace : ∀ att, U (.placeOrder t att)) (hstatus : ∀ att id, U (.getOrderStatus t att id))
    (hcritical : ∀ code message, U (.critical code message)) :
    Uses U (placeWithReconcile t) := by
  have hplaced : ∀ att, Uses U (place t att) := by
    intro att
    refine Uses.bind (uses_perform.mpr (hplace att)) fun r => ?_
    cases r with
    | ok r => trivial
    | error x => exact Uses.bind (uses_perform.mpr (hcritical _ _)) fun _ => uses_ret
  have hattempt : ∀ att, Uses U (attempt t att) := by
    intro att
    refine Uses.bind (hplaced att) fun r => ?_
    cases hok : r.ok with
    | true => simp
    | false =>
        simp only [Bool.false_eq_true, if_false]
        cases r.orderId with
        | none => trivial
        | some id =>
            by_cases hid : id = ""
            · simp [hid]
            · simp only [hid, if_false]
              refine Uses.bind (uses_perform.mpr (hstatus att id)) fun st => ?_
              cases st with
              | error x => exact Uses.bind (uses_perform.mpr (hcritical _ _)) fun _ => uses_ret
              | ok st => by_cases hst : st.settles = true <;> simp [hst]
  refine Uses.bind (hattempt .first) fun res => ?_
  cases res with
  | inl r => trivial
  | inr f =>
      refine Uses.bind (hattempt .second) fun res => ?_
      cases res with
      | inl r => trivial
      | inr s => exact Uses.bind (uses_perform.mpr (hcritical _ _)) fun _ => uses_ret

/-! ## Transcripts -/

/-- **The transcripts of one attempt** and what it ends with.
Source: `app/orders/service.py` `OrderService.place_with_reconcile`. Kind: D -/
inductive Attempted (t : Ticket) (att : Attempt) :
    List GatewayEvent → OrderResult ⊕ OrderResult → Prop
  | placed (r : OrderResult) (live : Bool) (filled : ℚ) (hok : r.ok = true) :
      Attempted t att [.placed t att (.ok r) live filled] (.inl r)
  | raised (x : Exn) (live : Bool) (filled : ℚ) :
      Attempted t att [.placed t att (.error x) live filled]
        (.inr { ok := false, orderId := none, error := some x.str })
  | noId (r : OrderResult) (live : Bool) (filled : ℚ) (hok : r.ok = false)
      (hid : truthy r.orderId = false) :
      Attempted t att [.placed t att (.ok r) live filled] (.inr r)
  | checkRaised (r : OrderResult) (live : Bool) (filled : ℚ) (id : String) (x : Exn)
      (hok : r.ok = false) (hid : r.orderId = some id) (hne : id ≠ "") :
      Attempted t att [.placed t att (.ok r) live filled, .checked t att id (.error x)]
        (.inl { ok := false, orderId := some id, error := some "status_check_failed" })
  | settled (r : OrderResult) (live : Bool) (filled : ℚ) (id : String) (st : OrderStatus)
      (hok : r.ok = false) (hid : r.orderId = some id) (hne : id ≠ "")
      (hst : st.settles = true) :
      Attempted t att [.placed t att (.ok r) live filled, .checked t att id (.ok st)]
        (.inl { ok := true, orderId := some id })
  | unsettled (r : OrderResult) (live : Bool) (filled : ℚ) (id : String) (st : OrderStatus)
      (hok : r.ok = false) (hid : r.orderId = some id) (hne : id ≠ "")
      (hst : st.settles = false) :
      Attempted t att [.placed t att (.ok r) live filled, .checked t att id (.ok st)] (.inr r)

/-- **The transcripts of one reconcile** and its result.
Source: `app/orders/service.py` `OrderService.place_with_reconcile`. Kind: D -/
inductive Reconciled (t : Ticket) : List GatewayEvent → OrderResult → Prop
  | first {evs : List GatewayEvent} {r : OrderResult} (h : Attempted t .first evs (.inl r)) :
      Reconciled t evs r
  | second {evs evs' : List GatewayEvent} {f r : OrderResult}
      (h : Attempted t .first evs (.inr f)) (h' : Attempted t .second evs' (.inl r)) :
      Reconciled t (evs ++ evs') r
  | unresolved {evs evs' : List GatewayEvent} {f s : OrderResult}
      (h : Attempted t .first evs (.inr f)) (h' : Attempted t .second evs' (.inr s)) :
      Reconciled t (evs ++ evs')
        { ok := false, orderId := s.orderId,
          error := orElse s.error (orElse f.error (some "unresolved")) }

variable {t : Ticket} {att : Attempt} {evs : List GatewayEvent} {r : OrderResult}
  {res : OrderResult ⊕ OrderResult}

theorem Attempted.ticket (h : Attempted t att evs res) : ∀ ev ∈ evs, ev.ticket = t := by
  cases h <;> simp [GatewayEvent.ticket]

theorem Reconciled.ticket (h : Reconciled t evs r) : ∀ ev ∈ evs, ev.ticket = t := by
  cases h with
  | first h => exact h.ticket
  | second h h' => exact fun ev hev => (List.mem_append.mp hev).elim (h.ticket ev) (h'.ticket ev)
  | unresolved h h' =>
      exact fun ev hev => (List.mem_append.mp hev).elim (h.ticket ev) (h'.ticket ev)

/-- The quantity a transcript of events accepts. Source: none: infrastructure. Kind: D -/
def accepted (evs : List GatewayEvent) : ℚ := (evs.map GatewayEvent.acceptedQty).sum

@[simp] theorem accepted_append (evs evs' : List GatewayEvent) :
    accepted (evs ++ evs') = accepted evs + accepted evs' := by
  simp [accepted]

/-- One attempt accepts the requested quantity if it ends with an ok result, and nothing otherwise.
Source: `app/orders/service.py` `OrderService.place_with_reconcile`. Kind: L -/
theorem Attempted.accepted (h : Attempted t att evs res) :
    accepted evs = match res with
      | .inl r => if r.ok then t.req.qty else 0
      | .inr _ => 0 := by
  cases h with
  | placed r live filled hok =>
      simp [OrderService.accepted, GatewayEvent.acceptedQty, GatewayEvent.accepts,
        GatewayEvent.ticket, hok]
  | raised => simp [OrderService.accepted, GatewayEvent.acceptedQty, GatewayEvent.accepts]
  | noId r live filled hok hid =>
      simp [OrderService.accepted, GatewayEvent.acceptedQty, GatewayEvent.accepts, hok]
  | checkRaised r live filled id x hok hid hne =>
      simp [OrderService.accepted, GatewayEvent.acceptedQty, GatewayEvent.accepts, hok]
  | settled r live filled id st hok hid hne hst =>
      simp [OrderService.accepted, GatewayEvent.acceptedQty, GatewayEvent.accepts,
        GatewayEvent.ticket, hok, hst]
  | unsettled r live filled id st hok hid hne hst =>
      simp [OrderService.accepted, GatewayEvent.acceptedQty, GatewayEvent.accepts, hok, hst]

/-- **A reconcile accepts the requested quantity once if its result is ok, and nothing otherwise.**
Source: `app/orders/service.py` `OrderService.place_with_reconcile`. Kind: P -/
theorem Reconciled.accepted (h : Reconciled t evs r) :
    accepted evs = if r.ok then t.req.qty else 0 := by
  cases h with
  | first h => exact h.accepted
  | second h h' =>
      rw [accepted_append, h.accepted, h'.accepted]
      simp
  | unresolved h h' =>
      rw [accepted_append, h.accepted, h'.accepted]
      simp

/-- An ok result comes with an accepting event, and an accepting event with an ok result.
Source: `app/orders/service.py` `OrderService.place_with_reconcile`. Kind: L -/
theorem Attempted.exists_accepts (h : Attempted t att evs res) :
    (∃ ev ∈ evs, ev.accepts = true) ↔ ∃ r, res = .inl r ∧ r.ok = true := by
  cases h <;> simp_all [GatewayEvent.accepts]

@[inherit_doc Attempted.exists_accepts]
theorem Reconciled.exists_accepts (h : Reconciled t evs r) :
    (∃ ev ∈ evs, ev.accepts = true) ↔ r.ok = true := by
  cases h with
  | first h => simpa using h.exists_accepts
  | second h h' =>
      have h₁ := h.exists_accepts
      have h₂ := h'.exists_accepts
      simp only [reduceCtorEq, false_and, exists_false, iff_false] at h₁
      simp only [Sum.inl.injEq, exists_eq_left'] at h₂
      rw [← h₂]
      constructor
      · rintro ⟨ev, hev, ha⟩
        rcases List.mem_append.mp hev with hev | hev
        · exact absurd ⟨ev, hev, ha⟩ h₁
        · exact ⟨ev, hev, ha⟩
      · rintro ⟨ev, hev, ha⟩
        exact ⟨ev, List.mem_append_right _ hev, ha⟩
  | unresolved h h' =>
      have h₁ := h.exists_accepts
      have h₂ := h'.exists_accepts
      simp only [reduceCtorEq, false_and, exists_false, iff_false] at h₁ h₂
      simp only [Bool.false_eq_true, iff_false]
      rintro ⟨ev, hev, ha⟩
      rcases List.mem_append.mp hev with hev | hev
      · exact h₁ ⟨ev, hev, ha⟩
      · exact h₂ ⟨ev, hev, ha⟩

/-- A reconcile begins with a placement. Source: `app/orders/service.py`
`OrderService.place_with_reconcile`. Kind: L -/
theorem Reconciled.ne_nil (h : Reconciled t evs r) : evs ≠ [] := by
  cases h with
  | first h => cases h <;> simp
  | second h h' => cases h <;> simp
  | unresolved h h' => cases h <;> simp

/-- Where the gateway accepts every placement, a reconcile is one placement.
Source: `app/orders/service.py` `OrderService.place_with_reconcile`. Kind: L -/
theorem Reconciled.eq_placed (h : Reconciled t evs r)
    (hacc : ∀ ev ∈ evs, ev.isPlacement = true → ev.accepts = true) :
    r.ok = true ∧ ∃ live filled, evs = [.placed t .first (.ok r) live filled] := by
  have hfirst : ∀ {evs res}, Attempted t .first evs res →
      (∀ ev ∈ evs, ev.isPlacement = true → ev.accepts = true) →
      ∃ r live filled, r.ok = true ∧ res = .inl r ∧ evs = [.placed t .first (.ok r) live filled] := by
    intro evs res h hacc
    cases h with
    | placed r live filled hok => exact ⟨r, live, filled, hok, rfl, rfl⟩
    | raised x live filled => simp [GatewayEvent.isPlacement, GatewayEvent.accepts] at hacc
    | noId r live filled hok hid =>
        simp [GatewayEvent.isPlacement, GatewayEvent.accepts, hok] at hacc
    | checkRaised r live filled id x hok hid hne =>
        simp [GatewayEvent.isPlacement, GatewayEvent.accepts, hok] at hacc
    | settled r live filled id st hok hid hne hst =>
        simp [GatewayEvent.isPlacement, GatewayEvent.accepts, hok] at hacc
    | unsettled r live filled id st hok hid hne hst =>
        simp [GatewayEvent.isPlacement, GatewayEvent.accepts, hok] at hacc
  cases h with
  | first h =>
      obtain ⟨r', live, filled, hok, hr, rfl⟩ := hfirst h hacc
      cases hr
      exact ⟨hok, live, filled, rfl⟩
  | second h h' =>
      obtain ⟨_, _, _, _, hr, _⟩ := hfirst h fun ev hev => hacc ev (List.mem_append_left _ hev)
      cases hr
  | unresolved h h' =>
      obtain ⟨_, _, _, _, hr, _⟩ := hfirst h fun ev hev => hacc ev (List.mem_append_left _ hev)
      cases hr

/-! ## The specification -/

/-- What a reconcile does to the world: it appends to the gateway log, and critical failures may
change the flags. Source: none: infrastructure. Kind: D -/
def Asked (w : World) (evs : List GatewayEvent) (w' : World) : Prop :=
  ∃ rt, w' = { w with runtime := rt, gateway := w.gateway ++ evs }

variable {R : Regime} {w w' : World}

theorem exec_critical {code message : String} {out : Except Exn Unit}
    (h : Exec exec R.ok (critical code message) w out w') :
    out = .ok () ∧ ∃ rt, w' = { w with runtime := rt } := by
  obtain ⟨a, -, rfl, rfl⟩ := exec_perform_iff.mp h
  exact ⟨rfl, _, rfl⟩

/-- Source: `app/orders/service.py` `OrderService.place_with_reconcile`. Kind: L -/
theorem exec_place {out : Except Exn OrderResult} (h : Exec exec R.ok (place t att) w out w') :
    R.place w t ∧ ∃ live filled, ∃ reply : Except Exn OrderResult,
      R.event (.placed t att reply live filled) ∧
      Asked w [.placed t att reply live filled] w' ∧
      out = .ok (match reply with
        | .ok r => r
        | .error x => { ok := false, orderId := none, error := some x.str }) := by
  simp only [place, bind_eq, perform_bind, exec_call_iff, HaruTrade.exec] at h
  obtain ⟨a, ⟨ha, hp⟩, h⟩ := h
  refine ⟨hp, a.live, a.filled, a.reply a.order, ha, ?_⟩
  cases hr : a.reply a.order with
  | ok r =>
      simp only [hr, pure_eq, exec_ret_iff] at h
      obtain ⟨rfl, rfl⟩ := h
      exact ⟨⟨w.runtime, rfl⟩, rfl⟩
  | error x =>
      simp only [hr, exec_bind_iff, pure_eq, exec_ret_iff] at h
      rcases h with ⟨_, w₁, h₁, rfl, rfl⟩ | ⟨_, _, h₁⟩
      · obtain ⟨-, rt, rfl⟩ := exec_critical h₁
        exact ⟨⟨rt, rfl⟩, rfl⟩
      · exact absurd (exec_critical h₁).1 (by simp)

/-- **One attempt** leaves one of its transcripts. Source: `app/orders/service.py`
`OrderService.place_with_reconcile`. Kind: P -/
theorem exec_attempt {out : Except Exn (OrderResult ⊕ OrderResult)}
    (h : Exec exec R.ok (attempt t att) w out w') :
    R.place w t ∧ ∃ evs res, out = .ok res ∧ Attempted t att evs res ∧ (∀ ev ∈ evs, R.event ev) ∧
      Asked w evs w' := by
  rw [attempt, bind_eq, exec_bind_iff] at h
  rcases h with ⟨p, w₁, hp, h⟩ | ⟨x, rfl, hp⟩
  swap
  · obtain ⟨_, _, _, _, _, _, hout⟩ := exec_place hp
    cases hout
  obtain ⟨hplace, live, filled, reply, hev, hw₁, hout⟩ := exec_place hp
  cases hout
  refine ⟨hplace, ?_⟩
  cases reply with
  | error x =>
      simp only [Bool.false_eq_true, if_false, pure_eq, exec_ret_iff] at h
      obtain ⟨rfl, rfl⟩ := h
      exact ⟨_, _, rfl, .raised x live filled, by simpa using hev, hw₁⟩
  | ok r =>
      simp only at h
      cases hok : r.ok with
      | true =>
          simp only [hok, if_true, pure_eq, exec_ret_iff] at h
          obtain ⟨rfl, rfl⟩ := h
          exact ⟨_, _, rfl, .placed r live filled hok, by simpa using hev, hw₁⟩
      | false =>
          simp only [hok, Bool.false_eq_true, if_false] at h
          cases hid : r.orderId with
          | none =>
              simp only [hid, pure_eq, exec_ret_iff] at h
              obtain ⟨rfl, rfl⟩ := h
              exact ⟨_, _, rfl, .noId r live filled hok (by simp [hid, truthy]),
                by simpa using hev, hw₁⟩
          | some id =>
              simp only [hid] at h
              by_cases hne : id = ""
              · simp only [hne, if_true, pure_eq, exec_ret_iff] at h
                obtain ⟨rfl, rfl⟩ := h
                exact ⟨_, _, rfl, .noId r live filled hok (by simp [hid, hne, truthy]),
                  by simpa using hev, hw₁⟩
              · simp only [hne, if_false, bind_eq, perform_bind, exec_call_iff,
                  HaruTrade.exec] at h
                obtain ⟨a, ha, h⟩ := h
                have hevs : ∀ ev ∈ [GatewayEvent.placed t att (.ok r) live filled,
                    .checked t att id (a.reply a.status)], R.event ev := by
                  simpa using ⟨hev, ha⟩
                obtain ⟨rt, rfl⟩ := hw₁
                cases hst : a.reply a.status with
                | error x =>
                    simp only [hst, exec_bind_iff, pure_eq, exec_ret_iff] at h hevs
                    rcases h with ⟨_, w₂, h₂, rfl, rfl⟩ | ⟨_, _, h₂⟩
                    · obtain ⟨-, rt', rfl⟩ := exec_critical h₂
                      exact ⟨_, _, rfl, .checkRaised r live filled id x hok hid hne, hevs, rt',
                        by simp⟩
                    · exact absurd (exec_critical h₂).1 (by simp)
                | ok st =>
                    simp only [hst] at h hevs
                    cases hset : st.settles with
                    | true =>
                        simp only [hset, if_true, pure_eq, exec_ret_iff] at h
                        obtain ⟨rfl, rfl⟩ := h
                        exact ⟨_, _, rfl, .settled r live filled id st hok hid hne hset, hevs, rt,
                          by simp⟩
                    | false =>
                        simp only [hset, Bool.false_eq_true, if_false, pure_eq,
                          exec_ret_iff] at h
                        obtain ⟨rfl, rfl⟩ := h
                        exact ⟨_, _, rfl, .unsettled r live filled id st hok hid hne hset, hevs,
                          rt, by simp⟩

theorem Asked.trans {w₁ w₂ w₃ : World} {evs evs' : List GatewayEvent} (h : Asked w₁ evs w₂)
    (h' : Asked w₂ evs' w₃) : Asked w₁ (evs ++ evs') w₃ := by
  obtain ⟨rt, rfl⟩ := h
  obtain ⟨rt', rfl⟩ := h'
  exact ⟨rt', by simp⟩

/-- **A reconcile** returns, and leaves one of its transcripts at the gateway and nothing else.
Source: `app/orders/service.py` `OrderService.place_with_reconcile`. Kind: P -/
theorem exec_placeWithReconcile {out : Except Exn OrderResult}
    (h : Exec exec R.ok (placeWithReconcile t) w out w') :
    R.place w t ∧ ∃ evs r, out = .ok r ∧ Reconciled t evs r ∧ (∀ ev ∈ evs, R.event ev) ∧
      Asked w evs w' := by
  rw [placeWithReconcile, bind_eq, exec_bind_iff] at h
  rcases h with ⟨res, w₁, h₁, h⟩ | ⟨x, rfl, h₁⟩
  swap
  · obtain ⟨_, _, _, hout, _⟩ := exec_attempt h₁
    cases hout
  obtain ⟨hplace, evs, _, hres, hatt, hev, hw₁⟩ := exec_attempt h₁
  cases hres
  refine ⟨hplace, ?_⟩
  cases res with
  | inl r =>
      simp only [pure_eq, exec_ret_iff] at h
      obtain ⟨rfl, rfl⟩ := h
      exact ⟨evs, r, rfl, .first hatt, hev, hw₁⟩
  | inr f =>
      simp only [bind_eq, exec_bind_iff] at h
      rcases h with ⟨res', w₂, h₂, h⟩ | ⟨x, rfl, h₂⟩
      swap
      · obtain ⟨_, _, _, hout, _⟩ := exec_attempt h₂
        cases hout
      obtain ⟨-, evs', _, hres', hatt', hev', hw₂⟩ := exec_attempt h₂
      cases hres'
      have hevs : ∀ ev ∈ evs ++ evs', R.event ev := fun ev hmem =>
        (List.mem_append.mp hmem).elim (hev ev) (hev' ev)
      cases res' with
      | inl r =>
          simp only [pure_eq, exec_ret_iff] at h
          obtain ⟨rfl, rfl⟩ := h
          exact ⟨evs ++ evs', r, rfl, .second hatt hatt', hevs, hw₁.trans hw₂⟩
      | inr s =>
          simp only [exec_bind_iff, pure_eq, exec_ret_iff] at h
          rcases h with ⟨_, w₃, h₃, rfl, rfl⟩ | ⟨_, _, h₃⟩
          · obtain ⟨-, rt, rfl⟩ := exec_critical h₃
            refine ⟨evs ++ evs', _, rfl, .unresolved hatt hatt', hevs, ?_⟩
            obtain ⟨_, hw⟩ := hw₁.trans hw₂
            exact ⟨rt, by rw [hw]⟩
          · exact absurd (exec_critical h₃).1 (by simp)

end OrderService

end HaruTrade
