import HaruTrade.Orders.Service

/-!
# One live order per reconcile

A placement can leave a live order at the broker whatever its reply says: the reply may be lost after
the broker registered the order. So a retry is safe only after a status check has established that
the first order does not exist.

* `Surroundings` — an answer for every call, given in advance.
* `SafeRetry` — at most one live order, and no second placement before such a check.
* `safeRetry_iff` — **a reconcile is safe exactly when its first placement is settled**: the reply was
  ok, or it carried an order id and the check raised, denied the order, or settled it.
* `two_live_orders` — a first placement that raises after it was registered.
-/

namespace HaruTrade

open Coro OrderService

/-! ## Surroundings -/

/-- An answer for every call; calls that differ can be answered differently.
Source: none: infrastructure. Kind: D -/
abbrev Surroundings : Type := Op → Answer

namespace Surroundings

variable (env : Surroundings)

/-- The run of a piece of the runtime in the surroundings. Source: none: infrastructure. Kind: D -/
def run {α : Type} (p : Prog α) (w : World) : Except Exn α × World :=
  p.eval exec (fun e _ => env e) w

/-- The reply to a placement. Source: none: infrastructure. Kind: D -/
def placed (t : Ticket) (att : Attempt) : Except Exn OrderResult :=
  (env (.placeOrder t att)).reply (env (.placeOrder t att)).order

/-- Does the placement leave a live order at the broker? Source: none: infrastructure. Kind: D -/
def live (t : Ticket) (att : Attempt) : Bool := (env (.placeOrder t att)).live

/-- How much of the order was filled when the reconcile returned.
Source: none: infrastructure. Kind: D -/
def filled (t : Ticket) (att : Attempt) : ℚ := (env (.placeOrder t att)).filled

/-- The reply to a status check. Source: none: infrastructure. Kind: D -/
def checked (t : Ticket) (att : Attempt) (orderId : String) : Except Exn OrderStatus :=
  (env (.getOrderStatus t att orderId)).reply (env (.getOrderStatus t att orderId)).status

/-- The event is the one the surroundings answer with. Source: none: infrastructure. Kind: D -/
def Answers : GatewayEvent → Prop
  | .placed t att reply live filled =>
      reply = env.placed t att ∧ live = env.live t att ∧ filled = env.filled t att
  | .checked t att id reply => reply = env.checked t att id

/-- Runs in the surroundings. Source: none: infrastructure. Kind: D -/
def regime : Regime := { event := env.Answers, writesFail := True }

variable {env}

theorem run_bind {α β : Type} (p : Prog α) (f : α → Prog β) (w : World) :
    env.run (p.bind f) w = match env.run p w with
      | (.ok a, w') => env.run (f a) w'
      | (.error x, w') => (.error x, w') := by
  rcases h : p.eval exec (fun e _ => env e) w with ⟨_ | _, w'⟩ <;> simp only [run, eval_bind, h]

/-- A run in the surroundings is a run of their regime. Source: none: infrastructure. Kind: L -/
theorem exec_run {α : Type} (p : Prog α) (w : World) :
    Exec exec env.regime.ok p w (env.run p w).1 (env.run p w).2 := by
  have heval : Exec exec (fun e a _ => a = env e) p w (env.run p w).1 (env.run p w).2 :=
    (exec_iff_eval exec).mpr rfl
  refine heval.mono ?_
  rintro e a s rfl
  refine Regime.ok_of (fun _ => trivial) ?_ ?_ (fun _ _ _ => trivial) fun _ _ _ _ _ => trivial
  · rintro t att rfl
    exact ⟨⟨rfl, rfl, rfl⟩, trivial⟩
  · rintro t att id rfl
    rfl

/-- **A reconcile in the surroundings** leaves a transcript of their answers.
Source: `app/orders/service.py` `OrderService.place_with_reconcile`. Kind: L -/
theorem exists_reconciled (t : Ticket) (w : World) :
    ∃ evs r, (env.run (placeWithReconcile t) w).1 = .ok r ∧ Reconciled t evs r ∧
      (∀ ev ∈ evs, env.Answers ev) ∧ Asked w evs (env.run (placeWithReconcile t) w).2 :=
  (exec_placeWithReconcile (exec_run (placeWithReconcile t) w)).2

end Surroundings

/-! ## Safe retries -/

/-- Did the event leave a live order at the broker? Source: none: infrastructure. Kind: D -/
def GatewayEvent.isLive : GatewayEvent → Bool
  | placed _ _ _ live _ => live
  | checked _ _ _ _ => false

/-- The number of live orders a transcript leaves. Source: none: infrastructure. Kind: D -/
def liveOrders (evs : List GatewayEvent) : ℕ := evs.countP GatewayEvent.isLive

/-- A status check of the first order of the ticket has answered that it does not exist.
Source: none: infrastructure. Kind: D -/
def DeniedFirst (t : Ticket) (evs : List GatewayEvent) : Prop :=
  ∃ id st, GatewayEvent.checked t .first id (.ok st) ∈ evs ∧ st.present = false

/-- **At most one live order, and a second placement only after the first was denied.**
Source: `app/orders/service.py` `OrderService`, "when order placement fails, we must check status
before retry". Kind: D -/
structure SafeRetry (evs : List GatewayEvent) : Prop where
  one : liveOrders evs ≤ 1
  denied : ∀ pre t reply live filled post,
    evs = pre ++ .placed t .second reply live filled :: post → DeniedFirst t pre

/-- The status check of an order that a placement named tells whether the order is live.
Source: none: infrastructure. Kind: D -/
def Surroundings.Truthful (env : Surroundings) (t : Ticket) : Prop :=
  ∀ att r id st, env.placed t att = .ok r → r.orderId = some id → env.checked t att id = .ok st →
    st.present = env.live t att

/-- **The first placement is settled**: its reply is ok, or it names an order whose check raises,
denies the order or settles it. Source: `app/orders/service.py`
`OrderService.place_with_reconcile`. Kind: D -/
def Surroundings.FirstSettled (env : Surroundings) (t : Ticket) : Prop :=
  ∃ r, env.placed t .first = .ok r ∧ (r.ok = true ∨
    ∃ id, r.orderId = some id ∧ id ≠ "" ∧
      ∀ st, env.checked t .first id = .ok st → st.present = false ∨ st.settles = true)

variable {env : Surroundings} {t : Ticket} {att : Attempt} {evs evs' : List GatewayEvent}
  {f r : OrderResult} {res : OrderResult ⊕ OrderResult}

/-- One attempt is a placement and then at most a check. Source: `app/orders/service.py`
`OrderService.place_with_reconcile`. Kind: L -/
theorem OrderService.Attempted.eq_cons (h : Attempted t att evs res) :
    ∃ reply live filled post, evs = .placed t att reply live filled :: post ∧
      ∀ ev ∈ post, ev.isPlacement = false := by
  cases h <;> exact ⟨_, _, _, _, rfl, by simp [GatewayEvent.isPlacement]⟩

theorem OrderService.Attempted.second_notMem (h : Attempted t .first evs res) {t' : Ticket}
    {reply : Except Exn OrderResult} {live : Bool} {filled : ℚ} :
    GatewayEvent.placed t' .second reply live filled ∉ evs := by
  cases h <;> simp

/-- Source: none: infrastructure. Kind: L -/
theorem liveOrders_cons_checks {ev : GatewayEvent}
    (h : ∀ ev' ∈ evs, GatewayEvent.isPlacement ev' = false) :
    liveOrders (ev :: evs) = if ev.isLive then 1 else 0 := by
  have hnone : evs.countP GatewayEvent.isLive = 0 := by
    refine List.countP_eq_zero.mpr fun ev' hev' hlive => ?_
    have hpl := h ev' hev'
    cases ev' with
    | placed => cases hpl
    | checked => cases hlive
  rw [liveOrders, List.countP_cons, hnone, Nat.zero_add]

/-- One attempt leaves at most one live order. Source: `app/orders/service.py`
`OrderService.place_with_reconcile`. Kind: L -/
theorem liveOrders_le_one (h : Attempted t att evs res) : liveOrders evs ≤ 1 := by
  obtain ⟨reply, live, filled, post, rfl, hpost⟩ := h.eq_cons
  rw [liveOrders_cons_checks hpost]
  split <;> simp

/-- **A first attempt alone is safe.** Source: `app/orders/service.py`
`OrderService.place_with_reconcile`. Kind: L -/
theorem safeRetry_first (h : Attempted t .first evs res) : SafeRetry evs := by
  refine ⟨liveOrders_le_one h, ?_⟩
  intro pre t' reply live filled post he
  have hmem : GatewayEvent.placed t' .second reply live filled ∈ evs := by
    rw [he]
    simp
  exact absurd hmem h.second_notMem

/-- **A second attempt is safe exactly when the first order was denied**, by a check that tells the
truth. Source: `app/orders/service.py` `OrderService.place_with_reconcile`. Kind: P -/
theorem safeRetry_append_iff (h : Attempted t .first evs (.inr f)) (h' : Attempted t .second evs' res)
    (htruth : DeniedFirst t evs → liveOrders evs = 0) :
    SafeRetry (evs ++ evs') ↔ DeniedFirst t evs := by
  have hone := liveOrders_le_one h'
  obtain ⟨reply, live, filled, post, rfl, hpost⟩ := h'.eq_cons
  constructor
  · intro hs
    exact hs.denied evs t reply live filled post rfl
  · intro hdenied
    refine ⟨?_, ?_⟩
    · rw [liveOrders, List.countP_append, ← liveOrders, ← liveOrders, htruth hdenied, Nat.zero_add]
      exact hone
    · intro pre t' reply' live' filled' post' he
      -- there is no second placement but this one
      have hpost' : GatewayEvent.placed t' .second reply' live' filled' ∉ post := by
        intro hmem
        cases hpost _ hmem
      obtain ⟨rfl, hev, -⟩ := (List.append_cons_inj_of_notMem h.second_notMem hpost').mp he
      cases hev
      exact hdenied

/-! ## When the first placement is settled -/

/-- A first attempt that the reconcile ends with is settled. Source: `app/orders/service.py`
`OrderService.place_with_reconcile`. Kind: L -/
theorem firstSettled_of_ended (h : Attempted t .first evs (.inl r))
    (hev : ∀ ev ∈ evs, env.Answers ev) : env.FirstSettled t := by
  cases h with
  | placed _ live filled hok =>
      obtain ⟨hplaced, -⟩ := hev _ (List.mem_singleton_self _)
      exact ⟨r, hplaced.symm, .inl hok⟩
  | checkRaised r live filled id x hok hid hne =>
      obtain ⟨hplaced, -⟩ := hev (.placed t .first (.ok r) live filled) (by simp)
      have hchecked : Except.error x = env.checked t .first id :=
        hev (.checked t .first id (.error x)) (by simp)
      refine ⟨r, hplaced.symm, .inr ⟨id, hid, hne, fun st hst => ?_⟩⟩
      rw [← hchecked] at hst
      cases hst
  | settled r live filled id st hok hid hne hsettles =>
      obtain ⟨hplaced, -⟩ := hev (.placed t .first (.ok r) live filled) (by simp)
      have hchecked : Except.ok st = env.checked t .first id :=
        hev (.checked t .first id (.ok st)) (by simp)
      refine ⟨r, hplaced.symm, .inr ⟨id, hid, hne, fun st' hst => .inr ?_⟩⟩
      rw [← hchecked] at hst
      cases hst
      exact hsettles

/-- **A first attempt that is retried is settled exactly when its order was denied.**
Source: `app/orders/service.py` `OrderService.place_with_reconcile`. Kind: P -/
theorem firstSettled_iff_denied (h : Attempted t .first evs (.inr f))
    (hev : ∀ ev ∈ evs, env.Answers ev) : env.FirstSettled t ↔ DeniedFirst t evs := by
  cases h with
  | raised x live filled =>
      obtain ⟨hplaced, -⟩ := hev _ (List.mem_singleton_self _)
      refine iff_of_false ?_ (by simp [DeniedFirst])
      rintro ⟨r, hr, -⟩
      rw [← hplaced] at hr
      cases hr
  | noId _ live filled hok hid =>
      obtain ⟨hplaced, -⟩ := hev _ (List.mem_singleton_self _)
      refine iff_of_false ?_ (by simp [DeniedFirst])
      rintro ⟨r, hr, hsettled⟩
      rw [← hplaced] at hr
      cases hr
      rcases hsettled with hok' | ⟨id, hid', hne, -⟩
      · rw [hok] at hok'
        cases hok'
      · simp [hid', truthy, hne] at hid
  | unsettled _ live filled id st hok hid hne hst =>
      obtain ⟨hplaced, -⟩ := hev (.placed t .first (.ok f) live filled) (by simp)
      have hchecked : Except.ok st = env.checked t .first id :=
        hev (.checked t .first id (.ok st)) (by simp)
      have hdenied : DeniedFirst t [.placed t .first (.ok f) live filled,
          .checked t .first id (.ok st)] ↔ st.present = false := by
        simp [DeniedFirst]
      rw [hdenied]
      constructor
      · rintro ⟨r, hr, hsettled⟩
        rw [← hplaced] at hr
        cases hr
        rcases hsettled with hok' | ⟨id', hid', -, hst'⟩
        · rw [hok] at hok'
          cases hok'
        · rw [hid] at hid'
          cases hid'
          rcases hst' st hchecked.symm with hpresent | hsettles
          · exact hpresent
          · rw [hst] at hsettles
            cases hsettles
      · intro hpresent
        refine ⟨f, hplaced.symm, .inr ⟨id, hid, hne, fun st' hst' => .inl ?_⟩⟩
        rw [← hchecked] at hst'
        cases hst'
        exact hpresent

/-- A truthful check denies only an order that is not live. Source: none: infrastructure. Kind: L -/
theorem liveOrders_of_denied (htruth : env.Truthful t) (h : Attempted t .first evs (.inr f))
    (hev : ∀ ev ∈ evs, env.Answers ev) (hdenied : DeniedFirst t evs) : liveOrders evs = 0 := by
  cases h with
  | raised x live filled => simp [DeniedFirst] at hdenied
  | noId _ live filled hok hid => simp [DeniedFirst] at hdenied
  | unsettled _ live filled id st hok hid hne hst =>
      obtain ⟨hplaced, hlive, -⟩ := hev (.placed t .first (.ok f) live filled) (by simp)
      have hchecked : Except.ok st = env.checked t .first id :=
        hev (.checked t .first id (.ok st)) (by simp)
      have hpresent : st.present = false := by simpa [DeniedFirst] using hdenied
      have hexists := htruth .first f id st hplaced.symm hid hchecked.symm
      rw [← hlive, hpresent] at hexists
      simp [liveOrders, GatewayEvent.isLive, ← hexists]

/-- **A reconcile is safe exactly when its first placement is settled**, whatever the gateway
replies, in surroundings whose status checks tell the truth. Source: `app/orders/service.py`
`OrderService.place_with_reconcile`. Kind: P -/
theorem safeRetry_iff (w : World) (htruth : env.Truthful t) :
    (∃ evs, (env.run (placeWithReconcile t) w).2.gateway = w.gateway ++ evs ∧ SafeRetry evs) ↔
      env.FirstSettled t := by
  obtain ⟨evs, r, -, hrec, hev, rt, hw⟩ := env.exists_reconciled t w
  have hgateway : (∃ evs, (env.run (placeWithReconcile t) w).2.gateway = w.gateway ++ evs ∧
      SafeRetry evs) ↔ SafeRetry evs := by
    rw [hw]
    exact ⟨fun ⟨evs', he, hs⟩ => List.append_cancel_left he ▸ hs, fun hs => ⟨evs, rfl, hs⟩⟩
  rw [hgateway]
  have hretried : ∀ {evs evs' f res}, Attempted t .first evs (.inr f) →
      Attempted t .second evs' res → (∀ ev ∈ evs ++ evs', env.Answers ev) →
        (SafeRetry (evs ++ evs') ↔ env.FirstSettled t) := by
    intro evs evs' f res h h' hev
    have hfirst : ∀ ev ∈ evs, env.Answers ev := fun ev hmem => hev ev (List.mem_append_left _ hmem)
    rw [safeRetry_append_iff h h' (liveOrders_of_denied htruth h hfirst),
      firstSettled_iff_denied h hfirst]
  cases hrec with
  | first h => exact iff_of_true (safeRetry_first h) (firstSettled_of_ended h hev)
  | second h h' => exact hretried h h' hev
  | unresolved h h' => exact hretried h h' hev

/-! ## Two gateways -/

/-- An order to buy one share at 100. Source: none: infrastructure. Kind: D -/
def buyTicket : Ticket where
  intent := .entry { index := 1, side := "buy", ticker := "005930", price := some 100 }
  req := { ticker := "005930", side := "buy", orderType := .limit, qty := 1, price := some 100 }

/-- A broker that refuses the first placement under an id, and denies that id.
Source: none: infrastructure. Kind: D -/
def deniesFirst : Surroundings
  | .placeOrder _ .first => { order := { ok := false, orderId := some "7" }, live := false }
  | .getOrderStatus _ .first _ => { status := { present := false, status := "missing" } }
  | _ => {}

/-- The theorem at a retry that follows such a check. Source: none: infrastructure. Kind: C -/
theorem safeRetry_iff_denied :
    ∃ evs, (deniesFirst.run (placeWithReconcile buyTicket) {}).2.gateway = [] ++ evs ∧
      SafeRetry evs := by
  refine (safeRetry_iff {} ?_).mpr ⟨{ ok := false, orderId := some "7" }, rfl, .inr
    ⟨"7", rfl, by decide, fun st hst => .inl ?_⟩⟩
  · intro att r id st hplaced hid hchecked
    cases att <;> cases hchecked <;> rfl
  · cases hst
    rfl

/-- A broker that registers the first order and times out, and accepts the second.
Source: none: infrastructure. Kind: D -/
def timesOut : Surroundings
  | .placeOrder _ .first => { raises := some (.other "timeout"), live := true }
  | _ => {}

/-- **A timeout after the order was registered leaves two live orders.**
Source: `app/orders/service.py` `OrderService.place_with_reconcile`. Kind: C -/
theorem two_live_orders :
    timesOut.Truthful buyTicket ∧
      liveOrders (timesOut.run (placeWithReconcile buyTicket) {}).2.gateway = 2 := by
  refine ⟨?_, by decide +kernel⟩
  intro att r id st hplaced hid hchecked
  cases att with
  | first => cases hplaced
  | second =>
      cases hchecked
      rfl

end HaruTrade
