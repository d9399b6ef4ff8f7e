import HaruTrade.Orders.Reconcile
import HaruTrade.Services.Trading

/-!
# What an entry records as filled

The broker accepts an order and fills it at different times. The service learns of the acceptance
only, and books one filled share for it.

* `Surroundings.acceptedAttempt` — which placement of a reconcile the broker's answers accept.
* `run_executeFromSignal` — **what an entry stores**, as a function of the surroundings.
* `recordsFills_iff` — the fills on record are the broker's exactly when nothing is recorded, nothing
  was accepted, or the accepted order was filled with its one share.
* `unfilled_position` — an accepted order of which nothing was filled.
-/

namespace HaruTrade

open Coro OrderService TradingService

/-! ## Acceptance -/

/-- What the broker's answers say about one attempt: it was accepted, the check failed and the
reconcile ends, or the reconcile goes on. Source: `app/orders/service.py`
`OrderService.place_with_reconcile`. Kind: D -/
inductive Verdict
  | accepted
  | ended
  | open
  deriving DecidableEq

namespace Surroundings

variable (env : Surroundings)

/-- Source: `app/orders/service.py` `OrderService.place_with_reconcile`. Kind: D -/
def verdict (t : Ticket) (att : Attempt) : Verdict :=
  match env.placed t att with
  | .error _ => .open
  | .ok r =>
      if r.ok then .accepted
      else if truthy r.orderId then
        match env.checked t att (r.orderId.getD "") with
        | .error _ => .ended
        | .ok st => if st.settles then .accepted else .open
      else .open

/-- The attempt that the broker accepts, if it accepts one. Source: `app/orders/service.py`
`OrderService.place_with_reconcile`. Kind: D -/
def acceptedAttempt (t : Ticket) : Option Attempt :=
  match env.verdict t .first, env.verdict t .second with
  | .accepted, _ => some .first
  | .open, .accepted => some .second
  | _, _ => none

/-- How much of the accepted order the broker has filled. Source: none: infrastructure. Kind: D -/
def acceptedFill (t : Ticket) : Option ℚ := (env.acceptedAttempt t).map (env.filled t)

variable {env} {t : Ticket} {att : Attempt} {evs : List GatewayEvent} {r : OrderResult}
  {res : OrderResult ⊕ OrderResult}

/-- The result of an attempt says what the answers do. Source: `app/orders/service.py`
`OrderService.place_with_reconcile`. Kind: L -/
theorem verdict_eq (h : Attempted t att evs res) (hev : ∀ ev ∈ evs, env.Answers ev) :
    env.verdict t att = match res with
      | .inl r => if r.ok then .accepted else .ended
      | .inr _ => .open := by
  cases h with
  | placed r live filled hok =>
      obtain ⟨hplaced, -⟩ := hev _ (List.mem_singleton_self _)
      simp [verdict, ← hplaced, hok]
  | raised x live filled =>
      obtain ⟨hplaced, -⟩ := hev _ (List.mem_singleton_self _)
      simp [verdict, ← hplaced]
  | noId r live filled hok hid =>
      obtain ⟨hplaced, -⟩ := hev _ (List.mem_singleton_self _)
      simp [verdict, ← hplaced, hok, hid]
  | checkRaised r live filled id x hok hid hne =>
      obtain ⟨hplaced, -⟩ := hev (.placed t att (.ok r) live filled) (by simp)
      have hchecked : Except.error x = env.checked t att id :=
        hev (.checked t att id (.error x)) (by simp)
      simp [verdict, ← hplaced, hok, hid, truthy, hne, ← hchecked]
  | settled r live filled id st hok hid hne hst =>
      obtain ⟨hplaced, -⟩ := hev (.placed t att (.ok r) live filled) (by simp)
      have hchecked : Except.ok st = env.checked t att id :=
        hev (.checked t att id (.ok st)) (by simp)
      simp [verdict, ← hplaced, hok, hid, truthy, hne, ← hchecked, hst]
  | unsettled r live filled id st hok hid hne hst =>
      obtain ⟨hplaced, -⟩ := hev (.placed t att (.ok r) live filled) (by simp)
      have hchecked : Except.ok st = env.checked t att id :=
        hev (.checked t att id (.ok st)) (by simp)
      simp [verdict, ← hplaced, hok, hid, truthy, hne, ← hchecked, hst]

/-- **The result of a reconcile is ok exactly when an attempt was accepted.**
Source: `app/orders/service.py` `OrderService.place_with_reconcile`. Kind: P -/
theorem ok_eq_isSome (h : Reconciled t evs r) (hev : ∀ ev ∈ evs, env.Answers ev) :
    r.ok = (env.acceptedAttempt t).isSome := by
  cases h with
  | first h =>
      have hfirst := verdict_eq h hev
      cases hok : r.ok <;> simp [acceptedAttempt, hfirst, hok]
  | second h h' =>
      have hfirst := verdict_eq h fun ev hmem => hev ev (List.mem_append_left _ hmem)
      have hsecond := verdict_eq h' fun ev hmem => hev ev (List.mem_append_right _ hmem)
      cases hok : r.ok <;> simp [acceptedAttempt, hfirst, hsecond, hok]
  | unresolved h h' =>
      have hfirst := verdict_eq h fun ev hmem => hev ev (List.mem_append_left _ hmem)
      have hsecond := verdict_eq h' fun ev hmem => hev ev (List.mem_append_right _ hmem)
      simp [acceptedAttempt, hfirst, hsecond]

end Surroundings

/-! ## What an entry stores -/

/-- What executing one signal meets: the broker's answers, and the faults of its database calls.
Source: none: infrastructure. Kind: D -/
structure EntrySurroundings where
  broker : Surroundings
  session : Option DbFault := none
  signal : Option DbFault := none
  order : Option DbFault := none
  position : Option DbFault := none

namespace EntrySurroundings

variable (m : EntrySurroundings) (signal : Signal) (w : World)

/-- The surroundings with these faults. Source: none: infrastructure. Kind: D -/
def env : Surroundings
  | .openSession use => { m.broker (.openSession use) with db := m.session }
  | .createSignal args => { m.broker (.createSignal args) with db := m.signal }
  | .createOrder args => { m.broker (.createOrder args) with db := m.order }
  | .openPosition args => { m.broker (.openPosition args) with db := m.position }
  | e => m.broker e

/-- How much of the accepted entry order the broker has filled.
Source: none: infrastructure. Kind: D -/
def acceptedFill : Option ℚ := m.broker.acceptedFill (entryTicket signal)

/-- How far the bookkeeping after the reconcile gets. Source: `app/services/trading_service.py`
`TradingService.execute_from_signal`. Kind: D -/
def booking (ok : Bool) : Booking :=
  match m.order with
  | some (.commit _) => .nothing
  | some (.refresh _) => .order
  | none =>
      if ok then
        match m.position with
        | some (.commit _) => .order
        | _ => .position
      else .order

/-- Source: `app/services/trading_service.py` `TradingService.execute_from_signal`. Kind: L -/
theorem run_recordEntry (signalId : ℕ) (r : OrderResult) :
    ∃ orderId,
      (m.env.run (recordEntry signal signalId r) w).2.orders =
        (m.booking r.ok).orders w.orders (entryOrderArgs signal signalId r) ∧
      (m.env.run (recordEntry signal signalId r) w).2.positions =
        (m.booking r.ok).opened w.positions (entryPositionArgs signal orderId) := by
  refine ⟨w.orders.fresh, ?_⟩
  simp only [Surroundings.run, recordEntry, orRaise, bind_eq, perform_bind, call_bind, eval_call,
    exec, env, booking, Answer.committed]
  cases m.order with
  | some f => cases f <;> exact ⟨rfl, rfl⟩
  | none =>
      simp only [ofExcept_ok_bind]
      cases r.ok with
      | false => exact ⟨rfl, rfl⟩
      | true =>
          simp only [if_true, eval_call, exec, Answer.committed]
          cases m.position with
          | none => exact ⟨rfl, rfl⟩
          | some f => cases f <;> exact ⟨rfl, rfl⟩

variable {m}

/-- The bookkeeping stores nothing exactly when the order row is not committed.
Source: `app/services/trading_service.py` `TradingService.execute_from_signal`. Kind: L -/
theorem booking_eq_nothing_iff {ok : Bool} :
    m.booking ok = .nothing ↔ ∃ text, m.order = some (.commit text) := by
  unfold booking
  cases m.order with
  | some f => cases f <;> simp
  | none =>
      cases ok with
      | false => simp
      | true =>
          cases m.position with
          | none => simp
          | some f => cases f <;> simp

theorem ok_of_booking_position {ok : Bool} (h : m.booking ok = .position) : ok = true := by
  unfold booking at h
  cases ok with
  | true => rfl
  | false => split at h <;> cases h

/-- An entry whose session or signal row fails stores nothing else.
Source: `app/services/trading_service.py` `TradingService.execute_from_signal`. Kind: L -/
theorem run_failed (h : m.session ≠ none ∨ m.signal ≠ none) :
    (m.env.run (executeFromSignal signal) w).2.orders = w.orders ∧
      (m.env.run (executeFromSignal signal) w).2.positions = w.positions := by
  simp only [Surroundings.run, executeFromSignal, orRaise, bind_eq, perform_bind, call_bind,
    eval_call, exec, env, Answer.queried]
  cases hsession : m.session with
  | some f => exact ⟨rfl, rfl⟩
  | none =>
      simp only [ofExcept_ok_bind, eval_call, exec, Answer.committed]
      cases hsignal : m.signal with
      | some f => cases f <;> exact ⟨rfl, rfl⟩
      | none => exact absurd (h.elim (absurd hsession) (absurd hsignal)) id

/-- **What an entry stores** when its session and its signal row succeed: as much of the order row and
the position as the faults let through, for the result that the broker's answers lead to.
Source: `app/services/trading_service.py` `TradingService.execute_from_signal`. Kind: P -/
theorem run_executeFromSignal (hsession : m.session = none) (hsignal : m.signal = none) :
    ∃ r signalId orderId, r.ok = (m.acceptedFill signal).isSome ∧
      (m.env.run (executeFromSignal signal) w).2.orders =
        (m.booking r.ok).orders w.orders (entryOrderArgs signal signalId r) ∧
      (m.env.run (executeFromSignal signal) w).2.positions =
        (m.booking r.ok).opened w.positions (entryPositionArgs signal orderId) := by
  generalize hnow : (m.broker (.createSignal (signalArgs signal))).time = now
  generalize hw₁ : OrderingRepository.createSignal w (signalArgs signal) now = w₁
  have hbook : w₁.orders = w.orders ∧ w₁.positions = w.positions := by
    subst hw₁
    exact ⟨rfl, rfl⟩
  have hstart : m.env.run (executeFromSignal signal) w =
      m.env.run ((placeWithReconcile (entryTicket signal)).bind fun r =>
        recordEntry signal w.signals.fresh r) w₁ := by
    simp only [Surroundings.run, executeFromSignal, orRaise, bind_eq, perform_bind, call_bind,
      eval_call, exec, env, Answer.queried, hsession, ofExcept_ok_bind, Answer.committed, hsignal,
      hnow, hw₁, SignalArgs.row_id]
  obtain ⟨evs, r, hout, hrec, hev, rt, hw₂⟩ := m.env.exists_reconciled (entryTicket signal) w₁
  have hplaced : m.env.run (placeWithReconcile (entryTicket signal)) w₁ =
      (.ok r, { w₁ with runtime := rt, gateway := w₁.gateway ++ evs }) := Prod.ext hout hw₂
  rw [hstart, Surroundings.run_bind, hplaced]
  obtain ⟨orderId, ho, hp⟩ := m.run_recordEntry signal
    { w₁ with runtime := rt, gateway := w₁.gateway ++ evs } w.signals.fresh r
  refine ⟨r, w.signals.fresh, orderId, ?_, ?_, ?_⟩
  · rw [Surroundings.ok_eq_isSome hrec hev, acceptedFill, Surroundings.acceptedFill,
      Option.isSome_map]
    rfl
  · rw [ho, hbook.1]
  · rw [hp, hbook.2]

end EntrySurroundings

/-! ## Recorded fills -/

/-- **Every order that was recorded as filled and every position that was opened has the quantity
that the broker filled.** Source: `docs/prd.md` 4.4. Kind: D -/
structure RecordsFills (fill : Option ℚ) (w w' : World) : Prop where
  orders : ∀ o ∈ w'.orders.rows, o ∉ w.orders.rows → o.status = "filled" → fill = some o.quantity
  positions : ∀ p ∈ w'.positions.rows, p ∉ w.positions.rows → fill = some p.quantity

variable {w w' : World} {signal : Signal} {signalId orderId : ℕ} {r : OrderResult}
  {fill : Option ℚ} {b : Booking}

/-- The row that was added to a table is new. Source: none: infrastructure. Kind: L -/
theorem mem_add_iff_new {α : Type} {key : α → ℕ} {t : Table key} {mk : ℕ → α}
    {hmk : ∀ n, key (mk n) = n} {a : α} :
    (a ∈ (t.add mk hmk).rows ∧ a ∉ t.rows) ↔ a = mk t.fresh := by
  have hnew : mk t.fresh ∉ t.rows := by
    intro hmem
    have hlt := Table.key_lt_fresh hmem
    rw [hmk] at hlt
    exact lt_irrefl _ hlt
  rw [Table.rows_add, List.mem_append, List.mem_singleton]
  constructor
  · rintro ⟨h | h, hn⟩
    · exact absurd h hn
    · exact h
  · rintro rfl
    exact ⟨.inr rfl, hnew⟩

/-- **What an entry stored is the broker's fill** when it stored nothing, or when what was accepted is
one filled share. Source: `app/services/trading_service.py` `TradingService.execute_from_signal`.
Kind: P -/
theorem recordsFills_booked (ho : w'.orders = b.orders w.orders (entryOrderArgs signal signalId r))
    (hp : w'.positions = b.opened w.positions (entryPositionArgs signal orderId))
    (hok : r.ok = fill.isSome) (hb : b = .position → r.ok = true) :
    RecordsFills fill w w' ↔ b = .nothing ∨ ∀ q ∈ fill, q = 1 := by
  by_cases hnothing : b = .nothing
  · subst hnothing
    refine iff_of_true ⟨fun o hmem hnew => ?_, fun p hmem hnew => ?_⟩ (.inl rfl)
    · rw [ho] at hmem
      exact absurd hmem hnew
    · rw [hp] at hmem
      exact absurd hmem hnew
  have horder : ∀ o, (o ∈ w'.orders.rows ∧ o ∉ w.orders.rows) ↔
      o = (entryOrderArgs signal signalId r).row w.orders.fresh := by
    intro o
    cases b with
    | nothing => exact absurd rfl hnothing
    | order => rw [ho, Booking.orders, mem_add_iff_new]
    | position => rw [ho, Booking.orders, mem_add_iff_new]
  constructor
  · intro h
    refine .inr fun q hq => ?_
    obtain ⟨hmem, hnew⟩ := (horder _).mpr rfl
    rw [Option.mem_def] at hq
    have hfill := h.orders _ hmem hnew (by simp [OrderArgs.row, entryOrderArgs, hok, hq])
    rw [hq] at hfill
    exact Option.some.inj hfill
  · rintro (h | h)
    · exact absurd h hnothing
    constructor
    · intro o hmem hnew hstatus
      obtain rfl := (horder o).mp ⟨hmem, hnew⟩
      cases hfill : fill with
      | none => simp [OrderArgs.row, entryOrderArgs, hok, hfill] at hstatus
      | some q => exact congrArg some (h q hfill)
    · intro p hmem hnew
      cases b with
      | nothing => exact absurd rfl hnothing
      | order =>
          rw [hp] at hmem
          exact absurd hmem hnew
      | position =>
          rw [hp, Booking.opened] at hmem
          obtain rfl := mem_add_iff_new.mp ⟨hmem, hnew⟩
          have hsome : fill.isSome = true := by rw [← hok, hb rfl]
          obtain ⟨q, rfl⟩ := Option.isSome_iff_exists.mp hsome
          exact congrArg some (h q rfl)

/-- **The fills an entry records are the broker's** exactly when its session or its signal row fails,
its order row is not committed, no placement was accepted, or the accepted one was filled with its
one share. Source: `app/services/trading_service.py` `TradingService.execute_from_signal`. Kind: P -/
theorem recordsFills_iff (m : EntrySurroundings) (signal : Signal) (w : World) :
    RecordsFills (m.acceptedFill signal) w (m.env.run (executeFromSignal signal) w).2 ↔
      m.session ≠ none ∨ m.signal ≠ none ∨ (∃ text, m.order = some (.commit text)) ∨
        ∀ q ∈ m.acceptedFill signal, q = 1 := by
  by_cases hfail : m.session ≠ none ∨ m.signal ≠ none
  · obtain ⟨ho, hp⟩ := EntrySurroundings.run_failed signal w hfail
    refine iff_of_true ⟨fun o hmem hnew => ?_, fun p hmem hnew => ?_⟩ ?_
    · rw [ho] at hmem
      exact absurd hmem hnew
    · rw [hp] at hmem
      exact absurd hmem hnew
    · exact hfail.imp_right .inl
  · obtain ⟨hsession, hsignal⟩ := not_or.mp hfail
    obtain ⟨r, signalId, orderId, hok, ho, hp⟩ := EntrySurroundings.run_executeFromSignal
      signal w (not_not.mp hsession) (not_not.mp hsignal)
    rw [recordsFills_booked ho hp hok EntrySurroundings.ok_of_booking_position,
      EntrySurroundings.booking_eq_nothing_iff]
    simp only [hsession, hsignal, false_or]

/-- A signal to buy one share at 100. Source: none: infrastructure. Kind: D -/
def buySignal : Signal := { index := 1, side := "buy", ticker := "005930", price := some 100 }

/-- A broker that accepts the limit order and has filled nothing of it.
Source: none: infrastructure. Kind: D -/
def unfilled : EntrySurroundings := { broker := fun _ => { filled := 0 } }

/-- **An accepted order of which nothing is filled opens a position of one share.**
Source: `app/services/trading_service.py` `TradingService.execute_from_signal`. Kind: C -/
theorem unfilled_position :
    unfilled.acceptedFill buySignal = some 0 ∧
      ((unfilled.env.run (executeFromSignal buySignal) {}).2.orders.rows.map fun o =>
        (o.status, o.quantity)) = [("filled", 1)] ∧
      ((unfilled.env.run (executeFromSignal buySignal) {}).2.positions.rows.map
        Position.quantity) = [1] := by
  decide +kernel

end HaruTrade
