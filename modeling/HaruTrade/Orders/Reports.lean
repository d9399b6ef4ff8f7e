import HaruTrade.Coroutine.Recording
import HaruTrade.Orders.Service

/-!
# What a reconcile reports

Callers of `placeWithReconcile` rely on its result alone: an ok result must be backed by the gateway,
and a failure must not be silent. Both are said of the record of its calls, for every gateway and
every alert sink.

* `AttemptCalls`, `ReconcileCalls` — one or two attempts, each a placement and at most one check.
* `Backed` — the gateway's reply that an ok result rests on.
* `Reported` — what the record of a reconcile says of its result.
* **`placeWithReconcile_reported`** — a reconcile always returns, and its record is such a report.
-/

namespace HaruTrade

open Coro

namespace OrderService

/-! ## Reports -/

/-- The gateway calls of a record. Source: none: infrastructure. Kind: D -/
def gatewayCalls (l : List (Exchange Resp)) : List Op :=
  (l.map Exchange.call).filter Op.reachesGateway

/-- One placement and at most one status check after it. Source: `app/orders/service.py`
`OrderService.place_with_reconcile`. Kind: D -/
def AttemptCalls (t : Ticket) (att : Attempt) (calls : List Op) : Prop :=
  calls = [.placeOrder t att] ∨ ∃ id, calls = [.placeOrder t att, .getOrderStatus t att id]

/-- One attempt or two. Source: `app/orders/service.py` `OrderService.place_with_reconcile`. Kind: D -/
def ReconcileCalls (t : Ticket) (calls : List Op) : Prop :=
  AttemptCalls t .first calls ∨
    ∃ calls₁ calls₂, AttemptCalls t .first calls₁ ∧ AttemptCalls t .second calls₂ ∧
      calls = calls₁ ++ calls₂

/-- **What an ok result rests on**: a placement that the gateway replied ok to, with the same order id
if it had one, or a status check of the order id that settled it. Source: `app/orders/service.py`
`OrderService.place_with_reconcile`. Kind: D -/
inductive Backed (t : Ticket) (l : List (Exchange Resp)) (r : OrderResult) : Prop
  | placed (id : String) (att : Attempt) (reply : OrderResult) (hid : r.orderId = some id)
      (hmem : ⟨.placeOrder t att, .ok reply⟩ ∈ l) (hok : reply.ok = true)
      (hreply : reply.orderId = some id)
  | settled (id : String) (att : Attempt) (st : OrderStatus) (hid : r.orderId = some id)
      (hmem : ⟨.getOrderStatus t att id, .ok st⟩ ∈ l) (hpresent : st.present = true)
      (hstatus : st.status ∈ settledStatuses)
  | noId (att : Attempt) (reply : OrderResult) (hid : r.orderId = none)
      (hmem : ⟨.placeOrder t att, .ok reply⟩ ∈ l) (hok : reply.ok = true)
      (hreply : reply.orderId = none)

/-- A critical event was raised. Source: `app/services/runtime_safety.py`
`RuntimeSafetyManager.critical`. Kind: D -/
def Raised (l : List (Exchange Resp)) : Prop :=
  ∃ code message, ⟨.critical code message, ()⟩ ∈ l

/-- **What the record of a reconcile says of its result.** Source: `app/orders/service.py`
`OrderService.place_with_reconcile`. Kind: D -/
structure Reported (t : Ticket) (l : List (Exchange Resp)) (r : OrderResult) : Prop where
  calls : ReconcileCalls t (gatewayCalls l)
  backed : r.ok = true → Backed t l r
  raised : r.ok = false → Raised l

/-- What the record of one attempt says: `Sum.inl` is a result that the reconcile returns.
Source: `app/orders/service.py` `OrderService.place_with_reconcile`. Kind: D -/
structure AttemptReported (t : Ticket) (att : Attempt) (l : List (Exchange Resp))
    (res : OrderResult ⊕ OrderResult) : Prop where
  calls : AttemptCalls t att (gatewayCalls l)
  backed : ∀ r, res = .inl r → r.ok = true → Backed t l r
  raised : ∀ r, res = .inl r → r.ok = false → Raised l

section rules

variable {t : Ticket} {att : Attempt} {l l' : List (Exchange Resp)} {r : OrderResult}

@[simp] theorem gatewayCalls_append : gatewayCalls (l ++ l') = gatewayCalls l ++ gatewayCalls l' := by
  unfold gatewayCalls
  rw [List.map_append, List.filter_append]

theorem Backed.mono (h : Backed t l r) (hl : ∀ x ∈ l, x ∈ l') : Backed t l' r := by
  cases h with
  | placed id att reply hid hmem hok hreply => exact .placed id att reply hid (hl _ hmem) hok hreply
  | settled id att st hid hmem hpresent hstatus =>
      exact .settled id att st hid (hl _ hmem) hpresent hstatus
  | noId att reply hid hmem hok hreply => exact .noId att reply hid (hl _ hmem) hok hreply

theorem Raised.mono (h : Raised l) (hl : ∀ x ∈ l, x ∈ l') : Raised l' := by
  obtain ⟨code, message, hmem⟩ := h
  exact ⟨code, message, hl _ hmem⟩

/-- A result that the gateway replied ok with. Source: `app/orders/service.py`
`OrderService.place_with_reconcile`. Kind: L -/
theorem Backed.of_reply (hmem : ⟨.placeOrder t att, .ok r⟩ ∈ l) (hok : r.ok = true) :
    Backed t l r := by
  cases hid : r.orderId with
  | none => exact .noId att r hid hmem hok hid
  | some id => exact .placed id att r hid hmem hok hid

end rules

/-! ## The record of a reconcile -/

section record

variable {S A : Type} {exec : (e : Op) → A → S → Resp e × S}
  {ok : Op → A → S × List (Exchange Resp) → Prop} {s s' : S × List (Exchange Resp)} {t : Ticket}
  {att : Attempt}

theorem record_critical {code message : String} {out : Except Exn Unit}
    (h : Exec (recording exec) ok (critical code message) s out s') :
    out = .ok () ∧ s'.2 = s.2 ++ [⟨.critical code message, ()⟩] := by
  obtain ⟨a, -, rfl, rfl⟩ := exec_perform_iff.mp h
  exact ⟨rfl, rfl⟩

/-- A raise is reported, and turned into a failed result. Source: `app/orders/service.py`
`OrderService.place_with_reconcile`. Kind: L -/
theorem record_place {out : Except Exn OrderResult}
    (h : Exec (recording exec) ok (place t att) s out s') :
    (∃ r, out = .ok r ∧ s'.2 = s.2 ++ [⟨.placeOrder t att, .ok r⟩]) ∨
      ∃ r x code message, out = .ok r ∧ r.ok = false ∧ r.orderId = none ∧
        s'.2 = s.2 ++ [⟨.placeOrder t att, .error x⟩, ⟨.critical code message, ()⟩] := by
  rw [place, bind_eq, perform_bind, exec_call_iff] at h
  obtain ⟨a, -, h⟩ := h
  unfold recording at h
  dsimp only at h
  cases hreply : (exec (.placeOrder t att) a s.1).1 with
  | ok r =>
      rw [hreply] at h
      obtain ⟨rfl, rfl⟩ := exec_ret_iff.mp h
      exact .inl ⟨r, rfl, rfl⟩
  | error x =>
      rw [hreply] at h
      rcases exec_bind_iff.mp h with ⟨_, s₁, hcritical, h⟩ | ⟨_, _, hcritical⟩
      · obtain ⟨-, hlog⟩ := record_critical hcritical
        obtain ⟨rfl, rfl⟩ := exec_ret_iff.mp h
        exact .inr ⟨_, x, _, _, rfl, rfl, rfl, by rw [hlog, List.append_assoc]; rfl⟩
      · exact absurd (record_critical hcritical).1 (by simp)

/-- A placement that is not settled reports nothing yet. Source: none: infrastructure. Kind: L -/
theorem AttemptReported.of_inr {l : List (Exchange Resp)} {r : OrderResult}
    (hcalls : AttemptCalls t att (gatewayCalls l)) : AttemptReported t att l (.inr r) where
  calls := hcalls
  backed := by simp
  raised := by simp

/-- A placement that the gateway replied ok to. Source: `app/orders/service.py`
`OrderService.place_with_reconcile`. Kind: L -/
theorem AttemptReported.of_ok {r : OrderResult} (hok : r.ok = true) :
    AttemptReported t att [⟨.placeOrder t att, .ok r⟩] (.inl r) where
  calls := .inl rfl
  backed r' hr' _ := by
    cases hr'
    exact .of_reply (List.mem_singleton_self _) hok
  raised r' hr' hfail := by
    cases hr'
    exact absurd (hok.symm.trans hfail) (by decide)

/-- A status check that settles a refused placement. Source: `app/orders/service.py`
`OrderService.place_with_reconcile`. Kind: L -/
theorem AttemptReported.of_settles {placed : Except Exn OrderResult} {id : String}
    {st : OrderStatus} (hsettles : st.settles = true) :
    AttemptReported t att [⟨.placeOrder t att, placed⟩, ⟨.getOrderStatus t att id, .ok st⟩]
      (.inl { ok := true, orderId := some id }) where
  calls := .inr ⟨id, rfl⟩
  backed r' hr' _ := by
    cases hr'
    obtain ⟨hpresent, hstatus⟩ := Bool.and_eq_true_iff.mp hsettles
    exact .settled id att st rfl (by simp) hpresent (of_decide_eq_true hstatus)
  raised r' hr' hfail := by
    cases hr'
    exact absurd hfail.symm Bool.false_ne_true

/-- A status check that raises, and the critical event for it. Source: `app/orders/service.py`
`OrderService.place_with_reconcile`. Kind: L -/
theorem AttemptReported.of_raise {placed : Except Exn OrderResult} {id code message : String}
    {reply : Except Exn OrderStatus} {r : OrderResult} (hfail : r.ok = false) :
    AttemptReported t att
      ([⟨.placeOrder t att, placed⟩, ⟨.getOrderStatus t att id, reply⟩] ++
        [⟨.critical code message, ()⟩]) (.inl r) where
  calls := .inr ⟨id, rfl⟩
  backed r' hr' hok := by
    cases hr'
    exact absurd (hfail.symm.trans hok) Bool.false_ne_true
  raised _ _ _ := ⟨code, message, List.mem_append_right _ (List.mem_singleton_self _)⟩

/-- **One attempt** reports its result. Source: `app/orders/service.py`
`OrderService.place_with_reconcile`. Kind: L -/
theorem record_attempt {out : Except Exn (OrderResult ⊕ OrderResult)}
    (h : Exec (recording exec) ok (attempt t att) s out s') :
    ∃ l res, out = .ok res ∧ s'.2 = s.2 ++ l ∧ AttemptReported t att l res := by
  rw [attempt, bind_eq, exec_bind_iff] at h
  rcases h with ⟨r, s₁, hplace, h⟩ | ⟨x, rfl, hplace⟩
  swap
  · rcases record_place hplace with ⟨_, hout, _⟩ | ⟨_, _, _, _, hout, _⟩
    · cases hout
    · cases hout
  rcases record_place hplace with ⟨_, hout, hlog⟩ | ⟨_, x, code, message, hout, hok, hid, hlog⟩
  · cases hout
    by_cases hok : r.ok = true
    · rw [if_pos hok] at h
      obtain ⟨rfl, rfl⟩ := exec_ret_iff.mp h
      exact ⟨_, _, rfl, hlog, .of_ok hok⟩
    · rw [if_neg hok] at h
      cases hid : r.orderId with
      | none =>
          rw [hid] at h
          obtain ⟨rfl, rfl⟩ := exec_ret_iff.mp h
          exact ⟨_, _, rfl, hlog, .of_inr (.inl rfl)⟩
      | some id =>
          rw [hid] at h
          dsimp only at h
          by_cases hempty : id = ""
          · rw [if_pos hempty] at h
            obtain ⟨rfl, rfl⟩ := exec_ret_iff.mp h
            exact ⟨_, _, rfl, hlog, .of_inr (.inl rfl)⟩
          · rw [if_neg hempty, bind_eq, perform_bind, exec_call_iff] at h
            obtain ⟨a, -, h⟩ := h
            unfold recording at h
            dsimp only at h
            -- the record so far: the refused placement and the status check
            have hrecord : ∀ reply tail, s₁.2 ++ [⟨.getOrderStatus t att id, reply⟩] ++ tail =
                s.2 ++ ([⟨.placeOrder t att, .ok r⟩, ⟨.getOrderStatus t att id, reply⟩] ++ tail) := by
              intro reply tail
              rw [hlog, List.append_assoc, List.append_assoc]
              rfl
            cases hst : (exec (.getOrderStatus t att id) a s₁.1).1 with
            | error x =>
                rw [hst] at h
                rcases exec_bind_iff.mp h with ⟨_, s₂, hcritical, h⟩ | ⟨_, _, hcritical⟩
                · obtain ⟨-, hlog'⟩ := record_critical hcritical
                  obtain ⟨rfl, rfl⟩ := exec_ret_iff.mp h
                  exact ⟨_, _, rfl, hlog'.trans (hrecord _ _), .of_raise rfl⟩
                · exact absurd (record_critical hcritical).1 (by simp)
            | ok st =>
                rw [hst] at h
                dsimp only at h
                have hlog' := hrecord (.ok st) []
                rw [List.append_nil] at hlog'
                by_cases hsettles : st.settles = true
                · rw [if_pos hsettles] at h
                  obtain ⟨rfl, rfl⟩ := exec_ret_iff.mp h
                  exact ⟨_, _, rfl, hlog', .of_settles hsettles⟩
                · rw [if_neg hsettles] at h
                  obtain ⟨rfl, rfl⟩ := exec_ret_iff.mp h
                  exact ⟨_, _, rfl, hlog', .of_inr (.inr ⟨id, rfl⟩)⟩
  · cases hout
    rw [if_neg (by rw [hok]; decide), hid] at h
    obtain ⟨rfl, rfl⟩ := exec_ret_iff.mp h
    exact ⟨_, _, rfl, hlog, .of_inr (.inl rfl)⟩

/-- **A reconcile** reports its result. Source: `app/orders/service.py`
`OrderService.place_with_reconcile`. Kind: L -/
theorem record_placeWithReconcile {out : Except Exn OrderResult}
    (h : Exec (recording exec) ok (placeWithReconcile t) s out s') :
    ∃ l r, out = .ok r ∧ s'.2 = s.2 ++ l ∧ Reported t l r := by
  rw [placeWithReconcile, bind_eq, exec_bind_iff] at h
  rcases h with ⟨res, s₁, hfirst, h⟩ | ⟨x, rfl, hfirst⟩
  swap
  · obtain ⟨_, _, hout, _⟩ := record_attempt hfirst
    cases hout
  obtain ⟨l, _, hout, hlog, hreport⟩ := record_attempt hfirst
  cases hout
  cases res with
  | inl r =>
      obtain ⟨rfl, rfl⟩ := exec_ret_iff.mp h
      exact ⟨l, r, rfl, hlog, .inl hreport.calls, hreport.backed r rfl, hreport.raised r rfl⟩
  | inr first =>
      rcases exec_bind_iff.mp h with ⟨res, s₂, hsecond, h⟩ | ⟨x, rfl, hsecond⟩
      swap
      · obtain ⟨_, _, hout, _⟩ := record_attempt hsecond
        cases hout
      obtain ⟨l', _, hout, hlog', hreport'⟩ := record_attempt hsecond
      cases hout
      rw [hlog, List.append_assoc] at hlog'
      cases res with
      | inl r =>
          obtain ⟨rfl, rfl⟩ := exec_ret_iff.mp h
          have hmem : ∀ x ∈ l', x ∈ l ++ l' := fun x hx => List.mem_append_right l hx
          refine ⟨l ++ l', r, rfl, hlog', .inr ⟨_, _, hreport.calls, hreport'.calls, ?_⟩, ?_, ?_⟩
          · exact gatewayCalls_append
          · exact fun hok => (hreport'.backed r rfl hok).mono hmem
          · exact fun hfail => (hreport'.raised r rfl hfail).mono hmem
      | inr second =>
          rcases exec_bind_iff.mp h with ⟨_, s₃, hcritical, h⟩ | ⟨_, _, hcritical⟩
          · obtain ⟨-, hlast⟩ := record_critical hcritical
            obtain ⟨rfl, rfl⟩ := exec_ret_iff.mp h
            rw [hlog', List.append_assoc] at hlast
            refine ⟨_, _, rfl, hlast, .inr ⟨_, _, hreport.calls, hreport'.calls, ?_⟩, ?_, ?_⟩
            · rw [gatewayCalls_append, gatewayCalls_append]
              exact List.append_nil _
            · exact fun hok => absurd hok Bool.false_ne_true
            · exact fun _ => ⟨_, _, List.mem_append_right _ (List.mem_singleton_self _)⟩
          · exact absurd (record_critical hcritical).1 (by simp)

end record

/-- **No failed order is silent.** For every gateway and every alert sink that returns, with any state
and any answers, a reconcile returns; it makes one attempt or two, each one placement and at most one
status check; an ok result rests on a reply of the gateway; and a failed one has raised a critical
event. Source: `app/orders/service.py` `OrderService.place_with_reconcile`. Kind: P -/
theorem placeWithReconcile_reported {S A : Type} (exec : (e : Op) → A → S → Resp e × S)
    (env : Op → S × List (Exchange Resp) → A) (t : Ticket) (s : S) :
    ∃ r s' l, (placeWithReconcile t).eval (recording exec) env (s, []) = (.ok r, s', l) ∧
      Reported t l r := by
  have hrun : Exec (recording exec) (fun e a s => a = env e s) (placeWithReconcile t) (s, []) _ _ :=
    (exec_iff_eval (recording exec)).mpr rfl
  obtain ⟨l, r, hout, hlog, hreport⟩ := record_placeWithReconcile hrun
  rw [List.nil_append] at hlog
  exact ⟨r, _, l, Prod.ext hout (Prod.ext rfl hlog), hreport⟩

end OrderService

end HaruTrade
