import HaruTrade.Coroutine.Protocol
import HaruTrade.Loops.Moves
import HaruTrade.Services.LoopRuntime

/-!
# The protocol of a cycle

What a cycle may do next, as an automaton over its calls. A phase holds the rows that the cycle's
monitor has read (`snaps`) and the order or update that it has in hand (`Hand`). An order is placed
only when it is in hand, a decision is made only for a row that was read, and a position is updated
only for a close that was accepted or for levels that were decided.

* `cycleProtocol` — the automaton.
* `runCycle_follows` — **a cycle follows it, whatever its calls are answered**. Every argument about
  interleaved cycles works with the phases and never with the program text.
-/

namespace HaruTrade

open Coro OrderService TradingService LoopARunner LoopRuntimeCoordinator

/-! ## Phases -/

/-- What a cycle is in the middle of: nothing; an attempt to place an order; an order that was given
up after the second attempt; an order that was accepted; or an update of a position's levels.
Source: none: infrastructure. Kind: D -/
inductive Hand
  | free
  | ready (t : Ticket) (att : Attempt)
  | failed (t : Ticket)
  | accepted (t : Ticket)
  | tracking (p : Position) (tr : Transition)
  deriving DecidableEq

/-- The rows that a cycle has read, and what it is in the middle of.
Source: none: infrastructure. Kind: D -/
structure Phase where
  snaps : List Position := []
  hand : Hand := .free
  deriving DecidableEq

/-- A failed attempt is followed by the second one, or by none.
Source: `app/orders/service.py` `OrderService.place_with_reconcile`. Kind: D -/
def Hand.afterFailure (t : Ticket) : Attempt → Hand
  | .first => .ready t .second
  | .second => .failed t

/-- What the answer to a placement leaves in hand. Source: `app/orders/service.py`
`OrderService.place_with_reconcile`. Kind: D -/
def Hand.placed (t : Ticket) (att : Attempt) : Except Exn OrderResult → Hand
  | .ok r => if r.ok then .accepted t else afterFailure t att
  | .error _ => afterFailure t att

/-- What the answer to a status check leaves in hand. Source: `app/orders/service.py`
`OrderService.place_with_reconcile`. Kind: D -/
def Hand.checked (t : Ticket) (att : Attempt) : Except Exn OrderStatus → Hand
  | .ok st => if st.settles then .accepted t else afterFailure t att
  | .error _ => .free

/-- What a decision leaves in hand. Source: `app/loops/loop_a_runtime.py`
`LoopARunner._monitor_positions_once`. Kind: D -/
def Hand.decided (p : Position) (tr : Transition) : Hand :=
  if 0 < tr.closeQty then .ready (closeTicket p tr) .first
  else if tr.newHighest ≠ p.highestPrice ∨ tr.newTrailingStop ≠ p.trailingStopPrice then
    .tracking p tr
  else .free

/-- A failed call drops what is in hand. Source: none: infrastructure. Kind: D -/
def Hand.unless {α : Type} (h : Hand) : Except Exn α → Hand
  | .ok _ => h
  | .error _ => .free

/-- **The calls that a phase allows.** Source: none: infrastructure. Kind: D -/
def Phase.allows (m : Phase) : Op → Prop
  | .placeOrder t att => m.hand = .ready t att
  | .getOrderStatus t att _ => m.hand = .afterFailure t att
  | .decide p _ _ _ => p ∈ m.snaps
  | .applyTransition pid tr => ∃ p, p.id = pid ∧
      (m.hand = .accepted (closeTicket p tr) ∨ m.hand = .tracking p tr)
  | .openPosition args => ∃ signal orderId, args = entryPositionArgs signal orderId
  | _ => True

/-- **The phase after an answered call.** Source: none: infrastructure. Kind: D -/
def Phase.next (m : Phase) : (e : Op) → Resp e → Phase
  | .popOne, r => { m with hand := r.elim m.hand fun signal => .ready (entryTicket signal) .first }
  | .openSession _, r => { m with hand := m.hand.unless r }
  | .createSignal _, r => { m with hand := m.hand.unless r }
  | .createOrder _, r => { m with hand := m.hand.unless r }
  | .openPosition _, _ => { m with hand := .free }
  | .applyTransition _ _, _ => { m with hand := .free }
  | .listOpenPositions .monitor, .ok ps => { snaps := ps, hand := .free }
  | .livePrice _ _, _ => { m with hand := .free }
  | .decide p _ _ _, tr => { m with hand := .decided p tr }
  | .placeOrder t att, r => { m with hand := .placed t att r }
  | .getOrderStatus t att _, r => { m with hand := .checked t att r }
  | _, _ => m

/-- The protocol of a cycle. Source: none: infrastructure. Kind: D -/
def cycleProtocol : Protocol Op Resp Phase := ⟨Phase.allows, Phase.next⟩

/-! ## Quiet calls -/

/-- The calls that every phase allows and that take nothing up: they keep what is in hand or drop it.
Source: none: infrastructure. Kind: D -/
def Op.quiet : Op → Bool
  | .popOne => false
  | .placeOrder _ _ => false
  | .getOrderStatus _ _ _ => false
  | .decide _ _ _ _ => false
  | .applyTransition _ _ => false
  | .openPosition _ => false
  | .listOpenPositions .monitor => false
  | _ => true

/-- The phase has the same rows, and its hand is the same or free.
Source: none: infrastructure. Kind: D -/
structure Phase.Settles (m m' : Phase) : Prop where
  snaps : m'.snaps = m.snaps
  hand : m'.hand = m.hand ∨ m'.hand = .free

theorem Phase.Settles.refl {m : Phase} : m.Settles m := ⟨rfl, .inl rfl⟩

theorem Phase.Settles.trans {m m₁ m' : Phase} (h : m.Settles m₁) (h' : m₁.Settles m') :
    m.Settles m' := by
  refine ⟨h'.snaps.trans h.snaps, ?_⟩
  rcases h'.hand with hh | hh
  · rw [hh]
    exact h.hand
  · exact .inr hh

theorem Hand.unless_eq {α : Type} (h : Hand) (r : Except Exn α) :
    h.unless r = h ∨ h.unless r = .free := by
  cases r with
  | ok _ => exact .inl rfl
  | error _ => exact .inr rfl

/-- Source: none: infrastructure. Kind: L -/
theorem Phase.quiet_next {m : Phase} {e : Op} (h : e.quiet = true) :
    m.allows e ∧ ∀ r, m.Settles (m.next e r) := by
  cases e with
  | openSession use => exact ⟨trivial, fun r => ⟨rfl, m.hand.unless_eq r⟩⟩
  | createSignal args => exact ⟨trivial, fun r => ⟨rfl, m.hand.unless_eq r⟩⟩
  | createOrder args => exact ⟨trivial, fun r => ⟨rfl, m.hand.unless_eq r⟩⟩
  | livePrice pid ticker => exact ⟨trivial, fun r => ⟨rfl, .inr rfl⟩⟩
  | listOpenPositions use =>
      cases use with
      | monitor => simp [Op.quiet] at h
      | tickers => exact ⟨trivial, fun r => .refl⟩
  | popOne => simp [Op.quiet] at h
  | placeOrder t att => simp [Op.quiet] at h
  | getOrderStatus t att id => simp [Op.quiet] at h
  | decide p price atr mult => simp [Op.quiet] at h
  | applyTransition pid tr => simp [Op.quiet] at h
  | openPosition args => simp [Op.quiet] at h
  | _ => exact ⟨trivial, fun r => .refl⟩

variable {α : Type} {m : Phase}

/-- **Quiet programs settle.** Source: none: infrastructure. Kind: P -/
theorem follows_of_quiet {prog : Prog α} (h : Uses (fun e => e.quiet = true) prog) :
    Follows cycleProtocol (fun _ m' => m.Settles m') m prog :=
  h.follows (fun _ => .refl) (fun _ _ _ h₁ h₂ => h₁.trans h₂) fun _ _ hquiet =>
    Phase.quiet_next hquiet

/-! ## Orders -/

variable {t : Ticket} {att : Attempt} {p : Position} {tr : Transition} {price : ℚ} {c : Tally}

/-- Source: `app/orders/service.py` `OrderService.place_with_reconcile`. Kind: L -/
theorem follows_place (h : m.hand = .ready t att) :
    Follows cycleProtocol (fun out m' => m'.snaps = m.snaps ∧
      ∃ r, out = .ok r ∧ m'.hand = if r.ok then .accepted t else .afterFailure t att) m
      (place t att) := by
  refine ⟨h, fun reply => ?_⟩
  cases reply with
  | ok r => exact ⟨rfl, r, rfl, rfl⟩
  | error x => exact ⟨trivial, fun _ => ⟨rfl, _, rfl, rfl⟩⟩

/-- **One attempt** ends with the order accepted or given up, or with a failed placement that the next
attempt may follow. Source: `app/orders/service.py` `OrderService.place_with_reconcile`. Kind: L -/
theorem follows_attempt (h : m.hand = .ready t att) :
    Follows cycleProtocol (fun out m' => m'.snaps = m.snaps ∧ ∃ res, out = .ok res ∧
      match res with
      | .inl r => r.ok = true → m'.hand = .accepted t
      | .inr _ => m'.hand = .afterFailure t att) m (attempt t att) := by
  refine (follows_place h).bind ?_ ?_
  · rintro r m₁ ⟨hsnaps, _, ⟨⟩, hhand⟩
    cases hok : r.ok with
    | true =>
        simp only [if_true]
        exact ⟨hsnaps, _, rfl, fun _ => by simpa [hok] using hhand⟩
    | false =>
        simp only [hok, Bool.false_eq_true, if_false] at hhand ⊢
        cases r.orderId with
        | none => exact ⟨hsnaps, _, rfl, hhand⟩
        | some id =>
            by_cases hid : id = ""
            · simp only [hid, if_true]
              exact ⟨hsnaps, _, rfl, hhand⟩
            · simp only [hid, if_false]
              refine ⟨hhand, fun reply => ?_⟩
              cases reply with
              | error x => exact ⟨trivial, fun _ => ⟨hsnaps, _, rfl, nofun⟩⟩
              | ok st =>
                  cases hst : st.settles with
                  | true =>
                      simp only [ret_bind, hst, if_true]
                      exact ⟨hsnaps, _, rfl, fun _ => by
                        simp [cycleProtocol, Phase.next, Hand.checked, hst]⟩
                  | false =>
                      simp only [ret_bind, hst, Bool.false_eq_true, if_false]
                      exact ⟨hsnaps, _, rfl, by
                        simp [cycleProtocol, Phase.next, Hand.checked, hst]⟩
  · rintro x m₁ ⟨-, r, hr, -⟩
    cases hr

/-- **A reconcile** whose result is ok ends with the order accepted.
Source: `app/orders/service.py` `OrderService.place_with_reconcile`. Kind: P -/
theorem follows_placeWithReconcile (h : m.hand = .ready t .first) :
    Follows cycleProtocol (fun out m' => m'.snaps = m.snaps ∧ ∃ r, out = .ok r ∧
      (r.ok = true → m'.hand = .accepted t)) m (placeWithReconcile t) := by
  refine (follows_attempt h).bind ?_ ?_
  · rintro res m₁ ⟨hsnaps, _, ⟨⟩, hres⟩
    cases res with
    | inl r => exact ⟨hsnaps, r, rfl, hres⟩
    | inr f =>
        refine (follows_attempt hres).bind ?_ ?_
        · rintro res' m₂ ⟨hsnaps', _, ⟨⟩, hres'⟩
          cases res' with
          | inl r => exact ⟨hsnaps'.trans hsnaps, r, rfl, hres'⟩
          | inr s => exact ⟨trivial, fun _ => ⟨hsnaps'.trans hsnaps, _, rfl, nofun⟩⟩
        · rintro x m₂ ⟨-, r, hr, -⟩
          cases hr
  · rintro x m₁ ⟨-, r, hr, -⟩
    cases hr

/-! ## Loop A -/

/-- Reporting a failure keeps the phase. Source: `app/loops/loop_a_runtime.py`
`LoopARunner._critical`. Kind: L -/
theorem follows_reported {code message : String} {v : α} {post : Except Exn α → Phase → Prop}
    (h : post (.ok v) m) :
    Follows cycleProtocol post m ((critical code message).bind fun _ => (ret v : Prog α)) :=
  ⟨trivial, fun _ => h⟩

theorem quiet_of_observes {pid : ℕ} {e : Op} (h : observes pid e) : e.quiet = true := by
  cases e <;> first | rfl | exact h.elim

/-- **Observing a row that was read** ends with what was decided in hand.
Source: `app/loops/loop_a_runtime.py` `LoopARunner._monitor_positions_once`. Kind: L -/
theorem follows_observe (h : p ∈ m.snaps) :
    Follows cycleProtocol (fun out m' => m'.snaps = m.snaps ∧
      ∀ price tr, out = .ok (price, tr) → m'.hand = .decided p tr) m (observe p) := by
  have hquiet : ∀ {β : Type} {prog : Prog β} {m₁ : Phase}, Uses (observes p.id) prog →
      Follows cycleProtocol (fun _ m' => m₁.Settles m') m₁ prog :=
    fun huses => follows_of_quiet (huses.mono fun _ => quiet_of_observes)
  refine (hquiet uses_getCurrentPrice).bind (fun price m₁ h₁ => ?_) fun x m₁ h₁ => ⟨h₁.snaps, by simp⟩
  refine (hquiet uses_getAtr).bind (fun atr m₂ h₂ => ?_)
    fun x m₂ h₂ => ⟨(h₁.trans h₂).snaps, by simp⟩
  refine (hquiet uses_resolveTrailAtrMult).bind (fun mult m₃ h₃ => ?_)
    fun x m₃ h₃ => ⟨((h₁.trans h₂).trans h₃).snaps, by simp⟩
  have hsnaps : m₃.snaps = m.snaps := ((h₁.trans h₂).trans h₃).snaps
  refine ⟨?_, fun tr => ⟨hsnaps, ?_⟩⟩
  · show p ∈ m₃.snaps
    rwa [hsnaps]
  · rintro price' tr' ⟨⟩
    rfl

/-- A guarded write whose handler reports. Source: none: infrastructure. Kind: L -/
theorem follows_catchSql_reported {prog : Prog α} {code : String} {v : α} {snaps : List Position}
    (h : Follows cycleProtocol (fun _ m' => m'.snaps = snaps) m prog) :
    Follows cycleProtocol (fun _ m' => m'.snaps = snaps) m
      (catchSql prog fun text => (critical code text).bind fun _ => ret v) := by
  refine h.tryCatch (fun _ _ h' => h') fun x m' h' => ?_
  cases x with
  | sqlalchemy text => exact follows_reported h'
  | lookup text => exact h'
  | other text => exact h'

/-- The update of a position that is in hand. Source: `app/repositories/ordering.py`
`OrderingRepository.apply_transition`. Kind: L -/
theorem follows_applyTransition {v : Position → α}
    (h : m.hand = .accepted (closeTicket p tr) ∨ m.hand = .tracking p tr) :
    Follows cycleProtocol (fun _ m' => m'.snaps = m.snaps) m
      ((orRaise (ask (.applyTransition p.id tr))).bind fun row => (ret (v row) : Prog α)) := by
  refine ⟨⟨p, rfl, h⟩, fun r => ?_⟩
  cases r <;> exact rfl

/-- Source: `app/loops/loop_a_runtime.py` `LoopARunner._monitor_positions_once`. Kind: L -/
theorem follows_carryOut (h : m.hand = .decided p tr) :
    Follows cycleProtocol (fun _ m' => m'.snaps = m.snaps) m (carryOut p tr price c) := by
  refine ⟨trivial, fun session => ?_⟩
  cases session with
  | error x =>
      cases x with
      | sqlalchemy text => exact follows_reported rfl
      | lookup text => exact rfl
      | other text => exact rfl
  | ok _ =>
      by_cases hq : 0 < tr.closeQty
      · simp only [hq, if_true]
        have hready : m.hand = .ready (closeTicket p tr) .first := by
          rw [h, Hand.decided, if_pos hq]
        refine (follows_placeWithReconcile hready).bind ?_ ?_
        · rintro r m₁ ⟨hsnaps, _, ⟨⟩, haccepted⟩
          cases hok : r.ok with
          | false => exact follows_reported hsnaps
          | true =>
              simp only [if_true]
              refine follows_catchSql_reported ⟨trivial, fun order => ?_⟩
              cases order with
              | error x => exact hsnaps
              | ok row =>
                  exact (follows_applyTransition (.inl (haccepted hok))).mono
                    fun _ m' h' => h'.trans hsnaps
        · rintro x m₁ ⟨-, r, hr, -⟩
          cases hr
      · by_cases hch : tr.newHighest ≠ p.highestPrice ∨ tr.newTrailingStop ≠ p.trailingStopPrice
        · simp only [hq, if_false, if_pos hch]
          have htracking : m.hand = .tracking p tr := by
            rw [h, Hand.decided, if_neg hq, if_pos hch]
          exact follows_catchSql_reported (follows_applyTransition (.inr htracking))
        · simp only [hq, if_false, if_neg hch]
          exact rfl

/-- Source: `app/loops/loop_a_runtime.py` `LoopARunner._monitor_positions_once`. Kind: L -/
theorem follows_monitorLoop {ps : List Position} (h : ∀ p ∈ ps, p ∈ m.snaps) :
    Follows cycleProtocol (fun _ _ => True) m (monitorLoop ps c) := by
  induction ps generalizing m c with
  | nil => trivial
  | cons p ps ih =>
      have hturn : Follows cycleProtocol (fun _ m' => m'.snaps = m.snaps) m
          (monitorPosition p c) := by
        refine (follows_observe (h p (by simp))).bind ?_ fun _ _ h₁ => h₁.1
        rintro ⟨price, tr⟩ m₁ ⟨hsnaps, hhand⟩
        exact (follows_carryOut (hhand price tr rfl)).mono fun _ _ h' => h'.trans hsnaps
      refine hturn.bind (fun c' m₁ h₁ => ih fun q hq => ?_) fun _ _ _ => trivial
      rw [h₁]
      exact h q (List.mem_cons_of_mem _ hq)

/-- The rows that a query answers are the rows of the phase. Source: `app/loops/loop_a_runtime.py`
`LoopARunner._monitor_positions_once`. Kind: L -/
theorem follows_queryPositions :
    Follows cycleProtocol (fun out m' => ∀ ps, out = .ok (some ps) → m'.snaps = ps) m
      queryPositions := by
  have hread : Follows cycleProtocol (fun out m' => ∀ ps, out = .ok (some ps) → m'.snaps = ps) m
      ((orRaise (ask (.openSession .positions))).bind fun _ =>
        (orRaise (ask (.listOpenPositions .monitor))).bind fun positions =>
          (ret (some positions) : Prog (Option (List Position)))) := by
    refine ⟨trivial, fun session => ?_⟩
    cases session with
    | error x =>
        rintro ps ⟨⟩
    | ok _ =>
        refine ⟨trivial, fun rows => ?_⟩
        cases rows with
        | error x =>
            rintro ps ⟨⟩
        | ok ps =>
            rintro _ ⟨⟩
            rfl
  refine hread.tryCatch (fun _ _ h => h) fun x m₁ _ => ?_
  cases x with
  | sqlalchemy text => exact follows_reported (by rintro ps ⟨⟩)
  | lookup text => rintro ps ⟨⟩
  | other text => rintro ps ⟨⟩

/-- Source: `app/loops/loop_a_runtime.py` `LoopARunner._monitor_positions_once`. Kind: L -/
theorem follows_monitorPositionsOnce :
    Follows cycleProtocol (fun _ _ => True) m monitorPositionsOnce := by
  refine follows_queryPositions.bind (fun rows m₁ h₁ => ?_) fun _ _ _ => trivial
  cases rows with
  | none => trivial
  | some ps => exact follows_monitorLoop fun p hp => by rwa [h₁ ps rfl]

/-- Source: `app/services/trading_service.py` `TradingService.execute_from_signal`. Kind: L -/
theorem follows_recordEntry {signal : Signal} {signalId : ℕ} {r : OrderResult} :
    Follows cycleProtocol (fun _ _ => True) m (recordEntry signal signalId r) := by
  refine ⟨trivial, fun order => ?_⟩
  cases order with
  | error x => trivial
  | ok row =>
      by_cases hok : r.ok = true
      · simp only [ret_bind, ofExcept_ok_bind, hok, if_true]
        refine ⟨⟨signal, row.id, rfl⟩, fun position => ?_⟩
        cases position <;> trivial
      · simp only [ret_bind, ofExcept_ok_bind, hok]
        trivial

/-- **Executing a signal** that is in hand. Source: `app/services/trading_service.py`
`TradingService.execute_from_signal`. Kind: L -/
theorem follows_executeFromSignal {signal : Signal}
    (h : m.hand = .ready (entryTicket signal) .first) :
    Follows cycleProtocol (fun _ _ => True) m (executeFromSignal signal) := by
  refine ⟨trivial, fun session => ?_⟩
  cases session with
  | error x => trivial
  | ok _ =>
      refine ⟨trivial, fun row => ?_⟩
      cases row with
      | error x => trivial
      | ok dbSignal =>
          exact (follows_placeWithReconcile h).bind (fun _ _ _ => follows_recordEntry)
            fun _ _ _ => trivial

/-- Source: `app/loops/loop_a_runtime.py` `LoopARunner.run_once`. Kind: L -/
theorem follows_runOnce : Follows cycleProtocol (fun _ _ => True) m runOnce := by
  have hconsume : Follows cycleProtocol (fun _ _ => True) m consumeSignalOnce := by
    refine ⟨trivial, fun signal => ?_⟩
    cases signal with
    | none => trivial
    | some signal =>
        have hexecute : Follows cycleProtocol (fun _ _ => True)
            { m with hand := .ready (entryTicket signal) .first }
            ((executeFromSignal signal).bind fun _ => (ret true : Prog Bool)) :=
          (follows_executeFromSignal rfl).bind (fun _ _ _ => trivial) fun _ _ _ => trivial
        exact hexecute.tryCatch (fun _ _ _ => trivial) fun _ _ _ => follows_reported trivial
  exact hconsume.bind (fun _ _ _ => follows_monitorPositionsOnce.bind (fun _ _ _ => trivial)
    fun _ _ _ => trivial) fun _ _ _ => trivial

/-! ## Loop B and the cycle -/

/-- Source: `app/loops/loop_b_runtime.py` `LoopBRunner._sync_and_scan`. Kind: L -/
theorem quiet_syncAndScan {strategies : List Strategy} {ticker : String} {timeframe : Timeframe}
    {now : Time} :
    Uses (fun e => e.quiet = true) (LoopBRunner.syncAndScan strategies ticker timeframe now) := by
  have hfetch : ∀ since, Uses (fun e => e.quiet = true)
      (ResilientCandleFetcher.fetchIncremental ticker timeframe since 2) := by
    intro since
    apply uses_fetchIncremental <;> rfl
  have hupsert : ∀ candles, Uses (fun e => e.quiet = true)
      (LoopBRunner.upsertAll ticker timeframe candles) :=
    LoopBRunner.uses_upsertAll fun _ => rfl
  refine Uses.bind (uses_orRaise (uses_perform.mpr rfl)) fun _ => ?_
  refine Uses.bind (uses_orRaise (uses_perform.mpr rfl)) fun lastTs => ?_
  refine Uses.bind (hfetch lastTs) fun fresh => ?_
  refine Uses.bind (uses_orRaise (uses_perform.mpr rfl)) fun _ => ?_
  refine Uses.bind (hupsert fresh) fun _ => ?_
  refine Uses.bind (uses_orRaise (uses_perform.mpr rfl)) fun _ => ?_
  exact Uses.bind (uses_perform.mpr rfl) fun _ => uses_ret

/-- Source: `app/loops/loop_b_runtime.py` `LoopBRunner.run_once_for_ticker`. Kind: L -/
theorem quiet_runOnceForTicker {strategies : List Strategy} {ticker : String} :
    Uses (fun e => e.quiet = true) (LoopBRunner.runOnceForTicker strategies ticker) := by
  refine Uses.bind (uses_perform.mpr rfl) fun now => ?_
  suffices hall : ∀ due produced, Uses (fun e => e.quiet = true)
      (LoopBRunner.runTimeframes strategies ticker now due produced) from hall _ _
  intro due
  induction due with
  | nil => exact fun _ => uses_ret
  | cons timeframe due ih =>
      intro produced
      refine Uses.bind (uses_perform.mpr rfl) fun slot => ?_
      by_cases hslot : slot = some (MarketSchedule.slotKey now timeframe)
      · rw [if_pos hslot]
        exact ih produced
      · rw [if_neg hslot]
        refine Uses.bind (uses_catchSql (Uses.bind quiet_syncAndScan fun _ => uses_ret)
          fun _ => uses_ret) fun found => ?_
        cases found with
        | none => exact ih produced
        | some n => exact Uses.bind (uses_perform.mpr rfl) fun _ => ih _

/-- **A cycle follows the protocol.** Source: `app/services/loop_runtime.py`
`LoopRuntimeCoordinator.run_cycle`. Kind: P -/
theorem runCycle_follows (strategies : List Strategy) :
    Follows cycleProtocol (fun _ _ => True) {} (runCycle strategies) := by
  have hquiet : ∀ {β : Type} {prog : Prog β} {m : Phase}, Uses (fun e => e.quiet = true) prog →
      Follows cycleProtocol (fun _ _ => True) m prog :=
    fun huses => (follows_of_quiet huses).mono fun _ _ _ => trivial
  suffices hbody : Follows cycleProtocol (fun _ _ => True) {} (cycleBody strategies) from
    hbody.tryCatch (fun _ _ _ => trivial) fun _ _ _ => follows_reported trivial
  refine follows_runOnce.bind (fun loopA m₁ _ => hquiet ?_) fun _ _ _ => trivial
  have htickers : Uses (fun e => e.quiet = true) loadTrackingTickers :=
    uses_catchSql (Uses.bind (uses_orRaise (uses_perform.mpr rfl)) fun _ =>
      Uses.bind (uses_orRaise (uses_perform.mpr rfl)) fun _ =>
        Uses.bind (uses_orRaise (uses_perform.mpr rfl)) fun _ =>
          Uses.bind (uses_orRaise (uses_perform.mpr rfl)) fun _ =>
            Uses.bind (uses_orRaise (uses_perform.mpr rfl)) fun _ => uses_ret) fun _ => uses_ret
  have hloopB : ∀ tickers n, Uses (fun e => e.quiet = true) (runLoopB strategies tickers n) := by
    intro tickers
    induction tickers with
    | nil => exact fun _ => uses_ret
    | cons ticker tickers ih => exact fun n => Uses.bind quiet_runOnceForTicker fun _ => ih _
  refine Uses.bind (uses_orRaise (uses_perform.mpr rfl)) fun _ => Uses.bind htickers fun tickers =>
    Uses.bind (hloopB tickers 0) fun n => Uses.bind (uses_perform.mpr rfl) fun now =>
      Uses.bind (uses_perform.mpr rfl) fun ran => ?_
  cases ran with
  | true => exact Uses.bind (uses_orRaise (uses_perform.mpr rfl)) fun _ => uses_ret
  | false => exact uses_ret

end HaruTrade
