import Mathlib.Data.List.Induction
import HaruTrade.Coroutine.Recording
import HaruTrade.Loops.Moves

/-!
# The polls of a position

A monitoring pass polls a position: it reads a price, an ATR and the multiplier, decides, and
carries the decision out. What was polled, and what became of it, is read off the record of the
calls.

* `Poll`, `polls` — the polls of one position in a record.
* `Poll.Leaves` — the row that a poll leaves.
* `Books`, `Carried` — what is noted of a write and of an accepted close, program by program.
* **`runs_monitorPosition`** — monitoring a position polls it once, unless looking raises.
-/

namespace HaruTrade

open Coro OrderService TradingService

namespace LoopARunner

/-! ## Polls -/

/-- A poll of a position: the row it read, what it decided with, whether the gateway accepted a
close, and whether a transition was stored. Source: `app/loops/loop_a_runtime.py`
`LoopARunner._monitor_positions_once`. Kind: D -/
structure Poll where
  row : Position
  price : ℚ
  atrValue : ℚ
  trailAtrMult : ℚ
  accepted : Bool := false
  written : Bool := false
  deriving DecidableEq, Repr

namespace Poll

/-- Source: `app/loops/loop_a_runtime.py` `LoopARunner._monitor_positions_once`. Kind: D -/
def transition (a : Poll) : Transition :=
  PositionStateMachine.decide a.row.snapshot a.price a.atrValue a.trailAtrMult

/-- The poll comes to a write: its close was accepted, or there are new levels. Source:
`app/loops/loop_a_runtime.py` `LoopARunner._monitor_positions_once`. Kind: D -/
def Writes (a : Poll) : Prop :=
  if 0 < a.transition.closeQty then a.accepted = true
  else a.transition.newHighest ≠ a.row.highestPrice ∨
    a.transition.newTrailingStop ≠ a.row.trailingStopPrice

/-- The write was not made, or it raised. Source: none: infrastructure. Kind: D -/
def WriteFails (a : Poll) : Prop := a.Writes ∧ a.written = false

/-- **The row that a poll leaves**: its transition is applied, after its close was accepted if it
asked for one, or the row is as it was read. Source: `app/loops/loop_a_runtime.py`
`LoopARunner._monitor_positions_once`. Kind: D -/
def Leaves (a : Poll) (q : Position) : Prop :=
  (q = a.row.apply a.transition ∧ (0 < a.transition.closeQty → a.accepted = true)) ∨
    (q = a.row ∧ a.written = false)

end Poll

/-- The gateway accepts a close of the position. Source: `app/orders/service.py`
`OrderService.place_with_reconcile`. Kind: D -/
def acceptsClose (pid : ℕ) : Exchange Resp → Bool
  | ⟨.placeOrder t _, .ok r⟩ => decide (t.intent.closes = some pid) && r.ok
  | ⟨.getOrderStatus t _ _, .ok st⟩ => decide (t.intent.closes = some pid) && st.settles
  | _ => false

/-- A transition of the position is stored. Source: `app/repositories/ordering.py`
`OrderingRepository.apply_transition`. Kind: D -/
def storesTransition (pid : ℕ) : Exchange Resp → Bool
  | ⟨.applyTransition id _, .ok _⟩ => decide (id = pid)
  | _ => false

/-- Change the last entry. Source: none: infrastructure. Kind: D -/
def updateLast {α : Type} (f : α → α) : List α → List α
  | [] => []
  | [a] => [f a]
  | a :: b :: l => a :: updateLast f (b :: l)

/-- What the poll takes note of. Source: none: infrastructure. Kind: D -/
def Poll.mark (pid : ℕ) (x : Exchange Resp) (a : Poll) : Poll :=
  { a with
    accepted := a.accepted || acceptsClose pid x
    written := a.written || storesTransition pid x }

/-- A decision about the position begins a poll; the last poll takes note of what follows.
Source: none: infrastructure. Kind: D -/
def note (pid : ℕ) (ps : List Poll) (x : Exchange Resp) : List Poll :=
  match x.call with
  | .decide row price atrValue trailAtrMult =>
      if row.id = pid then ps ++ [{ row, price, atrValue, trailAtrMult }] else ps
  | _ => updateLast (Poll.mark pid x) ps

/-- **The polls of a position** in a record, oldest first. Source: none: infrastructure. Kind: D -/
def polls (pid : ℕ) (l : List (Exchange Resp)) : List Poll := l.foldl (note pid) []

/-! ## Reading a record -/

section note

variable {pid k : ℕ} {ps : List Poll} {a : Poll} {x : Exchange Resp} {l l' : List (Exchange Resp)}

theorem polls_append : polls pid (l ++ l') = l'.foldl (note pid) (polls pid l) := List.foldl_append

theorem updateLast_append {α : Type} {f : α → α} {l : List α} {a : α} :
    updateLast f (l ++ [a]) = l ++ [f a] := by
  induction l with
  | nil => rfl
  | cons b l ih =>
      cases l with
      | nil => rfl
      | cons c l =>
          show b :: updateLast f (c :: l ++ [a]) = _
          rw [ih]
          rfl

theorem updateLast_id {α : Type} {f : α → α} (hf : ∀ a, f a = a) {l : List α} :
    updateLast f l = l := by
  induction l using List.reverseRecOn with
  | nil => rfl
  | append_singleton l a _ => rw [updateLast_append, hf]

/-- The calls that the polls of a position are read off. Source: none: infrastructure. Kind: D -/
def concerns (pid : ℕ) : Op → Prop
  | .decide p _ _ _ => p.id = pid
  | .placeOrder t _ => t.intent.closes = some pid
  | .getOrderStatus t _ _ => t.intent.closes = some pid
  | .applyTransition id _ => id = pid
  | _ => False

/-- What does not concern a position leaves its polls. Source: none: infrastructure. Kind: L -/
theorem note_of_not_concerns (h : ¬ concerns pid x.call) : note pid ps x = ps := by
  have hmark : acceptsClose pid x = false → storesTransition pid x = false →
      updateLast (Poll.mark pid x) ps = ps := by
    intro haccepts hstores
    apply updateLast_id
    intro a
    simp [Poll.mark, haccepts, hstores]
  obtain ⟨call, answer⟩ := x
  cases call with
  | decide p price atr mult => exact if_neg h
  | placeOrder t att =>
      refine hmark ?_ rfl
      cases answer with
      | ok r => simp [acceptsClose, show ¬ t.intent.closes = some pid from h]
      | error x => rfl
  | getOrderStatus t att id =>
      refine hmark ?_ rfl
      cases answer with
      | ok st => simp [acceptsClose, show ¬ t.intent.closes = some pid from h]
      | error x => rfl
  | applyTransition id tr =>
      refine hmark rfl ?_
      cases answer with
      | ok row => simp [storesTransition, show ¬ id = pid from h]
      | error x => rfl
  | _ => exact hmark rfl rfl

theorem foldl_note_of_not_concerns (h : ∀ x ∈ l, ¬ concerns pid x.call) :
    l.foldl (note pid) ps = ps := by
  induction l with
  | nil => rfl
  | cons x l ih =>
      rw [List.foldl_cons, note_of_not_concerns (h x List.mem_cons_self)]
      exact ih fun y hy => h y (List.mem_cons_of_mem x hy)

/-- The call decides nothing. Source: none: infrastructure. Kind: D -/
def carries : Op → Prop
  | .decide _ _ _ _ => False
  | _ => True

/-- The poll with everything that it takes note of. Source: none: infrastructure. Kind: D -/
def Poll.marks (pid : ℕ) (l : List (Exchange Resp)) (a : Poll) : Poll :=
  { a with
    accepted := a.accepted || l.any (acceptsClose pid)
    written := a.written || l.any (storesTransition pid) }

/-- **Everything after a decision** is noted in its poll. Source: none: infrastructure. Kind: L -/
theorem foldl_note_of_carries (h : ∀ x ∈ l, carries x.call) :
    l.foldl (note pid) (ps ++ [a]) = ps ++ [a.marks pid l] := by
  induction l generalizing a with
  | nil => simp [Poll.marks]
  | cons x l ih =>
      have hnote : note pid (ps ++ [a]) x = ps ++ [a.mark pid x] := by
        have hx := h x List.mem_cons_self
        obtain ⟨call, answer⟩ := x
        cases call with
        | decide p price atr mult => exact hx.elim
        | _ => exact updateLast_append
      rw [List.foldl_cons, hnote, ih fun y hy => h y (List.mem_cons_of_mem x hy)]
      simp [Poll.mark, Poll.marks, Bool.or_assoc]

end note

/-! ## The record of a pass -/

/-- The runtime with a record of its calls. Source: none: infrastructure. Kind: D -/
abbrev Recorded : Type := World × List (Exchange Resp)

/-- A recorded run, under any answers. Source: none: infrastructure. Kind: D -/
abbrev Runs {α : Type} (prog : Prog α) (s : Recorded) (out : Except Exn α) (s' : Recorded) : Prop :=
  Exec (recording exec) (fun _ _ _ => True) prog s out s'

/-- Every answer. Source: none: infrastructure. Kind: D -/
def anyAnswer : Regime := { writesFail := True }

section record

variable {α : Type} {prog : Prog α} {s s' : Recorded} {p : Position} {price : ℚ} {tr : Transition}
  {c : Tally}

theorem Runs.plain {out : Except Exn α} (h : Runs prog s out s') :
    Exec exec anyAnswer.ok prog s.1 out s'.1 := by
  refine exec_of_recording (fun e a s _ => ?_) h
  cases e with
  | placeOrder t att => exact ⟨trivial, trivial⟩
  | getOrderStatus t att id => exact trivial
  | popOne => exact fun _ _ => trivial
  | decide p price atr mult => exact trivial
  | _ => first | exact True.intro | exact fun _ => True.intro

/-- Nothing about any position is called, and no position is written.
Source: none: infrastructure. Kind: D -/
structure Quiet (s s' : Recorded) : Prop where
  positions : s'.1.positions = s.1.positions
  polls : ∀ pid, polls pid s'.2 = polls pid s.2

theorem Quiet.refl {s : Recorded} : Quiet s s := ⟨rfl, fun _ => rfl⟩

theorem Quiet.trans {s₁ s₂ s₃ : Recorded} (h : Quiet s₁ s₂) (h' : Quiet s₂ s₃) : Quiet s₁ s₃ :=
  ⟨h'.positions.trans h.positions, fun pid => (h'.polls pid).trans (h.polls pid)⟩

/-- A call about no position. Source: none: infrastructure. Kind: D -/
def hushed (e : Op) : Prop := e.writesPositions = false ∧ ∀ pid, ¬ concerns pid e

theorem quiet_of_uses {out : Except Exn α} (hp : Uses hushed prog) (h : Runs prog s out s') :
    Quiet s s' := by
  refine hp.exec_rel (fun _ => .refl) (fun _ _ _ => .trans) ?_ h
  refine fun e a s hu _ => ⟨?_, fun pid => ?_⟩
  · exact exec_positions hu.1
  · rw [recording, polls_append]
    exact note_of_not_concerns (hu.2 pid)

theorem hushed_of_observes {pid : ℕ} {e : Op} (h : observes pid e) : hushed e := by
  cases e with
  | livePrice i ticker => exact ⟨rfl, fun _ => id⟩
  | openSession use => exact ⟨rfl, fun _ => id⟩
  | getLatestClose i ticker => exact ⟨rfl, fun _ => id⟩
  | listRecent use ticker timeframe limit => exact ⟨rfl, fun _ => id⟩
  | configFloat i key => exact ⟨rfl, fun _ => id⟩
  | _ => exact h.elim

/-- **Observing a position** begins a poll of it, unless it raises.
Source: `app/loops/loop_a_runtime.py` `LoopARunner._monitor_positions_once`. Kind: L -/
theorem runs_observe {out : Except Exn (ℚ × Transition)} (h : Runs (observe p) s out s') :
    ((∃ x, out = .error x) ∧ Quiet s s') ∨ ∃ a : Poll, a.row = p ∧ a.accepted = false ∧
      a.written = false ∧ out = .ok (a.price, a.transition) ∧
      s'.1.positions = s.1.positions ∧ polls p.id s'.2 = polls p.id s.2 ++ [a] ∧
      ∀ pid, pid ≠ p.id → polls pid s'.2 = polls pid s.2 := by
  have hlook : ∀ {β : Type} {prog : Prog β} {s s' : Recorded} {out : Except Exn β},
      Uses (observes p.id) prog → Runs prog s out s' → Quiet s s' :=
    fun hu => quiet_of_uses (hu.mono fun _ => hushed_of_observes)
  unfold observe at h
  rcases exec_bind_iff.mp h with ⟨price, s₁, h₁, h⟩ | ⟨x, rfl, h₁⟩
  swap
  · exact .inl ⟨⟨x, rfl⟩, hlook uses_getCurrentPrice h₁⟩
  have hq₁ := hlook uses_getCurrentPrice h₁
  rcases exec_bind_iff.mp h with ⟨atr, s₂, h₂, h⟩ | ⟨x, rfl, h₂⟩
  swap
  · exact .inl ⟨⟨x, rfl⟩, hq₁.trans (hlook uses_getAtr h₂)⟩
  have hq₂ := hq₁.trans (hlook uses_getAtr h₂)
  rcases exec_bind_iff.mp h with ⟨mult, s₃, h₃, h⟩ | ⟨x, rfl, h₃⟩
  swap
  · exact .inl ⟨⟨x, rfl⟩, hq₂.trans (hlook uses_resolveTrailAtrMult h₃)⟩
  have hq₃ := hq₂.trans (hlook uses_resolveTrailAtrMult h₃)
  obtain ⟨a, -, h⟩ := exec_call_iff.mp h
  obtain ⟨rfl, rfl⟩ := exec_ret_iff.mp h
  refine .inr ⟨⟨p, price, atr, mult, false, false⟩, rfl, rfl, rfl, rfl, hq₃.positions, ?_, ?_⟩
  · rw [← hq₃.polls p.id, recording, polls_append]
    exact if_pos rfl
  · intro pid hne
    rw [← hq₃.polls pid, recording, polls_append]
    exact if_neg hne.symm

/-! ## Bookkeeping -/

/-- The positions stay, and no transition of this one is noted. Source: none: infrastructure.
Kind: D -/
structure Still (pid : ℕ) (s s' : Recorded) : Prop where
  positions : s'.1.positions = s.1.positions
  record : ∃ l, s'.2 = s.2 ++ l ∧ l.any (storesTransition pid) = false

/-- The transition of a position is stored, or the positions stay and none is noted.
Source: none: infrastructure. Kind: D -/
def Booked (pid : ℕ) (tr : Transition) (s s' : Recorded) : Prop :=
  s'.1.positions = applied s.1.positions pid tr ∨ Still pid s s'

variable {pid : ℕ} {s₁ : Recorded}

theorem Still.refl : Still pid s s := ⟨rfl, [], (List.append_nil _).symm, rfl⟩

theorem Still.trans (h : Still pid s s₁) (h' : Still pid s₁ s') : Still pid s s' := by
  obtain ⟨hpositions, l, hl, hnone⟩ := h
  obtain ⟨hpositions', l', hl', hnone'⟩ := h'
  refine ⟨hpositions'.trans hpositions, l ++ l', by rw [hl', hl, List.append_assoc], ?_⟩
  rw [List.any_append, hnone, hnone']
  rfl

theorem Still.booked (h : Still pid s s₁) (h' : Booked pid tr s₁ s') : Booked pid tr s s' := by
  rcases h' with happlied | hstill
  · exact .inl (happlied.trans (by rw [h.positions]))
  · exact .inr (h.trans hstill)

theorem Booked.still (h : Booked pid tr s s₁) (h' : Still pid s₁ s') : Booked pid tr s s' := by
  rcases h with happlied | hstill
  · exact .inl (h'.positions.trans happlied)
  · exact .inr (hstill.trans h')

/-- A call that writes no position. Source: none: infrastructure. Kind: D -/
def leavesPositions (e : Op) : Prop := e.writesPositions = false

theorem still_of_uses {out : Except Exn α} (hp : Uses leavesPositions prog)
    (h : Runs prog s out s') : Still pid s s' := by
  refine hp.exec_rel (fun _ => .refl) (fun _ _ _ => .trans) (fun e a s hu _ => ⟨?_, _, rfl, ?_⟩) h
  · exact exec_positions hu
  · unfold leavesPositions at hu
    rw [List.any_cons, List.any_nil, Bool.or_false]
    cases e with
    | applyTransition id tr => exact absurd hu (by simp [Op.writesPositions])
    | _ => rfl

/-- **The program stores the transition of the position at most once.**
Source: none: infrastructure. Kind: D -/
def Books (pid : ℕ) (tr : Transition) (prog : Prog α) : Prop :=
  ∀ s out s', (∃ row, s.1.positions.get? pid = some row) → Runs prog s out s' → Booked pid tr s s'

theorem Books.bind_still {β : Type} {f : α → Prog β} (hp : Books pid tr prog)
    (hf : ∀ a, Uses leavesPositions (f a)) : Books pid tr (prog.bind f) := by
  intro s out s' hrow h
  rcases exec_bind_iff.mp h with ⟨a, s₁, h₁, h⟩ | ⟨x, -, h₁⟩
  · exact (hp s _ s₁ hrow h₁).still (still_of_uses (hf a) h)
  · exact hp s _ s' hrow h₁

theorem Books.still_bind {β : Type} {f : α → Prog β} (hp : Uses leavesPositions prog)
    (hf : ∀ a, Books pid tr (f a)) : Books pid tr (prog.bind f) := by
  rintro s out s' ⟨row, hrow⟩ h
  rcases exec_bind_iff.mp h with ⟨a, s₁, h₁, h⟩ | ⟨x, -, h₁⟩
  · have hstill : Still pid s s₁ := still_of_uses hp h₁
    exact hstill.booked (hf a s₁ out s' ⟨row, by rw [hstill.positions, hrow]⟩ h)
  · exact .inr (still_of_uses hp h₁)

theorem Books.catchSql {f : String → Prog α} (hp : Books pid tr prog)
    (hf : ∀ t, Uses leavesPositions (f t)) : Books pid tr (catchSql prog f) := by
  intro s out s' hrow h
  rcases exec_tryCatch_iff.mp h with ⟨a, -, h⟩ | ⟨x, s₁, h₁, h⟩
  · exact hp s _ s' hrow h
  · apply (hp s _ s₁ hrow h₁).still
    cases x with
    | sqlalchemy t => exact still_of_uses (hf t) h
    | lookup t =>
        obtain ⟨-, rfl⟩ := exec_raise_iff.mp h
        exact .refl
    | other t =>
        obtain ⟨-, rfl⟩ := exec_raise_iff.mp h
        exact .refl

/-- **A write that is noted has stored the row.** Source: `app/repositories/ordering.py`
`OrderingRepository.apply_transition`. Kind: L -/
theorem books_applyTransition : Books pid tr (orRaise (ask (.applyTransition pid tr))) := by
  rintro s out s' ⟨row, hrow⟩ h
  obtain ⟨a, -, h⟩ := exec_call_iff.mp h
  have hend : s' = (recording exec (.applyTransition pid tr) a s).2 := (exec_ofExcept_iff.mp h).2
  rw [hend]
  unfold recording
  rcases exec_applyTransition_cases a tr hrow with hok | ⟨-, t, hcommit | hrefresh⟩
  · rw [hok]
    exact .inl rfl
  · rw [hcommit]
    exact .inr ⟨rfl, _, rfl, rfl⟩
  · rw [hrefresh]
    exact .inl rfl

/-- Source: `app/loops/loop_a_runtime.py` `LoopARunner._monitor_positions_once`. Kind: L -/
theorem books_trackPosition : Books p.id tr (trackPosition p tr c) := by
  apply Books.catchSql
  · exact books_applyTransition.bind_still fun _ => uses_ret
  · intro t
    exact Uses.bind (uses_perform.mpr rfl) fun _ => uses_ret

/-- Source: `app/loops/loop_a_runtime.py` `LoopARunner._monitor_positions_once`. Kind: L -/
theorem books_recordClose {r : OrderResult} : Books p.id tr (recordClose p tr price r c) := by
  apply Books.catchSql
  · apply Books.still_bind
    · exact uses_orRaise (uses_perform.mpr rfl)
    · intro _
      exact books_applyTransition.bind_still fun _ => uses_ret
  · intro t
    exact Uses.bind (uses_perform.mpr rfl) fun _ => uses_ret

/-! ## Acceptance -/

/-- The event accepts a close of the position. Source: none: infrastructure. Kind: D -/
def eventAccepts (pid : ℕ) (ev : GatewayEvent) : Bool :=
  decide (ev.ticket.intent.closes = some pid) && ev.accepts

/-- **The record and the gateway log agree** on what was accepted. Source: none: infrastructure.
Kind: L -/
theorem exists_events (pid : ℕ) {out : Except Exn α} (h : Runs prog s out s') :
    ∃ l evs, s'.2 = s.2 ++ l ∧ s'.1.gateway = s.1.gateway ++ evs ∧
      l.any (acceptsClose pid) = evs.any (eventAccepts pid) := by
  induction h with
  | ret => exact ⟨[], [], (List.append_nil _).symm, (List.append_nil _).symm, rfl⟩
  | raise => exact ⟨[], [], (List.append_nil _).symm, (List.append_nil _).symm, rfl⟩
  | @call e k a s s' out _ _ ih =>
      obtain ⟨l, evs, hl, hevs, hany⟩ := ih
      have hstep : ∃ ev : List GatewayEvent, (exec e a s.1).2.gateway = s.1.gateway ++ ev ∧
          acceptsClose pid ⟨e, (exec e a s.1).1⟩ = ev.any (eventAccepts pid) := by
        cases e with
        | placeOrder t att =>
            refine ⟨_, rfl, ?_⟩
            show acceptsClose pid ⟨.placeOrder t att, a.reply a.order⟩ = _
            cases a.reply a.order with
            | ok r =>
                simp [acceptsClose, eventAccepts, GatewayEvent.ticket, GatewayEvent.accepts]
                rfl
            | error x => simp [acceptsClose, eventAccepts, GatewayEvent.accepts]
        | getOrderStatus t att id =>
            refine ⟨_, rfl, ?_⟩
            show acceptsClose pid ⟨.getOrderStatus t att id, a.reply a.status⟩ = _
            cases a.reply a.status with
            | ok st =>
                simp [acceptsClose, eventAccepts, GatewayEvent.ticket, GatewayEvent.accepts]
                rfl
            | error x => simp [acceptsClose, eventAccepts, GatewayEvent.accepts]
        | _ => exact ⟨[], by rw [exec_gateway rfl, List.append_nil], rfl⟩
      obtain ⟨ev, hev, haccepts⟩ := hstep
      refine ⟨⟨e, (exec e a s.1).1⟩ :: l, ev ++ evs, ?_, ?_, ?_⟩
      · rw [hl, recording, List.append_assoc]
        rfl
      · rw [hevs, recording, hev, List.append_assoc]
      · rw [List.any_cons, List.any_append, hany, haccepts]

/-- **A reconcile is ok exactly when the gateway accepts.** Source: `app/orders/service.py`
`OrderService.place_with_reconcile`. Kind: L -/
theorem runs_placeWithReconcile {t : Ticket} {out : Except Exn OrderResult}
    (ht : t.intent.closes = some pid) (h : Runs (placeWithReconcile t) s out s') :
    ∃ r l, out = .ok r ∧ s'.2 = s.2 ++ l ∧ l.any (acceptsClose pid) = r.ok := by
  obtain ⟨-, evs, r, hout, hreconciled, -, rt, hworld⟩ := exec_placeWithReconcile h.plain
  obtain ⟨l, evs', hl, hgateway, hany⟩ := exists_events pid h
  have hsame : evs' = evs := by
    rw [hworld] at hgateway
    exact (List.append_cancel_left hgateway).symm
  refine ⟨r, l, hout, hl, ?_⟩
  rw [hany, hsame, Bool.eq_iff_iff, ← hreconciled.exists_accepts, List.any_eq_true]
  constructor
  · rintro ⟨ev, hev, haccepts⟩
    exact ⟨ev, hev, (Bool.and_eq_true_iff.mp haccepts).2⟩
  · rintro ⟨ev, hev, haccepts⟩
    refine ⟨ev, hev, Bool.and_eq_true_iff.mpr ⟨?_, haccepts⟩⟩
    rw [hreconciled.ticket ev hev]
    exact decide_eq_true ht

/-! ## Carrying a decision out -/

/-- **What carrying a decision out leaves**: the transition is stored, after its close was accepted
if it asked for one, or the positions stay. Source: `app/loops/loop_a_runtime.py`
`LoopARunner._monitor_positions_once`. Kind: D -/
def Carried (pid : ℕ) (tr : Transition) (s s' : Recorded) : Prop :=
  ∃ l, s'.2 = s.2 ++ l ∧
    ((s'.1.positions = applied s.1.positions pid tr ∧
        (0 < tr.closeQty → l.any (acceptsClose pid) = true)) ∨
      (s'.1.positions = s.1.positions ∧ l.any (storesTransition pid) = false))

theorem Still.carried (h : Still pid s s') : Carried pid tr s s' := by
  obtain ⟨hpositions, l, hl, hnone⟩ := h
  exact ⟨l, hl, .inr ⟨hpositions, hnone⟩⟩

theorem Still.then_carried (h : Still pid s s₁) (h' : Carried pid tr s₁ s') :
    Carried pid tr s s' := by
  obtain ⟨hpositions, l, hl, hnone⟩ := h
  obtain ⟨l', hl', hcarried⟩ := h'
  refine ⟨l ++ l', by rw [hl', hl, List.append_assoc], ?_⟩
  rcases hcarried with ⟨happlied, haccepts⟩ | ⟨hsame, hnone'⟩
  · refine .inl ⟨happlied.trans (by rw [hpositions]), fun hq => ?_⟩
    rw [List.any_append, haccepts hq, Bool.or_true]
  · exact .inr ⟨hsame.trans hpositions, by rw [List.any_append, hnone, hnone']; rfl⟩

/-- Source: `app/loops/loop_a_runtime.py` `LoopARunner._monitor_positions_once`. Kind: L -/
theorem runs_closePosition {row : Position} {out : Except Exn Tally}
    (hrow : s.1.positions.get? p.id = some row) (h : Runs (closePosition p tr price c) s out s') :
    Carried p.id tr s s' := by
  have hstill : ∀ {t : Ticket}, Uses leavesPositions (placeWithReconcile t) :=
    uses_placeWithReconcile (fun _ => rfl) (fun _ _ => rfl) fun _ _ => rfl
  rcases exec_bind_iff.mp h with ⟨r, s₁, h₁, h⟩ | ⟨x, -, h₁⟩
  swap
  · exact (still_of_uses hstill h₁).carried
  have hplaced : Still p.id s s₁ := still_of_uses hstill h₁
  by_cases hok : r.ok = true
  · rw [if_pos hok] at h
    have hcloses : (closeTicket p tr).intent.closes = some p.id := rfl
    obtain ⟨r', l, hr, hl, haccepts⟩ := runs_placeWithReconcile hcloses h₁
    obtain rfl : r = r' := Except.ok.inj hr
    rcases books_recordClose s₁ out s' ⟨row, by rw [hplaced.positions, hrow]⟩ h with
      happlied | hbooked
    · obtain ⟨l', hl'⟩ := exists_record h
      refine ⟨l ++ l', by rw [hl', hl, List.append_assoc], .inl ⟨?_, fun _ => ?_⟩⟩
      · rw [happlied, hplaced.positions]
      · rw [List.any_append, haccepts, hok, Bool.true_or]
    · exact (hplaced.trans hbooked).carried
  · rw [if_neg hok] at h
    refine (hplaced.trans (still_of_uses ?_ h)).carried
    exact Uses.bind (uses_perform.mpr rfl) fun _ => uses_ret

/-- Source: `app/loops/loop_a_runtime.py` `LoopARunner._monitor_positions_once`. Kind: L -/
theorem runs_carryOut {row : Position} {out : Except Exn Tally}
    (hrow : s.1.positions.get? p.id = some row) (h : Runs (carryOut p tr price c) s out s') :
    Carried p.id tr s s' := by
  have hsession : Uses leavesPositions (ask (.openSession (.transition p.id))) :=
    uses_perform.mpr rfl
  rcases exec_bind_iff.mp h with ⟨session, s₁, h₁, h⟩ | ⟨x, -, h₁⟩
  swap
  · exact (still_of_uses hsession h₁).carried
  have hopened : Still p.id s s₁ := still_of_uses hsession h₁
  apply hopened.then_carried
  cases session with
  | error x =>
      cases x with
      | sqlalchemy text =>
          refine (still_of_uses ?_ h).carried
          exact Uses.bind (uses_perform.mpr rfl) fun _ => uses_ret
      | lookup text =>
          obtain ⟨-, rfl⟩ := exec_raise_iff.mp h
          exact Still.refl.carried
      | other text =>
          obtain ⟨-, rfl⟩ := exec_raise_iff.mp h
          exact Still.refl.carried
  | ok _ =>
      dsimp only at h
      have hrow₁ : s₁.1.positions.get? p.id = some row := by rw [hopened.positions, hrow]
      split_ifs at h with hq hchanges
      · exact runs_closePosition hrow₁ h
      · rcases books_trackPosition s₁ out s' ⟨row, hrow₁⟩ h with happlied | hstill
        · obtain ⟨l, hl⟩ := exists_record h
          exact ⟨l, hl, .inl ⟨happlied, fun hclose => absurd hclose hq⟩⟩
        · exact hstill.carried
      · obtain ⟨-, rfl⟩ := exec_ret_iff.mp h
        exact Still.refl.carried

/-- The calls of a poll of one position after its decision. Source: none: infrastructure. Kind: D -/
def about (pid : ℕ) (e : Op) : Prop := carries e ∧ ∀ k, k ≠ pid → ¬ concerns k e

theorem uses_about_reported {β : Type} {code message : String} {v : β} :
    Uses (about pid) ((critical code message).bind fun _ => (ret v : Prog β)) :=
  Uses.bind (uses_perform.mpr ⟨trivial, fun _ _ => id⟩) fun _ => uses_ret

theorem uses_about_applyTransition : Uses (about pid) (orRaise (ask (.applyTransition pid tr))) :=
  uses_orRaise (uses_perform.mpr ⟨trivial, fun _ hne h => hne h.symm⟩)

theorem uses_about_closePosition : Uses (about p.id) (closePosition p tr price c) := by
  have hticket : ∀ k, k ≠ p.id → ¬ (closeTicket p tr).intent.closes = some k := by
    intro k hne h
    exact hne (Option.some.inj h).symm
  apply Uses.bind
  · exact uses_placeWithReconcile (fun _ => ⟨trivial, hticket⟩) (fun _ _ => ⟨trivial, hticket⟩)
      fun _ _ => ⟨trivial, fun _ _ => id⟩
  · intro r
    by_cases hok : r.ok = true
    · rw [if_pos hok]
      refine uses_catchSql ?_ fun _ => uses_about_reported
      refine Uses.bind (uses_orRaise (uses_perform.mpr ⟨trivial, fun _ _ => id⟩)) fun _ => ?_
      exact Uses.bind uses_about_applyTransition fun _ => uses_ret
    · rw [if_neg hok]
      exact uses_about_reported

theorem uses_about_carryOut : Uses (about p.id) (carryOut p tr price c) := by
  refine Uses.bind (uses_perform.mpr ⟨trivial, fun _ _ => id⟩) fun session => ?_
  cases session with
  | error x =>
      cases x with
      | sqlalchemy text => exact uses_about_reported
      | lookup text => exact uses_raise
      | other text => exact uses_raise
  | ok _ =>
      dsimp only
      split_ifs
      · exact uses_about_closePosition
      · refine uses_catchSql ?_ fun _ => uses_about_reported
        exact Uses.bind uses_about_applyTransition fun _ => uses_ret
      · exact uses_ret

/-- **One poll**, and what it did to the positions. Source: `app/loops/loop_a_runtime.py`
`LoopARunner._monitor_positions_once`. Kind: D -/
structure PolledOnce (p : Position) (a : Poll) (s s' : Recorded) : Prop where
  row : a.row = p
  polls : polls p.id s'.2 = polls p.id s.2 ++ [a]
  others : ∀ pid, pid ≠ p.id → LoopARunner.polls pid s'.2 = LoopARunner.polls pid s.2
  positions : (s'.1.positions = applied s.1.positions p.id a.transition ∧
      (0 < a.transition.closeQty → a.accepted = true)) ∨
    (s'.1.positions = s.1.positions ∧ a.written = false)

/-- **Monitoring a position polls it**, unless looking raises. Source:
`app/loops/loop_a_runtime.py` `LoopARunner._monitor_positions_once`. Kind: P -/
theorem runs_monitorPosition {out : Except Exn Tally}
    (hrow : s.1.positions.get? p.id = some p) (h : Runs (monitorPosition p c) s out s') :
    Quiet s s' ∨ ∃ a, PolledOnce p a s s' := by
  rcases exec_bind_iff.mp h with ⟨⟨price, tr⟩, s₁, h₁, h⟩ | ⟨x, -, h₁⟩
  swap
  · rcases runs_observe h₁ with ⟨-, hquiet⟩ | ⟨a, -, -, -, hout, -⟩
    · exact .inl hquiet
    · cases hout
  rcases runs_observe h₁ with ⟨⟨x, hout⟩, -⟩ | hpoll
  · cases hout
  obtain ⟨a, hp, haccepted, hwritten, hout, hsame, hpolls, hothers⟩ := hpoll
  obtain ⟨rfl, rfl⟩ := Prod.mk.inj (Except.ok.inj hout)
  have hrow₁ : s₁.1.positions.get? p.id = some p := by rw [hsame, hrow]
  obtain ⟨l, hl, hcarried⟩ := runs_carryOut hrow₁ h
  obtain ⟨l', hl', hcalls⟩ := uses_about_carryOut.exists_record h
  obtain rfl : l = l' := List.append_cancel_left (hl.symm.trans hl')
  refine .inr ⟨a.marks p.id l, hp, ?_, ?_, ?_⟩
  · rw [hl, polls_append, hpolls]
    exact foldl_note_of_carries fun x hx => (hcalls x hx).1
  · intro pid hne
    rw [hl, polls_append, foldl_note_of_not_concerns fun x hx => (hcalls x hx).2 pid hne]
    exact hothers pid hne
  · have hmarks : (a.marks p.id l).accepted = l.any (acceptsClose p.id) ∧
        (a.marks p.id l).written = l.any (storesTransition p.id) := by
      simp [Poll.marks, haccepted, hwritten]
    rw [hmarks.1, hmarks.2, ← hsame]
    exact hcarried

end record

end LoopARunner

end HaruTrade
