import HaruTrade.Services.Interleaving

/-!
# When an order may be placed

A permission says, by the flags and the symbol table, whether an order may be placed. A cycle takes
an order up when it pops a signal or decides a close, and places it some calls later, once or twice;
in between flags and symbols can change.

* `respects permits` — the steps that take up permitted orders only, and that take the permission
  from no order in hand.
* `placed_permitted` — **as long as every step respects a permission, every order that is placed is
  permitted when it is placed**.
-/

namespace HaruTrade

open Coro OrderService TradingService LoopARunner LoopRuntimeCoordinator

/-- Whether an order may be placed. Source: none: infrastructure. Kind: D -/
abbrev Permission : Type := RuntimeState → Table SymbolRow.ticker → Ticket → Bool

/-- The order that a step places. Source: none: infrastructure. Kind: D -/
def placing : CycleAct → Option Ticket
  | .perform _ (.placeOrder t _) _ => some t
  | _ => none

variable (permits : Permission) {strategies : List Strategy} {w : World} {ms : List Phase}
  {m m' : Phase}

/-- The order in hand, if there is one, is permitted. Source: none: infrastructure. Kind: D -/
def permitsHand (rt : RuntimeState) (symbols : Table SymbolRow.ticker) (m : Phase) : Bool :=
  match m.hand with
  | .ready t _ => permits rt symbols t
  | _ => true

/-- **A step that respects the permission**: a signal is popped and a close decided only if its order
is permitted, and flags and symbols change only if the orders in hand stay permitted.
Source: none: infrastructure. Kind: D -/
def respects (w : World) (ms : List Phase) : CycleAct → Bool
  | .perform _ .popOne _ =>
      w.queue.head?.all fun signal => permits w.runtime w.symbols (entryTicket signal)
  | .perform _ (.decide p price atr mult) _ =>
      let tr := PositionStateMachine.decide p.snapshot price atr mult
      decide (tr.closeQty ≤ 0) || permits w.runtime w.symbols (closeTicket p tr)
  | .perform _ (.critical code message) _ =>
      ms.all (permitsHand permits (w.runtime.critical code message) w.symbols)
  | .event v => ms.all (permitsHand permits (v.handle w).runtime (v.handle w).symbols)
  | _ => true

/-- Every order in hand is permitted. Source: none: infrastructure. Kind: D -/
def HandsPermitted (w : World) (ms : List Phase) : Prop :=
  ∀ m ∈ ms, ∀ t att, m.hand = .ready t att → permits w.runtime w.symbols t = true

variable {permits}

theorem handsPermitted_of_all {rt : RuntimeState} {symbols : Table SymbolRow.ticker}
    (h : ms.all (permitsHand permits rt symbols) = true) (hrt : w.runtime = rt)
    (hsymbols : w.symbols = symbols) : HandsPermitted permits w ms := by
  intro m hm t att hhand
  have hpermits := List.all_eq_true.mp h m hm
  rw [hrt, hsymbols]
  simpa [permitsHand, hhand] using hpermits

theorem HandsPermitted.congr {w' : World} (h : HandsPermitted permits w ms)
    (hrt : w'.runtime = w.runtime) (hsymbols : w'.symbols = w.symbols) :
    HandsPermitted permits w' ms := by
  unfold HandsPermitted
  rw [hrt, hsymbols]
  exact h

/-- One phase changes. Source: none: infrastructure. Kind: L -/
theorem HandsPermitted.set {i : ℕ} (h : HandsPermitted permits w ms)
    (hm' : ∀ t att, m'.hand = .ready t att → permits w.runtime w.symbols t = true) :
    HandsPermitted permits w (ms.set i m') := by
  intro m hm
  rcases List.mem_or_eq_of_mem_set hm with hmem | rfl
  · exact h m hmem
  · exact hm'

/-- **An order is taken up by popping its signal or by deciding its close**: whatever else a phase has
in hand after a call, it had in hand before. Source: `app/orders/service.py`
`OrderService.place_with_reconcile`. Kind: L -/
theorem Phase.ready_of_next {e : Op} {r : Resp e} {t : Ticket} {att : Attempt}
    (hallows : m.allows e) (hpop : e ≠ .popOne)
    (hdecide : ∀ p price atr mult, e ≠ .decide p price atr mult)
    (hready : (m.next e r).hand = .ready t att) : ∃ att', m.hand = .ready t att' := by
  have hafter : ∀ {t' att'}, Hand.afterFailure t' att' = .ready t att → t' = t ∧ att' = .first := by
    intro t' att' h
    cases att' with
    | first => exact ⟨(Hand.ready.inj h).1, rfl⟩
    | second => cases h
  by_cases hquiet : e.quiet = true
  · rcases ((Phase.quiet_next hquiet).2 r).hand with hh | hh
    · exact ⟨att, hh.symm.trans hready⟩
    · rw [hh] at hready
      cases hready
  · cases e with
    | popOne => exact absurd rfl hpop
    | decide p price atr mult => exact absurd rfl (hdecide p price atr mult)
    | placeOrder t' att' =>
        have hhand : m.hand = .ready t' att' := hallows
        have hplaced : Hand.placed t' att' r = .ready t att := hready
        unfold Hand.placed at hplaced
        split at hplaced
        · split at hplaced
          · cases hplaced
          · exact ⟨att', (hafter hplaced).1 ▸ hhand⟩
        · exact ⟨att', (hafter hplaced).1 ▸ hhand⟩
    | getOrderStatus t' att' id =>
        have hhand : m.hand = .afterFailure t' att' := hallows
        have hchecked : Hand.checked t' att' r = .ready t att := hready
        unfold Hand.checked at hchecked
        split at hchecked
        · split at hchecked
          · cases hchecked
          · exact ⟨att, hhand.trans hchecked⟩
        · cases hchecked
    | applyTransition pid tr => cases hready
    | openPosition args => cases hready
    | listOpenPositions use =>
        cases use with
        | tickers => exact absurd rfl hquiet
        | monitor =>
            cases r with
            | ok ps => cases hready
            | error x => exact ⟨att, hready⟩
    | _ => exact absurd rfl hquiet

/-- **One call** that respects the permission. Source: none: infrastructure. Kind: L -/
theorem handsPermitted_perform {i : ℕ} {e : Op} {a : Answer} (h : HandsPermitted permits w ms)
    (hm : ms[i]? = some m) (hallows : m.allows e)
    (hok : respects permits w ms (.perform i e a) = true) :
    HandsPermitted permits (exec e a w).2 (ms.set i (m.next e (exec e a w).1)) := by
  have hmem := List.mem_of_getElem? hm
  by_cases hcritical : ∃ code message, e = .critical code message
  · obtain ⟨code, message, rfl⟩ := hcritical
    have hafter : HandsPermitted permits (exec (.critical code message) a w).2 ms :=
      handsPermitted_of_all hok rfl rfl
    exact hafter.set fun t att hready => hafter m hmem t att hready
  · have hrt : (exec e a w).2.runtime = w.runtime :=
      exec_runtime fun code message he => hcritical ⟨code, message, he⟩
    refine HandsPermitted.congr (HandsPermitted.set h ?_) hrt exec_symbols
    intro t att hready
    by_cases hpop : e = .popOne
    · subst hpop
      cases hqueue : w.queue with
      | nil =>
          simp only [exec, hqueue] at hready
          exact h m hmem t att hready
      | cons signal rest =>
          simp only [exec, hqueue] at hready
          obtain ⟨rfl, -⟩ := Hand.ready.inj hready
          simpa [respects, hqueue] using hok
    · by_cases hdecide : ∃ p price atr mult, e = .decide p price atr mult
      · obtain ⟨p, price, atr, mult, rfl⟩ := hdecide
        have hhand : Hand.decided p (PositionStateMachine.decide p.snapshot price atr mult) =
            .ready t att := hready
        unfold Hand.decided at hhand
        split at hhand
        · next hq =>
            obtain ⟨rfl, -⟩ := Hand.ready.inj hhand
            simpa [respects, not_le.mpr hq] using hok
        · split at hhand <;> cases hhand
      · obtain ⟨att', hbefore⟩ := Phase.ready_of_next hallows hpop
          (fun p price atr mult he => hdecide ⟨p, price, atr, mult, he⟩) hready
        exact h m hmem t att' hbefore

variable {c c' : Pool Op Resp Exn CycleReport World Phase} {act : CycleAct} {t : Ticket}

/-- **Every order that is placed is permitted when it is placed**, however cycles and events
interleave, as long as every step respects the permission.
Source: `app/services/loop_runtime.py` `LoopRuntimeCoordinator.run_cycle`. Kind: P -/
theorem placed_permitted
    (h : (cycles strategies).Run (fun s ms act => respects permits s ms act = true) (pool w) c)
    (hs : (cycles strategies).Step c act c') (ht : t ∈ placing act) :
    permits c.shared.runtime c.shared.symbols t = true := by
  obtain ⟨hpermitted, hd⟩ := h.invariant (I := HandsPermitted permits)
    (runCycle_follows strategies)
    (fun s ms hI m hm => by
      rcases List.mem_append.mp hm with hm | hm
      · exact hI m hm
      · obtain rfl := List.mem_singleton.mp hm
        rintro t att ⟨⟩)
    (fun s ms v hI hok => handsPermitted_of_all hok rfl rfl)
    (fun s ms i m e a hI hm hallows hok => handsPermitted_perform hI hm hallows hok)
    disciplined_pool fun m hm => absurd hm List.not_mem_nil
  unfold placing at ht
  split at ht
  · next i t' att a =>
      obtain rfl := Option.some.inj ht
      obtain ⟨m, hm, hallows⟩ := hd.allows hs
      exact hpermitted m (List.mem_of_getElem? hm) t' att hallows
  · cases ht

/-- The order that the next call of cycle `i` places. Source: none: infrastructure. Kind: D -/
def nextPlaced (strategies : List Strategy) (i : ℕ)
    (c : Pool Op Resp Exn CycleReport World Phase) : Option Ticket :=
  ((cycles strategies).step c (.resume i {})).bind fun next => placing next.1

theorem exists_step_of_nextPlaced {i : ℕ} (h : nextPlaced strategies i c = some t) :
    ∃ act c', (cycles strategies).Step c act c' ∧ t ∈ placing act := by
  obtain ⟨⟨act, c'⟩, hstep, hplacing⟩ := Option.bind_eq_some_iff.mp h
  exact ⟨act, c', System.step_sound hstep, hplacing⟩

/-- Does the schedule lead to where the next call of cycle `i` places an order that passes the test?
Source: none: infrastructure. Kind: D -/
def placesAfter (strategies : List Strategy) (w : World) (schedule : List (Label Answer Event))
    (i : ℕ) (test : World → Ticket → Bool) : Bool :=
  ((cycles strategies).replay (fun _ _ _ => true) (pool w) schedule).any fun c =>
    (nextPlaced strategies i c).any (test c.shared)

theorem exists_of_placesAfter {schedule : List (Label Answer Event)} {i : ℕ}
    {test : World → Ticket → Bool} (h : placesAfter strategies w schedule i test = true) :
    ∃ c act c' t, (cycles strategies).Run (fun _ _ _ => True) (pool w) c ∧
      (cycles strategies).Step c act c' ∧ t ∈ placing act ∧ test c.shared t = true := by
  obtain ⟨c, hc, hplaced⟩ := (Option.any_eq_true _ _).mp h
  obtain ⟨t, ht, htest⟩ := (Option.any_eq_true _ _).mp hplaced
  obtain ⟨act, c', hs, hplacing⟩ := exists_step_of_nextPlaced ht
  exact ⟨c, act, c', t, (System.run_of_replay hc).mono fun _ _ _ _ => trivial, hs, hplacing, htest⟩

/-- A buy at 100. Source: none: infrastructure. Kind: D -/
def queuedBuy : Signal := { index := 1, side := "buy", ticker := "005930", price := some 100 }

end HaruTrade
