import HaruTrade.Book.LostBookings
import HaruTrade.Services.Interleaving

/-!
# Closes of interleaved cycles

Two cycles that monitor at the same time decide from rows they read before their awaits. Nothing
compares those rows with the table when an order is placed or a row is written, so a position can be
sold twice, and a closed row can be opened again.

* `Closable` — the row of a position is still as it was read, and every close of it is booked.
* `Guarded` — the invariant of interleaved cycles that place closes only then.
* `guarded_perform` — **one call of one cycle keeps it**.
* `concurrent_closes` — no more is placed than was opened, and what is closed stays closed.
* `sold_and_reopened` — two cycles under way at once sell one share one and a half times and leave
  the position half closed.
-/

namespace HaruTrade

open Coro OrderService TradingService LoopARunner

/-! ## What a cycle knows of a position -/

/-- The row was read from the table, which still has a row of the position.
Source: none: infrastructure. Kind: D -/
structure Seen (w : World) (p : Position) : Prop where
  life : Lifecycle p
  notClosed : p.state ≠ .CLOSED
  row : ∃ row, w.positions.get? p.id = some row

/-- The transition was decided for the row. Source: none: infrastructure. Kind: D -/
def DecidedFor (p : Position) (tr : Transition) : Prop :=
  ∃ price atr mult, tr = PositionStateMachine.decide p.snapshot price atr mult

/-- The ticket, if it closes a position, closes a row that was seen as was decided for it.
Source: none: infrastructure. Kind: D -/
def Planned (w : World) (t : Ticket) : Prop :=
  ∀ p tr, t.intent = .close p tr →
    t = closeTicket p tr ∧ Seen w p ∧ DecidedFor p tr ∧ 0 < tr.closeQty

/-- The close was placed and is not booked: the row is still as it was read, and the gateway has what
was closed before and this close. Source: none: infrastructure. Kind: D -/
def InFlight (w : World) (p : Position) (tr : Transition) : Prop :=
  ∃ row, w.positions.get? p.id = some row ∧ row.state = p.state ∧
    row.remainingQuantity = p.remainingQuantity ∧
      w.placedQty p.id = row.quantity - row.remainingQuantity + tr.closeQty

/-- What holds of the hand of a cycle. Source: none: infrastructure. Kind: D -/
def HandOk (w : World) : Hand → Prop
  | .free => True
  | .ready t att => att = .first ∧ Planned w t
  | .failed _ => False
  | .accepted t => Planned w t ∧ ∀ p tr, t.intent = .close p tr → InFlight w p tr
  | .tracking p tr => Seen w p ∧ DecidedFor p tr ∧ ¬ 0 < tr.closeQty

/-- The hand holds an accepted close of the position. Source: none: infrastructure. Kind: D -/
def Hand.Flies (h : Hand) (pid : ℕ) : Prop :=
  ∃ t, h = .accepted t ∧ t.intent.closes = some pid

/-! ## The book -/

/-- Every row agrees with its state and no more of it was placed than it was opened with; nothing was
placed for a row that does not exist. Source: none: infrastructure. Kind: D -/
structure BookInOrder (w : World) : Prop where
  rows : ∀ pid row, w.positions.get? pid = some row →
    Lifecycle row ∧ w.placedQty pid ≤ row.quantity
  opened : ∀ pid, w.positions.get? pid = none → w.placedQty pid = 0

/-- **The invariant of interleaved cycles**: the book is in order, what the cycles know is so, and of
each position at most one cycle has an accepted close that is not booked.
Source: none: infrastructure. Kind: D -/
structure Guarded (w : World) (ms : List Phase) : Prop extends BookInOrder w where
  snaps : ∀ m ∈ ms, ∀ p ∈ m.snaps, Seen w p
  hands : ∀ m ∈ ms, HandOk w m.hand
  alone : ∀ (i j : ℕ) (m m' : Phase) (pid : ℕ), ms[i]? = some m → ms[j]? = some m' →
    m.hand.Flies pid → m'.hand.Flies pid → i = j

/-! ## How a world moves -/

/-- Rows stay, keep their quantity and move forward. Source: none: infrastructure. Kind: D -/
def Later (w w' : World) : Prop :=
  ∀ pid row, w.positions.get? pid = some row → ∃ row', w'.positions.get? pid = some row' ∧
    row'.quantity = row.quantity ∧ row.state.rank ≤ row'.state.rank

/-- State, quantities and placed quantity of the position stay as they are.
Source: none: infrastructure. Kind: D -/
structure Undisturbed (pid : ℕ) (w w' : World) : Prop where
  row : ∀ row, w.positions.get? pid = some row → ∃ row', w'.positions.get? pid = some row' ∧
    row'.state = row.state ∧ row'.remainingQuantity = row.remainingQuantity ∧
      row'.quantity = row.quantity
  placed : w'.placedQty pid = w.placedQty pid

variable {strategies : List Strategy} {w w' w'' : World} {ms : List Phase} {m m' : Phase} {i : ℕ}
  {p row : Position} {tr : Transition} {pid : ℕ} {t : Ticket} {h : Hand}

theorem Later.refl : Later w w := fun _ row hrow => ⟨row, hrow, rfl, le_refl _⟩

theorem Later.of_positions (hp : w'.positions = w.positions) : Later w w' :=
  fun pid row hrow => ⟨row, by rwa [hp], rfl, le_refl _⟩

theorem Undisturbed.of_same (hp : w'.positions = w.positions)
    (hplaced : w'.placedQty pid = w.placedQty pid) : Undisturbed pid w w' :=
  ⟨fun row hrow => ⟨row, by rwa [hp], rfl, rfl, rfl⟩, hplaced⟩

theorem Seen.later (hs : Seen w p) (hl : Later w w') : Seen w' p := by
  obtain ⟨row, hrow⟩ := hs.row
  obtain ⟨row', hrow', -⟩ := hl p.id row hrow
  exact ⟨hs.life, hs.notClosed, row', hrow'⟩

theorem Planned.later (hs : Planned w t) (hl : Later w w') : Planned w' t := by
  intro p tr ht
  obtain ⟨heq, hseen, hdecided, hq⟩ := hs p tr ht
  exact ⟨heq, hseen.later hl, hdecided, hq⟩

theorem InFlight.undisturbed (hs : InFlight w p tr) (hu : Undisturbed p.id w w') :
    InFlight w' p tr := by
  obtain ⟨row, hrow, hst, hrem, hplaced⟩ := hs
  obtain ⟨row', hrow', hst', hrem', hq'⟩ := hu.row row hrow
  refine ⟨row', hrow', hst'.trans hst, hrem'.trans hrem, ?_⟩
  rw [hu.placed, hplaced, hq', hrem']

/-- A hand stays right while rows move forward and the position of its accepted close is left alone.
Source: none: infrastructure. Kind: L -/
theorem HandOk.later (hs : HandOk w h) (hl : Later w w')
    (hu : ∀ pid, h.Flies pid → Undisturbed pid w w') : HandOk w' h := by
  cases h with
  | free => trivial
  | ready t att => exact ⟨hs.1, hs.2.later hl⟩
  | failed t => exact hs
  | accepted t =>
      refine ⟨hs.1.later hl, fun p tr ht => (hs.2 p tr ht).undisturbed (hu p.id ⟨t, rfl, ?_⟩)⟩
      rw [ht]
      rfl
  | tracking p tr => exact ⟨hs.1.later hl, hs.2⟩

/-- **The step rule**: what has to be shown of one call of one cycle.
Source: none: infrastructure. Kind: P -/
theorem Guarded.set (hG : Guarded w ms) (hm : ms[i]? = some m) (hbook : BookInOrder w')
    (hl : Later w w')
    (hu : ∀ j m₁ pid, j ≠ i → ms[j]? = some m₁ → m₁.hand.Flies pid → Undisturbed pid w w')
    (hsnaps : ∀ p ∈ m'.snaps, Seen w' p) (hhand : HandOk w' m'.hand)
    (halone : ∀ j m₁ pid, j ≠ i → ms[j]? = some m₁ → m₁.hand.Flies pid → ¬ m'.hand.Flies pid) :
    Guarded w' (ms.set i m') := by
  have hlt : i < ms.length := (List.getElem?_eq_some_iff.mp hm).1
  -- a phase after the step is the new one, or an old one of another cycle
  have hcases : ∀ j m₁, (ms.set i m')[j]? = some m₁ →
      (j = i ∧ m₁ = m') ∨ (j ≠ i ∧ ms[j]? = some m₁) := by
    intro j m₁ hj
    by_cases hji : j = i
    · subst hji
      rw [List.getElem?_set_self hlt] at hj
      exact .inl ⟨rfl, (Option.some.inj hj).symm⟩
    · rw [List.getElem?_set_ne (Ne.symm hji)] at hj
      exact .inr ⟨hji, hj⟩
  refine ⟨hbook, ?_, ?_, ?_⟩
  · intro m₁ hmem p hp
    obtain ⟨j, hj⟩ := List.mem_iff_getElem?.mp hmem
    rcases hcases j m₁ hj with ⟨-, rfl⟩ | ⟨-, hj⟩
    · exact hsnaps p hp
    · exact (hG.snaps m₁ (List.mem_of_getElem? hj) p hp).later hl
  · intro m₁ hmem
    obtain ⟨j, hj⟩ := List.mem_iff_getElem?.mp hmem
    rcases hcases j m₁ hj with ⟨-, rfl⟩ | ⟨hji, hj⟩
    · exact hhand
    · exact (hG.hands m₁ (List.mem_of_getElem? hj)).later hl fun pid => hu j m₁ pid hji hj
  · intro j k m₁ m₂ pid hj hk hf hf'
    rcases hcases j m₁ hj with ⟨rfl, rfl⟩ | ⟨hji, hold⟩ <;>
      rcases hcases k m₂ hk with ⟨rfl, rfl⟩ | ⟨hki, hold'⟩
    · rfl
    · exact absurd hf (halone k m₂ pid hki hold' hf')
    · exact absurd hf' (halone j m₁ pid hji hold hf)
    · exact hG.alone j k m₁ m₂ pid hold hold' hf hf'

/-- A call that leaves rows and placed quantities as they are, of a cycle that does not take up an
accepted close. Source: none: infrastructure. Kind: L -/
theorem Guarded.set_same (hG : Guarded w ms) (hm : ms[i]? = some m)
    (hp : w'.positions = w.positions) (hplaced : ∀ pid, w'.placedQty pid = w.placedQty pid)
    (hsnaps : ∀ p ∈ m'.snaps, Seen w p) (hhand : HandOk w m'.hand)
    (hflies : ∀ pid, m'.hand.Flies pid → m.hand.Flies pid) : Guarded w' (ms.set i m') := by
  have hl : Later w w' := .of_positions hp
  have hu : ∀ pid, Undisturbed pid w w' := fun pid => .of_same hp (hplaced pid)
  refine hG.set hm ⟨?_, ?_⟩ hl (fun _ _ pid _ _ _ => hu pid) (fun p hmem => (hsnaps p hmem).later hl)
    (hhand.later hl fun pid _ => hu pid) ?_
  · intro pid row hrow
    rw [hp] at hrow
    rw [hplaced]
    exact hG.rows pid row hrow
  · intro pid hnone
    rw [hp] at hnone
    rw [hplaced]
    exact hG.opened pid hnone
  · intro j m₁ pid hj hm₁ hf hf'
    exact hj (hG.alone j i m₁ m pid hm₁ hm hf (hflies pid hf'))

/-! ## The calls of a cycle -/

/-- The row of the position is still as it was read. Source: none: infrastructure. Kind: D -/
def Current (w : World) (p : Position) : Prop :=
  ∃ row ∈ w.positions.get? p.id,
    row.state = p.state ∧ row.remainingQuantity = p.remainingQuantity

/-- **The row of the position is still as it was read, and every close of it is booked**: the gateway
has exactly what the row has sold. Source: none: infrastructure. Kind: D -/
def Closable (w : World) (p : Position) : Prop :=
  ∃ row ∈ w.positions.get? p.id,
    row.state = p.state ∧ row.remainingQuantity = p.remainingQuantity ∧
      w.placedQty p.id = row.quantity - row.remainingQuantity

instance : DecidablePred (Current w) := fun p =>
  inferInstanceAs (Decidable (∃ row ∈ w.positions.get? p.id,
    row.state = p.state ∧ row.remainingQuantity = p.remainingQuantity))

instance : DecidablePred (Closable w) := fun p =>
  inferInstanceAs (Decidable (∃ row ∈ w.positions.get? p.id,
    row.state = p.state ∧ row.remainingQuantity = p.remainingQuantity ∧
      w.placedQty p.id = row.quantity - row.remainingQuantity))

/-- The gateway accepts the order. Source: `app/orders/service.py` `OrderService._safe_place`.
Kind: D -/
def Answer.accepts (a : Answer) : Bool := a.raises.isNone && a.order.ok

/-- The position that an order closes, if it closes one, is closable.
Source: none: infrastructure. Kind: D -/
def placesSafely (w : World) (t : Ticket) : Bool :=
  match t.intent with
  | .entry _ => true
  | .close p _ => decide (Closable w p)

/-- New levels are stored only of a position whose row is as it was read.
Source: none: infrastructure. Kind: D -/
def tracksSafely (w : World) (m : Phase) : Bool :=
  match m.hand with
  | .tracking p _ => decide (Current w p)
  | _ => true

/-- **A safe step**: the gateway accepts, orders are placed and levels stored only where that is safe.
Source: none: infrastructure. Kind: D -/
def safeStep (w : World) (ms : List Phase) : CycleAct → Bool
  | .perform _ (.placeOrder t _) a => a.accepts && placesSafely w t
  | .perform i (.applyTransition _ _) _ => (ms[i]?).all (tracksSafely w)
  | _ => true

theorem placedQty_append (evs : List GatewayEvent) (hg : w'.gateway = w.gateway ++ evs) :
    w'.placedQty pid = w.placedQty pid + ((evs.filter fun ev =>
      ev.ticket.intent.closes = some pid).map GatewayEvent.placedQty).sum := by
  rw [World.placedQty, World.closeEvents, hg, List.filter_append, List.map_append, List.sum_append]
  rfl

theorem placedQty_congr (hg : w'.gateway = w.gateway) : w'.placedQty pid = w.placedQty pid := by
  rw [World.placedQty, World.closeEvents, hg]
  rfl

/-- A placement adds the quantity of the order to the position that it closes.
Source: none: infrastructure. Kind: L -/
theorem placedQty_placed {att : Attempt} {reply : Except Exn OrderResult} {live : Bool} {filled : ℚ}
    (hg : w'.gateway = w.gateway ++ [.placed t att reply live filled]) (pid : ℕ) :
    w'.placedQty pid =
      w.placedQty pid + if t.intent.closes = some pid then t.req.qty else 0 := by
  rw [placedQty_append _ hg]
  by_cases hc : t.intent.closes = some pid <;>
    simp [GatewayEvent.ticket, GatewayEvent.placedQty, hc]

/-- When every close of a position is booked, none is in flight. Source: none: infrastructure.
Kind: L -/
theorem Guarded.not_flies_of_booked (hG : Guarded w ms) (hrow : w.positions.get? pid = some row)
    (hbooked : w.placedQty pid = row.quantity - row.remainingQuantity) (hm : m ∈ ms) :
    ¬ m.hand.Flies pid := by
  rintro ⟨t, ht, hc⟩
  have hhand := hG.hands m hm
  rw [ht] at hhand
  obtain ⟨hplanned, hflight⟩ := hhand
  cases hintent : t.intent with
  | entry signal =>
      rw [hintent] at hc
      cases hc
  | close p tr =>
      rw [hintent] at hc
      have hid : p.id = pid := Option.some.inj hc
      obtain ⟨-, -, -, hq⟩ := hplanned p tr hintent
      obtain ⟨row', hrow', -, -, hplaced⟩ := hflight p tr hintent
      rw [hid] at hrow' hplaced
      obtain rfl := Option.some.inj (hrow.symm.trans hrow')
      linarith

/-- The book stays in order when the orders of one position come to at most its quantity.
Source: none: infrastructure. Kind: L -/
theorem BookInOrder.placed (hB : BookInOrder w) (hpos : w'.positions = w.positions)
    (hrow : w.positions.get? pid = some row) (hle : w'.placedQty pid ≤ row.quantity)
    (hother : ∀ k, k ≠ pid → w'.placedQty k = w.placedQty k) : BookInOrder w' := by
  refine ⟨fun k row' hrow' => ?_, fun k hnone => ?_⟩
  · rw [hpos] at hrow'
    obtain ⟨hlife, hsold⟩ := hB.rows k row' hrow'
    refine ⟨hlife, ?_⟩
    by_cases hk : k = pid
    · subst hk
      obtain rfl := Option.some.inj (hrow.symm.trans hrow')
      exact hle
    · rwa [hother k hk]
  · rw [hpos] at hnone
    have hk : k ≠ pid := by
      rintro rfl
      rw [hrow] at hnone
      cases hnone
    rw [hother k hk]
    exact hB.opened k hnone

/-- **A placement**: nothing of the position was in flight, and afterwards this close is.
Source: `app/loops/loop_a_runtime.py` `LoopARunner._monitor_positions_once`. Kind: P -/
theorem guarded_placeOrder {att : Attempt} {a : Answer} (hG : Guarded w ms) (hm : ms[i]? = some m)
    (hallows : m.allows (.placeOrder t att)) (haccepts : a.accepts = true)
    (hsafe : placesSafely w t = true) :
    Guarded (exec (.placeOrder t att) a w).2
        (ms.set i (m.next (.placeOrder t att) (exec (.placeOrder t att) a w).1)) ∧
      Later w (exec (.placeOrder t att) a w).2 := by
  obtain ⟨hraises, haccepts⟩ : a.raises = none ∧ a.order.ok = true := by
    simpa [Answer.accepts] using haccepts
  have hmem := List.mem_of_getElem? hm
  have hready : m.hand = .ready t att := hallows
  have hhand := hG.hands m hmem
  rw [hready] at hhand
  obtain ⟨rfl, hplanned⟩ := hhand
  have hreply : a.reply a.order = .ok a.order := by simp [Answer.reply, hraises]
  have hnext : m.next (.placeOrder t .first) (exec (.placeOrder t .first) a w).1 =
      { m with hand := .accepted t } := by
    simp [exec, Phase.next, Hand.placed, hreply, haccepts]
  rw [hnext]
  have hpos : (exec (.placeOrder t .first) a w).2.positions = w.positions := exec_positions rfl
  have hgateway : (exec (.placeOrder t .first) a w).2.gateway =
      w.gateway ++ [.placed t .first (a.reply a.order) a.live a.filled] := rfl
  generalize (exec (.placeOrder t .first) a w).2 = w' at hpos hgateway ⊢
  refine ⟨?_, .of_positions hpos⟩
  have hplaced := placedQty_placed hgateway
  cases hintent : t.intent with
  | entry signal =>
      -- an entry is about no position
      have hnone : ∀ pid, ¬ (Hand.accepted t).Flies pid := by
        rintro pid ⟨t', ⟨⟩, hc⟩
        rw [hintent] at hc
        cases hc
      refine hG.set_same hm hpos (fun pid => ?_) (hG.snaps m hmem) ⟨hplanned, ?_⟩
        fun pid hf => absurd hf (hnone pid)
      · rw [hplaced, hintent]
        simp [Intent.closes]
      · intro p tr ht
        rw [hintent] at ht
        cases ht
  | close p tr =>
      obtain ⟨ht, hseen, hdecided, hq⟩ := hplanned p tr hintent
      obtain ⟨row, hrow, hst, hrem, hbooked⟩ : Closable w p := by
        simpa [placesSafely, hintent] using hsafe
      rw [Option.mem_def] at hrow
      have hcloses : t.intent.closes = some p.id := by rw [hintent]; rfl
      have hqty : t.req.qty = tr.closeQty := by rw [ht]; rfl
      have hother : ∀ pid, pid ≠ p.id → w'.placedQty pid = w.placedQty pid := by
        intro pid hne
        rw [hplaced, hcloses, if_neg (fun he => hne (Option.some.inj he).symm), add_zero]
      have hthis : w'.placedQty p.id = row.quantity - row.remainingQuantity + tr.closeQty := by
        rw [hplaced, hcloses, if_pos rfl, hqty, hbooked]
      -- no other close of the position is in flight, since every close of it is booked
      have hfree : ∀ (j : ℕ) (m₁ : Phase) (pid : ℕ), ms[j]? = some m₁ → m₁.hand.Flies pid →
          pid ≠ p.id := by
        rintro j m₁ pid hm₁ hf rfl
        exact hG.not_flies_of_booked hrow hbooked (List.mem_of_getElem? hm₁) hf
      have hle : tr.closeQty ≤ row.remainingQuantity := by
        obtain ⟨price, atr, mult, htr⟩ := hdecided
        exact ((hG.rows p.id row hrow).1.close hst hrem htr hq).2.2.1
      refine hG.set hm (hG.toBookInOrder.placed hpos hrow ?_ hother) (.of_positions hpos) ?_ ?_
        ⟨?_, ?_⟩ ?_
      · rw [hthis]
        linarith
      · intro j m₁ pid hj hm₁ hf
        exact .of_same hpos (hother pid (hfree j m₁ pid hm₁ hf))
      · exact fun q hq' => (hG.snaps m hmem q hq').later (.of_positions hpos)
      · exact hplanned.later (.of_positions hpos)
      · intro p' tr' ht'
        rw [hintent] at ht'
        cases ht'
        exact ⟨row, by rwa [hpos], hst, hrem, hthis⟩
      · rintro j m₁ pid - hm₁ hf ⟨t', ⟨⟩, hc⟩
        rw [hcloses] at hc
        exact hfree j m₁ pid hm₁ hf (Option.some.inj hc).symm

/-- The row of one position moves by its transition: the book stays in order, and a cycle with an
accepted close of the same position, other than the one that writes, would need the row unmoved.
Source: `app/repositories/ordering.py` `OrderingRepository.apply_transition`. Kind: L -/
theorem guarded_applied (hG : Guarded w ms) (hm : ms[i]? = some m)
    (hrow : w.positions.get? pid = some row) (hpos : w'.positions = applied w.positions pid tr)
    (hgateway : w'.gateway = w.gateway) (hlife : Lifecycle (row.apply tr))
    (hrank : row.state.rank ≤ tr.newState.rank)
    (hkept : (∃ j m₁, j ≠ i ∧ ms[j]? = some m₁ ∧ m₁.hand.Flies pid) →
      tr.newState = row.state ∧ (row.apply tr).remainingQuantity = row.remainingQuantity) :
    Guarded w' (ms.set i { m with hand := .free }) ∧ Later w w' := by
  have hget : ∀ k, w'.positions.get? k =
      if k = pid then (w.positions.get? k).map (Position.apply · tr) else w.positions.get? k := by
    intro k
    rw [hpos, get?_applied]
  have hthis : w'.positions.get? pid = some (row.apply tr) := by
    rw [hget, if_pos rfl, hrow]
    rfl
  have hother : ∀ k, k ≠ pid → w'.positions.get? k = w.positions.get? k := by
    intro k hk
    rw [hget, if_neg hk]
  have hl : Later w w' := by
    intro k row' hrow'
    by_cases hk : k = pid
    · subst hk
      obtain rfl := Option.some.inj (hrow.symm.trans hrow')
      exact ⟨_, hthis, rfl, hrank⟩
    · exact ⟨row', by rwa [hother k hk], rfl, le_refl _⟩
  refine ⟨hG.set hm ⟨?_, ?_⟩ hl ?_ ?_ trivial ?_, hl⟩
  · intro k row' hrow'
    rw [placedQty_congr hgateway]
    by_cases hk : k = pid
    · subst hk
      obtain rfl := Option.some.inj (hthis.symm.trans hrow')
      exact ⟨hlife, (hG.rows k row hrow).2⟩
    · rw [hother k hk] at hrow'
      exact hG.rows k row' hrow'
  · intro k hnone
    rw [placedQty_congr hgateway]
    refine hG.opened k ?_
    by_cases hk : k = pid
    · subst hk
      rw [hthis] at hnone
      cases hnone
    · rwa [hother k hk] at hnone
  · intro j m₁ k hj hm₁ hf
    refine ⟨fun row' hrow' => ?_, placedQty_congr hgateway⟩
    by_cases hk : k = pid
    · subst hk
      obtain rfl := Option.some.inj (hrow.symm.trans hrow')
      obtain ⟨hst, hrem⟩ := hkept ⟨j, m₁, hj, hm₁, hf⟩
      exact ⟨_, hthis, hst, hrem, rfl⟩
    · exact ⟨row', by rwa [hother k hk], rfl, rfl, rfl⟩
  · exact fun p hp => (hG.snaps m (List.mem_of_getElem? hm) p hp).later hl
  · rintro j m₁ k - - - ⟨t, ⟨⟩, -⟩

/-- **A written transition** is that of the close in flight, or new levels of a position that is half
closed. Source: `app/repositories/ordering.py` `OrderingRepository.apply_transition`. Kind: P -/
theorem guarded_applyTransition {a : Answer} (hG : Guarded w ms) (hm : ms[i]? = some m)
    (hallows : m.allows (.applyTransition pid tr)) (hsafe : tracksSafely w m = true) :
    Guarded (exec (.applyTransition pid tr) a w).2
        (ms.set i (m.next (.applyTransition pid tr) (exec (.applyTransition pid tr) a w).1)) ∧
      Later w (exec (.applyTransition pid tr) a w).2 := by
  obtain ⟨p, rfl, hin⟩ := hallows
  have hmem := List.mem_of_getElem? hm
  have hhand := hG.hands m hmem
  have hseen : Seen w p := by
    rcases hin with hh | hh <;> rw [hh] at hhand
    · exact (hhand.1 p tr rfl).2.1
    · exact hhand.1
  obtain ⟨row, hrow⟩ := hseen.row
  have hlife := (hG.rows p.id row hrow).1
  have hnext : ∀ r, m.next (.applyTransition p.id tr) r = { m with hand := .free } := fun _ => rfl
  rw [hnext]
  have hsame : Guarded w (ms.set i { m with hand := .free }) ∧ Later w w :=
    ⟨hG.set_same hm rfl (fun _ => rfl) (hG.snaps m hmem) trivial
      (by rintro pid ⟨t, ⟨⟩, -⟩), .refl⟩
  have hwritten : Guarded (OrderingRepository.applyTransition w p.id tr)
      (ms.set i { m with hand := .free }) ∧
        Later w (OrderingRepository.applyTransition w p.id tr) := by
    rcases hin with hh | hh <;> rw [hh] at hhand
    · -- the close in flight: the row is as it was read, and no other close of it is in flight
      obtain ⟨hplanned, hflight⟩ := hhand
      obtain ⟨-, -, ⟨price, atr, mult, htr⟩, hq⟩ := hplanned p tr rfl
      obtain ⟨row', hrow', hst, hrem, -⟩ := hflight p tr rfl
      obtain rfl := Option.some.inj (hrow.symm.trans hrow')
      obtain ⟨hlife', hlt, -, -⟩ := hlife.close hst hrem htr hq
      refine guarded_applied hG hm hrow rfl rfl hlife' hlt.le ?_
      rintro ⟨j, m₁, hj, hm₁, hf⟩
      exact absurd (hG.alone j i m₁ m p.id hm₁ hm hf ⟨_, hh, rfl⟩) hj
    · -- new levels: the row is as it was read, so that it keeps state and remaining quantity
      obtain ⟨-, ⟨price, atr, mult, htr⟩, hq⟩ := hhand
      obtain ⟨row', hrow', hst, -⟩ : Current w p := by simpa [tracksSafely, hh] using hsafe
      obtain rfl := Option.some.inj (hrow.symm.trans hrow')
      have hpos := hseen.life.remaining_pos hseen.notClosed
      obtain ⟨hlife', hnew, hleft⟩ := hlife.hold hst hpos htr hq
      exact guarded_applied hG hm hrow rfl rfl hlife' (by rw [hnew]) fun _ => ⟨hnew, hleft⟩
  rcases exec_applyTransition_cases a tr hrow with hc | ⟨-, x, hc | hc⟩ <;> rw [hc]
  · exact hwritten
  · exact hsame
  · exact hwritten

theorem get?_openPosition {args : PositionArgs} (k : ℕ) :
    (OrderingRepository.openPosition w args).positions.get? k =
      if k = w.positions.fresh then some (args.row w.positions.fresh)
      else w.positions.get? k := by
  simp [OrderingRepository.openPosition, Table.get?_add]

/-- **A new position** starts whole, and nothing was placed for it.
Source: `app/repositories/ordering.py` `OrderingRepository.open_position`. Kind: L -/
theorem BookInOrder.openPosition {args : PositionArgs} (hw : BookInOrder w)
    (hq : 0 < args.quantity) : BookInOrder (OrderingRepository.openPosition w args) := by
  refine ⟨fun k row hrow => ?_, fun k hnone => hw.opened k ?_⟩
  · rw [get?_openPosition] at hrow
    split at hrow
    · next hk =>
        obtain rfl := Option.some.inj hrow
        have hzero : w.placedQty k = 0 := hw.opened k (by rw [hk, Table.get?_fresh])
        refine ⟨.opened hq _, ?_⟩
        show w.placedQty k ≤ args.quantity
        rw [hzero]
        exact hq.le
    · exact hw.rows k row hrow
  · rw [get?_openPosition] at hnone
    split at hnone
    · cases hnone
    · exact hnone

/-- Source: `app/repositories/ordering.py` `OrderingRepository.open_position`. Kind: L -/
theorem guarded_openPosition {args : PositionArgs} {a : Answer} (hG : Guarded w ms)
    (hm : ms[i]? = some m) (hallows : m.allows (.openPosition args)) :
    Guarded (exec (.openPosition args) a w).2
        (ms.set i (m.next (.openPosition args) (exec (.openPosition args) a w).1)) ∧
      Later w (exec (.openPosition args) a w).2 := by
  obtain ⟨signal, orderId, rfl⟩ := hallows
  have hmem := List.mem_of_getElem? hm
  have hnext : ∀ r, m.next (.openPosition (entryPositionArgs signal orderId)) r =
      { m with hand := .free } := fun _ => rfl
  rw [hnext]
  generalize hargs : entryPositionArgs signal orderId = args
  have hq : 0 < args.quantity := by
    rw [← hargs]
    exact one_pos
  have hwritten : Guarded (OrderingRepository.openPosition w args)
      (ms.set i { m with hand := .free }) ∧ Later w (OrderingRepository.openPosition w args) := by
    have hold : ∀ k row, w.positions.get? k = some row →
        (OrderingRepository.openPosition w args).positions.get? k = some row := by
      intro k row hrow
      have hk : k ≠ w.positions.fresh := by
        rintro rfl
        rw [Table.get?_fresh] at hrow
        cases hrow
      rw [get?_openPosition, if_neg hk, hrow]
    have hl : Later w (OrderingRepository.openPosition w args) :=
      fun k row hrow => ⟨row, hold k row hrow, rfl, le_refl _⟩
    refine ⟨hG.set hm (hG.toBookInOrder.openPosition hq) hl ?_ ?_ trivial ?_, hl⟩
    · exact fun j m₁ k _ _ _ => ⟨fun row hrow => ⟨row, hold k row hrow, rfl, rfl, rfl⟩, rfl⟩
    · exact fun p hp => (hG.snaps m hmem p hp).later hl
    · rintro j m₁ k - - - ⟨t, ⟨⟩, -⟩
  simp only [exec]
  rcases committed_snd a (args.row w.positions.fresh) w (OrderingRepository.openPosition w args) with
    hc | hc <;> rw [hc]
  · exact ⟨hG.set_same hm rfl (fun _ => rfl) (hG.snaps m hmem) trivial
      (by rintro pid ⟨t, ⟨⟩, -⟩), .refl⟩
  · exact hwritten

/-- A phase that takes up no accepted close, over a world that stays as it is.
Source: none: infrastructure. Kind: L -/
theorem guarded_stay (hG : Guarded w ms) (hm : ms[i]? = some m)
    (hp : w'.positions = w.positions) (hg : w'.gateway = w.gateway)
    (hsnaps : ∀ p ∈ m'.snaps, Seen w p) (hhand : HandOk w m'.hand)
    (hflies : ∀ pid, m'.hand.Flies pid → m.hand.Flies pid) :
    Guarded w' (ms.set i m') ∧ Later w w' :=
  ⟨hG.set_same hm hp (fun _ => placedQty_congr hg) hsnaps hhand hflies, .of_positions hp⟩

/-- **A quiet call** keeps rows and gateway, and its phase settles.
Source: none: infrastructure. Kind: L -/
theorem guarded_quiet {e : Op} {a : Answer} (hG : Guarded w ms) (hm : ms[i]? = some m)
    (hquiet : e.quiet = true) :
    Guarded (exec e a w).2 (ms.set i (m.next e (exec e a w).1)) ∧ Later w (exec e a w).2 := by
  obtain ⟨hsnaps, hhand⟩ := (Phase.quiet_next (m := m) hquiet).2 (exec e a w).1
  have hmem := List.mem_of_getElem? hm
  refine guarded_stay hG hm (exec_positions ?_) (exec_gateway ?_) ?_ ?_ ?_
  · cases e <;> first | rfl | exact absurd hquiet Bool.false_ne_true
  · cases e <;> first | rfl | exact absurd hquiet Bool.false_ne_true
  · rw [hsnaps]
    exact hG.snaps m hmem
  · rcases hhand with hh | hh <;> rw [hh]
    · exact hG.hands m hmem
    · trivial
  · intro pid hf
    rcases hhand with hh | hh <;> rw [hh] at hf
    · exact hf
    · obtain ⟨t, ht, -⟩ := hf
      cases ht

/-- **A decision** for a row that was read puts a planned close or new levels in hand.
Source: `app/loops/loop_a_runtime.py` `LoopARunner._monitor_positions_once`. Kind: L -/
theorem handOk_decided (hseen : Seen w p) (hdecided : DecidedFor p tr) :
    HandOk w (.decided p tr) ∧ ∀ pid, ¬ (Hand.decided p tr).Flies pid := by
  unfold Hand.decided
  split
  · next hq =>
      refine ⟨⟨rfl, ?_⟩, ?_⟩
      · rintro p' tr' ⟨⟩
        exact ⟨rfl, hseen, hdecided, hq⟩
      · rintro pid ⟨t, ht, -⟩
        cases ht
  · next hq =>
      split
      · refine ⟨⟨hseen, hdecided, hq⟩, ?_⟩
        rintro pid ⟨t, ht, -⟩
        cases ht
      · refine ⟨trivial, ?_⟩
        rintro pid ⟨t, ht, -⟩
        cases ht

/-- The rows that the monitor reads are in the table and not closed.
Source: `app/repositories/ordering.py` `OrderingRepository.list_open_positions`. Kind: L -/
theorem seen_of_listed (hG : Guarded w ms) (hp : p ∈ OrderingRepository.listOpenPositions w) :
    Seen w p := by
  obtain ⟨hrow, hst⟩ := OrderingRepository.mem_listOpenPositions.mp hp
  exact ⟨(hG.rows p.id p hrow).1, hst, p, hrow⟩

/-- **One call of one cycle.** Source: `app/loops/loop_a_runtime.py`
`LoopARunner._monitor_positions_once`. Kind: P -/
theorem guarded_perform {e : Op} {a : Answer} (hG : Guarded w ms) (hm : ms[i]? = some m)
    (hallows : m.allows e) (hok : safeStep w ms (.perform i e a) = true) :
    Guarded (exec e a w).2 (ms.set i (m.next e (exec e a w).1)) ∧ Later w (exec e a w).2 := by
  have hmem := List.mem_of_getElem? hm
  have hsnaps := hG.snaps m hmem
  by_cases hquiet : e.quiet = true
  · exact guarded_quiet hG hm hquiet
  · cases e with
    | placeOrder t att =>
        obtain ⟨haccepts, hsafe⟩ := (Bool.and_eq_true _ _).mp hok
        exact guarded_placeOrder hG hm hallows haccepts hsafe
    | applyTransition pid tr =>
        have hsafe : (ms[i]?).all (tracksSafely w) = true := hok
        rw [hm] at hsafe
        exact guarded_applyTransition hG hm hallows hsafe
    | openPosition args => exact guarded_openPosition hG hm hallows
    | decide p price atr mult =>
        obtain ⟨hhand, hflies⟩ := handOk_decided (hsnaps p hallows) ⟨price, atr, mult, rfl⟩
        exact guarded_stay hG hm rfl rfl hsnaps hhand fun pid hf => absurd hf (hflies pid)
    | getOrderStatus t att id =>
        -- an order is checked after a failed attempt, and no attempt fails
        have hhand := hG.hands m hmem
        rw [show m.hand = .afterFailure t att from hallows] at hhand
        cases att with
        | first => exact absurd hhand.1 (by decide)
        | second => exact hhand.elim
    | popOne =>
        cases hqueue : w.queue with
        | nil =>
            simp only [exec, hqueue]
            exact guarded_stay hG hm rfl rfl hsnaps (hG.hands m hmem) fun _ hf => hf
        | cons signal rest =>
            simp only [exec, hqueue]
            refine guarded_stay hG hm rfl rfl hsnaps ⟨rfl, ?_⟩ ?_
            · rintro p tr ⟨⟩
            · rintro pid ⟨t, ht, -⟩
              cases ht
    | listOpenPositions use =>
        cases use with
        | tickers => exact absurd rfl hquiet
        | monitor =>
            simp only [exec]
            rcases queried_cases a (OrderingRepository.listOpenPositions w) w with hc | ⟨x, hc⟩ <;>
              rw [hc]
            · refine guarded_stay hG hm rfl rfl (fun p hp => seen_of_listed hG hp) trivial ?_
              rintro pid ⟨t, ht, -⟩
              cases ht
            · exact guarded_stay hG hm rfl rfl hsnaps (hG.hands m hmem) fun _ hf => hf
    | _ => exact absurd rfl hquiet

/-! ## Runs -/

theorem guarded_spawn (hG : Guarded w ms) : Guarded w (ms ++ [({} : Phase)]) := by
  refine ⟨hG.toBookInOrder, ?_, ?_, ?_⟩
  · intro m hm p hp
    rcases List.mem_append.mp hm with hm | hm
    · exact hG.snaps m hm p hp
    · obtain rfl := List.mem_singleton.mp hm
      exact absurd hp List.not_mem_nil
  · intro m hm
    rcases List.mem_append.mp hm with hm | hm
    · exact hG.hands m hm
    · obtain rfl := List.mem_singleton.mp hm
      trivial
  · -- a cycle that has just started holds nothing
    have hold : ∀ (j : ℕ) (m₁ : Phase) (pid : ℕ), (ms ++ [({} : Phase)])[j]? = some m₁ →
        m₁.hand.Flies pid → ms[j]? = some m₁ := by
      rintro j m₁ pid hj ⟨t, ht, -⟩
      by_cases hlt : j < ms.length
      · rwa [List.getElem?_append_left hlt] at hj
      · rw [List.getElem?_append_right (not_lt.mp hlt)] at hj
        obtain rfl := List.mem_singleton.mp (List.mem_of_getElem? hj)
        cases ht
    intro j k m₁ m₂ pid hj hk hf hf'
    exact hG.alone j k m₁ m₂ pid (hold j m₁ pid hj hf) (hold k m₂ pid hk hf') hf hf'

/-- What comes from outside writes neither positions nor the gateway.
Source: none: infrastructure. Kind: L -/
theorem guarded_event (hG : Guarded w ms) (v : Event) :
    Guarded (v.handle w) ms ∧ Later w (v.handle w) := by
  have hp : (v.handle w).positions = w.positions := by cases v <;> simp only [Event.handle]
  have hg : (v.handle w).gateway = w.gateway := by cases v <;> simp only [Event.handle]
  have hl : Later w (v.handle w) := .of_positions hp
  refine ⟨⟨⟨fun pid row hrow => ?_, fun pid hnone => ?_⟩, ?_, ?_, hG.alone⟩, hl⟩
  · rw [placedQty_congr hg]
    exact hG.rows pid row (by rwa [← hp])
  · rw [placedQty_congr hg]
    exact hG.opened pid (by rwa [← hp])
  · exact fun m hm p hp' => (hG.snaps m hm p hp').later hl
  · exact fun m hm => (hG.hands m hm).later hl fun pid _ => .of_same hp (placedQty_congr hg)

theorem Later.trans (hl : Later w w') (hl' : Later w' w'') : Later w w'' := by
  intro pid row hrow
  obtain ⟨row', hrow', hq, hrank⟩ := hl pid row hrow
  obtain ⟨row'', hrow'', hq', hrank'⟩ := hl' pid row' hrow'
  exact ⟨row'', hrow'', hq'.trans hq, hrank.trans hrank'⟩

variable {c c' : Pool Op Resp Exn CycleReport World Phase}

/-- **Any run of safe steps** keeps the invariant and moves rows only forward.
Source: none: infrastructure. Kind: P -/
theorem guarded_run (hd : (cycles strategies).Disciplined c) (hG : Guarded c.shared c.phases)
    (h : (cycles strategies).Run (fun s ms act => safeStep s ms act = true) c c') :
    (Guarded c'.shared c'.phases ∧ Later c.shared c'.shared) ∧
      (cycles strategies).Disciplined c' := by
  refine h.invariant (runCycle_follows strategies)
    (I := fun s ms => Guarded s ms ∧ Later c.shared s) ?_ ?_ ?_ hd ⟨hG, .refl⟩
  · exact fun s ms hI => ⟨guarded_spawn hI.1, hI.2⟩
  · intro s ms v hI _
    obtain ⟨hG', hl⟩ := guarded_event hI.1 v
    exact ⟨hG', hI.2.trans hl⟩
  · intro s ms t m e a hI hm hallows hok
    obtain ⟨hG', hl⟩ := guarded_perform hI.1 hm hallows hok
    exact ⟨hG', hI.2.trans hl⟩

theorem guarded_pool (hw : BookInOrder w) :
    Guarded (pool w : Pool Op Resp Exn CycleReport World Phase).shared (pool w).phases :=
  ⟨hw, fun _ hm => absurd hm List.not_mem_nil, fun _ hm => absurd hm List.not_mem_nil,
    fun _ _ _ _ _ hm => absurd hm (by simp [pool, Pool.phases])⟩

/-- **However cycles interleave**, no more of a position is placed than it was opened with, and a
position that is closed stays closed, as long as every step is safe.
Source: `app/loops/loop_a_runtime.py` `LoopARunner._monitor_positions_once`. Kind: P -/
theorem concurrent_closes (hw : BookInOrder w)
    (h : (cycles strategies).Run (fun s ms act => safeStep s ms act = true) (pool w) c) :
    (∀ pid row, c.shared.positions.get? pid = some row → c.shared.placedQty pid ≤ row.quantity) ∧
      ∀ c', (cycles strategies).Run (fun s ms act => safeStep s ms act = true) c c' → ∀ pid row,
        c.shared.positions.get? pid = some row → ∃ row', c'.shared.positions.get? pid = some row' ∧
          row'.quantity = row.quantity ∧ (row.state = .CLOSED → row'.state = .CLOSED) := by
  obtain ⟨⟨hG, -⟩, hd⟩ := guarded_run disciplined_pool (guarded_pool hw) h
  refine ⟨fun pid row hrow => (hG.rows pid row hrow).2, fun c' h' pid row hrow => ?_⟩
  obtain ⟨⟨-, hl⟩, -⟩ := guarded_run hd hG h'
  obtain ⟨row', hrow', hq, hrank⟩ := hl pid row hrow
  refine ⟨row', hrow', hq, fun hclosed => ?_⟩
  rw [hclosed] at hrank
  cases hs : row'.state with
  | CLOSED => rfl
  | OPEN =>
      rw [hs] at hrank
      exact absurd hrank (by decide)
  | HALF_CLOSED =>
      rw [hs] at hrank
      exact absurd hrank (by decide)

/-! ## Two cycles at once -/

/-- `n` calls of cycle `i`, with the live price and the defaults of `Answer`.
Source: none: infrastructure. Kind: D -/
def calls (n i : ℕ) (price : ℚ) : List (Label Answer Event) :=
  List.replicate n (.resume i { price })

/-- Two cycles read the open share at once; one of them has a price at which it does nothing.
Source: none: infrastructure. Kind: D -/
def bystander : List (Label Answer Event) :=
  [.spawn, .spawn] ++ calls 4 0 100 ++ calls 13 1 90 ++ calls 6 0 100

/-- The theorem at `bystander`. Source: none: infrastructure. Kind: C -/
theorem concurrent_closes_bystander :
    ∃ c, (cycles []).replay safeStep (pool (OrderingRepository.openPosition {} oneShare)) bystander =
        some c ∧
      ∀ pid row, c.shared.positions.get? pid = some row → c.shared.placedQty pid ≤ row.quantity := by
  have hsome : ((cycles []).replay safeStep (pool (OrderingRepository.openPosition {} oneShare))
      bystander).isSome = true := by decide +kernel
  obtain ⟨c, hc⟩ := Option.isSome_iff_exists.mp hsome
  have hbook : BookInOrder (OrderingRepository.openPosition {} oneShare) :=
    BookInOrder.openPosition ⟨fun _ _ hrow => absurd hrow (by simp), fun _ _ => rfl⟩ one_pos
  exact ⟨c, hc, (concurrent_closes hbook (System.run_of_replay hc)).1⟩

/-- The gateway accepts every order. Source: none: infrastructure. Kind: D -/
def accepting (_ : World) (_ : List Phase) : CycleAct → Bool
  | .perform _ (.placeOrder _ _) a => a.accepts
  | _ => true

/-- **Two cycles at once**: both read the open share before either sells it. One closes it at the
stop; the other sells half at the take-profit and writes the closed row back.
Source: `app/services/loop_runtime.py` `LoopRuntimeCoordinator.run_cycle`. Kind: C -/
theorem sold_and_reopened :
    ∃ c c', (cycles []).Run (fun s ms act => accepting s ms act = true)
        (pool (OrderingRepository.openPosition {} oneShare)) c ∧
      (cycles []).Run (fun s ms act => accepting s ms act = true) c c' ∧
      (∃ row ∈ c.shared.positions.get? 1, row.state = .CLOSED) ∧
      ∃ row' ∈ c'.shared.positions.get? 1, row'.state = .HALF_CLOSED ∧
        row'.quantity < c'.shared.placedQty 1 := by
  have hfirst : (((cycles []).replay accepting (pool (OrderingRepository.openPosition {} oneShare))
      ([.spawn, .spawn] ++ calls 4 0 90 ++ calls 4 1 110 ++ calls 9 0 90)).any fun c =>
        (c.shared.positions.get? 1).any (fun row => row.state = .CLOSED) &&
        ((cycles []).replay accepting c (calls 8 1 110)).any fun c' =>
          (c'.shared.positions.get? 1).any fun row' => row'.state = .HALF_CLOSED ∧
            row'.quantity < c'.shared.placedQty 1) = true := by decide +kernel
  obtain ⟨c, hc, hboth⟩ := (Option.any_eq_true _ _).mp hfirst
  obtain ⟨hclosed, hsecond⟩ := (Bool.and_eq_true _ _).mp hboth
  obtain ⟨c', hc', hreopened⟩ := (Option.any_eq_true _ _).mp hsecond
  obtain ⟨row, hrow, hst⟩ := (Option.any_eq_true _ _).mp hclosed
  obtain ⟨row', hrow', hst'⟩ := (Option.any_eq_true _ _).mp hreopened
  exact ⟨c, c', System.run_of_replay hc, System.run_of_replay hc',
    ⟨row, hrow, of_decide_eq_true hst⟩, row', hrow', of_decide_eq_true hst'⟩

end HaruTrade
