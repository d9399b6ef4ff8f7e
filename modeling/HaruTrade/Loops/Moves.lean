import HaruTrade.Loops.LoopA

/-!
# What a sequential pass of Loop A does to the book

The abstract view of a pass that no other task interrupts: a chain of *moves* on the positions, the
order rows and the gateway log. A move is an entry, a close of one position, a new level of one
position, or nothing; a close or a level is decided from the row as it stands (`Decided`).

* `Move` — **what one step of a pass can do**, with the guards of the source; every invariant of
  sequential runs is proved from its four cases.
* `exec_monitorPosition` — the monitoring of one position is a move.
* `exec_runOnce` — **a pass is a chain of moves** in which every position has at most one.
-/

namespace HaruTrade

open Coro OrderService TradingService

/-! ## Moves -/

/-- The position table after the transition of one row. Source: none: infrastructure. Kind: D -/
def applied (t : Table Position.id) (pid : ℕ) (tr : Transition) : Table Position.id :=
  t.modify pid (Position.apply · tr) (Position.apply_id · tr)

/-- The position table after the bookkeeping of a close. Source: none: infrastructure. Kind: D -/
def Booking.transitioned (t : Table Position.id) (pid : ℕ) (tr : Transition) :
    Booking → Table Position.id
  | .nothing => t
  | .order => t
  | .position => applied t pid tr

namespace LoopARunner

/-- The transition was decided for the row that is in the table, which is not closed.
Source: `app/loops/loop_a_runtime.py` `LoopARunner._monitor_positions_once`. Kind: D -/
structure Decided (R : Regime) (w : World) (p : Position) (price : ℚ) (tr : Transition) :
    Prop where
  row : w.positions.get? p.id = some p
  notClosed : p.state ≠ .CLOSED
  decides : R.decides p price
  transition : ∃ atr mult, tr = PositionStateMachine.decide p.snapshot price atr mult

/-- How far the bookkeeping of a close can get: a refused order leaves no trace, an accepted one is
fully booked unless a write fails. Source: `app/loops/loop_a_runtime.py`
`LoopARunner._monitor_positions_once`. Kind: D -/
def CloseBooked (R : Regime) (ok : Bool) (b : Booking) : Prop :=
  (ok = false ∧ b = .nothing) ∨ (ok = true ∧ (b = .position ∨ R.writesFail))

/-- **A close was tried.** Source: `app/loops/loop_a_runtime.py`
`LoopARunner._monitor_positions_once`. Kind: D -/
structure CloseTried (R : Regime) (p : Position) (price : ℚ) (tr : Transition)
    (evs : List GatewayEvent) (r : OrderResult) (b : Booking) (w w' : World) : Prop where
  decided : Decided R w p price tr
  asks : 0 < tr.closeQty
  placed : R.place w (closeTicket p tr)
  reconciled : Reconciled (closeTicket p tr) evs r
  event : ∀ ev ∈ evs, R.event ev
  booked : CloseBooked R r.ok b
  gateway : w'.gateway = w.gateway ++ evs
  orders : w'.orders = b.orders w.orders (closeOrderArgs p tr price r)
  positions : w'.positions = b.transitioned w.positions p.id tr

/-- **New levels were stored.** Source: `app/loops/loop_a_runtime.py`
`LoopARunner._monitor_positions_once`. Kind: D -/
structure Tracked (R : Regime) (p : Position) (price : ℚ) (tr : Transition) (w w' : World) :
    Prop where
  decided : Decided R w p price tr
  holds : ¬ 0 < tr.closeQty
  changes : tr.newHighest ≠ p.highestPrice ∨ tr.newTrailingStop ≠ p.trailingStopPrice
  gateway : w'.gateway = w.gateway
  orders : w'.orders = w.orders
  positions : w'.positions = applied w.positions p.id tr

/-- **A move**, labelled with the position it is about. Source: none: infrastructure. Kind: D -/
inductive Move (R : Regime) : Option ℕ → World → World → Prop
  | quiet {w w'} (h : Untouched w w') : Move R none w w'
  | entry {signal evs r b w w'} (hs : R.take signal) (h : Entered R signal evs r b w w') : Move R none w w'
  | close {p price tr evs r b w w'} (h : CloseTried R p price tr evs r b w w') :
      Move R (some p.id) w w'
  | track {p price tr w w'} (h : Tracked R p price tr w w') : Move R (some p.id) w w'

/-- A chain of moves and the positions they are about, in order.
Source: none: infrastructure. Kind: D -/
inductive Moves (R : Regime) : List ℕ → World → World → Prop
  | nil {w} : Moves R [] w w
  | quiet {w w₁ w' ids} (h : Move R none w w₁) (t : Moves R ids w₁ w') : Moves R ids w w'
  | cons {w w₁ w' pid ids} (h : Move R (some pid) w w₁) (t : Moves R ids w₁ w') :
      Moves R (pid :: ids) w w'

variable {R : Regime} {w w₁ w' : World} {p : Position} {price : ℚ} {tr : Transition}
  {l : Option ℕ} {ids : List ℕ}

theorem get?_applied {t : Table Position.id} {pid k : ℕ} :
    (applied t pid tr).get? k = if k = pid then (t.get? k).map (Position.apply · tr)
      else t.get? k := Table.get?_modify

/-- **A move about another position keeps a row.** Source: none: infrastructure. Kind: L -/
theorem Move.get?_of_ne (h : Move R l w w') {k : ℕ} {q : Position}
    (hq : w.positions.get? k = some q) (hne : l ≠ some k) : w'.positions.get? k = some q := by
  cases h with
  | quiet h => rwa [h.positions]
  | @entry signal evs r b _ _ _ h =>
      obtain ⟨orderId, hp⟩ := h.positions
      cases b with
      | nothing => rwa [hp]
      | order => rwa [hp]
      | position =>
          have hfresh : k ≠ w.positions.fresh := by
            rintro rfl
            rw [Table.get?_fresh] at hq
            cases hq
          rw [hp, Booking.opened, Table.get?_add, if_neg hfresh, hq]
  | @close p price tr evs r b _ _ h =>
      have hk : k ≠ p.id := fun hk => hne (by rw [hk])
      rw [h.positions]
      cases b with
      | nothing => exact hq
      | order => exact hq
      | position => rw [Booking.transitioned, get?_applied, if_neg hk, hq]
  | @track p price tr _ _ h =>
      have hk : k ≠ p.id := fun hk => hne (by rw [hk])
      rw [h.positions, get?_applied, if_neg hk, hq]

/-- A move keeps rows. Source: none: infrastructure. Kind: L -/
theorem Move.exists_row (h : Move R l w w') {k : ℕ} {q : Position}
    (hq : w.positions.get? k = some q) : ∃ q', w'.positions.get? k = some q' := by
  by_cases hl : l = some k
  swap
  · exact ⟨q, h.get?_of_ne hq hl⟩
  subst hl
  cases h with
  | @close p price tr evs r b _ _ h =>
      rw [h.positions]
      cases b with
      | nothing => exact ⟨q, hq⟩
      | order => exact ⟨q, hq⟩
      | position => exact ⟨q.apply tr, by rw [Booking.transitioned, get?_applied, if_pos rfl, hq]; rfl⟩
  | @track p price tr _ _ h =>
      exact ⟨q.apply tr, by rw [h.positions, get?_applied, if_pos rfl, hq]; rfl⟩

/-- A move about one position, or about none, keeps the open rows of the others.
Source: none: infrastructure. Kind: L -/
theorem Move.rows (h : Move R none w w' ∨ Move R (some p.id) w w') {ps : List Position}
    (hrows : ∀ q ∈ ps, w.positions.get? q.id = some q ∧ q.state ≠ .CLOSED)
    (hnotin : p.id ∉ ps.map Position.id) :
    ∀ q ∈ ps, w'.positions.get? q.id = some q ∧ q.state ≠ .CLOSED := by
  intro q hq
  obtain ⟨hrow, hst⟩ := hrows q hq
  have hne : p.id ≠ q.id := fun he => hnotin (he ▸ List.mem_map_of_mem hq)
  rcases h with hm | hm
  · exact ⟨hm.get?_of_ne hrow nofun, hst⟩
  · exact ⟨hm.get?_of_ne hrow fun he => hne (Option.some.inj he), hst⟩

theorem Moves.get?_of_notMem (h : Moves R ids w w') {k : ℕ} {q : Position}
    (hq : w.positions.get? k = some q) (hk : k ∉ ids) : w'.positions.get? k = some q := by
  induction h with
  | nil => exact hq
  | quiet h _ ih => exact ih (h.get?_of_ne hq nofun) hk
  | @cons _ _ _ pid ids h _ ih =>
      obtain ⟨hne, hk⟩ := not_or.mp (List.mem_cons.not.mp hk)
      exact ih (h.get?_of_ne hq fun he => hne (Option.some.inj he).symm) hk

/-! ## One position -/

/-- The calls that only look. Source: none: infrastructure. Kind: D -/
def Looks (e : Op) : Prop := ∀ a w, (exec e a w).2 = w

/-- The calls that reading a price, an ATR and a multiplier makes.
Source: none: infrastructure. Kind: D -/
def observes (pid : ℕ) : Op → Prop
  | .livePrice i _ => i = pid
  | .openSession (.price i) => i = pid
  | .openSession (.atr i) => i = pid
  | .getLatestClose i _ => i = pid
  | .listRecent (.atr i) _ _ _ => i = pid
  | .configFloat i _ => i = pid
  | _ => False

theorem looks_of_observes {pid : ℕ} {e : Op} (h : observes pid e) : Looks e := by
  intro a w
  cases e <;> simp only [observes] at h <;> simp only [exec, queried_snd]
  split <;> rfl

theorem uses_getCurrentPrice {pid : ℕ} {ticker : String} :
    Uses (observes pid) (LivePriceProvider.getCurrentPrice pid ticker) := by
  have hdb : Uses (observes pid) (DbPriceProvider.getCurrentPrice pid ticker) := by
    exact uses_catchSql (Uses.bind (uses_orRaise (by simp [observes])) fun _ =>
      Uses.bind (uses_orRaise (by simp [observes])) fun _ => uses_ret) fun _ => uses_ret
  refine Uses.bind (by simp [observes]) fun r => ?_
  cases r with
  | error x => exact hdb
  | ok v => by_cases hv : 0 < v <;> simp [hv, hdb]

theorem uses_getAtr {pid : ℕ} {ticker : String} :
    Uses (observes pid) (DbAtrProvider.getAtr pid ticker) := by
  refine Uses.bind (uses_catchSql (Uses.bind (uses_orRaise (by simp [observes])) fun _ =>
    Uses.bind (uses_orRaise (by simp [observes])) fun _ => uses_ret) fun _ => uses_ret) fun rows => ?_
  cases rows with
  | none => trivial
  | some rows =>
      by_cases hlen : rows.length < 2
      · simp [hlen]
      · simp only [hlen, if_false]
        exact Uses.bind uses_ofExcept fun _ => uses_ret

theorem uses_resolveTrailAtrMult {pid : ℕ} {strategyId : String} :
    Uses (observes pid) (resolveTrailAtrMult pid strategyId) := by
  refine Uses.bind (by simp [observes]) fun r => ?_
  cases r with
  | ok v => trivial
  | error x =>
      cases x with
      | lookup t => exact uses_orRaise (by simp [observes])
      | sqlalchemy t => trivial
      | other t => trivial

/-- The calls of the monitor: it looks, places orders, and books what they did.
Source: none: infrastructure. Kind: D -/
def monitors : Op → Prop
  | .openSession _ | .listOpenPositions _ | .getLatestClose _ _ | .listRecent (.atr _) _ _ _ => True
  | .livePrice _ _ | .configFloat _ _ | .decide _ _ _ _ => True
  | .placeOrder _ _ | .getOrderStatus _ _ _ | .critical _ _ => True
  | .createOrder _ | .applyTransition _ _ => True
  | _ => False

theorem monitors_of_observes {pid : ℕ} {e : Op} (h : observes pid e) : monitors e := by
  cases e with
  | listRecent use ticker timeframe limit =>
      cases use with
      | atr i => trivial
      | scan => exact h
  | openSession use => trivial
  | livePrice i ticker => trivial
  | getLatestClose i ticker => trivial
  | configFloat i key => trivial
  | _ => exact h.elim

section monitor

variable {c : Tally}

theorem uses_reported {α : Type} {code message : String} {v : α} :
    Uses monitors ((critical code message).bind fun _ => (ret v : Prog α)) :=
  Uses.bind (uses_perform.mpr trivial) fun _ => uses_ret

theorem uses_observe : Uses monitors (observe p) := by
  refine Uses.bind (uses_getCurrentPrice.mono fun _ => monitors_of_observes) fun _ => ?_
  refine Uses.bind (uses_getAtr.mono fun _ => monitors_of_observes) fun _ => ?_
  refine Uses.bind (uses_resolveTrailAtrMult.mono fun _ => monitors_of_observes) fun _ => ?_
  exact Uses.bind (uses_perform.mpr trivial) fun _ => uses_ret

theorem uses_trackPosition : Uses monitors (trackPosition p tr c) := by
  refine uses_catchSql ?_ fun _ => uses_reported
  exact Uses.bind (uses_orRaise (uses_perform.mpr trivial)) fun _ => uses_ret

theorem uses_recordClose {r : OrderResult} : Uses monitors (recordClose p tr price r c) := by
  refine uses_catchSql ?_ fun _ => uses_reported
  refine Uses.bind (uses_orRaise (uses_perform.mpr trivial)) fun _ => ?_
  exact Uses.bind (uses_orRaise (uses_perform.mpr trivial)) fun _ => uses_ret

theorem uses_closePosition : Uses monitors (closePosition p tr price c) := by
  refine Uses.bind (uses_placeWithReconcile (fun _ => trivial) (fun _ _ => trivial)
    fun _ _ => trivial) fun r => ?_
  by_cases hok : r.ok = true
  · rw [if_pos hok]
    exact uses_recordClose
  · rw [if_neg hok]
    exact uses_reported

theorem uses_carryOut : Uses monitors (carryOut p tr price c) := by
  refine Uses.bind (uses_perform.mpr trivial) fun session => ?_
  cases session with
  | error x =>
      cases x with
      | sqlalchemy text => exact uses_reported
      | lookup text => exact uses_raise
      | other text => exact uses_raise
  | ok _ =>
      dsimp only
      split
      · exact uses_closePosition
      · split
        · exact uses_trackPosition
        · exact uses_ret

theorem uses_monitorPosition : Uses monitors (monitorPosition p c) :=
  Uses.bind uses_observe fun _ => uses_carryOut

theorem uses_monitorLoop (ps : List Position) (c : Tally) : Uses monitors (monitorLoop ps c) := by
  induction ps generalizing c with
  | nil => exact uses_ret
  | cons p ps ih => exact Uses.bind uses_monitorPosition fun c => ih c

/-- **The monitor's calls.** Source: `app/loops/loop_a_runtime.py`
`LoopARunner._monitor_positions_once`. Kind: L -/
theorem uses_monitorPositionsOnce : Uses monitors monitorPositionsOnce := by
  refine Uses.bind (uses_catchSql ?_ fun _ => uses_reported) fun ps => ?_
  · refine Uses.bind (uses_orRaise (uses_perform.mpr trivial)) fun _ => ?_
    exact Uses.bind (uses_orRaise (uses_perform.mpr trivial)) fun _ => uses_ret
  · cases ps with
    | none => exact uses_ret
    | some ps => exact uses_monitorLoop ps _

end monitor

/-- Looking leaves the world as it is. Source: none: infrastructure. Kind: L -/
theorem eq_of_looks {α : Type} {prog : Prog α} {out : Except Exn α} {pid : ℕ}
    (hu : Uses (observes pid) prog) (h : Exec exec R.ok prog w out w') : w' = w :=
  hu.exec_rel (K := fun s s' => s' = s) (fun _ => rfl) (fun _ _ _ h h' => h'.trans h)
    (fun _ _ _ hl _ => looks_of_observes hl _ _) h

/-- **What is decided** for a position, and that deciding leaves the world as it is.
Source: `app/loops/loop_a_runtime.py` `LoopARunner._monitor_positions_once`. Kind: L -/
theorem exec_observe {out : Except Exn (ℚ × Transition)}
    (h : Exec exec R.ok (observe p) w out w') :
    w' = w ∧ ∀ price tr, out = .ok (price, tr) → R.decides p price ∧
      ∃ atr mult, tr = PositionStateMachine.decide p.snapshot price atr mult := by
  simp only [observe, bind_eq, pure_eq, perform_bind] at h
  rw [exec_bind_iff] at h
  rcases h with ⟨price, w₁, h₁, h⟩ | ⟨x, rfl, h₁⟩
  swap
  · exact ⟨eq_of_looks uses_getCurrentPrice h₁, by simp⟩
  obtain rfl := eq_of_looks uses_getCurrentPrice h₁
  rw [exec_bind_iff] at h
  rcases h with ⟨atr, w₂, h₂, h⟩ | ⟨x, rfl, h₂⟩
  swap
  · exact ⟨eq_of_looks uses_getAtr h₂, by simp⟩
  obtain rfl := eq_of_looks uses_getAtr h₂
  rw [exec_bind_iff] at h
  rcases h with ⟨mult, w₃, h₃, h⟩ | ⟨x, rfl, h₃⟩
  swap
  · exact ⟨eq_of_looks uses_resolveTrailAtrMult h₃, by simp⟩
  obtain rfl := eq_of_looks uses_resolveTrailAtrMult h₃
  simp only [exec_call_iff, exec_ret_iff, exec] at h
  obtain ⟨a, hdec, rfl, rfl⟩ := h
  refine ⟨rfl, fun price' tr he => ?_⟩
  cases he
  exact ⟨hdec, atr, mult, rfl⟩

/-- A reported failure changes only the flags. Source: `app/loops/loop_a_runtime.py`
`LoopARunner._critical`. Kind: L -/
theorem exec_reported {α : Type} {code message : String} {v : α} {out : Except Exn α}
    (h : Exec exec R.ok ((critical code message).bind fun _ => ret v) w out w') :
    out = .ok v ∧ Untouched w w' := by
  simp only [exec_bind_iff, exec_ret_iff] at h
  rcases h with ⟨_, w₁, h, rfl, rfl⟩ | ⟨x, -, h⟩
  · obtain ⟨-, rt, rfl⟩ := exec_critical h
    exact ⟨rfl, rfl, rfl, rfl⟩
  · cases (exec_critical h).1

/-- A guarded part whose handler reports ends as its body does, up to the flags, and it returns if its
body raises database errors only. Source: none: infrastructure. Kind: L -/
theorem exec_catchSql_reported {α : Type} {prog : Prog α} {code : String} {v : α}
    {out : Except Exn α}
    (h : Exec exec R.ok (catchSql prog fun t => (critical code t).bind fun _ => ret v) w out w') :
    ∃ out₁ w₁, Exec exec R.ok prog w out₁ w₁ ∧ Untouched w₁ w' ∧
      ((∀ x, out₁ = .error x → ∃ t, x = .sqlalchemy t) → ∃ v', out = .ok v') := by
  rw [catchSql, exec_tryCatch_iff] at h
  rcases h with ⟨a, rfl, h⟩ | ⟨x, w₁, h, h'⟩
  · exact ⟨_, _, h, .refl, fun _ => ⟨a, rfl⟩⟩
  · refine ⟨_, w₁, h, ?_⟩
    cases x with
    | sqlalchemy t =>
        obtain ⟨hout, hu⟩ := exec_reported h'
        exact ⟨hu, fun _ => ⟨v, hout⟩⟩
    | lookup t =>
        obtain ⟨-, rfl⟩ := exec_raise_iff.mp h'
        exact ⟨.refl, fun hsql => nomatch hsql _ rfl⟩
    | other t =>
        obtain ⟨-, rfl⟩ := exec_raise_iff.mp h'
        exact ⟨.refl, fun hsql => nomatch hsql _ rfl⟩

/-- Applying a transition to a row that exists stores it, unless the write fails.
Source: `app/repositories/ordering.py` `OrderingRepository.apply_transition`. Kind: L -/
theorem exec_applyTransition_cases (a : Answer) (tr : Transition) {pid : ℕ} {row : Position}
    (hrow : w.positions.get? pid = some row) :
    exec (.applyTransition pid tr) a w =
        (.ok (row.apply tr), OrderingRepository.applyTransition w pid tr) ∨
      a.db ≠ none ∧ ∃ t, exec (.applyTransition pid tr) a w = (.error (.sqlalchemy t), w) ∨
        exec (.applyTransition pid tr) a w =
          (.error (.sqlalchemy t), OrderingRepository.applyTransition w pid tr) := by
  simp only [exec, hrow]
  exact committed_cases _ _ _ _

/-- Source: `app/loops/loop_a_runtime.py` `LoopARunner._monitor_positions_once`. Kind: L -/
theorem exec_trackPosition {c : Tally} {row : Position} {out : Except Exn Tally}
    (hrow : w.positions.get? p.id = some row)
    (h : Exec exec R.ok (trackPosition p tr c) w out w') :
    (∃ c', out = .ok c') ∧ (Untouched w w' ∨ w'.gateway = w.gateway ∧ w'.orders = w.orders ∧
      w'.positions = applied w.positions p.id tr) := by
  obtain ⟨out₁, w₁, h, hw₁, hreturns⟩ := exec_catchSql_reported h
  simp only [bind_eq, orRaise, perform_bind, call_bind, exec_call_iff] at h
  obtain ⟨a, -, h⟩ := h
  rcases exec_applyTransition_cases a tr hrow with hc | ⟨-, t, hc | hc⟩ <;>
    simp only [hc, ofExcept_ok_bind, ofExcept_error_bind, exec_raise_iff, pure_eq,
      exec_ret_iff] at h <;>
    obtain ⟨rfl, rfl⟩ := h <;>
    refine ⟨hreturns (by simp), ?_⟩
  · exact .inr ⟨hw₁.gateway, hw₁.orders, hw₁.positions⟩
  · exact .inl hw₁
  · exact .inr ⟨hw₁.gateway, hw₁.orders, hw₁.positions⟩

/-- Source: `app/loops/loop_a_runtime.py` `LoopARunner._monitor_positions_once`. Kind: L -/
theorem exec_recordClose {r : OrderResult} {c : Tally} {row : Position} {out : Except Exn Tally}
    (hrow : w.positions.get? p.id = some row)
    (h : Exec exec R.ok (recordClose p tr price r c) w out w') :
    (∃ c', out = .ok c') ∧ ∃ b : Booking, (b = .position ∨ R.writesFail) ∧
      w'.gateway = w.gateway ∧ w'.orders = b.orders w.orders (closeOrderArgs p tr price r) ∧
      w'.positions = b.transitioned w.positions p.id tr := by
  obtain ⟨out₁, w₁, h, hw₁, hreturns⟩ := exec_catchSql_reported h
  simp only [bind_eq, orRaise, perform_bind, call_bind, exec_call_iff] at h
  obtain ⟨a, ha, h⟩ := h
  simp only [exec] at h
  generalize hargs : closeOrderArgs p tr price r = args at h ha
  rcases committed_cases a (args.row w.orders.fresh) w (OrderingRepository.createOrder w args) with
    hc | ⟨hf, t, hc | hc⟩ <;>
    simp only [hc, ofExcept_ok_bind, ofExcept_error_bind, exec_raise_iff] at h
  rotate_left
  · obtain ⟨rfl, rfl⟩ := h
    exact ⟨hreturns (by simp), .nothing, .inr (ha hf), hw₁.gateway, hw₁.orders, hw₁.positions⟩
  · obtain ⟨rfl, rfl⟩ := h
    exact ⟨hreturns (by simp), .order, .inr (ha hf), hw₁.gateway, hw₁.orders, hw₁.positions⟩
  simp only [exec_call_iff] at h
  obtain ⟨a', ha', h⟩ := h
  have hrow' : (OrderingRepository.createOrder w args).positions.get? p.id = some row := hrow
  rcases exec_applyTransition_cases a' tr hrow' with hc | ⟨hf, t, hc | hc⟩ <;>
    simp only [hc, ofExcept_ok_bind, ofExcept_error_bind, exec_raise_iff, pure_eq,
      exec_ret_iff] at h <;>
    obtain ⟨rfl, rfl⟩ := h <;>
    refine ⟨hreturns (by simp), ?_⟩
  · exact ⟨.position, .inl rfl, hw₁.gateway, hw₁.orders, hw₁.positions⟩
  · exact ⟨.order, .inr (ha' hf), hw₁.gateway, hw₁.orders, hw₁.positions⟩
  · exact ⟨.position, .inl rfl, hw₁.gateway, hw₁.orders, hw₁.positions⟩

/-- Source: `app/loops/loop_a_runtime.py` `LoopARunner._monitor_positions_once`. Kind: L -/
theorem exec_closePosition {c : Tally} {out : Except Exn Tally} (hd : Decided R w p price tr)
    (hq : 0 < tr.closeQty) (h : Exec exec R.ok (closePosition p tr price c) w out w') :
    (∃ c', out = .ok c') ∧ ∃ evs r b, CloseTried R p price tr evs r b w w' := by
  simp only [closePosition, bind_eq, exec_bind_iff] at h
  rcases h with ⟨r, w₁, h₁, h⟩ | ⟨x, rfl, h₁⟩
  swap
  · obtain ⟨_, _, _, hout, _⟩ := exec_placeWithReconcile h₁
    cases hout
  obtain ⟨hplace, evs, _, hr, hrec, hev, rt, rfl⟩ := exec_placeWithReconcile h₁
  cases hr
  cases hok : r.ok with
  | false =>
      simp only [hok, Bool.false_eq_true, if_false] at h
      obtain ⟨hout, hu⟩ := exec_reported h
      exact ⟨⟨_, hout⟩, evs, r, .nothing, hd, hq, hplace, hrec, hev, .inl ⟨hok, rfl⟩, hu.gateway,
        hu.orders, hu.positions⟩
  | true =>
      simp only [hok, if_true] at h
      have hrow : ({ w with runtime := rt, gateway := w.gateway ++ evs } : World).positions.get?
          p.id = some p := hd.row
      obtain ⟨hout, b, hb, hg, ho, hp⟩ := exec_recordClose hrow h
      exact ⟨hout, evs, r, b, hd, hq, hplace, hrec, hev, .inr ⟨hok, hb⟩, hg, ho, hp⟩

/-- **Carrying a decision out is a move**, about the position or quiet, and it returns.
Source: `app/loops/loop_a_runtime.py` `LoopARunner._monitor_positions_once`. Kind: P -/
theorem exec_carryOut {c : Tally} {out : Except Exn Tally} (hd : Decided R w p price tr)
    (h : Exec exec R.ok (carryOut p tr price c) w out w') :
    (∃ c', out = .ok c') ∧ (Move R none w w' ∨ Move R (some p.id) w w') := by
  simp only [carryOut, bind_eq, perform_bind, exec_call_iff, exec] at h
  obtain ⟨a, -, h⟩ := h
  cases hdb : a.db with
  | some f =>
      -- the session of the update fails
      cases f <;> simp only [Answer.queried, hdb, DbFault.exn] at h <;>
        obtain ⟨hout, hu⟩ := exec_reported h <;>
        exact ⟨⟨_, hout⟩, .inl (.quiet hu)⟩
  | none =>
      simp only [Answer.queried, hdb] at h
      by_cases hq : 0 < tr.closeQty
      · simp only [hq, if_true] at h
        obtain ⟨hout, evs, r, b, hc⟩ := exec_closePosition hd hq h
        exact ⟨hout, .inr (.close hc)⟩
      · simp only [hq, if_false] at h
        by_cases hch : tr.newHighest ≠ p.highestPrice ∨ tr.newTrailingStop ≠ p.trailingStopPrice
        · rw [if_pos hch] at h
          obtain ⟨hout, hu | ⟨hg, ho, hp⟩⟩ := exec_trackPosition hd.row h
          · exact ⟨hout, .inl (.quiet hu)⟩
          · exact ⟨hout, .inr (.track ⟨hd, hq, hch, hg, ho, hp⟩)⟩
        · rw [if_neg hch] at h
          obtain ⟨hout, rfl⟩ := exec_ret_iff.mp h
          exact ⟨⟨_, hout⟩, .inl (.quiet .refl)⟩

/-- **Monitoring one position is a move**, about that position or quiet.
Source: `app/loops/loop_a_runtime.py` `LoopARunner._monitor_positions_once`. Kind: P -/
theorem exec_monitorPosition {c : Tally} {out : Except Exn Tally}
    (hrow : w.positions.get? p.id = some p) (hopen : p.state ≠ .CLOSED)
    (h : Exec exec R.ok (monitorPosition p c) w out w') :
    Move R none w w' ∨ Move R (some p.id) w w' := by
  rw [monitorPosition, bind_eq, exec_bind_iff] at h
  rcases h with ⟨⟨price, tr⟩, w₁, h₁, h⟩ | ⟨x, rfl, h₁⟩
  · obtain ⟨rfl, htr⟩ := exec_observe h₁
    obtain ⟨hdecides, hdecide⟩ := htr price tr rfl
    exact (exec_carryOut ⟨hrow, hopen, hdecides, hdecide⟩ h).2
  · obtain ⟨rfl, -⟩ := exec_observe h₁
    exact .inl (.quiet .refl)

/-! ## The pass -/

/-- **The monitoring loop is a chain of moves** about some of its rows, each at most once. The
invariant is that the rows still to come are in the table as they were read.
Source: `app/loops/loop_a_runtime.py` `LoopARunner._monitor_positions_once`. Kind: P -/
theorem exec_monitorLoop {ps : List Position} {c : Tally} {out : Except Exn Tally}
    (hrows : ∀ p ∈ ps, w.positions.get? p.id = some p ∧ p.state ≠ .CLOSED)
    (hnd : (ps.map Position.id).Nodup) (h : Exec exec R.ok (monitorLoop ps c) w out w') :
    ∃ ids, ids.Sublist (ps.map Position.id) ∧ Moves R ids w w' := by
  induction ps generalizing c w with
  | nil =>
      obtain ⟨-, rfl⟩ := exec_ret_iff.mp h
      exact ⟨[], .slnil, .nil⟩
  | cons p ps ih =>
      obtain ⟨hp, hopen⟩ := hrows p (by simp)
      rw [List.map_cons, List.nodup_cons] at hnd
      obtain ⟨hnotin, hnd⟩ := hnd
      rw [monitorLoop, bind_eq, exec_bind_iff] at h
      rcases h with ⟨c', w₁, h₁, h⟩ | ⟨x, rfl, h₁⟩
      · have hmove := exec_monitorPosition hp hopen h₁
        have hrest := Move.rows hmove (fun q hq => hrows q (List.mem_cons_of_mem _ hq)) hnotin
        obtain ⟨ids, hids, hms⟩ := ih hrest hnd h
        rcases hmove with hm | hm
        · exact ⟨ids, hids.cons _, .quiet hm hms⟩
        · exact ⟨p.id :: ids, hids.cons_cons _, .cons hm hms⟩
      · rcases exec_monitorPosition hp hopen h₁ with hm | hm
        · exact ⟨[], List.nil_sublist _, .quiet hm .nil⟩
        · exact ⟨[p.id], (List.nil_sublist _).cons_cons _, .cons hm .nil⟩

/-- Source: `app/loops/loop_a_runtime.py` `LoopARunner._monitor_positions_once`. Kind: L -/
theorem exec_queryPositions {out : Except Exn (Option (List Position))}
    (h : Exec exec R.ok queryPositions w out w') :
    Untouched w w' ∧ ∀ ps, out = .ok (some ps) → ps = OrderingRepository.listOpenPositions w := by
  rw [queryPositions, catchSql, exec_tryCatch_iff] at h
  have hbody : ∀ {out₁ w₁}, Exec exec R.ok (do
      orRaise (ask (.openSession .positions))
      let positions ← orRaise (ask (.listOpenPositions .monitor))
      return some positions) w out₁ w₁ →
      w₁ = w ∧ ∀ ps, out₁ = .ok (some ps) → ps = OrderingRepository.listOpenPositions w := by
    intro out₁ w₁ h
    simp only [bind_eq, orRaise, perform_bind, call_bind, exec_call_iff, exec] at h
    obtain ⟨a, -, h⟩ := h
    rcases queried_cases a () w with hq | ⟨x, hq⟩ <;>
      simp only [hq, ofExcept_ok_bind, ofExcept_error_bind, exec_raise_iff, exec_call_iff,
        exec] at h
    swap
    · exact ⟨h.2, by simp [h.1]⟩
    obtain ⟨a, -, h⟩ := h
    rcases queried_cases a (OrderingRepository.listOpenPositions w) w with
      hq | ⟨x, hq⟩ <;>
      simp only [hq, ofExcept_ok_bind, ofExcept_error_bind, exec_raise_iff, pure_eq,
        exec_ret_iff] at h
    · exact ⟨h.2, fun ps he => by simpa [h.1] using he.symm⟩
    · exact ⟨h.2, by simp [h.1]⟩
  rcases h with ⟨a, rfl, h⟩ | ⟨x, w₁, h, h'⟩
  · obtain ⟨rfl, hps⟩ := hbody h
    exact ⟨.refl, hps⟩
  · obtain ⟨rfl, -⟩ := hbody h
    cases x with
    | sqlalchemy t =>
        obtain ⟨rfl, hu⟩ := exec_reported h'
        exact ⟨hu, by rintro ps ⟨⟩⟩
    | lookup t =>
        obtain ⟨rfl, rfl⟩ := exec_raise_iff.mp h'
        exact ⟨.refl, by rintro ps ⟨⟩⟩
    | other t =>
        obtain ⟨rfl, rfl⟩ := exec_raise_iff.mp h'
        exact ⟨.refl, by rintro ps ⟨⟩⟩

/-- Source: `app/loops/loop_a_runtime.py` `LoopARunner._monitor_positions_once`. Kind: P -/
theorem exec_monitorPositionsOnce {out : Except Exn Tally}
    (h : Exec exec R.ok monitorPositionsOnce w out w') : ∃ ids, ids.Nodup ∧ Moves R ids w w' := by
  rw [monitorPositionsOnce, bind_eq, exec_bind_iff] at h
  rcases h with ⟨ps, w₁, h₁, h⟩ | ⟨x, rfl, h₁⟩
  swap
  · exact ⟨[], List.nodup_nil, .quiet (.quiet (exec_queryPositions h₁).1) .nil⟩
  obtain ⟨hu, hps⟩ := exec_queryPositions h₁
  cases ps with
  | none =>
      obtain ⟨-, rfl⟩ := exec_ret_iff.mp h
      exact ⟨[], List.nodup_nil, .quiet (.quiet hu) .nil⟩
  | some ps =>
      obtain rfl := hps ps rfl
      have hrows : ∀ p ∈ OrderingRepository.listOpenPositions w,
          w₁.positions.get? p.id = some p ∧ p.state ≠ .CLOSED := by
        intro p hp
        rw [hu.positions]
        exact OrderingRepository.mem_listOpenPositions.mp hp
      obtain ⟨ids, hids, hms⟩ :=
        exec_monitorLoop hrows OrderingRepository.nodup_listOpenPositions h
      exact ⟨ids, hids.nodup OrderingRepository.nodup_listOpenPositions, .quiet (.quiet hu) hms⟩

/-- Consuming a signal: nothing of the book or the gateway changes, or the signal at the head of the
queue is entered. Source: `app/loops/loop_a_runtime.py` `LoopARunner._consume_signal_once`.
Kind: P -/
theorem exec_consumeSignalOnce {out : Except Exn Bool}
    (h : Exec exec R.ok consumeSignalOnce w out w') :
    Untouched w w' ∨
      ∃ signal rest evs r b, w.queue = signal :: rest ∧ R.take signal ∧
        Entered R signal evs r b w w' := by
  simp only [consumeSignalOnce, bind_eq, perform_bind, exec_call_iff, exec] at h
  obtain ⟨a, htake, h⟩ := h
  cases hqueue : w.queue with
  | nil =>
      simp only [hqueue] at h
      obtain ⟨-, rfl⟩ := exec_ret_iff.mp h
      exact .inl .refl
  | cons signal rest =>
      simp only [hqueue, pure_eq] at h
      rw [exec_tryCatch_iff] at h
      have hentry : ∀ {out₁ w₁}, Exec exec R.ok (executeFromSignal signal)
          { w with queue := rest } out₁ w₁ → Untouched w w₁ ∨
            ∃ evs r b, Entered R signal evs r b w w₁ := by
        intro out₁ w₁ h
        rcases exec_executeFromSignal h with hu | ⟨evs, r, b, he⟩
        · exact .inl ⟨hu.positions, hu.orders, hu.gateway⟩
        · exact .inr ⟨evs, r, b, he.reconciled, he.event, he.booked, he.gateway, he.orders,
            he.positions⟩
      have hfinal : ∃ out₁ w₁, Exec exec R.ok (executeFromSignal signal)
          { w with queue := rest } out₁ w₁ ∧ Untouched w₁ w' := by
        rcases h with ⟨b, rfl, h⟩ | ⟨x, w₁, h, h'⟩ <;> rw [exec_bind_iff] at h
        · rcases h with ⟨_, w₁, h, hret⟩ | ⟨x, hx, -⟩
          · obtain ⟨-, rfl⟩ := exec_ret_iff.mp hret
            exact ⟨_, _, h, .refl⟩
          · cases hx
        · have hu := (exec_reported h').2
          rcases h with ⟨_, _, _, hret⟩ | ⟨x', -, h⟩
          · cases (exec_ret_iff.mp hret).1
          · exact ⟨_, w₁, h, hu⟩
      obtain ⟨out₁, w₁, h, hu⟩ := hfinal
      rcases hentry h with h₁ | ⟨evs, r, b, he⟩
      · exact .inl (h₁.trans hu)
      · refine .inr ⟨signal, rest, evs, r, b, rfl, htake signal (by simp [hqueue]), he.reconciled,
          he.event, he.booked, hu.gateway.trans he.gateway, ?_, ?_⟩
        · obtain ⟨i, hi⟩ := he.orders
          exact ⟨i, hu.orders.trans hi⟩
        · obtain ⟨i, hi⟩ := he.positions
          exact ⟨i, hu.positions.trans hi⟩

/-- **A pass of Loop A is a chain of moves**, at most one about each position.
Source: `app/loops/loop_a_runtime.py` `LoopARunner.run_once`. Kind: P -/
theorem exec_runOnce {out : Except Exn LoopAResult} (h : Exec exec R.ok runOnce w out w') :
    ∃ ids, ids.Nodup ∧ Moves R ids w w' := by
  simp only [runOnce, bind_eq, exec_bind_iff, exec_ret_iff, pure_eq] at h
  have hconsume : ∀ {out₁ w₁}, Exec exec R.ok consumeSignalOnce w out₁ w₁ → Move R none w w₁ := by
    intro out₁ w₁ h
    rcases exec_consumeSignalOnce h with hu | ⟨_, _, _, _, _, _, hs, he⟩
    · exact .quiet hu
    · exact .entry hs he
  rcases h with ⟨_, w₁, h₁, h⟩ | ⟨x, -, h₁⟩
  · have hm := hconsume h₁
    rcases h with ⟨_, w₂, h₂, -, rfl⟩ | ⟨x, -, h₂⟩ <;>
      obtain ⟨ids, hids, hms⟩ := exec_monitorPositionsOnce h₂ <;>
      exact ⟨ids, hids, .quiet hm hms⟩
  · exact ⟨[], List.nodup_nil, .quiet (hconsume h₁) .nil⟩

end LoopARunner

end HaruTrade
