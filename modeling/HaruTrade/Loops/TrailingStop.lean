import HaruTrade.Loops.PollRuns

/-!
# The trailing stop over a run

Once a position is half closed, every poll raises its high-water mark to the price if the price is
above it, and closes the rest when the price is at or below the mark less the ATR times the
multiplier. The mark is split over the state machine, a write that is made only when something
changed, and a refused close that writes nothing.

* `peak` — the highest price polled from the half-close on.
* `Trailed` — **what the row of a half-closed position is** after the polls that followed.
* `trailing_stop` — it is that after every run whose writes succeed.
* `trailing_level_step` — how the level moves from one poll to the next.
-/

namespace HaruTrade

open Coro OrderService TradingService

namespace LoopARunner

namespace Poll

/-- Source: `app/orders/state_machine.py` `PositionStateMachine.decide`. Kind: D -/
def width (a : Poll) : ℚ := a.atrValue * a.trailAtrMult

/-- The high-water mark that the poll works with; the half-close begins it.
Source: `app/orders/state_machine.py` `PositionStateMachine.decide`. Kind: D -/
def high (a : Poll) : ℚ :=
  if a.row.state = .HALF_CLOSED then PositionStateMachine.highest a.row.snapshot a.price
  else a.price

/-- The level that a half-closed position is closed at. Source: `app/orders/state_machine.py`
`PositionStateMachine.decide`. Kind: D -/
def level (a : Poll) : ℚ := a.high - a.width

/-- The row after the poll, when its writes succeed. Source: `app/loops/loop_a_runtime.py`
`LoopARunner._monitor_positions_once`. Kind: D -/
def result (a : Poll) : Position :=
  if 0 < a.transition.closeQty ∧ a.accepted = false then a.row else a.row.apply a.transition

/-- The poll half closes the position. Source: `app/orders/state_machine.py`
`PositionStateMachine.decide`. Kind: D -/
structure HalfCloses (a : Poll) : Prop where
  opened : a.row.state = .OPEN
  halves : a.transition.newState = .HALF_CLOSED
  accepted : a.accepted = true

end Poll

/-- The highest price polled from the half-close `h` on. Source: none: infrastructure. Kind: D -/
def peak (h : Poll) (after : List Poll) : ℚ := (after.map Poll.price).foldl max h.price

/-- The price of `b` is at or below the highest so far less the width, and its close is accepted.
Source: `docs/prd.md` 4.4. Kind: D -/
def Triggers (h : Poll) (mid : List Poll) (b : Poll) : Prop :=
  b.price ≤ peak h (mid ++ [b]) - b.width ∧ b.accepted = true

/-- A position object that is never read again: each poll decides on what the one before it left.
Source: none: infrastructure. Kind: D -/
def inMemory (h : Poll) (after : List Poll) : Position :=
  after.foldl (fun row b => { b with row }.result) h.result

/-- **What the row of a position half closed by `h` is** after the polls that followed.
Source: `docs/prd.md` 4.4. Kind: D -/
structure Trailed (h : Poll) (after : List Poll) (q : Position) : Prop where
  highest : q.highestPrice = some (peak h after)
  state : q.state = .HALF_CLOSED ∨ q.state = .CLOSED
  closed : q.state = .CLOSED ↔ ∃ mid b, after = mid ++ [b] ∧ Triggers h mid b
  first : ∀ mid b rest, after = mid ++ b :: rest → Triggers h mid b → rest = []
  /-- Reading the row again changes nothing. -/
  reloaded : q = inMemory h after ∧
    ∀ mid b rest, after = mid ++ b :: rest → b.row = inMemory h mid

variable {a b h : Poll} {q : Position} {m : ℚ} {ps after mid : List Poll} {pid : ℕ}

/-! ## One poll -/

theorem Poll.transition_half (hs : a.row.state = .HALF_CLOSED) : a.transition =
    if a.price ≤ a.level then
      { newState := .CLOSED, closeQty := a.row.remainingQuantity, reason := some "trailing_stop",
        newHighest := some a.high, newTrailingStop := some a.level }
    else
      { newState := .HALF_CLOSED, closeQty := 0, reason := none, newHighest := some a.high,
        newTrailingStop := some a.level } := by
  have hhigh : a.high = PositionStateMachine.highest a.row.snapshot a.price := if_pos hs
  have hlevel : a.level =
      PositionStateMachine.trailing a.row.snapshot a.price a.atrValue a.trailAtrMult := by
    unfold Poll.level PositionStateMachine.trailing
    rw [hhigh, Poll.width]
  have hsnapshot : a.row.snapshot.state = .HALF_CLOSED := hs
  unfold Poll.transition PositionStateMachine.decide
  rw [hsnapshot, hlevel, hhigh]
  rfl

/-- An open position that is left half closed was half closed at the price. Source:
`app/orders/state_machine.py` `PositionStateMachine.decide`. Kind: L -/
theorem Poll.transition_open (hs : a.row.state = .OPEN)
    (hhalf : a.transition.newState = .HALF_CLOSED) : a.transition =
      { newState := .HALF_CLOSED, closeQty := a.row.remainingQuantity / 2,
        reason := some "take_profit_half", newHighest := some a.high,
        newTrailingStop := some a.level } := by
  have hhigh : a.high = a.price := if_neg (by rw [hs]; decide)
  have hsnapshot : a.row.snapshot.state = .OPEN := hs
  unfold Poll.level
  rw [hhigh]
  unfold Poll.transition PositionStateMachine.decide at hhalf ⊢
  rw [hsnapshot] at hhalf ⊢
  dsimp only at hhalf ⊢
  split_ifs at hhalf ⊢
  rfl

/-- A live position that is left half closed gets the mark and the level of the poll. Source:
`app/orders/state_machine.py` `PositionStateMachine.decide`. Kind: L -/
theorem Poll.levels_of_half (hlive : a.row.state ≠ .CLOSED)
    (hhalf : a.transition.newState = .HALF_CLOSED) :
    a.transition.newHighest = some a.high ∧ a.transition.newTrailingStop = some a.level := by
  cases hs : a.row.state with
  | OPEN =>
      rw [Poll.transition_open hs hhalf]
      exact ⟨rfl, rfl⟩
  | HALF_CLOSED =>
      rw [Poll.transition_half hs]
      split_ifs
      · exact ⟨rfl, rfl⟩
      · exact ⟨rfl, rfl⟩
  | CLOSED => exact absurd hs hlive

theorem Poll.result_cases (a : Poll) :
    (a.result = a.row ∧ 0 < a.transition.closeQty ∧ a.accepted = false) ∨
      a.result = a.row.apply a.transition ∧ (0 < a.transition.closeQty → a.accepted = true) := by
  unfold Poll.result
  split_ifs with hrefused
  · exact .inl ⟨rfl, hrefused⟩
  · refine .inr ⟨rfl, fun hclose => ?_⟩
    cases haccepted : a.accepted with
    | true => rfl
    | false => exact absurd ⟨hclose, haccepted⟩ hrefused

/-- **What a poll leaves when no write fails.** Source: `app/loops/loop_a_runtime.py`
`LoopARunner._monitor_positions_once`. Kind: L -/
theorem Poll.Leaves.eq_result (hleaves : a.Leaves q) (hwrite : ¬ a.WriteFails)
    (hlive : a.row.state ≠ .CLOSED) (hrem : 0 < a.row.remainingQuantity) : q = a.result := by
  rcases hleaves with ⟨rfl, haccepted⟩ | ⟨rfl, hunwritten⟩
  · rcases a.result_cases with ⟨-, hclose, hrefused⟩ | ⟨hresult, -⟩
    · exact absurd ((haccepted hclose).symm.trans hrefused) (by decide)
    · exact hresult.symm
  · have hidle : ¬ a.Writes := fun hwrites => hwrite ⟨hwrites, hunwritten⟩
    unfold Poll.Writes at hidle
    split_ifs at hidle with hclose
    · exact (if_pos ⟨hclose, Bool.eq_false_iff.mpr hidle⟩).symm
    · -- nothing is closed and nothing changes
      obtain ⟨hhighest, htrailing⟩ := not_or.mp hidle
      have hstate : a.transition.newState = a.row.state :=
        PositionStateMachine.newState_of_hold hrem hclose
      have hresult : a.result = a.row.apply a.transition := if_neg fun hrefused => hclose hrefused.1
      rw [hresult]
      unfold Position.apply
      rw [if_neg hclose, hstate, if_neg fun hclosed => hlive hclosed.1, not_not.mp hhighest,
        not_not.mp htrailing]

/-- The mark rises to the price. A mark of zero counts as missing, which makes no difference to
prices that are not negative. Source: `app/orders/state_machine.py` `PositionStateMachine.decide`.
Kind: L -/
theorem Poll.high_eq_max (hs : a.row.state = .HALF_CLOSED) (hm : a.row.highestPrice = some m)
    (hprice : 0 ≤ a.price) : a.high = max m a.price := by
  unfold Poll.high PositionStateMachine.highest
  rw [if_pos hs, show a.row.snapshot.highestPrice = some m from hm]
  unfold PositionStateMachine.highestOr
  dsimp only
  split_ifs with hzero
  · rw [hzero, max_self, max_eq_right hprice]
  · rfl

/-- **A refused close loses no high**: the price was below the mark. Source:
`app/loops/loop_a_runtime.py` `LoopARunner._monitor_positions_once`. Kind: L -/
theorem Poll.highest_of_below (hs : a.row.state = .HALF_CLOSED) (hwidth : 0 < a.width)
    (hbelow : a.price ≤ a.level) : a.row.highestPrice = some a.high := by
  have hlt : a.price < a.high := by
    unfold Poll.level at hbelow
    linarith
  unfold Poll.high PositionStateMachine.highest PositionStateMachine.highestOr at hlt ⊢
  rw [if_pos hs] at hlt ⊢
  cases hhighest : a.row.highestPrice with
  | none =>
      rw [show a.row.snapshot.highestPrice = none from hhighest] at hlt
      exact absurd hlt (by simp)
  | some m =>
      rw [show a.row.snapshot.highestPrice = some m from hhighest] at hlt ⊢
      dsimp only at hlt ⊢
      split_ifs at hlt ⊢ with hzero
      · exact absurd hlt (by simp)
      · rw [max_eq_left]
        exact (lt_max_iff.mp hlt).elim le_of_lt fun h => absurd h (lt_irrefl _)

/-- **The mark that a poll leaves** in a live row. Source: `app/orders/state_machine.py`
`PositionStateMachine.decide`. Kind: L -/
theorem Poll.highest_result (hlive : a.row.state ≠ .CLOSED) (hwidth : 0 < a.width)
    (hhalf : a.result.state = .HALF_CLOSED) : a.result.highestPrice = some a.high := by
  rcases a.result_cases with ⟨hresult, hclose, -⟩ | ⟨hresult, -⟩
  · rw [hresult] at hhalf ⊢
    apply Poll.highest_of_below hhalf hwidth
    by_contra habove
    rw [Poll.transition_half hhalf, if_neg habove] at hclose
    exact absurd hclose (lt_irrefl 0)
  · rw [hresult] at hhalf ⊢
    have hnew : a.transition.newState = .HALF_CLOSED := hhalf
    exact (Poll.levels_of_half hlive hnew).1

/-- **When a poll closes what is left.** Source: `app/orders/state_machine.py`
`PositionStateMachine.decide`. Kind: L -/
theorem Poll.result_closed_iff (hs : a.row.state = .HALF_CLOSED)
    (hrem : 0 < a.row.remainingQuantity) :
    (a.result.state = .CLOSED ↔ a.price ≤ a.level ∧ a.accepted = true) ∧
      (a.result.state = .HALF_CLOSED ∨ a.result.state = .CLOSED) := by
  have htransition := Poll.transition_half hs
  by_cases hbelow : a.price ≤ a.level
  · rw [if_pos hbelow] at htransition
    rcases a.result_cases with ⟨hresult, -, hrefused⟩ | ⟨hresult, haccepted⟩
    · rw [hresult, hs, hrefused]
      simp
    · rw [hresult, Position.apply_state]
      rw [htransition] at haccepted ⊢
      simp [hbelow, haccepted hrem]
  · rw [if_neg hbelow] at htransition
    rcases a.result_cases with ⟨-, hclose, -⟩ | ⟨hresult, -⟩
    · rw [htransition] at hclose
      exact absurd hclose (lt_irrefl 0)
    · rw [hresult, Position.apply_state, htransition]
      simp [hbelow]

/-- The mark after a poll of a half-closed row, whether it is closed or not.
Source: `app/orders/state_machine.py` `PositionStateMachine.decide`. Kind: L -/
theorem Poll.highest_result_of_half (hs : a.row.state = .HALF_CLOSED)
    (hrem : 0 < a.row.remainingQuantity) (hwidth : 0 < a.width) :
    a.result.highestPrice = some a.high := by
  have hlive : a.row.state ≠ .CLOSED := by
    rw [hs]
    decide
  rcases (Poll.result_closed_iff hs hrem).2 with hhalf | hclosed
  · exact Poll.highest_result hlive hwidth hhalf
  · have haccepted := ((Poll.result_closed_iff hs hrem).1.mp hclosed).2
    rcases a.result_cases with ⟨-, -, hrefused⟩ | ⟨hresult, -⟩
    · exact absurd (haccepted.symm.trans hrefused) (by decide)
    · rw [hresult]
      show a.transition.newHighest = _
      rw [Poll.transition_half hs]
      split_ifs
      · rfl
      · rfl

/-- **The half-close begins the mark at its price.** Source: `app/orders/state_machine.py`
`PositionStateMachine.decide`. Kind: L -/
theorem Poll.HalfCloses.result (hh : h.HalfCloses) :
    h.result.state = .HALF_CLOSED ∧ h.result.highestPrice = some h.price := by
  have hhigh : h.high = h.price := if_neg (by rw [hh.opened]; decide)
  rcases h.result_cases with ⟨-, -, hrefused⟩ | ⟨hresult, -⟩
  · exact absurd (hh.accepted.symm.trans hrefused) (by decide)
  · rw [hresult, ← hhigh]
    refine ⟨hh.halves, ?_⟩
    show h.transition.newHighest = _
    rw [Poll.transition_open hh.opened hh.halves]

/-- An open row that a poll leaves half closed was half closed by it. Source:
`app/orders/state_machine.py` `PositionStateMachine.decide`. Kind: L -/
theorem Poll.halfCloses_of_result (hs : a.row.state = .OPEN) (hrem : 0 < a.row.remainingQuantity)
    (hhalf : a.result.state = .HALF_CLOSED) : a.HalfCloses := by
  rcases a.result_cases with ⟨hresult, -⟩ | ⟨hresult, haccepted⟩
  · rw [hresult, hs] at hhalf
    exact absurd hhalf (by decide)
  · rw [hresult, Position.apply_state] at hhalf
    refine ⟨hs, hhalf, haccepted ?_⟩
    rw [Poll.transition_open hs hhalf]
    show 0 < a.row.remainingQuantity / 2
    linarith

/-! ## The polls after a half-close -/

@[simp] theorem peak_append : peak h (mid ++ [b]) = max (peak h mid) b.price := by
  unfold peak
  rw [List.map_append, List.foldl_append]
  rfl

theorem inMemory_append : inMemory h (mid ++ [b]) = { b with row := inMemory h mid }.result := by
  unfold inMemory
  rw [List.foldl_append]
  rfl

/-- Polls that read what the one before them left, without a failed write, and whose rows are live.
Source: none: infrastructure. Kind: D -/
structure Steady (ps : List Poll) : Prop where
  next : ∀ pre a b post, ps = pre ++ a :: b :: post → b.row = a.result
  live : ∀ a ∈ ps, a.row.state ≠ .CLOSED ∧ 0 < a.row.remainingQuantity
  sane : ∀ a ∈ ps, 0 ≤ a.price ∧ 0 < a.width

/-- **Every poll reads the row that memory would have held.** Source:
`app/repositories/ordering.py` `OrderingRepository.apply_transition`. Kind: L -/
theorem Steady.row_eq (hps : Steady ps) {before rest : List Poll}
    (hsplit : ps = before ++ h :: (mid ++ b :: rest)) : b.row = inMemory h mid := by
  induction mid using List.reverseRecOn generalizing b rest with
  | nil => exact hps.next before h b rest hsplit
  | append_singleton mid c ih =>
      have hsplit' : ps = before ++ h :: (mid ++ c :: b :: rest) := by
        rw [hsplit]
        simp
      have hc : c.row = inMemory h mid := ih hsplit'
      have hb : b.row = c.result :=
        hps.next (before ++ h :: mid) c b rest (by rw [hsplit']; simp)
      rw [hb, inMemory_append, ← hc]

theorem Steady.result_last (hps : Steady ps) {before : List Poll}
    (hsplit : ps = before ++ h :: after) (hlast : ps.getLast? = some a) :
    a.result = inMemory h after := by
  induction after using List.reverseRecOn with
  | nil =>
      rw [hsplit, List.getLast?_concat] at hlast
      obtain rfl := Option.some.inj hlast
      rfl
  | append_singleton mid b _ =>
      have hps' : ps = (before ++ h :: mid) ++ [b] := by
        rw [hsplit]
        simp
      rw [hps', List.getLast?_concat] at hlast
      obtain rfl := Option.some.inj hlast
      rw [inMemory_append, ← hps.row_eq hsplit]

/-- The row that memory holds after some of the polls: the mark is the maximum of their prices, and the
row is closed when the last of them triggers. Source: `docs/prd.md` 4.4. Kind: D -/
structure Ratcheted (h : Poll) (mid : List Poll) : Prop where
  highest : (inMemory h mid).highestPrice = some (peak h mid)
  state : (inMemory h mid).state = .HALF_CLOSED ∨ (inMemory h mid).state = .CLOSED
  closed : (inMemory h mid).state = .CLOSED ↔ ∃ mid' b, mid = mid' ++ [b] ∧ Triggers h mid' b

theorem Ratcheted.start (hh : h.HalfCloses) : Ratcheted h [] := by
  obtain ⟨hstate, hhighest⟩ := hh.result
  have hopen : h.result.state ≠ .CLOSED := by
    rw [hstate]
    decide
  refine ⟨hhighest, .inl hstate, fun hclosed => absurd hclosed hopen, ?_⟩
  rintro ⟨mid', b, hnil, -⟩
  exact absurd hnil (by simp)

/-- **One more poll.** It was polled, so it was still half closed before. Source: `docs/prd.md` 4.4.
Kind: L -/
theorem Ratcheted.next (hmid : Ratcheted h mid) (hrow : b.row = inMemory h mid)
    (hlive : b.row.state ≠ .CLOSED) (hrem : 0 < b.row.remainingQuantity) (hprice : 0 ≤ b.price)
    (hwidth : 0 < b.width) : Ratcheted h (mid ++ [b]) := by
  obtain ⟨hhighest, hstate, -⟩ := hmid
  rw [← hrow] at hhighest hstate
  have hhalf : b.row.state = .HALF_CLOSED := hstate.resolve_right hlive
  have hhigh : b.high = peak h (mid ++ [b]) := by
    rw [peak_append, Poll.high_eq_max hhalf hhighest hprice]
  have hnext : inMemory h (mid ++ [b]) = b.result := by
    rw [inMemory_append, ← hrow]
  obtain ⟨hclosed, hstates⟩ := Poll.result_closed_iff hhalf hrem
  constructor
  · rw [hnext, Poll.highest_result_of_half hhalf hrem hwidth, hhigh]
  · rw [hnext]
    exact hstates
  · rw [hnext, hclosed]
    unfold Poll.level
    rw [hhigh]
    constructor
    · intro htriggers
      exact ⟨mid, b, rfl, htriggers⟩
    · rintro ⟨mid', b', heq, htriggers⟩
      obtain ⟨rfl, hb⟩ := List.append_inj' heq rfl
      obtain rfl : b = b' := List.singleton_inj.mp hb
      exact htriggers

/-- The induction is on the polls that followed a half-close. Source: `docs/prd.md` 4.4. Kind: L -/
theorem Steady.ratcheted (hps : Steady ps) {before rest : List Poll}
    (hsplit : ps = before ++ h :: (mid ++ rest)) (hh : h.HalfCloses) : Ratcheted h mid := by
  induction mid using List.reverseRecOn generalizing rest with
  | nil => exact Ratcheted.start hh
  | append_singleton mid b ih =>
      have hsplit' : ps = before ++ h :: (mid ++ b :: rest) := by
        rw [hsplit]
        simp
      have hmem : b ∈ ps := by
        rw [hsplit']
        simp
      obtain ⟨hlive, hrem⟩ := hps.live b hmem
      obtain ⟨hprice, hwidth⟩ := hps.sane b hmem
      exact (ih hsplit').next (hps.row_eq hsplit') hlive hrem hprice hwidth

/-- **What is left after the polls that followed a half-close.** Source: `docs/prd.md` 4.4. Kind: L -/
theorem Steady.trailed (hps : Steady ps) {before : List Poll} (hsplit : ps = before ++ h :: after)
    (hh : h.HalfCloses) : Trailed h after (inMemory h after) := by
  have hreload : ∀ mid b rest, after = mid ++ b :: rest → b.row = inMemory h mid := by
    intro mid b rest hafter
    exact hps.row_eq (by rw [hsplit, hafter])
  have hratcheted : ∀ mid rest, after = mid ++ rest → Ratcheted h mid := by
    intro mid rest hafter
    exact hps.ratcheted (by rw [hsplit, hafter]) hh
  obtain ⟨hhighest, hstate, hclosed⟩ := hratcheted after [] (by simp)
  refine ⟨hhighest, hstate, hclosed, ?_, rfl, hreload⟩
  intro mid b rest hafter htriggers
  cases rest with
  | nil => rfl
  | cons c rest =>
      -- a row that was closed is not polled again
      have hafter' : after = (mid ++ [b]) ++ c :: rest := by
        rw [hafter]
        simp
      have hlive := (hps.live c (by rw [hsplit, hafter]; simp)).1
      rw [hreload (mid ++ [b]) c rest hafter'] at hlive
      exact absurd ((hratcheted (mid ++ [b]) (c :: rest) hafter').closed.mpr
        ⟨mid, b, rfl, htriggers⟩) hlive

/-! ## Runs -/

section runs

variable {w : World} {s' : Recorded}

theorem Told.next {row : Option Position} (h : Told ps row) {pre post : List Poll}
    (hps : ps = pre ++ a :: b :: post) : a.Leaves b.row := by
  have hchain := h.chain
  rw [hps] at hchain
  exact (List.isChain_append_cons_cons.mp hchain).2.1

/-- A half-closed row was half closed by one of the polls before. The induction is on the polls, and
the first of them reads an open row. Source: `app/orders/state_machine.py`
`PositionStateMachine.decide`. Kind: L -/
theorem exists_halfCloses {row : Option Position} (h : Told ps row) (hps : Steady ps)
    {pre post : List Poll} (hsplit : ps = pre ++ a :: post)
    (hhalf : a.result.state = .HALF_CLOSED) :
    ∃ before c after, pre ++ [a] = before ++ c :: after ∧ c.HalfCloses := by
  induction pre using List.reverseRecOn generalizing a post with
  | nil =>
      refine ⟨[], a, [], rfl, Poll.halfCloses_of_result (h.first a post hsplit) ?_ hhalf⟩
      exact (hps.live a (by rw [hsplit]; simp)).2
  | append_singleton pre c ih =>
      obtain ⟨hlive, hrem⟩ := hps.live a (by rw [hsplit]; simp)
      cases hs : a.row.state with
      | OPEN => exact ⟨pre ++ [c], a, [], rfl, Poll.halfCloses_of_result hs hrem hhalf⟩
      | HALF_CLOSED =>
          have hsplit' : ps = pre ++ c :: a :: post := by
            rw [hsplit]
            simp
          have hrow : a.row = c.result := hps.next pre c a post hsplit'
          rw [hrow] at hs
          obtain ⟨before, d, after, heq, hd⟩ := ih hsplit' hs
          exact ⟨before, d, after ++ [a], by rw [heq]; simp, hd⟩
      | CLOSED => exact absurd hs hlive

/-- **The trailing stop.** After every run of sequential passes, from where the position is open or
not there, with prices that are not negative, positive widths and no failed write: a half-closed row
was half closed by a poll, and after a half-close the row is what the polls from it on say, whatever
the gateway answered. Source: `docs/prd.md` 4.4. Kind: P -/
theorem trailing_stop (hrun : PollRun (w, []) s')
    (hstart : ∀ q, w.positions.get? pid = some q → q.state = .OPEN ∧ 0 < q.remainingQuantity)
    (hsane : ∀ a ∈ polls pid s'.2, 0 ≤ a.price ∧ 0 < a.width ∧ ¬ a.WriteFails) :
    (∀ q, s'.1.positions.get? pid = some q → q.state = .HALF_CLOSED →
      ∃ before h after, polls pid s'.2 = before ++ h :: after ∧ h.HalfCloses) ∧
    ∀ before h after, polls pid s'.2 = before ++ h :: after → h.HalfCloses →
      ∃ q, s'.1.positions.get? pid = some q ∧ Trailed h after q := by
  have htold : Told (polls pid s'.2) (s'.1.positions.get? pid) := hrun.told hstart
  have hleft : ∀ a ∈ polls pid s'.2, ∀ q, a.Leaves q → q = a.result := by
    intro a ha q hq
    exact hq.eq_result (hsane a ha).2.2 (htold.live a ha).1 (htold.live a ha).2
  have hsteady : Steady (polls pid s'.2) := by
    refine ⟨?_, htold.live, fun a ha => ⟨(hsane a ha).1, (hsane a ha).2.1⟩⟩
    intro pre a b post hsplit
    exact hleft a (by rw [hsplit]; simp) b.row (htold.next hsplit)
  constructor
  · intro q hq hhalf
    cases hlast : (polls pid s'.2).getLast? with
    | none =>
        have hopen := (htold.unpolled (List.getLast?_eq_none_iff.mp hlast) q hq).1
        rw [hhalf] at hopen
        exact absurd hopen (by decide)
    | some a =>
        obtain ⟨q', hq', hleaves⟩ := htold.last a hlast
        obtain ⟨pre, hsplit⟩ := List.getLast?_eq_some_iff.mp hlast
        obtain rfl : q = q' := Option.some.inj (hq.symm.trans hq')
        rw [hleft a (List.mem_of_getLast? hlast) q hleaves] at hhalf
        obtain ⟨before, h, after, heq, hh⟩ := exists_halfCloses htold hsteady hsplit hhalf
        exact ⟨before, h, after, hsplit.trans heq, hh⟩
  · intro before h after hsplit hh
    have htrailed := hsteady.trailed hsplit hh
    obtain ⟨a, hlast⟩ : ∃ a, (polls pid s'.2).getLast? = some a := by
      rw [hsplit]
      exact ⟨_, List.getLast?_append_cons _ _ _⟩
    obtain ⟨q, hq, hleaves⟩ := htold.last a hlast
    refine ⟨q, hq, ?_⟩
    rw [hleft a (List.mem_of_getLast? hlast) q hleaves, hsteady.result_last hsplit hlast]
    exact htrailed

/-- **The level from one poll to the next.** At a poll of a half-closed row, after a poll with a
positive width whose write did not fail, the level is the old level and width raised to the price,
less the new width: it does not fall while the width does not rise. The level is what is persisted.
Source: `docs/prd.md` 4.4. Kind: P -/
theorem trailing_level_step (hrun : PollRun (w, []) s')
    (hstart : ∀ q, w.positions.get? pid = some q → q.state = .OPEN ∧ 0 < q.remainingQuantity)
    {pre post : List Poll} (hsplit : polls pid s'.2 = pre ++ a :: b :: post)
    (hhalf : b.row.state = .HALF_CLOSED) (hprice : 0 ≤ b.price) (hwidth : 0 < a.width)
    (hwrite : ¬ a.WriteFails) :
    b.level = max (a.level + a.width) b.price - b.width ∧
      (b.width ≤ a.width → a.level ≤ b.level) ∧
      (a.written = true → b.row.trailingStopPrice = some a.level) := by
  have htold : Told (polls pid s'.2) (s'.1.positions.get? pid) := hrun.told hstart
  obtain ⟨hlive, hrem⟩ := htold.live a (by rw [hsplit]; simp)
  have hleaves : a.Leaves b.row := htold.next hsplit
  have hrow : b.row = a.result := hleaves.eq_result hwrite hlive hrem
  have hlevel : b.level = max (a.level + a.width) b.price - b.width := by
    have hhighest : b.row.highestPrice = some a.high := by
      rw [hrow] at hhalf ⊢
      exact Poll.highest_result hlive hwidth hhalf
    have hhigh : a.level + a.width = a.high := by
      unfold Poll.level
      linarith
    rw [hhigh, Poll.level, Poll.high_eq_max hhalf hhighest hprice]
  refine ⟨hlevel, fun hnarrow => ?_, fun hwritten => ?_⟩
  · have hle := le_max_left (a.level + a.width) b.price
    rw [hlevel]
    linarith
  · rcases hleaves with ⟨happlied, -⟩ | ⟨-, hunwritten⟩
    · have hnew : a.transition.newState = .HALF_CLOSED := by
        rw [happlied] at hhalf
        exact hhalf
      rw [happlied]
      exact (Poll.levels_of_half hlive hnew).2
    · exact absurd (hwritten.symm.trans hunwritten) (by decide)

end runs

/-! ## Three passes -/

instance (a : Poll) : Decidable a.Writes :=
  inferInstanceAs (Decidable (if 0 < a.transition.closeQty then a.accepted = true
    else a.transition.newHighest ≠ a.row.highestPrice ∨
      a.transition.newTrailingStop ≠ a.row.trailingStopPrice))

instance (a : Poll) : Decidable a.WriteFails := inferInstanceAs (Decidable (_ ∧ _))

/-- Passes at the given prices, with a multiplier of 1.5 and the other answers of `env`.
Source: none: infrastructure. Kind: D -/
def passes (env : Op → Answer) (prices : List ℚ) (s : Recorded) : Recorded :=
  prices.foldl (fun s price => (runOnce.eval (recording exec)
    (fun e _ => { env e with price, number := some (3 / 2) }) s).2) s

theorem pollRun_passes (env : Op → Answer) (prices : List ℚ) (s : Recorded) :
    PollRun s (passes env prices s) := by
  induction prices generalizing s with
  | nil => exact .refl
  | cons price prices ih =>
      refine .head (.cycle (Exec.mono ?_ ((exec_iff_eval (recording exec)).mpr rfl))) (ih _)
      exact fun _ _ _ _ => trivial

/-- A share bought at 100 with a profit level of 110. Source: none: infrastructure. Kind: D -/
def shareAtHundred : PositionArgs where
  orderId := none
  ticker := "005930"
  strategyId := "1"
  entryPrice := 100
  stopPrice := 95
  takeProfitPrice := 110
  quantity := 1

/-- Source: none: infrastructure. Kind: D -/
def bought : World := OrderingRepository.openPosition {} shareAtHundred

theorem bought_open (pid : ℕ) : ∀ q, bought.positions.get? pid = some q →
    q.state = .OPEN ∧ 0 < q.remainingQuantity := by
  intro q hq
  unfold bought OrderingRepository.openPosition at hq
  rw [Table.get?_add] at hq
  split_ifs at hq with hpid
  · obtain rfl := Option.some.inj hq
    exact ⟨rfl, show (0 : ℚ) < 1 from zero_lt_one⟩
  · exact absurd hq (by simp)

/-- Half closed at 110, up to 120, and closed at 118. Source: none: infrastructure. Kind: D -/
def trailedOut : Recorded := passes (fun _ => {}) [110, 120, 119, 118] (bought, [])

/-- The poll that half closes it. Source: none: infrastructure. Kind: D -/
def halfClose : Poll := ⟨shareAtHundred.row 1, 110, 1, 3 / 2, true, true⟩

/-- **The share is sold at the first price at or below 118.5**, the highest price less 1.5.
Source: `docs/prd.md` 4.4. Kind: C -/
theorem trailing_stop_trailedOut : ∃ after q, trailedOut.1.positions.get? 1 = some q ∧
    Trailed halfClose after q ∧ after.map Poll.price = [120, 119, 118] ∧ q.state = .CLOSED ∧
    q.highestPrice = some 120 := by
  have hrun : PollRun (bought, []) trailedOut := pollRun_passes _ _ _
  have hsplit : polls 1 trailedOut.2 = [] ++ halfClose :: (polls 1 trailedOut.2).tail := by
    decide +kernel
  obtain ⟨q, hq, htrailed⟩ := (trailing_stop hrun (bought_open 1) (by decide +kernel)).2 [] halfClose
    (polls 1 trailedOut.2).tail hsplit ⟨rfl, by decide +kernel, rfl⟩
  have hrow : (trailedOut.1.positions.get? 1).map (fun q => (q.state, q.highestPrice)) =
      some (.CLOSED, some 120) := by decide +kernel
  rw [hq] at hrow
  obtain ⟨hstate, hhighest⟩ := Prod.mk.inj (Option.some.inj hrow)
  exact ⟨_, q, hq, htrailed, by decide +kernel, hstate, hhighest⟩

/-- The level at 119 is that at 120. Source: `docs/prd.md` 4.4. Kind: C -/
theorem trailing_level_step_trailedOut : ∃ a b c, polls 1 trailedOut.2 = [halfClose, a, b, c] ∧
    a.level = 237 / 2 ∧ a.level ≤ b.level ∧ b.row.trailingStopPrice = some a.level := by
  have hrun : PollRun (bought, []) trailedOut := pollRun_passes _ _ _
  obtain ⟨a, b, c, htail⟩ : ∃ a b c, (polls 1 trailedOut.2).tail = [a, b, c] :=
    List.length_eq_three.mp (by decide +kernel)
  have hsplit : polls 1 trailedOut.2 = [halfClose] ++ a :: b :: [c] := by
    rw [← htail]
    decide +kernel
  have hmap : (polls 1 trailedOut.2).tail.map
      (fun a => (a.row.state, a.price, a.width, a.level, a.written, decide a.WriteFails)) =
      [(.HALF_CLOSED, 120, 3 / 2, 237 / 2, true, false),
        (.HALF_CLOSED, 119, 3 / 2, 237 / 2, false, false),
        (.HALF_CLOSED, 118, 3 / 2, 237 / 2, true, false)] := by decide +kernel
  rw [htail] at hmap
  simp only [List.map_cons, List.cons.injEq, Prod.mk.injEq, decide_eq_false_iff_not] at hmap
  obtain ⟨⟨-, -, hwidth, hlevel, hwritten, hwrite⟩, ⟨hhalf, hprice, hnext, -⟩, -⟩ := hmap
  obtain ⟨-, hmono, hpersisted⟩ := trailing_level_step hrun (bought_open 1) hsplit hhalf
    (by rw [hprice]; norm_num) (by rw [hwidth]; norm_num) hwrite
  exact ⟨a, b, c, hsplit, hlevel, hmono (by rw [hnext, hwidth]), hpersisted hwritten⟩

/-- **The level falls** from one poll of a half-closed position to the next, in a run with a multiplier
of 1.5, prices that are not negative, positive ATRs and polls that satisfy `P`.
Source: none: infrastructure. Kind: D -/
def LevelFalls (P : Poll → Prop) : Prop :=
  ∃ w s' pid pre a b, PollRun (w, []) s' ∧ polls pid s'.2 = pre ++ [a, b] ∧
    a.row.state = .HALF_CLOSED ∧ b.row.state = .HALF_CLOSED ∧
    (∀ c ∈ polls pid s'.2, 0 ≤ c.price ∧ 0 < c.atrValue ∧ c.trailAtrMult = 3 / 2 ∧ P c) ∧
    b.level < a.level

/-- A bar from 105 to 115. Source: none: infrastructure. Kind: D -/
def wideBar (ts : Time) : Candle := { «open» := 110, high := 115, low := 105, close := 110, ts }

theorem levelFalls_of_levels {P : Poll → Prop} {s : Recorded} {x y : ℚ}
    (hrun : PollRun (bought, []) s)
    (hmap : (polls 1 s.2).map (fun c => (c.row.state, c.level)) =
      [(.OPEN, 217 / 2), (.HALF_CLOSED, x), (.HALF_CLOSED, y)]) (hlt : y < x)
    (hall : ∀ c ∈ polls 1 s.2, 0 ≤ c.price ∧ 0 < c.atrValue ∧ c.trailAtrMult = 3 / 2 ∧ P c) :
    LevelFalls P := by
  have hlength : (polls 1 s.2).length = 3 := by
    rw [← List.length_map (fun c : Poll => (c.row.state, c.level)), hmap]
    rfl
  obtain ⟨h, a, b, hpolls⟩ := List.length_eq_three.mp hlength
  rw [hpolls] at hmap
  simp only [List.map_cons, List.cons.injEq, Prod.mk.injEq] at hmap
  obtain ⟨-, ⟨ha, hx⟩, ⟨hb, hy⟩, -⟩ := hmap
  exact ⟨bought, s, 1, [h], a, b, hrun, hpolls, ha, hb, hall, by rw [hx, hy]; exact hlt⟩

/-- Two polls at 110. Source: none: infrastructure. Kind: D -/
def halfClosed : Recorded := passes (fun _ => {}) [110, 110] (bought, [])

/-- Two wide bars come in. Source: none: infrastructure. Kind: D -/
def wideBars (w : World) : World :=
  CandleRepository.upsertIncremental
    (CandleRepository.upsertIncremental w "005930" .m5 (wideBar 0)) "005930" .m5 (wideBar 300)

/-- The price is 110 again, after the wide bars. Source: none: infrastructure. Kind: D -/
def widened : Recorded := passes (fun _ => {}) [110] (wideBars halfClosed.1, halfClosed.2)

/-- No transition is stored. Source: none: infrastructure. Kind: D -/
def failing : Op → Answer
  | .applyTransition _ _ => { db := some (.commit "") }
  | _ => {}

/-- The write of the high of 120 fails. Source: none: infrastructure. Kind: D -/
def unwritten : Recorded :=
  passes (fun _ => {}) [115] (passes failing [120] (passes (fun _ => {}) [110] (bought, [])))

/-- **The level falls when the ATR rises**, from 108.5 to 95 at the same price, and when a write
fails, from 118.5 to 113.5. Source: `app/orders/state_machine.py` `PositionStateMachine.decide`.
Kind: C -/
theorem level_falls :
    LevelFalls (fun c => ¬ c.WriteFails) ∧ LevelFalls fun c => c.atrValue = 1 := by
  constructor
  · have hbefore : PollRun (bought, []) halfClosed := pollRun_passes _ _ _
    have hbars : PollStep halfClosed (wideBars halfClosed.1, halfClosed.2) :=
      .outside halfClosed.2 rfl
    have hrun : PollRun (bought, []) widened := (hbefore.tail hbars).trans (pollRun_passes _ _ _)
    apply levelFalls_of_levels (x := 217 / 2) (y := 95) hrun
    · decide +kernel
    · norm_num
    · decide +kernel
  · have hbefore : PollRun (bought, []) (passes (fun _ => {}) [110] (bought, [])) :=
      pollRun_passes _ _ _
    have hrun : PollRun (bought, []) unwritten :=
      (hbefore.trans (pollRun_passes _ _ _)).trans (pollRun_passes _ _ _)
    apply levelFalls_of_levels (x := 237 / 2) (y := 227 / 2) hrun
    · decide +kernel
    · norm_num
    · decide +kernel

end LoopARunner

end HaruTrade
