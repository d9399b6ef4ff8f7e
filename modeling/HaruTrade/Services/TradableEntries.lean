import HaruTrade.Repositories.Universe
import HaruTrade.Services.Permission

/-!
# Entries for tickers that may not be traded

Loop B scans every tracked ticker: blocked and halted ones, and those of open positions. Nothing
between its scan and the order of Loop A looks at the trading filter, which `_load_tracking_tickers`
reads only to count.

* `entries_tradable` — entries are placed for tradable tickers, as long as the ticker of a popped
  signal passes the filter and keeps passing it until its order is placed.
* `entry_of_blocked` — from an empty queue, two cycles place an entry for a blocked ticker.
-/

namespace HaruTrade

open Coro OrderService TradingService LoopARunner LoopRuntimeCoordinator

/-- Entries are permitted for tickers that pass the trading filter.
Source: `docs/runtime-data-ingestion-alignment-plan.md` `trading_tickers`. Kind: D -/
def tradableEntries : Permission := fun _ symbols t =>
  match t.intent with
  | .entry _ => (symbols.get? t.req.ticker).any SymbolRow.tradable
  | .close _ _ => true

variable {strategies : List Strategy} {w : World} {t : Ticket} {signal : Signal}
  {c c' : Pool Op Resp Exn CycleReport World Phase} {act : CycleAct}

theorem tradable_of_permitted (hentry : t.intent = .entry signal)
    (h : tradableEntries w.runtime w.symbols t = true) : w.Tradable t.req.ticker := by
  unfold tradableEntries at h
  rw [hentry] at h
  obtain ⟨row, hrow, htradable⟩ := (Option.any_eq_true _ _).mp h
  exact ⟨row, hrow, htradable⟩

/-- **An entry is placed for a tradable ticker**, however cycles interleave with writes of the symbol
table, as long as every step respects the trading filter.
Source: `app/services/trading_service.py` `TradingService.execute_from_signal`. Kind: P -/
theorem entries_tradable
    (h : (cycles strategies).Run (fun s ms act => respects tradableEntries s ms act = true)
      (pool w) c)
    (hs : (cycles strategies).Step c act c') (ht : t ∈ placing act)
    (hentry : t.intent = .entry signal) : c.shared.Tradable t.req.ticker :=
  tradable_of_permitted hentry (placed_permitted h hs ht)

/-- A table of one symbol. Source: none: infrastructure. Kind: D -/
def oneSymbol (row : SymbolRow) : Table SymbolRow.ticker := Table.empty.insert row rfl

/-- The theorem at a queued buy of a tradable ticker. Source: none: infrastructure. Kind: C -/
theorem entries_tradable_queued :
    ∃ c, (cycles []).replay (respects tradableEntries)
        (pool { queue := [queuedBuy], symbols := oneSymbol { ticker := "005930", isActive := true } })
        ([.spawn] ++ List.replicate 3 (.resume 0 {})) = some c ∧
      nextPlaced [] 0 c = some (entryTicket queuedBuy) ∧ c.shared.Tradable "005930" := by
  have hany : ((cycles []).replay (respects tradableEntries)
      (pool { queue := [queuedBuy], symbols := oneSymbol { ticker := "005930", isActive := true } })
      ([.spawn] ++ List.replicate 3 (.resume 0 {}))).any
        (fun c => nextPlaced [] 0 c = some (entryTicket queuedBuy)) = true := by decide +kernel
  obtain ⟨c, hc, hplaced⟩ := (Option.any_eq_true _ _).mp hany
  obtain ⟨act, c', hs, ht⟩ := exists_step_of_nextPlaced (of_decide_eq_true hplaced)
  have hentry : (entryTicket queuedBuy).intent = .entry queuedBuy := rfl
  exact ⟨c, hc, of_decide_eq_true hplaced,
    entries_tradable (System.run_of_replay hc) hs ht hentry⟩

/-- A gap of three percent at 09:03. Source: none: infrastructure. Kind: D -/
def gapUp : Answer :=
  { time := 9 * 3600 + 3 * 60
    candles := [
      { «open» := 100, high := 100, low := 100, close := 100, ts := 9 * 3600 },
      { «open» := 103, high := 103, low := 103, close := 103, ts := 9 * 3600 + 3 * 60 }] }

/-- **An entry for a blocked ticker**: one cycle scans the ticker, because it is tracked, and queues a
buy; the next one places it. Source: `app/services/runtime_factory.py` `_load_tracking_tickers`.
Kind: C -/
theorem entry_of_blocked :
    ∃ c act c' t signal,
      (cycles [GapMomentumStrategy.strategy]).Run (fun _ _ _ => True)
        (pool { symbols := oneSymbol { ticker := "005930", isActive := true, isBlocked := true } }) c ∧
      (cycles [GapMomentumStrategy.strategy]).Step c act c' ∧ t ∈ placing act ∧
      t.intent = .entry signal ∧ ¬ c.shared.Tradable t.req.ticker := by
  have hplaces : placesAfter [GapMomentumStrategy.strategy]
      { symbols := oneSymbol { ticker := "005930", isActive := true, isBlocked := true } }
      ([.spawn, .spawn] ++ List.replicate 22 (.resume 0 gapUp) ++
        List.replicate 3 (.resume 1 gapUp)) 1
      (fun s t => decide (t.intent.closes = none ∧ ¬ s.Tradable t.req.ticker)) = true := by
    decide +kernel
  obtain ⟨c, act, c', t, hrun, hs, hplacing, htest⟩ := exists_of_placesAfter hplaces
  obtain ⟨hentry, hbad⟩ := of_decide_eq_true htest
  cases hintent : t.intent with
  | entry signal => exact ⟨c, act, c', t, signal, hrun, hs, hplacing, hintent, hbad⟩
  | close p tr =>
      rw [hintent] at hentry
      cases hentry

end HaruTrade
