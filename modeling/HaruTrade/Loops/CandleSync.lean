import Mathlib.Data.List.Induction
import HaruTrade.Integrations.MarketData
import HaruTrade.Loops.LoopB
import HaruTrade.Orders.Reconcile

/-!
# The incremental candle sync

Loop B asks for the candles since the last stored one and upserts what it is given. The gateway drops
a candle at that time, so the last stored bar is never refreshed.

* `run_syncAndScan` — what a sync stores of a reply of the market-data API.
* `Synced` — what the sync should leave; `synced_iff` says when it does.
* `synced_not` — a bar that was in progress when it was stored stays as it was.
-/

namespace HaruTrade

open Coro

/-- The market-data API answers with the given rows and nothing fails.
Source: `app/services/runtime_factory.py` `LiveCandleFetcher.fetch_incremental`. Kind: D -/
def chartReply (rows : List ChartRow) : Surroundings
  | .fetchCandles _ _ since =>
      { candles := KiwoomMarketDataGateway.fetchCandlesIncremental rows since }
  | _ => {}

namespace LoopBRunner

variable {strategies : List Strategy} {ticker : String} {timeframe : Timeframe} {now t : Time}
  {w : World} {rows : List ChartRow} {cs api : List Candle}

/-- The world after candles were stored one after another. Source: `app/loops/loop_b_runtime.py`
`LoopBRunner._sync_and_scan`. Kind: D -/
def storeAll (ticker : String) (timeframe : Timeframe) (cs : List Candle) (w : World) : World :=
  cs.foldl (fun w c => CandleRepository.upsertIncremental w ticker timeframe c) w

theorem storeAll_snoc {c : Candle} :
    storeAll ticker timeframe (cs ++ [c]) w =
      CandleRepository.upsertIncremental (storeAll ticker timeframe cs w) ticker timeframe c := by
  unfold storeAll
  rw [List.foldl_append]
  rfl

/-- A time that is not stored anew keeps its row. Source: `app/repositories/candle.py`
`CandleRepository.upsert_incremental`. Kind: L -/
theorem get?_storeAll_of_notMem (h : ∀ c ∈ cs, c.ts ≠ t) :
    (storeAll ticker timeframe cs w).candles.get? (ticker, timeframe, t) =
      w.candles.get? (ticker, timeframe, t) := by
  induction cs using List.reverseRecOn with
  | nil => rfl
  | append_singleton cs c ih =>
      have hne : (ticker, timeframe, t) ≠ (ticker, timeframe, c.ts) := by
        intro heq
        simp only [Prod.mk.injEq, true_and] at heq
        exact h c (List.mem_append_right _ List.mem_cons_self) heq.symm
      rw [storeAll_snoc, CandleRepository.get?_upsertIncremental, if_neg hne]
      exact ih fun c' hc' => h c' (List.mem_append_left _ hc')

/-- A time that is stored anew gets one of the candles given for it.
Source: `app/repositories/candle.py` `CandleRepository.upsert_incremental`. Kind: L -/
theorem get?_storeAll_of_mem (h : ∃ c ∈ cs, c.ts = t) :
    ∃ c ∈ cs, c.ts = t ∧ (storeAll ticker timeframe cs w).candles.get? (ticker, timeframe, t) =
      some ⟨ticker, timeframe, c⟩ := by
  induction cs using List.reverseRecOn with
  | nil =>
      obtain ⟨c, hc, -⟩ := h
      exact absurd hc List.not_mem_nil
  | append_singleton cs c ih =>
      by_cases ht : c.ts = t
      · refine ⟨c, List.mem_append_right _ List.mem_cons_self, ht, ?_⟩
        rw [storeAll_snoc, CandleRepository.get?_upsertIncremental, ht, if_pos rfl]
      · have hne : (ticker, timeframe, t) ≠ (ticker, timeframe, c.ts) := by
          intro heq
          simp only [Prod.mk.injEq, true_and] at heq
          exact ht heq.symm
        have hearlier : ∃ c' ∈ cs, c'.ts = t := by
          obtain ⟨c', hc', hc't⟩ := h
          rcases List.mem_append.mp hc' with hc' | hc'
          · exact ⟨c', hc', hc't⟩
          · obtain rfl := List.mem_singleton.mp hc'
            exact absurd hc't ht
        obtain ⟨c', hc', hc't, hget⟩ := ih hearlier
        refine ⟨c', List.mem_append_left _ hc', hc't, ?_⟩
        rw [storeAll_snoc, CandleRepository.get?_upsertIncremental, if_neg hne, hget]

theorem run_upsertAll :
    (chartReply rows).run (upsertAll ticker timeframe cs) w =
      (.ok (), storeAll ticker timeframe cs w) := by
  induction cs generalizing w with
  | nil => rfl
  | cons c cs ih => exact ih

/-- **What a sync does with the reply**: it stores the fresh candles and queues the signals that the
strategies find in the rows then stored. Source: `app/loops/loop_b_runtime.py`
`LoopBRunner._sync_and_scan`. Kind: P -/
theorem run_syncAndScan :
    let fresh := KiwoomMarketDataGateway.fetchCandlesIncremental rows
      (CandleRepository.getLastCandleTime w ticker timeframe)
    let stored := storeAll ticker timeframe fresh w
    let signals := StrategyRegistry.scan strategies timeframe ticker
      (CandleRepository.listRecent stored ticker timeframe 240) now
    (chartReply rows).run (syncAndScan strategies ticker timeframe now) w =
      (.ok signals.length, { stored with queue := stored.queue ++ signals }) := by
  intro fresh stored signals
  have hrest : ∀ w', (chartReply rows).run (do
      let found ← orRaise (ask (.listRecent .scan ticker timeframe 240))
      let signals := StrategyRegistry.scan strategies timeframe ticker found now
      ask (.putMany signals)
      return signals.length) w' = _ := fun w' => rfl
  show (chartReply rows).run ((upsertAll ticker timeframe fresh).bind _) w = _
  rw [Surroundings.run_bind, run_upsertAll]
  exact hrest stored

end LoopBRunner

/-! ## What a sync should leave -/

section synced

variable {strategies : List Strategy} {ticker : String} {timeframe : Timeframe} {now : Time}
  {w : World} {api : List Candle}

/-- The world after Loop B synced the candles that the market-data API returns.
Source: `app/loops/loop_b_runtime.py` `LoopBRunner._sync_and_scan`. Kind: D -/
def syncedWorld (strategies : List Strategy) (ticker : String) (timeframe : Timeframe) (now : Time)
    (api : List Candle) (w : World) : World :=
  ((chartReply (api.map ChartRow.ofCandle)).run
    (LoopBRunner.syncAndScan strategies ticker timeframe now) w).2

/-- **What the sync should leave**: every candle of the API from the last stored time on is stored as
it is, the older rows are unchanged, and there is one row for each time.
Source: `app/loops/loop_b_runtime.py` `LoopBRunner._sync_and_scan`. Kind: D -/
structure Synced (ticker : String) (timeframe : Timeframe) (api : List Candle) (w w' : World) :
    Prop where
  stored : ∀ c ∈ api,
    (∀ last, CandleRepository.getLastCandleTime w ticker timeframe = some last → last ≤ c.ts) →
    w'.candles.get? (ticker, timeframe, c.ts) = some ⟨ticker, timeframe, c⟩
  older : ∀ t last, CandleRepository.getLastCandleTime w ticker timeframe = some last → t < last →
    w'.candles.get? (ticker, timeframe, t) = w.candles.get? (ticker, timeframe, t)
  unique : ∀ r ∈ w'.candles.rows, ∀ r' ∈ w'.candles.rows, r.key = r'.key → r = r'

/-- The API shows the last stored bar as it is stored, and later bars once and with prices that their
high and low enclose. Source: `app/integrations/kiwoom/market_data.py`
`KiwoomMarketDataGateway.fetch_candles_incremental`. Kind: D -/
structure AgreesWithStored (ticker : String) (timeframe : Timeframe) (api : List Candle) (w : World) :
    Prop where
  last : ∀ c ∈ api, CandleRepository.getLastCandleTime w ticker timeframe = some c.ts →
    w.candles.get? (ticker, timeframe, c.ts) = some ⟨ticker, timeframe, c⟩
  later : ∀ c ∈ api,
    (∀ last, CandleRepository.getLastCandleTime w ticker timeframe = some last → last < c.ts) →
    c.Enclosed ∧ ∀ c' ∈ api, c'.ts = c.ts → c' = c

/-- The candles of the synced world. Source: `app/loops/loop_b_runtime.py`
`LoopBRunner._sync_and_scan`. Kind: L -/
theorem candles_syncedWorld :
    (syncedWorld strategies ticker timeframe now api w).candles =
      (LoopBRunner.storeAll ticker timeframe
        (KiwoomMarketDataGateway.fetchCandlesIncremental (api.map ChartRow.ofCandle)
          (CandleRepository.getLastCandleTime w ticker timeframe)) w).candles := by
  unfold syncedWorld
  rw [LoopBRunner.run_syncAndScan]

/-- A time that is not later than the last stored one keeps its row.
Source: `app/integrations/kiwoom/market_data.py`
`KiwoomMarketDataGateway.fetch_candles_incremental`. Kind: L -/
theorem get?_syncedWorld_of_le {t last : Time}
    (hlast : CandleRepository.getLastCandleTime w ticker timeframe = some last) (hle : t ≤ last) :
    (syncedWorld strategies ticker timeframe now api w).candles.get? (ticker, timeframe, t) =
      w.candles.get? (ticker, timeframe, t) := by
  rw [candles_syncedWorld]
  apply LoopBRunner.get?_storeAll_of_notMem
  rintro c hc rfl
  obtain ⟨raw, -, hlater, rfl⟩ := KiwoomMarketDataGateway.mem_fetchCandlesIncremental.mp hc
  exact absurd hle (not_le.mpr (hlater last hlast))

/-- A time of the reply that is later than the last stored one gets a candle of the reply.
Source: `app/integrations/kiwoom/market_data.py`
`KiwoomMarketDataGateway.fetch_candles_incremental`. Kind: L -/
theorem get?_syncedWorld_of_later {c : Candle} (hc : c ∈ api)
    (hlater : ∀ last, CandleRepository.getLastCandleTime w ticker timeframe = some last →
      last < c.ts) :
    ∃ raw ∈ api, raw.ts = c.ts ∧
      (syncedWorld strategies ticker timeframe now api w).candles.get? (ticker, timeframe, c.ts) =
        some ⟨ticker, timeframe, (ChartRow.ofCandle raw).candle raw.ts⟩ := by
  rw [candles_syncedWorld]
  obtain ⟨kept, hkept, hts, hget⟩ := LoopBRunner.get?_storeAll_of_mem
    ⟨_, KiwoomMarketDataGateway.mem_fetchCandlesIncremental.mpr ⟨c, hc, hlater, rfl⟩, rfl⟩
  obtain ⟨raw, hraw, -, rfl⟩ := KiwoomMarketDataGateway.mem_fetchCandlesIncremental.mp hkept
  exact ⟨raw, hraw, hts, hget⟩

/-- A well-formed candle that is later than the last stored one is stored as it is.
Source: `app/loops/loop_b_runtime.py` `LoopBRunner._sync_and_scan`. Kind: L -/
theorem AgreesWithStored.get?_syncedWorld {c : Candle} (h : AgreesWithStored ticker timeframe api w)
    (hc : c ∈ api) (hlater : ∀ last,
      CandleRepository.getLastCandleTime w ticker timeframe = some last → last < c.ts) :
    (syncedWorld strategies ticker timeframe now api w).candles.get? (ticker, timeframe, c.ts) =
      some ⟨ticker, timeframe, c⟩ := by
  obtain ⟨hclosed, hone⟩ := h.later c hc hlater
  obtain ⟨raw, hraw, hts, hget⟩ := get?_syncedWorld_of_later hc hlater
  obtain rfl := hone raw hraw hts
  rw [hget, ChartRow.candle_ofCandle_iff.mpr hclosed]

/-- **The sync leaves what it should exactly when the last stored bar did not change**, and the later
bars are well formed. Source: `app/loops/loop_b_runtime.py` `LoopBRunner._sync_and_scan`. Kind: P -/
theorem synced_iff (strategies : List Strategy) (ticker : String) (timeframe : Timeframe)
    (now : Time) (api : List Candle) (w : World) :
    Synced ticker timeframe api w (syncedWorld strategies ticker timeframe now api w) ↔
      AgreesWithStored ticker timeframe api w := by
  constructor
  · intro h
    refine ⟨?_, ?_⟩
    · intro c hc hlast
      have hstored := h.stored c hc fun last h' => by
        rw [hlast] at h'
        exact (Option.some.inj h').ge
      rwa [get?_syncedWorld_of_le hlast le_rfl] at hstored
    · intro c hc hlater
      have hstored := h.stored c hc fun last h' => (hlater last h').le
      have hone : ∀ c' ∈ api, c'.ts = c.ts → c' = c := by
        intro c' hc' hts
        have hstored' := h.stored c' hc' fun last h' => hts ▸ (hlater last h').le
        rw [hts, hstored] at hstored'
        exact (congrArg CandleRow.candle (Option.some.inj hstored')).symm
      obtain ⟨raw, hraw, hts, hget⟩ := get?_syncedWorld_of_later hc hlater
      obtain rfl := hone raw hraw hts
      rw [hstored] at hget
      have hsame := congrArg CandleRow.candle (Option.some.inj hget)
      exact ⟨ChartRow.candle_ofCandle_iff.mp hsame.symm, hone⟩
  · intro h
    refine ⟨?_, ?_, ?_⟩
    · intro c hc hle
      rcases hlast : CandleRepository.getLastCandleTime w ticker timeframe with _ | last
      · exact h.get?_syncedWorld hc (by simp [hlast])
      · rcases (hle last hlast).eq_or_lt with rfl | hlt
        · rw [get?_syncedWorld_of_le hlast le_rfl]
          exact h.last c hc hlast
        · refine h.get?_syncedWorld hc ?_
          rintro last' hlast'
          rw [hlast] at hlast'
          exact Option.some.inj hlast' ▸ hlt
    · intro t last hlast hlt
      exact get?_syncedWorld_of_le hlast hlt.le
    · intro r hr r' hr' hkey
      exact Table.eq_of_key_eq hr hr' hkey

end synced

/-- The bar of nine o'clock, when it was stored. Source: none: infrastructure. Kind: D -/
def barInProgress : Candle := ⟨100, 101, 99, 100, 32400, 1000⟩

/-- The same bar at its end. Source: none: infrastructure. Kind: D -/
def barClosed : Candle := ⟨100, 102, 98, 101, 32400, 1200⟩

/-- The bar after it. Source: none: infrastructure. Kind: D -/
def barNext : Candle := ⟨101, 103, 100, 102, 32700, 1300⟩

/-- **The last stored bar is not refreshed.** Source: `app/integrations/kiwoom/market_data.py`
`KiwoomMarketDataGateway.fetch_candles_incremental`. Kind: P -/
theorem synced_not :
    ¬ ∀ (strategies : List Strategy) (ticker : String) (timeframe : Timeframe) (now : Time)
      (api : List Candle) (w : World),
      Synced ticker timeframe api w (syncedWorld strategies ticker timeframe now api w) := by
  intro h
  have hstored := (h [] "005930" .m5 32700 [barClosed, barNext]
    (CandleRepository.upsertIncremental {} "005930" .m5 barInProgress)).stored barClosed
    List.mem_cons_self fun last hlast => by
      have hsome : CandleRepository.getLastCandleTime
          (CandleRepository.upsertIncremental {} "005930" .m5 barInProgress) "005930" .m5 =
          some 32400 := by decide +kernel
      rw [hsome] at hlast
      exact (Option.some.inj hlast).ge
  have hold : (syncedWorld [] "005930" .m5 32700 [barClosed, barNext]
      (CandleRepository.upsertIncremental {} "005930" .m5 barInProgress)).candles.get?
      ("005930", .m5, barClosed.ts) = some ⟨"005930", .m5, barInProgress⟩ := by decide +kernel
  rw [hold] at hstored
  exact absurd hstored (by decide +kernel)

end HaruTrade
