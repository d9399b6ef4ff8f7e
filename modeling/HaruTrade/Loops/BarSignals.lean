import Mathlib.Order.WithBot
import HaruTrade.Loops.LoopB
import HaruTrade.Loops.Moves

/-!
# Signals and the bars they come from

Loop B marks the wall-clock slot that it processed, and a strategy looks at the last stored bar. When
no newer bar was stored since the scan before, the same bar is scanned again in the next slot.

* `ScanLog` — the world with a record of every scan: the candles it read and the signals it queued.
* `scanProtocol` — a scan queues what the strategies find in the candles that it has just read.
* `ScanInv` — **the invariant**: the scans of a ticker and timeframe read bars in order.
* `bars_acted_on_once` — what every run keeps in which a scan that finds signals has a newer bar than
  the scan before; `bars_acted_on_twice` is a run in which it does not.
-/

namespace HaruTrade

open Coro

/-! ## The log of the scans -/

/-- The time of the last of some candles. Source: `app/loops/loop_b_runtime.py`
`LoopBRunner._sync_and_scan`. Kind: D -/
def lastTime (candles : List Candle) : WithBot Time :=
  candles.getLast?.elim ⊥ fun c => (c.ts : WithBot Time)

/-- The last of the recent candles is the last of all. Source: `app/repositories/candle.py`
`CandleRepository.list_recent`. Kind: L -/
theorem lastTime_drop {candles : List Candle} {limit : ℕ} (h : 0 < limit) :
    lastTime (candles.drop (candles.length - limit)) = lastTime candles := by
  unfold lastTime
  rcases candles.eq_nil_or_concat' with rfl | ⟨front, last, rfl⟩
  · rw [List.drop_nil]
  · rw [List.drop_append_of_le_length (by rw [List.length_append, List.length_singleton]; omega),
      List.getLast?_concat, List.getLast?_concat]

/-- The candles that a scan has read. Source: `app/loops/loop_b_runtime.py`
`LoopBRunner._sync_and_scan`. Kind: D -/
structure ScanRead where
  ticker : String
  timeframe : Timeframe
  candles : List Candle

/-- The time of the last candle. Source: `app/loops/loop_b_runtime.py`
`LoopBRunner._sync_and_scan`. Kind: D -/
def ScanRead.bar (read : ScanRead) : WithBot Time := lastTime read.candles

/-- The scans are of the same ticker and timeframe. Source: none: infrastructure. Kind: D -/
def ScanRead.SameSeries (a b : ScanRead) : Prop :=
  a.ticker = b.ticker ∧ a.timeframe = b.timeframe

instance (a b : ScanRead) : Decidable (a.SameSeries b) := instDecidableAnd

/-- A scan: what it read and the signals that it queued. Source: `app/loops/loop_b_runtime.py`
`LoopBRunner._sync_and_scan`. Kind: D -/
structure Scan extends ScanRead where
  signals : List Signal

/-- The world with a record of the scans, oldest first. Source: none: infrastructure. Kind: D -/
structure ScanLog where
  world : World
  /-- The last candles that were read for a scan. -/
  reading : Option ScanRead := none
  scans : List Scan := []

namespace ScanLog

/-- The record after an answered call. Source: none: infrastructure. Kind: D -/
def next (s : ScanLog) (w : World) : (e : Op) → Resp e → ScanLog
  | .listRecent .scan ticker timeframe _, .ok candles =>
      { s with world := w, reading := some ⟨ticker, timeframe, candles⟩ }
  | .putMany signals, _ =>
      { s with world := w, scans := s.scans ++ (s.reading.map fun read => ⟨read, signals⟩).toList }
  | _, _ => { s with world := w }

/-- A call is answered from the world alone, and recorded. Source: none: infrastructure. Kind: D -/
def exec (e : Op) (a : Answer) (s : ScanLog) : Resp e × ScanLog :=
  let r := HaruTrade.exec e a s.world
  (r.1, s.next r.2 e r.1)

/-- The last scan of a ticker and timeframe. Source: none: infrastructure. Kind: D -/
def lastScan (s : ScanLog) (read : ScanRead) : Option Scan :=
  (s.scans.filter fun sc => sc.SameSeries read).getLast?

/-- The signals that were queued, each with the last candle that it was found on.
Source: none: infrastructure. Kind: D -/
def enqueued (s : ScanLog) : List (WithBot Time × Signal) :=
  s.scans.flatMap fun sc => sc.signals.map fun signal => (sc.bar, signal)

/-- **A bar is acted on at most once**: two signals of the same ticker, timeframe and strategy were
found on different last candles. Source: `app/loops/loop_b_runtime.py`
`LoopBRunner.run_once_for_ticker`. Kind: D -/
def ActedOnce (s : ScanLog) : Prop :=
  s.enqueued.Pairwise fun a b => a.2.ticker = b.2.ticker → a.2.timeframe = b.2.timeframe →
    a.2.strategyId = b.2.strategyId → a.1 ≠ b.1

/-- A scan that finds signals has a newer last candle than the scan of the same ticker and timeframe
before it. Source: none: infrastructure. Kind: D -/
def NewBar (e : Op) (s : ScanLog) : Prop :=
  ∀ signals, e = .putMany signals → signals ≠ [] →
    ∀ read ∈ s.reading, ∀ sc ∈ s.lastScan read, sc.bar < read.bar

end ScanLog

namespace LoopBRunner

/-- **A run of Loop B**: calls for tickers at given times, under answers that all satisfy `C`.
Source: `app/loops/loop_b_runtime.py` `LoopBRunner.run_once_for_ticker`. Kind: D -/
inductive Runs (strategies : List Strategy) (C : Op → ScanLog → Prop) :
    List (Time × String) → ScanLog → ScanLog → Prop
  | nil (s : ScanLog) : Runs strategies C [] s s
  | cons {now : Time} {ticker : String} {calls : List (Time × String)} {s s₁ s' : ScanLog}
      {out : Except Exn ℕ}
      (hcall : Exec ScanLog.exec (fun e a s => C e s ∧ (e = .now → a.time = now))
        (runOnceForTicker strategies ticker) s out s₁)
      (hrest : Runs strategies C calls s₁ s') : Runs strategies C ((now, ticker) :: calls) s s'

end LoopBRunner

/-- The strategies label their signals, and no two of them have the same identifier.
Source: `app/strategies/registry.py` `StrategyRegistry.__init__`. Kind: D -/
structure StrategyRegistry.Labelled (strategies : List Strategy) (id : Strategy → String) : Prop where
  label : ∀ s ∈ strategies, ∀ ticker candles now signal,
    s.generate ticker candles now = some signal →
      signal.ticker = ticker ∧ signal.timeframe = s.timeframe.name ∧ signal.strategyId = id s
  distinct : (strategies.map id).Nodup

/-! ## The last stored bar -/

namespace CandleRepository

variable {w : World} {ticker : String} {timeframe : Timeframe}

/-- The time of the last stored candle. Source: `app/repositories/candle.py`
`CandleRepository.list_recent`. Kind: D -/
def lastBar (w : World) (ticker : String) (timeframe : Timeframe) : WithBot Time :=
  lastTime (history w ticker timeframe)

/-- The recent candles end with the last stored bar. Source: `app/repositories/candle.py`
`CandleRepository.list_recent`. Kind: L -/
theorem bar_listRecent {limit : ℕ} (h : 0 < limit) :
    (ScanRead.mk ticker timeframe (listRecent w ticker timeframe limit)).bar =
      lastBar w ticker timeframe := by
  unfold ScanRead.bar listRecent lastBar
  exact lastTime_drop h

/-- Source: `app/repositories/candle.py` `CandleRepository.list_recent`. Kind: L -/
theorem le_lastBar {c : Candle} (h : c ∈ history w ticker timeframe) :
    (c.ts : WithBot Time) ≤ lastBar w ticker timeframe := by
  unfold lastBar lastTime
  have hpair : (history w ticker timeframe).Pairwise fun a b => a.ts ≤ b.ts := pairwise_history
  rcases (history w ticker timeframe).eq_nil_or_concat' with hnil | ⟨front, last, hlast⟩
  · rw [hnil] at h
    exact absurd h List.not_mem_nil
  · rw [hlast] at h hpair ⊢
    rw [List.getLast?_concat, Option.elim_some]
    refine WithBot.coe_le_coe.mpr ?_
    rcases List.mem_append.mp h with h | h
    · exact (List.pairwise_append.mp hpair).2.2 c h last List.mem_cons_self
    · rw [List.mem_singleton.mp h]

/-- No call takes the last stored bar back. Source: `app/repositories/candle.py`
`CandleRepository.upsert_incremental`. Kind: L -/
theorem lastBar_le_exec {e : Op} {a : Answer} :
    lastBar w ticker timeframe ≤ lastBar (exec e a w).2 ticker timeframe := by
  -- a stored time stays stored
  have hkeep : ∀ t, w.candles.get? (ticker, timeframe, t) ≠ none →
      (exec e a w).2.candles.get? (ticker, timeframe, t) ≠ none := by
    intro t ht
    cases e with
    | upsertIncremental tk tf c =>
        rcases committed_snd a () w (upsertIncremental w tk tf c) with h | h
        · simpa only [exec, h] using ht
        · simp only [exec, h]
          rw [get?_upsertIncremental]
          split
          · exact Option.some_ne_none _
          · exact ht
    | _ =>
        rw [exec_candles rfl]
        exact ht
  unfold lastBar lastTime
  cases hlast : (history w ticker timeframe).getLast? with
  | none => exact bot_le
  | some c =>
      have hmem : c ∈ history w ticker timeframe := List.mem_of_getLast? hlast
      have hget := hkeep c.ts (by rw [mem_history.mp hmem]; exact Option.some_ne_none _)
      obtain ⟨⟨tk, tf, c'⟩, hrow⟩ := Option.ne_none_iff_exists'.mp hget
      obtain ⟨-, hkey⟩ := Table.get?_eq_some_iff.mp hrow
      simp only [CandleRow.key, Prod.mk.injEq] at hkey
      obtain ⟨rfl, rfl, hts⟩ := hkey
      rw [Option.elim_some, ← hts]
      exact le_lastBar (mem_history.mpr (by rw [hts]; exact hrow))

end CandleRepository

/-! ## What a scan queues -/

/-- **What Loop B queues**: what the strategies find in the candles that were last read for a scan.
Source: `app/loops/core.py` `LoopBScanner.run_for_timeframe`. Kind: D -/
def scanProtocol (strategies : List Strategy) : Protocol Op Resp (Option ScanRead) where
  allows reading
    | .putMany signals => ∃ read now, reading = some read ∧
        signals = StrategyRegistry.scan strategies read.timeframe read.ticker read.candles now
    | .listRecent .scan _ _ limit => limit = 240
    | .popOne => False
    | _ => True
  next
    | _, .listRecent .scan ticker timeframe _, .ok candles => some ⟨ticker, timeframe, candles⟩
    | reading, _, _ => reading

/-- The calls of Loop B that are not part of a scan. Source: none: infrastructure. Kind: D -/
def Op.besideScan : Op → Bool
  | .putMany _ => false
  | .listRecent .scan _ _ _ => false
  | .popOne => false
  | _ => true

section follows

variable {strategies : List Strategy} {ticker : String} {timeframe : Timeframe} {now : Time}
  {reading : Option ScanRead} {α : Type}

/-- Source: none: infrastructure. Kind: L -/
theorem follows_of_besideScan {p : Prog α} (h : Uses (fun e => e.besideScan = true) p) :
    Follows (scanProtocol strategies) (fun _ reading' => reading = reading') reading p := by
  refine h.follows (fun _ => rfl) (fun _ _ _ h₁ h₂ => h₁.trans h₂) ?_
  intro e m he
  cases e with
  | putMany signals => exact absurd he Bool.false_ne_true
  | popOne => exact absurd he Bool.false_ne_true
  | listRecent use ticker timeframe limit =>
      cases use with
      | scan => exact absurd he Bool.false_ne_true
      | atr pid => exact ⟨trivial, fun _ => rfl⟩
  | _ => exact ⟨trivial, fun _ => rfl⟩

/-- **A scan queues what it has read.** Source: `app/loops/loop_b_runtime.py`
`LoopBRunner._sync_and_scan`. Kind: L -/
theorem follows_syncAndScan :
    Follows (scanProtocol strategies) (fun _ _ => True) reading
      (LoopBRunner.syncAndScan strategies ticker timeframe now) := by
  have hask : ∀ {β : Type} {p : Prog β} {f : β → Prog ℕ}, Uses (fun e => e.besideScan = true) p →
      (∀ v, Follows (scanProtocol strategies) (fun _ _ => True) reading (f v)) →
      Follows (scanProtocol strategies) (fun _ _ => True) reading (p.bind f) := by
    intro β p f huses hf
    refine (follows_of_besideScan huses).bind ?_ fun _ _ _ => trivial
    rintro v _ rfl
    exact hf v
  have hfetch : ∀ since, Uses (fun e => e.besideScan = true)
      (ResilientCandleFetcher.fetchIncremental ticker timeframe since 2) := by
    intro since
    apply uses_fetchIncremental <;> rfl
  have hupsert : ∀ candles, Uses (fun e => e.besideScan = true)
      (LoopBRunner.upsertAll ticker timeframe candles) :=
    LoopBRunner.uses_upsertAll fun _ => rfl
  refine hask (uses_orRaise (uses_perform.mpr rfl)) fun _ => ?_
  refine hask (uses_orRaise (uses_perform.mpr rfl)) fun lastTs => ?_
  refine hask (hfetch lastTs) fun fresh => ?_
  refine hask (uses_orRaise (uses_perform.mpr rfl)) fun _ => ?_
  refine hask (hupsert fresh) fun _ => ?_
  refine ⟨rfl, fun rows => ?_⟩
  cases rows with
  | error x => exact trivial
  | ok rows => exact ⟨⟨⟨ticker, timeframe, rows⟩, now, rfl, rfl⟩, fun _ => trivial⟩

/-- Source: `app/loops/loop_b_runtime.py` `LoopBRunner.run_once_for_ticker`. Kind: L -/
theorem follows_runOnceForTicker :
    Follows (scanProtocol strategies) (fun _ _ => True) reading
      (LoopBRunner.runOnceForTicker strategies ticker) := by
  refine ⟨trivial, fun now => ?_⟩
  suffices hall : ∀ due reading produced, Follows (scanProtocol strategies) (fun _ _ => True) reading
      (LoopBRunner.runTimeframes strategies ticker now due produced) from hall _ _ _
  intro due
  induction due with
  | nil => exact fun _ _ => trivial
  | cons timeframe due ih =>
      intro reading produced
      refine ⟨trivial, fun slot => ?_⟩
      simp only [ret_bind]
      by_cases hslot : slot = some (MarketSchedule.slotKey now timeframe)
      · rw [if_pos hslot]
        exact ih _ _
      · rw [if_neg hslot]
        have hscan : Follows (scanProtocol strategies) (fun _ _ => True) reading
            (some <$> LoopBRunner.syncAndScan strategies ticker timeframe now : Prog (Option ℕ)) :=
          follows_syncAndScan.bind (fun _ _ _ => trivial) fun _ _ _ => trivial
        have hcaught : Follows (scanProtocol strategies) (fun _ _ => True) reading
            (catchSql (some <$> LoopBRunner.syncAndScan strategies ticker timeframe now)
              fun _ => return none) := by
          refine hscan.tryCatch (fun _ _ _ => trivial) fun x _ _ => ?_
          cases x <;> exact trivial
        refine Follows.bind hcaught (fun found m _ => ?_) fun _ _ _ => trivial
        cases found with
        | none => exact ih _ _
        | some n => exact ⟨trivial, fun _ => ih _ _⟩

end follows

/-! ## The invariant -/

/-- **The invariant of a run of Loop B.** `before` is the queue that the run started with.
Source: `app/loops/loop_b_runtime.py` `LoopBRunner.run_once_for_ticker`. Kind: D -/
structure ScanInv (strategies : List Strategy) (before : List Signal) (s : ScanLog) : Prop where
  /-- No scan has read a later bar than the last stored one. -/
  stored : ∀ sc ∈ s.scans, sc.bar ≤ CandleRepository.lastBar s.world sc.ticker sc.timeframe
  /-- What was read last is not older than any scan. -/
  reading : ∀ read ∈ s.reading,
    read.bar ≤ CandleRepository.lastBar s.world read.ticker read.timeframe ∧
      ∀ sc ∈ s.scans, sc.SameSeries read → sc.bar ≤ read.bar
  /-- The bars of the scans of a series are in order, and a scan that found signals had a new one. -/
  ordered : s.scans.Pairwise fun sc sc' => sc.SameSeries sc'.toScanRead →
    sc.bar ≤ sc'.bar ∧ (sc'.signals ≠ [] → sc.bar < sc'.bar)
  /-- The signals of a scan are those that the strategies found in what it read. -/
  scanned : ∀ sc ∈ s.scans, ∃ now,
    sc.signals = StrategyRegistry.scan strategies sc.timeframe sc.ticker sc.candles now
  /-- Every queued signal is recorded. -/
  queue : s.world.queue = before ++ s.scans.flatMap Scan.signals

namespace ScanInv

variable {strategies : List Strategy} {before : List Signal} {s : ScanLog} {w : World}
  {read : ScanRead} {signals : List Signal} {now : Time}

theorem start (strategies : List Strategy) (w : World) :
    ScanInv strategies w.queue { world := w } where
  stored := fun _ h => absurd h List.not_mem_nil
  reading := fun _ h => by cases h
  ordered := List.Pairwise.nil
  scanned := fun _ h => absurd h List.not_mem_nil
  queue := (List.append_nil _).symm

/-- A call beside the scans. Source: none: infrastructure. Kind: L -/
theorem frame (h : ScanInv strategies before s)
    (hbar : ∀ ticker timeframe, CandleRepository.lastBar s.world ticker timeframe ≤
      CandleRepository.lastBar w ticker timeframe) (hqueue : w.queue = s.world.queue) :
    ScanInv strategies before { s with world := w } where
  stored := fun sc hsc => (h.stored sc hsc).trans (hbar _ _)
  reading := fun read hread => ⟨(h.reading read hread).1.trans (hbar _ _), (h.reading read hread).2⟩
  ordered := h.ordered
  scanned := h.scanned
  queue := hqueue.trans h.queue

/-- A read of the last candles. Source: `app/loops/loop_b_runtime.py`
`LoopBRunner._sync_and_scan`. Kind: L -/
theorem reads (h : ScanInv strategies before s)
    (hread : read.bar = CandleRepository.lastBar s.world read.ticker read.timeframe) :
    ScanInv strategies before { s with reading := some read } where
  stored := h.stored
  reading := by
    rintro _ ⟨⟩
    refine ⟨hread.le, fun sc hsc hsame => ?_⟩
    rw [hread, ← hsame.1, ← hsame.2]
    exact h.stored sc hsc
  ordered := h.ordered
  scanned := h.scanned
  queue := h.queue

/-- No earlier scan of a series is later than its last one. Source: none: infrastructure. Kind: L -/
theorem bar_le_lastScan (h : ScanInv strategies before s) {sc : Scan} (hsc : sc ∈ s.scans)
    (hsame : sc.SameSeries read) : ∃ last ∈ s.lastScan read, sc.bar ≤ last.bar := by
  have hmem : sc ∈ s.scans.filter fun sc => sc.SameSeries read :=
    List.mem_filter.mpr ⟨hsc, decide_eq_true hsame⟩
  have hpair := h.ordered.filter fun sc => sc.SameSeries read
  unfold ScanLog.lastScan
  rcases (s.scans.filter fun sc => sc.SameSeries read).eq_nil_or_concat' with
    hnil | ⟨front, last, hlast⟩
  · rw [hnil] at hmem
    exact absurd hmem List.not_mem_nil
  · have hlastmem : last ∈ s.scans.filter fun sc => sc.SameSeries read := by
      rw [hlast]
      exact List.mem_append_right _ List.mem_cons_self
    have hlastsame : last.SameSeries read := of_decide_eq_true (List.mem_filter.mp hlastmem).2
    rw [hlast] at hmem hpair ⊢
    refine ⟨last, by rw [List.getLast?_concat]; rfl, ?_⟩
    rcases List.mem_append.mp hmem with hmem | hmem
    · have hboth : sc.SameSeries last.toScanRead :=
        ⟨hsame.1.trans hlastsame.1.symm, hsame.2.trans hlastsame.2.symm⟩
      exact ((List.pairwise_append.mp hpair).2.2 sc hmem last List.mem_cons_self hboth).1
    · rw [List.mem_singleton.mp hmem]

/-- **A scan.** Source: `app/loops/core.py` `LoopBScanner.run_for_timeframe`. Kind: L -/
theorem put (h : ScanInv strategies before s) (hread : s.reading = some read)
    (hsignals : signals =
      StrategyRegistry.scan strategies read.timeframe read.ticker read.candles now)
    (hnew : s.NewBar (.putMany signals)) :
    ScanInv strategies before
      { s with
        world := { s.world with queue := s.world.queue ++ signals }
        scans := s.scans ++ [⟨read, signals⟩] } where
  stored := by
    intro sc hsc
    rcases List.mem_append.mp hsc with hsc | hsc
    · exact h.stored sc hsc
    · rw [List.mem_singleton.mp hsc]
      exact (h.reading read hread).1
  reading := by
    intro read' hread'
    obtain rfl : read = read' := Option.some.inj (hread.symm.trans hread')
    refine ⟨(h.reading read hread).1, fun sc hsc hsame => ?_⟩
    rcases List.mem_append.mp hsc with hsc | hsc
    · exact (h.reading read hread).2 sc hsc hsame
    · rw [List.mem_singleton.mp hsc]
  ordered := by
    refine List.pairwise_append.mpr ⟨h.ordered, List.pairwise_singleton _ _, ?_⟩
    intro sc hsc sc' hsc' hsame
    rw [List.mem_singleton.mp hsc'] at hsame ⊢
    refine ⟨(h.reading read hread).2 sc hsc hsame, fun hne => ?_⟩
    obtain ⟨last, hlast, hle⟩ := h.bar_le_lastScan hsc hsame
    exact hle.trans_lt (hnew signals rfl hne read hread last hlast)
  scanned := by
    intro sc hsc
    rcases List.mem_append.mp hsc with hsc | hsc
    · exact h.scanned sc hsc
    · rw [List.mem_singleton.mp hsc]
      exact ⟨now, hsignals⟩
  queue := by
    rw [List.flatMap_append, ← List.append_assoc, ← h.queue]
    simp

/-- **The step lemma**: every call of Loop B keeps the invariant, if a scan that finds signals has a
new bar. Source: `app/loops/loop_b_runtime.py` `LoopBRunner._sync_and_scan`. Kind: L -/
theorem step {e : Op} {a : Answer} {m : Option ScanRead}
    (hallows : (scanProtocol strategies).allows m e)
    (hnew : s.NewBar e) (h : s.reading = m ∧ ScanInv strategies before s) :
    (ScanLog.exec e a s).2.reading = (scanProtocol strategies).next m e (ScanLog.exec e a s).1 ∧
      ScanInv strategies before (ScanLog.exec e a s).2 := by
  obtain ⟨rfl, h⟩ := h
  cases e with
  | putMany signals =>
      obtain ⟨read, now, hread, hsignals⟩ := hallows
      refine ⟨rfl, ?_⟩
      have hput := h.put hread hsignals hnew
      show ScanInv strategies before
        { s with
          world := { s.world with queue := s.world.queue ++ signals }
          scans := s.scans ++ (s.reading.map fun read => ⟨read, signals⟩).toList }
      rw [hread]
      rwa [hread] at hput
  | popOne => exact hallows.elim
  | listRecent use ticker timeframe limit =>
      cases use with
      | atr pid =>
          exact ⟨rfl, h.frame (fun _ _ => CandleRepository.lastBar_le_exec) (exec_queue rfl)⟩
      | scan =>
          obtain rfl : limit = 240 := hallows
          unfold ScanLog.exec
          simp only [HaruTrade.exec]
          rcases queried_cases a (CandleRepository.listRecent s.world ticker timeframe 240) s.world with
            hq | ⟨t, hq⟩
          · rw [hq]
            exact ⟨rfl, h.reads (CandleRepository.bar_listRecent (by decide))⟩
          · rw [hq]
            exact ⟨rfl, h⟩
  | _ => exact ⟨rfl, h.frame (fun _ _ => CandleRepository.lastBar_le_exec) (exec_queue rfl)⟩

/-- **The run lemma.** Source: `app/loops/loop_b_runtime.py` `LoopBRunner.run_once_for_ticker`.
Kind: L -/
theorem of_runs {calls : List (Time × String)} {s' : ScanLog}
    (hrun : LoopBRunner.Runs strategies ScanLog.NewBar calls s s') (h : ScanInv strategies before s) :
    ScanInv strategies before s' := by
  induction hrun with
  | nil => exact h
  | cons hcall _ ih =>
      obtain ⟨m, -, -, h⟩ := follows_runOnceForTicker.exec_invariant
        (J := fun m s => s.reading = m ∧ ScanInv strategies before s)
        (fun _ _ _ _ hallows hok hJ => step hallows hok.1 hJ) hcall ⟨rfl, h⟩
      exact ih h

end ScanInv

/-! ## A bar is acted on at most once -/

section once

variable {strategies : List Strategy} {id : Strategy → String} {ticker : String}
  {timeframe : Timeframe} {candles : List Candle} {now : Time} {before : List Signal} {s : ScanLog}

theorem Timeframe.name_injective : Function.Injective Timeframe.name := by
  intro a b h
  cases a <;> cases b <;> first | rfl | exact absurd h (by decide)

/-- Source: `app/strategies/registry.py` `StrategyRegistry.scan`. Kind: L -/
theorem StrategyRegistry.Labelled.of_mem_scan (h : Labelled strategies id) {signal : Signal}
    (hmem : signal ∈ scan strategies timeframe ticker candles now) :
    signal.ticker = ticker ∧ signal.timeframe = timeframe.name := by
  obtain ⟨s, hs, hsignal⟩ := List.mem_filterMap.mp hmem
  obtain ⟨hs, htf⟩ := List.mem_filter.mp hs
  obtain ⟨hticker, htimeframe, -⟩ := h.label s hs _ _ _ _ hsignal
  rw [of_decide_eq_true htf] at htimeframe
  exact ⟨hticker, htimeframe⟩

/-- A scan finds at most one signal of each strategy. Source: `app/strategies/registry.py`
`StrategyRegistry.scan`. Kind: L -/
theorem StrategyRegistry.Labelled.pairwise_scan (h : Labelled strategies id) :
    (scan strategies timeframe ticker candles now).Pairwise
      fun a b => a.strategyId ≠ b.strategyId := by
  have hids : strategies.Pairwise fun s s' => id s ≠ id s' := List.pairwise_map.mp h.distinct
  unfold scan forTimeframe
  refine List.pairwise_filterMap.mpr (List.Pairwise.imp_of_mem ?_ (hids.filter _))
  intro s s' hs hs' hne a ha b hb
  rw [(h.label s (List.mem_filter.mp hs).1 _ _ _ _ ha).2.2,
    (h.label s' (List.mem_filter.mp hs').1 _ _ _ _ hb).2.2]
  exact hne

/-- **What the invariant says of the queued signals.** Source: `app/loops/loop_b_runtime.py`
`LoopBRunner.run_once_for_ticker`. Kind: L -/
theorem ScanInv.actedOnce (h : ScanInv strategies before s)
    (hl : StrategyRegistry.Labelled strategies id) : s.ActedOnce := by
  unfold ScanLog.ActedOnce ScanLog.enqueued
  refine List.pairwise_flatMap.mpr ⟨?_, List.Pairwise.imp_of_mem ?_ h.ordered⟩
  · intro sc hsc
    obtain ⟨now, hsignals⟩ := h.scanned sc hsc
    rw [List.pairwise_map, hsignals]
    exact hl.pairwise_scan.imp fun hne _ _ hid => absurd hid hne
  · intro sc sc' hsc hsc' hordered a ha b hb hticker htimeframe _
    obtain ⟨signal, hsignal, rfl⟩ := List.mem_map.mp ha
    obtain ⟨signal', hsignal', rfl⟩ := List.mem_map.mp hb
    have hne : sc'.signals ≠ [] := List.ne_nil_of_mem hsignal'
    obtain ⟨now, hscan⟩ := h.scanned sc hsc
    obtain ⟨now', hscan'⟩ := h.scanned sc' hsc'
    rw [hscan] at hsignal
    rw [hscan'] at hsignal'
    obtain ⟨ht, htf⟩ := hl.of_mem_scan hsignal
    obtain ⟨ht', htf'⟩ := hl.of_mem_scan hsignal'
    have hsame : sc.SameSeries sc'.toScanRead :=
      ⟨ht.symm.trans (hticker.trans ht'),
        Timeframe.name_injective (htf.symm.trans (htimeframe.trans htf'))⟩
    exact ((hordered hsame).2 hne).ne

end once

/-- **A bar is acted on at most once** in every run in which each scan that finds signals has a newer
bar than the scan of the same ticker and timeframe before it; and the record of the run holds every
signal that it queued. Source: `app/loops/loop_b_runtime.py` `LoopBRunner.run_once_for_ticker`.
Kind: P -/
theorem bars_acted_on_once (strategies : List Strategy) (id : Strategy → String)
    (hl : StrategyRegistry.Labelled strategies id) (calls : List (Time × String)) (w : World)
    (s : ScanLog) (h : LoopBRunner.Runs strategies ScanLog.NewBar calls { world := w } s) :
    s.ActedOnce ∧ s.world.queue = w.queue ++ s.enqueued.map Prod.snd := by
  have hinv := (ScanInv.start strategies w).of_runs h
  refine ⟨hinv.actedOnce hl, ?_⟩
  rw [hinv.queue, ScanLog.enqueued, List.map_flatMap]
  simp

/-- Source: `app/strategies/impl/gap_momentum.py` `GapMomentumStrategy.generate`. Kind: L -/
theorem GapMomentumStrategy.labelled :
    StrategyRegistry.Labelled [GapMomentumStrategy.strategy] fun _ => "1" where
  label := by
    intro s hs ticker candles now signal h
    obtain rfl := List.mem_singleton.mp hs
    obtain ⟨hid, hticker, htimeframe⟩ :=
      labels_of_generate (ok_of_join_toOption h)
    exact ⟨hticker, htimeframe, hid⟩
  distinct := List.nodup_singleton _

/-- At the given time the market-data service answers for three minutes with the given candles.
Source: none: infrastructure. Kind: D -/
def marketAt (now : Time) (fresh : List Candle) (e : Op) (_ : ScanLog) : Answer :=
  match e with
  | .now => { time := now }
  | .fetchCandles _ .m3 _ => { candles := fresh }
  | _ => {}

/-- The record after a call for a ticker. Source: none: infrastructure. Kind: D -/
def calledAt (now : Time) (fresh : List Candle) (s : ScanLog) : ScanLog :=
  ((LoopBRunner.runOnceForTicker [GapMomentumStrategy.strategy] "005930").eval ScanLog.exec
    (marketAt now fresh) s).2

/-- A bar that opens three percent above the close before it. Source: none: infrastructure.
Kind: D -/
def gapBars : List Candle := [⟨100, 100, 100, 100, 32220, 0⟩, ⟨103, 103, 103, 103, 32400, 0⟩]

/-- A call is a run of Loop B. Source: none: infrastructure. Kind: L -/
theorem LoopBRunner.Runs.calledAt {C : Op → ScanLog → Prop} (check : Op → ScanLog → Bool)
    {now : Time} {fresh : List Candle} {calls : List (Time × String)} {s s' : ScanLog}
    (hcheck : ∀ e s, check e s = true → C e s)
    (hchecked : (runOnceForTicker [GapMomentumStrategy.strategy] "005930").checked ScanLog.exec
      (marketAt now fresh) check s = true)
    (hrest : Runs [GapMomentumStrategy.strategy] C calls (HaruTrade.calledAt now fresh s) s') :
    Runs [GapMomentumStrategy.strategy] C ((now, "005930") :: calls) s s' := by
  refine .cons (exec_of_checked ScanLog.exec ?_ hchecked) hrest
  intro e s he
  refine ⟨hcheck e s he, ?_⟩
  rintro rfl
  rfl

/-- **A bar is acted on twice** when the fetch of the next slot brings no newer one.
Source: `app/loops/loop_b_runtime.py` `LoopBRunner.run_once_for_ticker`. Kind: P -/
theorem bars_acted_on_twice :
    ¬ ∀ (strategies : List Strategy) (id : Strategy → String),
      StrategyRegistry.Labelled strategies id → ∀ (calls : List (Time × String)) (w : World)
      (s : ScanLog), calls.Pairwise (fun a b => a.1 < b.1) →
      LoopBRunner.Runs strategies (fun _ _ => True) calls { world := w } s → s.ActedOnce := by
  intro h
  have honce := h [GapMomentumStrategy.strategy] (fun _ => "1") GapMomentumStrategy.labelled
    [(32400, "005930"), (32580, "005930")] {}
    (calledAt 32580 [] (calledAt 32400 gapBars { world := {} })) (by decide)
    (.calledAt (fun _ _ => true) (fun _ _ _ => trivial) (by decide +kernel)
      (.calledAt (fun _ _ => true) (fun _ _ _ => trivial) (by decide +kernel) (.nil _)))
  unfold ScanLog.ActedOnce at honce
  exact absurd honce (by decide +kernel)

/-- Two slots with a new bar each act on two bars. Source: none: infrastructure. Kind: P -/
theorem bars_acted_on_once_two :
    (calledAt 32580 [⟨107, 107, 107, 107, 32580, 0⟩]
      (calledAt 32400 gapBars { world := {} })).ActedOnce := by
  let check (e : Op) (s : ScanLog) : Bool :=
    match e with
    | .putMany signals => decide (signals ≠ [] →
        ∀ read ∈ s.reading, ∀ sc ∈ s.lastScan read, sc.bar < read.bar)
    | _ => true
  have hcheck : ∀ e s, check e s = true → s.NewBar e := by
    rintro e s he signals rfl
    exact of_decide_eq_true he
  exact (bars_acted_on_once [GapMomentumStrategy.strategy] (fun _ => "1")
    GapMomentumStrategy.labelled [(32400, "005930"), (32580, "005930")] {} _
    (.calledAt check hcheck (by decide +kernel)
      (.calledAt check hcheck (by decide +kernel) (.nil _)))).1

end HaruTrade
