import HaruTrade.Data.Keyed
import HaruTrade.Data.PyNumber
import HaruTrade.Repositories.CandleBatch
import HaruTrade.Repositories.Universe

/-!
# Candle backfills

A job goes through tickers and fetches the candles that are missing: the daily backfill after the market
closes, and the bootstrap of the first run. A ticker whose fetch or whose batch fails is noted, and the job
goes on.

* `backfillOne` — one ticker and bar length; `keyed_visit`: it looks at its own rows only.
* `Isolated`, `isolated_foldl` — what a job leaves is what each of its turns alone leaves.
* `post_market_backfill` — **the daily backfill**: its effect, and what its report counts.
-/

namespace HaruTrade

namespace CandleBackfill

/-! ## One ticker and bar length -/

/-- What a backfill meets: the errors of the two sessions of a ticker, and the answer of the fetcher.
Source: `app/services/runtime_factory.py` `_run_post_market_daily_backfill`. Kind: D -/
structure Feed where
  readError : String → Timeframe → Option Exn := fun _ _ => none
  fetchIncremental : String → Timeframe → Option Time → Except Exn (List Candle)
  writeError : String → Timeframe → Option Exn := fun _ _ => none

/-- An item of `payload`. Source: `app/services/runtime_factory.py` `_run_post_market_daily_backfill`.
Kind: D -/
def item (x : Candle) : BatchItem := ⟨some x.ts, x.open, x.high, x.low, x.close, x.volume⟩

/-- The body of the loops. Source: `app/services/runtime_factory.py` `_run_post_market_daily_backfill`.
Kind: D -/
def backfillOne (feed : Feed) (w : World) (ticker : String) (timeframe : Timeframe) :
    World × Except Exn (ℕ × ℕ) :=
  match feed.readError ticker timeframe with
  | some x => (w, .error x)
  | none =>
    match feed.fetchIncremental ticker timeframe
        (CandleRepository.getLastCandleTime w ticker timeframe) with
    | .error x => (w, .error x)
    | .ok candles =>
      if candles = [] then (w, .ok (0, 0))
      else
        match feed.writeError ticker timeframe with
        | some x => (w, .error x)
        | none => CandleRepository.upsertBatch w ticker timeframe (candles.map item)

/-- The rows of a ticker and bar length, by their times. Source: `app/db/models/candle.py` `Candle`.
Kind: D -/
def look (w : World) (k : String × Timeframe) (ts : Time) : Option CandleRow :=
  w.candles.get? (k.1, k.2, ts)

variable {feed : Feed} {w w' : World} {ticker : String} {timeframe : Timeframe} {cs : List Candle}
  {items : List BatchItem} {k : String × Timeframe} {x : Exn} {inserted updated : ℕ}

/-! ## It looks at its own rows -/

theorem look_upsertIncremental_of_ne {c : Candle} (hk : k ≠ (ticker, timeframe)) :
    look (CandleRepository.upsertIncremental w ticker timeframe c) k = look w k := by
  funext ts
  unfold look
  rw [CandleRepository.get?_upsertIncremental, if_neg]
  intro heq
  obtain ⟨hticker, hrest⟩ := Prod.mk.inj heq
  exact hk (Prod.ext hticker (Prod.mk.inj hrest).1)

theorem look_upsertIncremental_congr {c : Candle}
    (h : look w (ticker, timeframe) = look w' (ticker, timeframe)) :
    look (CandleRepository.upsertIncremental w ticker timeframe c) (ticker, timeframe) =
      look (CandleRepository.upsertIncremental w' ticker timeframe c) (ticker, timeframe) := by
  funext ts
  have hts := congrFun h ts
  unfold look at hts ⊢
  rw [CandleRepository.get?_upsertIncremental, CandleRepository.get?_upsertIncremental, hts]

theorem look_foldl_of_ne (hk : k ≠ (ticker, timeframe)) :
    look (cs.foldl (fun w c => CandleRepository.upsertIncremental w ticker timeframe c) w) k =
      look w k := by
  induction cs generalizing w with
  | nil => rfl
  | cons c cs ih => rw [List.foldl_cons, ih, look_upsertIncremental_of_ne hk]

theorem look_foldl_congr (h : look w (ticker, timeframe) = look w' (ticker, timeframe)) :
    look (cs.foldl (fun w c => CandleRepository.upsertIncremental w ticker timeframe c) w)
        (ticker, timeframe) =
      look (cs.foldl (fun w c => CandleRepository.upsertIncremental w ticker timeframe c) w')
        (ticker, timeframe) := by
  induction cs generalizing w w' with
  | nil => exact h
  | cons c cs ih => exact ih (look_upsertIncremental_congr h)

theorem newTimes_congr (h : look w (ticker, timeframe) = look w' (ticker, timeframe)) :
    CandleRepository.newTimes w ticker timeframe items =
      CandleRepository.newTimes w' ticker timeframe items := by
  refine List.filter_congr fun ts _ => ?_
  have hts := congrFun h ts
  unfold look at hts
  rw [hts]

/-- The candles of a history are those with different times. Source: `app/db/models/candle.py` `Candle`.
Kind: L -/
theorem nodup_history : (CandleRepository.history w ticker timeframe).Nodup := by
  unfold CandleRepository.history CandleRepository.byTime
  have hrows : (w.candles.select fun r => r.ticker = ticker ∧ r.timeframe = timeframe).Nodup :=
    Table.nodup_select.of_map
  refine List.Nodup.map_on ?_ ((List.perm_insertionSort _ _).nodup_iff.mpr hrows)
  rintro ⟨t, tf, c⟩ ha ⟨t', tf', c'⟩ hb hcandle
  obtain rfl : c = c' := hcandle
  obtain ⟨-, hpa⟩ := List.mem_filter.mp ((List.mem_insertionSort _).mp ha)
  obtain ⟨-, hpb⟩ := List.mem_filter.mp ((List.mem_insertionSort _).mp hb)
  have hown : t = ticker ∧ tf = timeframe := of_decide_eq_true hpa
  have hown' : t' = ticker ∧ tf' = timeframe := of_decide_eq_true hpb
  rw [hown.1, hown.2, hown'.1, hown'.2]

/-- The history is made of what is seen. Source: `app/repositories/candle.py`. Kind: L -/
theorem history_congr (h : look w (ticker, timeframe) = look w' (ticker, timeframe)) :
    CandleRepository.history w ticker timeframe = CandleRepository.history w' ticker timeframe := by
  have hmem : ∀ c, c ∈ CandleRepository.history w ticker timeframe ↔
      c ∈ CandleRepository.history w' ticker timeframe := by
    intro c
    have hts := congrFun h c.ts
    unfold look at hts
    rw [CandleRepository.mem_history, CandleRepository.mem_history, hts]
  have hperm := (List.perm_ext_iff_of_nodup nodup_history nodup_history).mpr hmem
  refine hperm.eq_of_pairwise ?_ CandleRepository.pairwise_history CandleRepository.pairwise_history
  intro a b ha hb hab hba
  -- two candles of one time are the row of that time
  have hrow := CandleRepository.mem_history.mp ha
  rw [le_antisymm hab hba, CandleRepository.mem_history.mp ((hmem b).mpr hb)] at hrow
  exact (CandleRow.mk.inj (Option.some.inj hrow)).2.2.symm

theorem getLastCandleTime_congr (h : look w (ticker, timeframe) = look w' (ticker, timeframe)) :
    CandleRepository.getLastCandleTime w ticker timeframe =
      CandleRepository.getLastCandleTime w' ticker timeframe := by
  unfold CandleRepository.getLastCandleTime
  rw [history_congr h]

/-- A batch changes only its own rows. Source: `app/repositories/candle.py`
`CandleRepository.upsert_batch`. Kind: L -/
theorem look_upsertBatch_of_ne (hk : k ≠ (ticker, timeframe)) :
    look (CandleRepository.upsertBatch w ticker timeframe items).1 k = look w k := by
  by_cases hnodup : (CandleRepository.newTimes w ticker timeframe items).Nodup
  · rw [CandleRepository.upsertBatch_of_nodup hnodup]
    exact look_foldl_of_ne hk
  · rw [CandleRepository.upsertBatch_of_not_nodup hnodup]

/-- A batch makes its rows, and its counts, of these rows. Source: `app/repositories/candle.py`
`CandleRepository.upsert_batch`. Kind: L -/
theorem upsertBatch_congr (h : look w (ticker, timeframe) = look w' (ticker, timeframe)) :
    look (CandleRepository.upsertBatch w ticker timeframe items).1 (ticker, timeframe) =
        look (CandleRepository.upsertBatch w' ticker timeframe items).1 (ticker, timeframe) ∧
      (CandleRepository.upsertBatch w ticker timeframe items).2 =
        (CandleRepository.upsertBatch w' ticker timeframe items).2 := by
  have htimes := @newTimes_congr w w' ticker timeframe items h
  by_cases hnodup : (CandleRepository.newTimes w ticker timeframe items).Nodup
  · have hnodup' := htimes ▸ hnodup
    rw [CandleRepository.upsertBatch_of_nodup hnodup, CandleRepository.upsertBatch_of_nodup hnodup',
      htimes]
    exact ⟨look_foldl_congr h, rfl⟩
  · have hnodup' := htimes ▸ hnodup
    rw [CandleRepository.upsertBatch_of_not_nodup hnodup,
      CandleRepository.upsertBatch_of_not_nodup hnodup']
    exact ⟨h, rfl⟩

/-- The rows that are added are those that are counted. Source: `app/repositories/candle.py`
`CandleRepository.upsert_batch`. Kind: L -/
theorem upsertBatch_rows : (CandleRepository.upsertBatch w ticker timeframe items).1 =
      { w with candles := (CandleRepository.upsertBatch w ticker timeframe items).1.candles } ∧
    (CandleRepository.upsertBatch w ticker timeframe items).1.candles.rows.length =
      w.candles.rows.length +
        ((CandleRepository.upsertBatch w ticker timeframe items).2.toOption.getD (0, 0)).1 := by
  by_cases hnodup : (CandleRepository.newTimes w ticker timeframe items).Nodup
  · rw [CandleRepository.upsertBatch_of_nodup hnodup]
    exact ⟨(CandleRepository.commit_batchState hnodup).2,
      CandleRepository.length_rows_upsertOneByOne hnodup⟩
  · rw [CandleRepository.upsertBatch_of_not_nodup hnodup]
    exact ⟨rfl, rfl⟩

/-- Either the table stays as it is, or a batch is written; which of them, and the batch, is made of what
is seen. Source: `app/services/runtime_factory.py` `_run_post_market_daily_backfill`. Kind: L -/
theorem backfillOne_cases (feed : Feed) (w : World) (ticker : String) (timeframe : Timeframe) :
    (∃ answer, answer.toOption.getD (0, 0) = (0, 0) ∧
      ∀ v, look v (ticker, timeframe) = look w (ticker, timeframe) →
        backfillOne feed v ticker timeframe = (v, answer)) ∨
    ∃ items, ∀ v, look v (ticker, timeframe) = look w (ticker, timeframe) →
      backfillOne feed v ticker timeframe = CandleRepository.upsertBatch v ticker timeframe items := by
  unfold backfillOne
  cases feed.readError ticker timeframe with
  | some x => exact .inl ⟨.error x, rfl, fun v _ => rfl⟩
  | none =>
      cases hfetch : feed.fetchIncremental ticker timeframe
          (CandleRepository.getLastCandleTime w ticker timeframe) with
      | error x =>
          refine .inl ⟨.error x, rfl, fun v hv => ?_⟩
          rw [getLastCandleTime_congr hv, hfetch]
      | ok candles =>
          by_cases hempty : candles = []
          · refine .inl ⟨.ok (0, 0), rfl, fun v hv => ?_⟩
            rw [getLastCandleTime_congr hv, hfetch]
            exact if_pos hempty
          · cases hwrite : feed.writeError ticker timeframe with
            | some x =>
                refine .inl ⟨.error x, rfl, fun v hv => ?_⟩
                rw [getLastCandleTime_congr hv, hfetch]
                exact if_neg hempty
            | none =>
                refine .inr ⟨candles.map item, fun v hv => ?_⟩
                rw [getLastCandleTime_congr hv, hfetch]
                exact if_neg hempty

/-- One turn of a loop over tickers and bar lengths, as a step of the world.
Source: `app/services/runtime_factory.py` `_run_post_market_daily_backfill`. Kind: D -/
def visit (feed : Feed) (w : World) (k : String × Timeframe) : World :=
  (backfillOne feed w k.1 k.2).1

/-- What the turn answers: its counts, or the exception that is noted.
Source: `app/services/runtime_factory.py` `_run_post_market_daily_backfill`. Kind: D -/
def answer (feed : Feed) (w : World) (k : String × Timeframe) : Except Exn (ℕ × ℕ) :=
  (backfillOne feed w k.1 k.2).2

/-- **A ticker and bar length is backfilled from its own rows, and leaves the others alone.**
Source: `app/services/runtime_factory.py` `_run_post_market_daily_backfill`. Kind: L -/
theorem keyed_visit (feed : Feed) : Keyed look (visit feed) id where
  away w k j hj := by
    unfold visit
    rcases backfillOne_cases feed w k.1 k.2 with ⟨answer, -, hstays⟩ | ⟨items, hwrites⟩
    · rw [hstays w rfl]
    · rw [hwrites w rfl]
      exact look_upsertBatch_of_ne hj
  here w v k h := by
    unfold visit
    rcases backfillOne_cases feed w k.1 k.2 with ⟨answer, -, hstays⟩ | ⟨items, hwrites⟩
    · rw [hstays w rfl, hstays v h.symm]
      exact h
    · rw [hwrites w rfl, hwrites v h.symm]
      exact (upsertBatch_congr h).1

theorem answer_congr (h : look w k = look w' k) : answer feed w k = answer feed w' k := by
  unfold answer
  rcases backfillOne_cases feed w k.1 k.2 with ⟨answer, -, hstays⟩ | ⟨items, hwrites⟩
  · rw [hstays w rfl, hstays w' h.symm]
  · rw [hwrites w rfl, hwrites w' h.symm]
    exact (upsertBatch_congr h).2

/-- The counts of an answer: inserted and updated. Source: `app/services/runtime_factory.py`
`_run_post_market_daily_backfill`. Kind: D -/
def counts (a : Except Exn (ℕ × ℕ)) : ℕ × ℕ := a.toOption.getD (0, 0)

/-- A turn adds the rows that it counts as inserted, and changes nothing but candles.
Source: `app/services/runtime_factory.py` `_run_post_market_daily_backfill`. Kind: L -/
theorem visit_rows : visit feed w k = { w with candles := (visit feed w k).candles } ∧
    (visit feed w k).candles.rows.length =
      w.candles.rows.length + (counts (answer feed w k)).1 := by
  unfold visit answer counts
  rcases backfillOne_cases feed w k.1 k.2 with ⟨answer, hzero, hstays⟩ | ⟨items, hwrites⟩
  · rw [hstays w rfl, hzero]
    exact ⟨rfl, rfl⟩
  · rw [hwrites w rfl]
    exact upsertBatch_rows

theorem foldl_visit_rest {ks : List (String × Timeframe)} :
    ks.foldl (visit feed) w = { w with candles := (ks.foldl (visit feed) w).candles } := by
  induction ks generalizing w with
  | nil => rfl
  | cons k ks ih =>
      rw [List.foldl_cons]
      refine ih.trans ?_
      rw [(@visit_rows feed w k).1]

/-! ## Jobs -/

/-- **A job over tickers and bar lengths** has left for each of them what its turn alone makes of it, and
nothing else has changed. Source: `app/services/runtime_factory.py` `_run_post_market_daily_backfill`.
Kind: D -/
structure Isolated (feed : Feed) (w w' : World) (ks : List (String × Timeframe)) : Prop where
  own : ∀ k ∈ ks, look w' k = look (visit feed w k) k
  others : ∀ k, k ∉ ks → look w' k = look w k
  rest : w' = { w with candles := w'.candles }
  rows : w'.candles.rows.length =
    w.candles.rows.length + (ks.map fun k => (counts (answer feed w k)).1).sum

variable {ks : List (String × Timeframe)}

theorem answers_visit (hks : ks.Nodup) :
    answers (visit feed) (answer feed) w ks = ks.map (answer feed w) := by
  refine (keyed_visit feed).answers_eq ?_ (fun v v' k h => answer_congr (k := k) h) w
  rw [List.map_id]
  exact hks

/-- Source: `app/services/runtime_factory.py` `_run_post_market_daily_backfill`. Kind: L -/
theorem isolated_foldl (hks : ks.Nodup) : Isolated feed w (ks.foldl (visit feed) w) ks where
  own k hk := (keyed_visit feed).look_foldl (by rwa [List.map_id]) hk w
  others k hk := (keyed_visit feed).look_foldl_of_notMem (by rwa [List.map_id]) w
  rest := foldl_visit_rest
  rows := by
    refine (measure_foldl (fun v : World => v.candles.rows.length) (fun a => (counts a).1)
      (fun v k => visit_rows.2) w).trans ?_
    rw [answers_visit hks, List.map_map]
    rfl

/-! ## The daily backfill -/

/-- The local variables of the loop. Source: `app/services/runtime_factory.py`
`_run_post_market_daily_backfill`. Kind: D -/
structure Sums where
  world : World
  insertedTotal : ℕ := 0
  updatedTotal : ℕ := 0
  failedCount : ℕ := 0
  errors : List String := []

/-- Source: `app/services/runtime_factory.py` `_run_post_market_daily_backfill`. Kind: D -/
def Sums.turn (feed : Feed) (s : Sums) (ticker : String) : Sums :=
  match backfillOne feed s.world ticker .d1 with
  | (w, .ok (inserted, updated)) =>
      { s with
        world := w
        insertedTotal := s.insertedTotal + inserted
        updatedTotal := s.updatedTotal + updated }
  | (w, .error x) =>
      { s with
        world := w
        failedCount := s.failedCount + 1
        errors := if s.errors.length < 20 then s.errors ++ [s!"{ticker}:{x.str}"] else s.errors }

/-- What the report says of a backfill that could load the universe.
Source: `app/services/runtime_factory.py` `_run_post_market_daily_backfill`. Kind: D -/
structure Totals where
  successRate : PyNum
  inserted : ℕ
  updated : ℕ
  errors : List String

/-- Source: `app/services/runtime_factory.py` `_run_post_market_daily_backfill`. Kind: D -/
structure Report where
  ok : Bool
  message : String
  tickerCount : ℕ
  processedCount : ℕ
  failedCount : ℕ
  totals : Option Totals

/-- `round(success_rate, 4)`. Source: `app/services/runtime_factory.py`
`_run_post_market_daily_backfill`. Kind: D -/
def roundRate (successCount processed : ℕ) : PyNum :=
  if processed = 0 then .of 1
  else
    match PyNum.binary64 (successCount / processed) with
    | .of q => PyNum.binary64 (PyNum.roundHalfEven (q * 10000) / 10000)
    | x => x

/-- Source: `app/services/runtime_factory.py` `_run_post_market_daily_backfill`. Kind: D -/
def runPostMarketDailyBackfill (feed : Feed) (loadError : Option Exn) (w : World) : World × Report :=
  match loadError with
  | some x => (w, ⟨false, s!"universe_load_failed:{x.str}", 0, 0, 0, none⟩)
  | none =>
    let tickers := UniverseRepository.listUniverseTickers w 20000
    let s := tickers.foldl (Sums.turn feed) { world := w }
    let processed := tickers.length
    (s.world,
      { ok := s.failedCount = 0
        message := if s.failedCount = 0 then "completed" else s!"partial:{s.failedCount}"
        tickerCount := processed
        processedCount := processed
        failedCount := s.failedCount
        totals := some
          { successRate := roundRate (processed - s.failedCount) processed
            inserted := s.insertedTotal
            updated := s.updatedTotal
            errors := s.errors } })

/-- Has the turn of a ticker failed? Source: `app/services/runtime_factory.py`
`_run_post_market_daily_backfill`. Kind: D -/
def failed : Except Exn (ℕ × ℕ) → Bool
  | .ok _ => false
  | .error _ => true

/-- What is noted of a turn that failed. Source: `app/services/runtime_factory.py`
`_run_post_market_daily_backfill`. Kind: D -/
def note (ticker : String) : Except Exn (ℕ × ℕ) → Option String
  | .ok _ => none
  | .error x => some s!"{ticker}:{x.str}"

theorem Sums.turn_eq (s : Sums) (ticker : String) : s.turn feed ticker =
    { world := visit feed s.world (ticker, .d1)
      insertedTotal := s.insertedTotal + (counts (answer feed s.world (ticker, .d1))).1
      updatedTotal := s.updatedTotal + (counts (answer feed s.world (ticker, .d1))).2
      failedCount := s.failedCount + if failed (answer feed s.world (ticker, .d1)) then 1 else 0
      errors := if s.errors.length < 20
        then s.errors ++ (note ticker (answer feed s.world (ticker, .d1))).toList else s.errors } := by
  unfold Sums.turn visit answer
  rcases backfillOne feed s.world ticker .d1 with ⟨w, ⟨x⟩ | ⟨inserted, updated⟩⟩
  · rfl
  · simp [counts, failed, note, Except.toOption]

/-- At most twenty errors are kept, the first ones. Source: `app/services/runtime_factory.py`
`_run_post_market_daily_backfill`. Kind: L -/
theorem take_append_toList {errors rest : List String} (new : Option String)
    (h : errors.length ≤ 20) :
    ((if errors.length < 20 then errors ++ new.toList else errors) ++ rest).take 20 =
      (errors ++ (new.toList ++ rest)).take 20 := by
  split_ifs with hlt
  · rw [List.append_assoc]
  · have hfull : errors.length = 20 := by omega
    rw [← hfull, List.take_left, List.take_left]

theorem Sums.foldl_turn {tickers : List String} {s : Sums} (h : s.errors.length ≤ 20) :
    tickers.foldl (Sums.turn feed) s =
      { world := (tickers.map fun t => (t, Timeframe.d1)).foldl (visit feed) s.world
        insertedTotal := s.insertedTotal + ((answers (visit feed) (answer feed) s.world
          (tickers.map fun t => (t, .d1))).map fun a => (counts a).1).sum
        updatedTotal := s.updatedTotal + ((answers (visit feed) (answer feed) s.world
          (tickers.map fun t => (t, .d1))).map fun a => (counts a).2).sum
        failedCount := s.failedCount + (answers (visit feed) (answer feed) s.world
          (tickers.map fun t => (t, .d1))).countP failed
        errors := (s.errors ++ (List.zipWith note tickers (answers (visit feed) (answer feed) s.world
          (tickers.map fun t => (t, .d1)))).flatMap Option.toList).take 20 } := by
  induction tickers generalizing s with
  | nil =>
      simp only [List.map_nil, answers, List.foldl_nil, List.sum_nil, List.countP_nil, Nat.add_zero,
        List.zipWith_nil_left, List.flatMap_nil, List.append_nil, List.take_of_length_le h]
  | cons t tickers ih =>
      have hlength : (s.turn feed t).errors.length ≤ 20 := by
        rw [Sums.turn_eq]
        dsimp only
        split_ifs with hlt
        · rw [List.length_append]
          have hone : (note t (answer feed s.world (t, .d1))).toList.length ≤ 1 :=
            Option.length_toList_le
          omega
        · exact h
      rw [List.foldl_cons, ih hlength, Sums.turn_eq]
      simp only [List.map_cons, answers, List.foldl_cons, List.zipWith_cons_cons, List.flatMap_cons,
        List.sum_cons, List.countP_cons, take_append_toList _ h, Nat.add_assoc,
        Nat.add_comm (if failed (answer feed s.world (t, .d1)) then 1 else 0)]

theorem nodup_listUniverseTickers {limit : ℕ} :
    (UniverseRepository.listUniverseTickers w limit).Nodup := by
  unfold UniverseRepository.listUniverseTickers UniverseRepository.orderedTickers
  apply List.Nodup.sublist (List.take_sublist _ _)
  rw [(List.perm_insertionSort _ _).nodup_iff]
  exact Table.nodup_select

theorem nodup_daily {tickers : List String} (h : tickers.Nodup) :
    (tickers.map fun t => (t, Timeframe.d1)).Nodup :=
  h.map fun _ _ heq => congrArg Prod.fst heq

/-- **The daily backfill.** Whatever fetches, reads and writes fail, the backfill leaves for every ticker of
the universe the daily candles that a backfill of this ticker alone would leave, and changes nothing else.
Its report counts the tickers that would fail alone, quotes the first twenty of them, is fine when there are
none, and counts as inserted the rows that the table has more. Source:
`app/services/runtime_factory.py` `_run_post_market_daily_backfill`. Kind: P -/
theorem post_market_backfill (feed : Feed) (w : World) :
    let run := runPostMarketDailyBackfill feed none w
    let tickers := UniverseRepository.listUniverseTickers w 20000
    let alone := fun t : String => answer feed w (t, .d1)
    Isolated feed w run.1 (tickers.map fun t => (t, .d1)) ∧
      run.2.failedCount = tickers.countP (fun t => failed (alone t)) ∧
      (run.2.ok = true ↔ ∀ t ∈ tickers, failed (alone t) = false) ∧
      run.2.totals = some
        { successRate := roundRate (tickers.countP fun t => !failed (alone t)) tickers.length
          inserted := run.1.candles.rows.length - w.candles.rows.length
          updated := (tickers.map fun t => (counts (alone t)).2).sum
          errors := (tickers.filterMap fun t => note t (alone t)).take 20 } := by
  intro run tickers alone
  have hnodup : (tickers.map fun t => (t, Timeframe.d1)).Nodup :=
    nodup_daily nodup_listUniverseTickers
  have halone : answers (visit feed) (answer feed) w (tickers.map fun t => (t, .d1)) =
      tickers.map alone := by
    rw [answers_visit hnodup, List.map_map]
    rfl
  have hsums := @Sums.foldl_turn feed tickers { world := w } (Nat.zero_le 20)
  rw [halone] at hsums
  have hworld : run.1 = (tickers.map fun t => (t, Timeframe.d1)).foldl (visit feed) w :=
    congrArg Sums.world hsums
  have hfailed : run.2.failedCount = tickers.countP fun t => failed (alone t) := by
    refine (congrArg Sums.failedCount hsums).trans ?_
    show 0 + (tickers.map alone).countP failed = _
    rw [Nat.zero_add, List.countP_map]
    rfl
  have hisolated : Isolated feed w run.1 (tickers.map fun t => (t, .d1)) := by
    rw [hworld]
    exact isolated_foldl hnodup
  refine ⟨hisolated, hfailed, ?_, ?_⟩
  · have hok : run.2.ok = true ↔ run.2.failedCount = 0 := decide_eq_true_iff
    rw [hok, hfailed, List.countP_eq_zero]
    simp only [Bool.not_eq_true]
  · have htotals : run.2.totals = some
        ⟨roundRate (tickers.length - run.2.failedCount) tickers.length,
          (tickers.foldl (Sums.turn feed) { world := w }).insertedTotal,
          (tickers.foldl (Sums.turn feed) { world := w }).updatedTotal,
          (tickers.foldl (Sums.turn feed) { world := w }).errors⟩ := rfl
    have hsucceeded : tickers.length - run.2.failedCount = tickers.countP fun t => !failed (alone t) := by
      have htotal := List.length_eq_countP_add_countP (fun t => failed (alone t)) (l := tickers)
      rw [hfailed]
      simp only [Bool.not_eq_true, Bool.decide_eq_false] at htotal
      omega
    rw [htotals, hsums, hsucceeded, hisolated.rows, Nat.add_sub_cancel_left]
    simp only [Nat.zero_add, List.nil_append, List.map_map, List.zipWith_map_right,
      List.zipWith_self, List.filterMap_eq_flatMap_toList, List.flatMap_map]
    rfl

end CandleBackfill

end HaruTrade
