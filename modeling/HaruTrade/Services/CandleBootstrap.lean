import Mathlib.Data.List.Dedup
import Mathlib.Data.List.ProdSigma
import HaruTrade.Services.CandleBackfill
import HaruTrade.Strategies.Registry

/-!
# The candles of the first run

After the start the bootstrap fetches the candles of every symbol of the universe in every bar length, and
`candle_bootstrap_coverage` says whether some are still missing.

* `bootstrapCandlesOnFirstRun` — the job and its status.
* `Adds` — what turns of its loops add; one lemma for a pair, for a ticker and for the whole job.
* `bootstrap_candles` — **the effect of the job, and what its status counts.**
* `needsBootstrap_iff`, `bootstrap_coverage` — **what is missing after it.**
-/

namespace HaruTrade

namespace CandleBackfill

variable {feed : Feed} {w : World} {ticker : String} {timeframe : Timeframe} {k : String × Timeframe}

/-! ## The job -/

/-- `timeframe_stats` of a bar length. Source: `app/services/universe_bootstrap.py`
`bootstrap_candles_on_first_run`. Kind: D -/
@[ext]
structure TimeframeStats where
  inserted : ℕ := 0
  updated : ℕ := 0
  tickersWithData : ℕ := 0

/-- Source: `app/services/universe_bootstrap.py` `bootstrap_candles_on_first_run`. Kind: D -/
structure BootstrapStatus where
  ok : Bool := false
  message : String := "not_started"
  tickerCount : ℕ
  timeframes : List String
  candlesInserted : ℕ := 0
  candlesUpdated : ℕ := 0
  tickersWithCandles : ℕ := 0
  errors : List String := []
  timeframeStats : Timeframe → TimeframeStats := fun _ => {}

/-- The status and the local variables of the loops. Source: `app/services/universe_bootstrap.py`
`bootstrap_candles_on_first_run`. Kind: D -/
structure Bootstrap where
  world : World
  status : BootstrapStatus
  errors : List String := []
  hasAny : Bool := false

/-- The body of the inner loop. Source: `app/services/universe_bootstrap.py`
`bootstrap_candles_on_first_run`. Kind: D -/
def Bootstrap.pair (feed : Feed) (ticker : String) (s : Bootstrap) (timeframe : Timeframe) :
    Bootstrap :=
  match backfillOne feed s.world ticker timeframe with
  | (w, .ok (inserted, updated)) =>
      let tfStats := s.status.timeframeStats timeframe
      { s with
        world := w
        status := { s.status with
          candlesInserted := s.status.candlesInserted + inserted
          candlesUpdated := s.status.candlesUpdated + updated
          timeframeStats := Function.update s.status.timeframeStats timeframe
            { inserted := tfStats.inserted + inserted
              updated := tfStats.updated + updated
              tickersWithData := tfStats.tickersWithData + if 0 < inserted + updated then 1 else 0 } }
        hasAny := s.hasAny || 0 < inserted + updated }
  | (w, .error x) =>
      { s with world := w, errors := s.errors ++ [s!"{ticker}:{timeframe.name}:{x.str}"] }

/-- The body of the outer loop. Source: `app/services/universe_bootstrap.py`
`bootstrap_candles_on_first_run`. Kind: D -/
def Bootstrap.turn (feed : Feed) (timeframes : List Timeframe) (s : Bootstrap) (ticker : String) :
    Bootstrap :=
  let s := timeframes.foldl (Bootstrap.pair feed ticker) { s with hasAny := false }
  if s.hasAny then
    { s with status := { s.status with tickersWithCandles := s.status.tickersWithCandles + 1 } }
  else s

/-- `status` at the beginning. Source: `app/services/universe_bootstrap.py`
`bootstrap_candles_on_first_run`. Kind: D -/
def BootstrapStatus.begin (tickers : List String) (timeframes : List Timeframe) : BootstrapStatus :=
  { tickerCount := tickers.length, timeframes := timeframes.map Timeframe.name }

/-- `token` is the outcome of `ensure_token`. Source: `app/services/universe_bootstrap.py`
`bootstrap_candles_on_first_run`. Kind: D -/
def bootstrapCandlesOnFirstRun (feed : Feed) (kiwoomAppKey kiwoomAppSecret : String)
    (token : Except Exn Unit) (tickers : List String) (timeframes : List Timeframe) (w : World) :
    World × BootstrapStatus :=
  let status := BootstrapStatus.begin tickers timeframes
  if tickers = [] then (w, { status with message := "skipped_no_tickers", ok := true })
  else if kiwoomAppKey = "" ∨ kiwoomAppSecret = "" then
    (w, { status with message := "kiwoom_credentials_missing" })
  else
    match token with
    | .error x => (w, { status with message := s!"kiwoom_auth_failed:{x.str}" })
    | .ok () =>
      let s := tickers.foldl (Bootstrap.turn feed timeframes) { world := w, status }
      let status : BootstrapStatus := { s.status with errors := s.errors.take 20 }
      if status.tickersWithCandles = 0 then
        (s.world, { status with message := "no_candles_collected" })
      else
        (s.world, { status with
          message := if s.errors ≠ [] then s!"partial_success:{s.errors.length}" else "completed"
          ok := true })

/-- Has a turn stored anything? Source: `app/services/universe_bootstrap.py`
`bootstrap_candles_on_first_run`. Kind: D -/
def wrote (a : Except Exn (ℕ × ℕ)) : Bool := 0 < (counts a).1 + (counts a).2

/-- Source: `app/services/universe_bootstrap.py` `bootstrap_candles_on_first_run`. Kind: D -/
def notePair (k : String × Timeframe) : Except Exn (ℕ × ℕ) → Option String
  | .ok _ => none
  | .error x => some s!"{k.1}:{k.2.name}:{x.str}"

/-- The statistics of the answers of one bar length. Source: `app/services/universe_bootstrap.py`
`bootstrap_candles_on_first_run`. Kind: D -/
def statsOf (as : List (Except Exn (ℕ × ℕ))) : TimeframeStats where
  inserted := (as.map fun a => (counts a).1).sum
  updated := (as.map fun a => (counts a).2).sum
  tickersWithData := as.countP wrote

/-- Source: `app/services/universe_bootstrap.py` `bootstrap_candles_on_first_run`. Kind: D -/
def TimeframeStats.plus (x y : TimeframeStats) : TimeframeStats :=
  ⟨x.inserted + y.inserted, x.updated + y.updated, x.tickersWithData + y.tickersWithData⟩

theorem Bootstrap.pair_eq (s : Bootstrap) (ticker : String) (timeframe : Timeframe) :
    s.pair feed ticker timeframe =
      { world := visit feed s.world (ticker, timeframe)
        status := { s.status with
          candlesInserted :=
            s.status.candlesInserted + (counts (answer feed s.world (ticker, timeframe))).1
          candlesUpdated :=
            s.status.candlesUpdated + (counts (answer feed s.world (ticker, timeframe))).2
          timeframeStats := Function.update s.status.timeframeStats timeframe
            ((s.status.timeframeStats timeframe).plus
              (statsOf [answer feed s.world (ticker, timeframe)])) }
        errors := s.errors ++
          (notePair (ticker, timeframe) (answer feed s.world (ticker, timeframe))).toList
        hasAny := s.hasAny || wrote (answer feed s.world (ticker, timeframe)) } := by
  unfold Bootstrap.pair visit answer
  rcases backfillOne feed s.world ticker timeframe with ⟨w, ⟨x⟩ | ⟨inserted, updated⟩⟩
  · simp [counts, notePair, wrote, statsOf, TimeframeStats.plus, Except.toOption]
  · simp [counts, notePair, wrote, statsOf, TimeframeStats.plus, Except.toOption,
      List.countP_singleton]

theorem statsOf_append {as bs : List (Except Exn (ℕ × ℕ))} :
    statsOf (as ++ bs) = (statsOf as).plus (statsOf bs) := by
  unfold statsOf TimeframeStats.plus
  simp only [List.map_append, List.sum_append, List.countP_append]

theorem TimeframeStats.plus_assoc {x y z : TimeframeStats} : (x.plus y).plus z = x.plus (y.plus z) := by
  unfold TimeframeStats.plus
  simp only [Nat.add_assoc]

theorem TimeframeStats.plus_statsOf_nil {x : TimeframeStats} : x.plus (statsOf []) = x := rfl

/-- **What turns over some tickers and bar lengths add**, when `f` tells what each of them answers.
Source: `app/services/universe_bootstrap.py` `bootstrap_candles_on_first_run`. Kind: D -/
structure Adds (feed : Feed) (f : String × Timeframe → Except Exn (ℕ × ℕ))
    (ks : List (String × Timeframe)) (s s' : Bootstrap) : Prop where
  world : s'.world = ks.foldl (visit feed) s.world
  inserted : s'.status.candlesInserted =
    s.status.candlesInserted + (ks.map fun k => (counts (f k)).1).sum
  updated : s'.status.candlesUpdated =
    s.status.candlesUpdated + (ks.map fun k => (counts (f k)).2).sum
  stats : ∀ tf, s'.status.timeframeStats tf =
    (s.status.timeframeStats tf).plus (statsOf ((ks.filter fun k => k.2 = tf).map f))
  errors : s'.errors = s.errors ++ ks.filterMap fun k => notePair k (f k)
  ok : s'.status.ok = s.status.ok

section adds

variable {f : String × Timeframe → Except Exn (ℕ × ℕ)} {ks ls : List (String × Timeframe)}
  {s s' s'' : Bootstrap} {timeframes : List Timeframe}

theorem Adds.trans (h : Adds feed f ks s s') (h' : Adds feed f ls s' s'') :
    Adds feed f (ks ++ ls) s s'' where
  world := by rw [h'.world, h.world, List.foldl_append]
  inserted := by rw [h'.inserted, h.inserted, List.map_append, List.sum_append, Nat.add_assoc]
  updated := by rw [h'.updated, h.updated, List.map_append, List.sum_append, Nat.add_assoc]
  stats tf := by
    rw [h'.stats, h.stats, List.filter_append, List.map_append, statsOf_append,
      TimeframeStats.plus_assoc]
  errors := by rw [h'.errors, h.errors, List.filterMap_append, List.append_assoc]
  ok := h'.ok.trans h.ok

theorem adds_refl : Adds feed f [] s s where
  world := rfl
  inserted := rfl
  updated := rfl
  stats _ := rfl
  errors := (List.append_nil _).symm
  ok := rfl

theorem adds_pair (h : answer feed s.world (ticker, timeframe) = f (ticker, timeframe)) :
    Adds feed f [(ticker, timeframe)] s (s.pair feed ticker timeframe) := by
  rw [Bootstrap.pair_eq, h]
  refine ⟨rfl, ?_, ?_, fun tf => ?_, ?_, rfl⟩
  · simp
  · simp
  · by_cases htf : timeframe = tf
    · subst htf
      simp
    · simp [htf, Function.update_of_ne (Ne.symm htf), TimeframeStats.plus_statsOf_nil]
  · cases hnote : notePair (ticker, timeframe) (f (ticker, timeframe)) with
    | none => simp [hnote]
    | some text => simp [hnote]

/-- The inner loop. Source: `app/services/universe_bootstrap.py` `bootstrap_candles_on_first_run`.
Kind: L -/
theorem adds_foldl_pair (htimeframes : timeframes.Nodup)
    (h : ∀ tf ∈ timeframes, look s.world (ticker, tf) = look w (ticker, tf)) :
    Adds feed (answer feed w) (timeframes.map fun tf => (ticker, tf)) s
        (timeframes.foldl (Bootstrap.pair feed ticker) s) ∧
      (timeframes.foldl (Bootstrap.pair feed ticker) s).hasAny =
        (s.hasAny || timeframes.any fun tf => wrote (answer feed w (ticker, tf))) ∧
      (timeframes.foldl (Bootstrap.pair feed ticker) s).status.tickersWithCandles =
        s.status.tickersWithCandles := by
  induction timeframes generalizing s with
  | nil => exact ⟨adds_refl, (Bool.or_false _).symm, rfl⟩
  | cons tf timeframes ih =>
      obtain ⟨hnew, htail⟩ := List.nodup_cons.mp htimeframes
      have hanswer : answer feed s.world (ticker, tf) = answer feed w (ticker, tf) :=
        answer_congr (h tf List.mem_cons_self)
      have hfirst := adds_pair hanswer
      have hlook : ∀ tf' ∈ timeframes, look (s.pair feed ticker tf).world (ticker, tf') =
          look w (ticker, tf') := by
        intro tf' htf'
        have hne : (ticker, tf') ≠ (ticker, tf) :=
          fun heq => hnew ((Prod.mk.inj heq).2 ▸ htf')
        rw [hfirst.world, ← h tf' (List.mem_cons_of_mem _ htf')]
        exact (keyed_visit feed).away s.world (ticker, tf) (ticker, tf') hne
      obtain ⟨hrest, hany, htickers⟩ := ih htail hlook
      refine ⟨hfirst.trans hrest, ?_, ?_⟩
      · rw [List.foldl_cons, hany, Bootstrap.pair_eq, hanswer, List.any_cons, Bool.or_assoc]
      · rw [List.foldl_cons, htickers, Bootstrap.pair_eq]

/-- One ticker. Source: `app/services/universe_bootstrap.py` `bootstrap_candles_on_first_run`. Kind: L -/
theorem adds_turn (htimeframes : timeframes.Nodup)
    (h : ∀ tf ∈ timeframes, look s.world (ticker, tf) = look w (ticker, tf)) :
    Adds feed (answer feed w) (timeframes.map fun tf => (ticker, tf)) s
        (s.turn feed timeframes ticker) ∧
      (s.turn feed timeframes ticker).status.tickersWithCandles = s.status.tickersWithCandles +
        if timeframes.any fun tf => wrote (answer feed w (ticker, tf)) then 1 else 0 := by
  obtain ⟨hadds, hany, htickers⟩ := @adds_foldl_pair feed w ticker { s with hasAny := false }
    timeframes htimeframes h
  rw [Bool.false_or] at hany
  unfold Bootstrap.turn
  dsimp only
  rw [hany]
  split_ifs
  · refine ⟨⟨hadds.world, hadds.inserted, hadds.updated, hadds.stats, hadds.errors, hadds.ok⟩, ?_⟩
    dsimp only
    rw [htickers]
  · exact ⟨⟨hadds.world, hadds.inserted, hadds.updated, hadds.stats, hadds.errors, hadds.ok⟩, htickers⟩

/-- The outer loop. Source: `app/services/universe_bootstrap.py` `bootstrap_candles_on_first_run`.
Kind: L -/
theorem adds_foldl_turn {tickers : List String} (htickers : tickers.Nodup)
    (htimeframes : timeframes.Nodup)
    (h : ∀ t ∈ tickers, ∀ tf ∈ timeframes, look s.world (t, tf) = look w (t, tf)) :
    Adds feed (answer feed w) (tickers.flatMap fun t => timeframes.map fun tf => (t, tf)) s
        (tickers.foldl (Bootstrap.turn feed timeframes) s) ∧
      (tickers.foldl (Bootstrap.turn feed timeframes) s).status.tickersWithCandles =
        s.status.tickersWithCandles +
          tickers.countP fun t => timeframes.any fun tf => wrote (answer feed w (t, tf)) := by
  induction tickers generalizing s with
  | nil => exact ⟨adds_refl, rfl⟩
  | cons t tickers ih =>
      obtain ⟨hnew, htail⟩ := List.nodup_cons.mp htickers
      obtain ⟨hfirst, hcount⟩ := adds_turn htimeframes (h t List.mem_cons_self)
      have hlook : ∀ t' ∈ tickers, ∀ tf ∈ timeframes,
          look (s.turn feed timeframes t).world (t', tf) = look w (t', tf) := by
        intro t' ht' tf htf
        rw [hfirst.world, ← h t' (List.mem_cons_of_mem _ ht') tf htf]
        refine (keyed_visit feed).look_foldl_of_notMem ?_ s.world
        rw [List.map_id, List.mem_map]
        rintro ⟨tf', -, heq⟩
        exact hnew ((Prod.mk.inj heq).1 ▸ ht')
      obtain ⟨hrest, hcounts⟩ := ih htail hlook
      refine ⟨hfirst.trans hrest, ?_⟩
      rw [List.foldl_cons, hcounts, hcount, List.countP_cons]
      omega

end adds

/-- The tickers and bar lengths that the bootstrap goes through. Source:
`app/services/universe_bootstrap.py` `bootstrap_candles_on_first_run`. Kind: D -/
def pairs (tickers : List String) (timeframes : List Timeframe) : List (String × Timeframe) :=
  tickers ×ˢ timeframes

section pairs

variable {tickers : List String} {timeframes : List Timeframe} {tf : Timeframe}

theorem pairs_eq :
    pairs tickers timeframes = tickers.flatMap fun t => timeframes.map fun tf => (t, tf) := rfl

theorem mem_pairs : k ∈ pairs tickers timeframes ↔ k.1 ∈ tickers ∧ k.2 ∈ timeframes :=
  List.pair_mem_product

theorem nodup_pairs (htickers : tickers.Nodup) (htimeframes : timeframes.Nodup) :
    (pairs tickers timeframes).Nodup := htickers.product htimeframes

theorem filter_pairs (htimeframes : timeframes.Nodup) (htf : tf ∈ timeframes) :
    (pairs tickers timeframes).filter (fun k => k.2 = tf) = tickers.map fun t => (t, tf) := by
  have hone : ∀ t : String, (timeframes.map fun tf' => (t, tf')).filter (fun k => k.2 = tf) =
      [(t, tf)] := by
    intro t
    rw [List.filter_map]
    show (timeframes.filter (· = tf)).map (fun tf' => (t, tf')) = _
    rw [List.filter_eq, List.count_eq_one_of_mem htimeframes htf]
    rfl
  rw [pairs_eq, List.filter_flatMap]
  simp only [hone]
  induction tickers with
  | nil => rfl
  | cons t tickers ih => rw [List.flatMap_cons, ih, List.map_cons, List.singleton_append]

end pairs

section bootstrap

variable {appKey appSecret : String} {tickers : List String} {timeframes : List Timeframe}

/-- The loops of the bootstrap. Source: `app/services/universe_bootstrap.py`
`bootstrap_candles_on_first_run`. Kind: L -/
theorem adds_bootstrap (htickers : tickers.Nodup) (htimeframes : timeframes.Nodup) :
    Adds feed (answer feed w) (pairs tickers timeframes)
        { world := w, status := BootstrapStatus.begin tickers timeframes }
        (tickers.foldl (Bootstrap.turn feed timeframes)
          { world := w, status := BootstrapStatus.begin tickers timeframes }) ∧
      (tickers.foldl (Bootstrap.turn feed timeframes)
          { world := w, status := BootstrapStatus.begin tickers timeframes }).status.tickersWithCandles =
        0 + tickers.countP fun t => timeframes.any fun tf => wrote (answer feed w (t, tf)) :=
  adds_foldl_turn htickers htimeframes fun _ _ _ _ => rfl

/-- With tickers, credentials and a token the bootstrap is its loops and the verdict.
Source: `app/services/universe_bootstrap.py` `bootstrap_candles_on_first_run`. Kind: L -/
theorem bootstrap_eq (hkey : appKey ≠ "") (hsecret : appSecret ≠ "") (hsome : tickers ≠ []) :
    let s := tickers.foldl (Bootstrap.turn feed timeframes)
      { world := w, status := BootstrapStatus.begin tickers timeframes }
    bootstrapCandlesOnFirstRun feed appKey appSecret (.ok ()) tickers timeframes w =
      (s.world, if s.status.tickersWithCandles = 0 then
          { s.status with errors := s.errors.take 20, message := "no_candles_collected" }
        else { s.status with
          errors := s.errors.take 20
          message := if s.errors ≠ [] then s!"partial_success:{s.errors.length}" else "completed"
          ok := true }) := by
  intro s
  unfold bootstrapCandlesOnFirstRun
  rw [if_neg hsome, if_neg (by simp [hkey, hsecret])]
  dsimp only
  by_cases hnone : s.status.tickersWithCandles = 0
  · rw [if_pos hnone, if_pos hnone]
  · rw [if_neg hnone, if_neg hnone]

/-- Source: `app/services/universe_bootstrap.py` `bootstrap_candles_on_first_run`. Kind: L -/
theorem bootstrap_isolated (hkey : appKey ≠ "") (hsecret : appSecret ≠ "") (htickers : tickers.Nodup)
    (htimeframes : timeframes.Nodup) :
    Isolated feed w (bootstrapCandlesOnFirstRun feed appKey appSecret (.ok ()) tickers timeframes w).1
      (pairs tickers timeframes) := by
  have hworld : (bootstrapCandlesOnFirstRun feed appKey appSecret (.ok ()) tickers timeframes w).1 =
      (pairs tickers timeframes).foldl (visit feed) w := by
    by_cases hsome : tickers = []
    · subst hsome
      rfl
    · rw [bootstrap_eq hkey hsecret hsome]
      exact (adds_bootstrap htickers htimeframes).1.world
  rw [hworld]
  exact isolated_foldl (nodup_pairs htickers htimeframes)

end bootstrap

/-- **The bootstrap of the first run.** Whatever fetches, reads and writes fail, the bootstrap leaves for
every ticker and bar length the candles that a backfill of this pair alone would leave, and changes nothing
else. It counts the rows that the table has more, for every bar length what the tickers would answer alone,
the tickers with some candle, and quotes the first twenty failures; and it is fine exactly when some pair has
stored something. Source: `app/services/universe_bootstrap.py` `bootstrap_candles_on_first_run`.
Kind: P -/
theorem bootstrap_candles (feed : Feed) (w : World) {appKey appSecret : String}
    {tickers : List String} {timeframes : List Timeframe} (hkey : appKey ≠ "")
    (hsecret : appSecret ≠ "") (hsome : tickers ≠ []) (htickers : tickers.Nodup)
    (htimeframes : timeframes.Nodup) :
    let run := bootstrapCandlesOnFirstRun feed appKey appSecret (.ok ()) tickers timeframes w
    let alone := answer feed w
    Isolated feed w run.1 (pairs tickers timeframes) ∧
      run.2.candlesInserted = run.1.candles.rows.length - w.candles.rows.length ∧
      (∀ tf ∈ timeframes, run.2.timeframeStats tf = statsOf (tickers.map fun t => alone (t, tf))) ∧
      run.2.tickersWithCandles =
        tickers.countP (fun t => timeframes.any fun tf => wrote (alone (t, tf))) ∧
      run.2.errors = ((pairs tickers timeframes).filterMap fun k => notePair k (alone k)).take 20 ∧
      (run.2.ok = true ↔ ∃ k ∈ pairs tickers timeframes, wrote (alone k) = true) := by
  intro run alone
  set s : Bootstrap := tickers.foldl (Bootstrap.turn feed timeframes)
    { world := w, status := BootstrapStatus.begin tickers timeframes } with hs
  obtain ⟨hadds, hcount⟩ := @adds_bootstrap feed w tickers timeframes htickers htimeframes
  rw [← hs] at hadds
  rw [← hs] at hcount
  have hrun := @bootstrap_eq feed w appKey appSecret tickers timeframes hkey hsecret hsome
  rw [← hs] at hrun
  have hisolated : Isolated feed w run.1 (pairs tickers timeframes) :=
    bootstrap_isolated hkey hsecret htickers htimeframes
  have hcommon : run.2.candlesInserted = s.status.candlesInserted ∧
      run.2.timeframeStats = s.status.timeframeStats ∧
      run.2.tickersWithCandles = s.status.tickersWithCandles ∧ run.2.errors = s.errors.take 20 ∧
      (run.2.ok = true ↔ s.status.tickersWithCandles ≠ 0) := by
    have hrun' : run = _ := hrun
    rw [hrun']
    by_cases hnone : s.status.tickersWithCandles = 0
    · rw [if_pos hnone]
      refine ⟨rfl, rfl, rfl, rfl, iff_of_false ?_ (not_not.mpr hnone)⟩
      exact Bool.not_eq_true _ ▸ hadds.ok
    · rw [if_neg hnone]
      exact ⟨rfl, rfl, rfl, rfl, iff_of_true rfl hnone⟩
  obtain ⟨hinserted, hstats, htwc, herrors, hok⟩ := hcommon
  have hcount' : run.2.tickersWithCandles =
      tickers.countP fun t => timeframes.any fun tf => wrote (alone (t, tf)) := by
    rw [htwc, hcount]
    exact Nat.zero_add _
  refine ⟨hisolated, ?_, fun tf htf => ?_, hcount', ?_, ?_⟩
  · rw [hinserted, hadds.inserted, hisolated.rows, Nat.add_sub_cancel_left]
    exact Nat.zero_add _
  · rw [hstats, hadds.stats, filter_pairs htimeframes htf, List.map_map]
    unfold TimeframeStats.plus
    ext
    · exact Nat.zero_add _
    · exact Nat.zero_add _
    · exact Nat.zero_add _
  · rw [herrors, hadds.errors]
    rfl
  · rw [hok, ← htwc, hcount', ← Nat.pos_iff_ne_zero, List.countP_pos_iff]
    constructor
    · rintro ⟨t, ht, hany⟩
      obtain ⟨tf, htf, hwrote⟩ := List.any_eq_true.mp hany
      exact ⟨(t, tf), mem_pairs.mpr ⟨ht, htf⟩, hwrote⟩
    · rintro ⟨⟨t, tf⟩, hk, hwrote⟩
      obtain ⟨ht, htf⟩ := mem_pairs.mp hk
      exact ⟨t, ht, List.any_eq_true.mpr ⟨tf, htf, hwrote⟩⟩

/-- Source: `app/services/universe_bootstrap.py` `bootstrap_candles_on_first_run`. Kind: D -/
def oneCandle : Feed where
  fetchIncremental ticker timeframe _ :=
    if ticker = "005930" ∧ timeframe = .d1 then .ok [⟨100, 101, 99, 100, 32400, 1000⟩]
    else if ticker = "005930" then .ok []
    else .error (.other "timeout")

/-- One ticker has daily candles, and the fetches of the other one fail. Source:
`app/services/universe_bootstrap.py` `bootstrap_candles_on_first_run`. Kind: C -/
theorem bootstrap_candles_partly :
    (bootstrapCandlesOnFirstRun oneCandle "key" "secret" (.ok ()) ["000660", "005930"] [.d1, .m5]
      {}).2.tickersWithCandles = 1 :=
  (bootstrap_candles oneCandle {} (by decide) (by decide) (by simp) (by decide) (by decide)).2.2.2.1

/-! ## The coverage -/

/-- Source: `app/services/universe_bootstrap.py` `candle_bootstrap_coverage`. Kind: D -/
structure Coverage where
  inUniverseCount : ℕ
  perTimeframeTickerCount : Timeframe → ℕ
  needsBootstrap : Bool

/-- `count(distinct ticker)` of the candles of a bar length whose symbol is in the universe.
Source: `app/services/universe_bootstrap.py` `candle_bootstrap_coverage`. Kind: D -/
def coveredTickers (w : World) (timeframe : Timeframe) : List String :=
  ((w.candles.select fun r => r.timeframe = timeframe ∧
    (w.symbols.get? r.ticker).any (fun s => s.inUniverse)).map CandleRow.ticker).dedup

/-- Source: `app/services/universe_bootstrap.py` `candle_bootstrap_coverage`. Kind: D -/
def candleBootstrapCoverage (w : World) (timeframes : List Timeframe) : Coverage :=
  let inUniverseCount := (w.symbols.select fun s => s.inUniverse).length
  { inUniverseCount
    perTimeframeTickerCount := fun tf => (coveredTickers w tf).length
    needsBootstrap := 0 < inUniverseCount &&
      timeframes.any fun tf => (coveredTickers w tf).length < inUniverseCount }

/-- Source: `app/db/models/universe.py` `Symbol`. Kind: D -/
def InUniverse (w : World) (ticker : String) : Prop :=
  ∃ s, w.symbols.get? ticker = some s ∧ s.inUniverse = true

/-- The pair has a candle. Source: `app/db/models/candle.py` `Candle`. Kind: D -/
def HasCandle (w : World) (k : String × Timeframe) : Prop := ∃ ts, look w k ts ≠ none

theorem mem_inUniverse {t : String} :
    t ∈ (w.symbols.select fun s => s.inUniverse).map SymbolRow.ticker ↔ InUniverse w t := by
  rw [List.mem_map]
  constructor
  · rintro ⟨s, hs, rfl⟩
    obtain ⟨hrow, hin⟩ := List.mem_filter.mp hs
    exact ⟨s, Table.mem_iff_get?.mp hrow, hin⟩
  · rintro ⟨s, hs, hin⟩
    obtain ⟨hrow, rfl⟩ := Table.get?_eq_some_iff.mp hs
    exact ⟨s, List.mem_filter.mpr ⟨hrow, hin⟩, rfl⟩

theorem mem_coveredTickers {t : String} {tf : Timeframe} :
    t ∈ coveredTickers w tf ↔ InUniverse w t ∧ HasCandle w (t, tf) := by
  unfold coveredTickers
  rw [List.mem_dedup, List.mem_map]
  constructor
  · rintro ⟨r, hr, rfl⟩
    obtain ⟨hrow, hp⟩ := List.mem_filter.mp hr
    obtain ⟨rfl, hany⟩ := of_decide_eq_true hp
    obtain ⟨s, hs, hin⟩ := (Option.any_eq_true _ _).mp hany
    refine ⟨⟨s, hs, hin⟩, r.candle.ts, ?_⟩
    unfold look
    have hget : w.candles.get? (CandleRow.key r) = some r := Table.mem_iff_get?.mp hrow
    exact hget ▸ Option.some_ne_none r
  · rintro ⟨⟨s, hs, hin⟩, ts, hlook⟩
    obtain ⟨r, hr⟩ := Option.ne_none_iff_exists'.mp hlook
    obtain ⟨hrow, hkey⟩ := Table.get?_eq_some_iff.mp hr
    obtain ⟨hticker, hrest⟩ := Prod.mk.inj hkey
    have hticker' : r.ticker = t := hticker
    refine ⟨r, List.mem_filter.mpr ⟨hrow, decide_eq_true ⟨(Prod.mk.inj hrest).1, ?_⟩⟩, hticker'⟩
    rw [hticker']
    exact (Option.any_eq_true _ _).mpr ⟨s, hs, hin⟩

theorem nodup_coveredTickers {tf : Timeframe} : (coveredTickers w tf).Nodup := List.nodup_dedup _

/-- Two lists of different elements, the first in the second: the first is shorter exactly when it lacks
one. Source: none: infrastructure. Kind: L -/
theorem length_lt_iff {α : Type} [DecidableEq α] {l l' : List α} (hl : l.Nodup) (hl' : l'.Nodup)
    (hsub : l ⊆ l') : l.length < l'.length ↔ ∃ a ∈ l', a ∉ l := by
  constructor
  · intro hlt
    by_contra hall
    push Not at hall
    exact absurd (List.subperm_of_subset hl' hall).length_le (not_le.mpr hlt)
  · rintro ⟨a, ha, hnot⟩
    have hcons : (a :: l).Nodup := List.nodup_cons.mpr ⟨hnot, hl⟩
    exact (List.subperm_of_subset hcons (List.cons_subset.mpr ⟨ha, hsub⟩)).length_le

/-- **The coverage lacks something** exactly when a symbol of the universe has no candle of some bar
length. Source: `app/services/universe_bootstrap.py` `candle_bootstrap_coverage`. Kind: L -/
theorem needsBootstrap_iff {timeframes : List Timeframe} :
    (candleBootstrapCoverage w timeframes).needsBootstrap = true ↔
      ∃ t tf, InUniverse w t ∧ tf ∈ timeframes ∧ ¬ HasCandle w (t, tf) := by
  have hcount (tf : Timeframe) : (coveredTickers w tf).length <
      (w.symbols.select fun s => s.inUniverse).length ↔
        ∃ t, InUniverse w t ∧ ¬ HasCandle w (t, tf) := by
    have hsub : coveredTickers w tf ⊆ (w.symbols.select fun s => s.inUniverse).map SymbolRow.ticker :=
      fun t ht => mem_inUniverse.mpr (mem_coveredTickers.mp ht).1
    have hlt := length_lt_iff nodup_coveredTickers Table.nodup_select hsub
    rw [List.length_map] at hlt
    rw [hlt]
    refine exists_congr fun t => ?_
    rw [mem_inUniverse, mem_coveredTickers]
    tauto
  show (_ && _) = true ↔ _
  rw [Bool.and_eq_true, List.any_eq_true, decide_eq_true_eq]
  constructor
  · rintro ⟨-, tf, htf, hlt⟩
    obtain ⟨t, ht, hnone⟩ := (hcount tf).mp (of_decide_eq_true hlt)
    exact ⟨t, tf, ht, htf, hnone⟩
  · rintro ⟨t, tf, ht, htf, hnone⟩
    have hlt := (hcount tf).mpr ⟨t, ht, hnone⟩
    exact ⟨Nat.zero_lt_of_lt hlt, tf, htf, decide_eq_true hlt⟩

theorem listUniverseTickers_iff (hsize : w.symbols.rows.length ≤ 20000) {t : String} :
    t ∈ UniverseRepository.listUniverseTickers w 20000 ↔ InUniverse w t := by
  have hlow : (w.symbols.select fun s => s.inUniverse).countP (fun s => s.ticker < t) < 20000 ∨
      ¬ InUniverse w t := by
    by_cases hin : InUniverse w t
    · left
      obtain ⟨s, hs, hin⟩ := hin
      obtain ⟨hrow, rfl⟩ := Table.get?_eq_some_iff.mp hs
      -- the ticker itself is not below it
      have hlt : (w.symbols.select fun s => s.inUniverse).countP (fun r => r.ticker < s.ticker) <
          (w.symbols.select fun s => s.inUniverse).length := by
        refine lt_of_le_of_ne List.countP_le_length fun heq => ?_
        have hall := List.countP_eq_length.mp heq s (List.mem_filter.mpr ⟨hrow, hin⟩)
        exact lt_irrefl _ (of_decide_eq_true hall)
      exact hlt.trans_le ((List.length_filter_le _ _).trans hsize)
    · exact .inr hin
  unfold UniverseRepository.listUniverseTickers
  rw [UniverseRepository.mem_orderedTickers_iff Table.nodup_select, ← List.mem_map, mem_inUniverse]
  constructor
  · exact And.left
  · intro hin
    exact ⟨hin, hlow.resolve_right (not_not.mpr hin)⟩

/-- A pair has a candle after its turn exactly when it had one or the turn has stored some.
Source: `app/services/universe_bootstrap.py` `bootstrap_candles_on_first_run`. Kind: L -/
theorem hasCandle_visit : HasCandle (visit feed w k) k ↔
    HasCandle w k ∨ wrote (answer feed w k) = true := by
  unfold visit answer wrote counts
  rcases backfillOne_cases feed w k.1 k.2 with ⟨a, hzero, hstays⟩ | ⟨items, hwrites⟩
  · rw [hstays w rfl, hzero]
    exact (or_iff_left (by simp)).symm
  · rw [hwrites w rfl]
    by_cases hnodup : (CandleRepository.newTimes w k.1 k.2 items).Nodup
    · rw [CandleRepository.upsertBatch_of_nodup hnodup]
      have hle : (CandleRepository.newTimes w k.1 k.2 items).length ≤
          (items.filterMap BatchItem.candle?).length := by
        unfold CandleRepository.newTimes
        rw [CandleRepository.filterMap_candleTime]
        exact (List.length_filter_le _ _).trans_eq (List.length_map _)
      have hcounts : (decide (0 < (CandleRepository.newTimes w k.1 k.2 items).length +
          ((items.filterMap BatchItem.candle?).length -
            (CandleRepository.newTimes w k.1 k.2 items).length)) = true) ↔
          items.filterMap BatchItem.candle? ≠ [] := by
        rw [decide_eq_true_eq, Nat.add_sub_cancel' hle, List.length_pos_iff]
      refine Iff.trans ?_ (or_congr Iff.rfl hcounts).symm
      constructor
      · rintro ⟨ts, hts⟩
        by_cases hempty : items.filterMap BatchItem.candle? = []
        · left
          refine ⟨ts, ?_⟩
          unfold look CandleRepository.upsertOneByOne at hts
          rw [hempty] at hts
          exact hts
        · exact .inr hempty
      · rintro (⟨ts, hts⟩ | hsome)
        · exact ⟨ts, CandleRepository.get?_foldl_upsertIncremental (.inl hts)⟩
        · obtain ⟨c, hc⟩ := List.exists_mem_of_ne_nil _ hsome
          exact ⟨c.ts, CandleRepository.get?_foldl_upsertIncremental (.inr ⟨c, hc, rfl⟩)⟩
    · rw [CandleRepository.upsertBatch_of_not_nodup hnodup]
      exact (or_iff_left (by simp [Except.toOption])).symm

/-- **The coverage after the bootstrap.** With at most 20000 symbols, the coverage still lacks something
after a bootstrap of the universe exactly when some symbol of it had no candle of some bar length and its
turn has stored none. Source: `app/services/universe_bootstrap.py` `bootstrap_candles_on_first_run`.
Kind: P -/
theorem bootstrap_coverage (feed : Feed) (w : World) {appKey appSecret : String}
    {timeframes : List Timeframe} (hkey : appKey ≠ "") (hsecret : appSecret ≠ "")
    (htimeframes : timeframes.Nodup) (hsize : w.symbols.rows.length ≤ 20000) :
    (candleBootstrapCoverage (bootstrapCandlesOnFirstRun feed appKey appSecret (.ok ())
        (UniverseRepository.listUniverseTickers w 20000) timeframes w).1 timeframes).needsBootstrap =
        true ↔
      ∃ t tf, InUniverse w t ∧ tf ∈ timeframes ∧ ¬ HasCandle w (t, tf) ∧
        wrote (answer feed w (t, tf)) = false := by
  set tickers := UniverseRepository.listUniverseTickers w 20000
  have hisolated : Isolated feed w
      (bootstrapCandlesOnFirstRun feed appKey appSecret (.ok ()) tickers timeframes w).1
      (pairs tickers timeframes) :=
    bootstrap_isolated hkey hsecret nodup_listUniverseTickers htimeframes
  set w' := (bootstrapCandlesOnFirstRun feed appKey appSecret (.ok ()) tickers timeframes w).1
  have huniverse (t : String) : InUniverse w' t ↔ InUniverse w t := by
    rw [hisolated.rest]
    rfl
  rw [needsBootstrap_iff]
  refine exists_congr fun t => exists_congr fun tf => ?_
  rw [huniverse]
  refine and_congr_right fun hin => and_congr_right fun htf => ?_
  have hk : (t, tf) ∈ pairs tickers timeframes :=
    mem_pairs.mpr ⟨(listUniverseTickers_iff hsize).mpr hin, htf⟩
  have hcandle : HasCandle w' (t, tf) ↔ HasCandle (visit feed w (t, tf)) (t, tf) := by
    unfold HasCandle
    rw [hisolated.own (t, tf) hk]
  rw [hcandle, hasCandle_visit, not_or, Bool.not_eq_true]

/-- A universe of one symbol. Source: `app/db/models/universe.py` `Symbol`. Kind: D -/
def oneSymbol : World where
  symbols := ⟨[{ ticker := "005930" }], List.nodup_singleton _⟩

/-- Without candles of five minutes the coverage is not complete. Source:
`app/services/universe_bootstrap.py` `candle_bootstrap_coverage`. Kind: C -/
theorem bootstrap_coverage_partly :
    (candleBootstrapCoverage (bootstrapCandlesOnFirstRun oneCandle "key" "secret" (.ok ())
      (UniverseRepository.listUniverseTickers oneSymbol 20000) [.d1, .m5] oneSymbol).1
      [.d1, .m5]).needsBootstrap = true := by
  apply (bootstrap_coverage oneCandle oneSymbol (by decide) (by decide) (by decide) (by decide)).mpr
  refine ⟨"005930", .m5, ⟨_, rfl, rfl⟩, by decide, ?_, rfl⟩
  rintro ⟨ts, hts⟩
  exact hts rfl

end CandleBackfill

end HaruTrade
