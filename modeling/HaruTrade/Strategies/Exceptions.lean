import HaruTrade.Strategies.Windows

/-!
# No strategy raises

Every division of a strategy is guarded, each one in its own way: by a comparison of the divisor, by
the length of the list that it is the length of, or by the order of three averages. The definitions
divide and index as Python does, with an exception where Python has one.

* `ema_mem_Icc` — an average is between the bounds of its values.
* `Proper` — no signal, or one to buy or sell at the last close.
* `strategies_never_raise` — **on candles without negative numbers every strategy answers properly**,
  and in exact arithmetic an average is between the least and the greatest of its values.
* `ema_rounds_up` — on doubles it may be above all of them.
-/

namespace HaruTrade

variable {ticker strategyId side : String} {timeframe : Timeframe} {now : Time}
  {candles : List Candle} {k : ℚ}

/-- The two last candles. Source: none: infrastructure. Kind: L -/
theorem exists_lastCandles (h : 2 ≤ candles.length) : ∃ front prev last,
    candles = front ++ [prev, last] ∧ pyGet candles (-2) = .ok prev ∧
      pyGet candles (-1) = .ok last := by
  obtain ⟨front, back, rfl, hback⟩ : ∃ front back, candles = front ++ back ∧ back.length = 2 :=
    ⟨candles.take (candles.length - 2), candles.drop (candles.length - 2),
      (List.take_append_drop _ _).symm, by rw [List.length_drop]; omega⟩
  obtain ⟨prev, last, rfl⟩ := List.length_eq_two.mp hback
  exact ⟨front, prev, last, rfl, (pyGet_neg_append two_pos le_rfl).trans rfl,
    (pyGet_neg_append one_pos one_le_two).trans rfl⟩

/-! ## Averages -/

section averages

variable {values : List ℚ} {lo hi : ℚ} {period : ℕ}

/-- **An average is between the bounds of its values.** Source: `app/strategies/helpers.py` `ema`.
Kind: L -/
theorem ema_mem_Icc (hperiod : 0 < period) (hlen : period ≤ values.length)
    (hvalues : ∀ v ∈ values, v ∈ Set.Icc lo hi) :
    ∃ average, ema values period = .ok average ∧ average ∈ Set.Icc lo hi := by
  obtain ⟨h0, h1⟩ := weight_mem_Icc hperiod
  have htake : (values.take period).length = period := List.length_take_of_le hlen
  have hmean := mean_mem_Icc (fun v hv => hvalues v (List.mem_of_mem_take hv)) (htake ▸ hperiod)
  rw [htake] at hmean
  exact ⟨_, ema_eq_smooth hperiod hlen,
    smooth_mem_Icc h0 h1 (fun v hv => hvalues v (List.mem_of_mem_drop hv)) hmean⟩

/-- The least and the greatest of some values. Source: none: infrastructure. Kind: L -/
theorem exists_min_max (hlen : 0 < values.length) : ∃ lo hi, values.min? = some lo ∧
    values.max? = some hi ∧ lo ∈ values ∧ ∀ v ∈ values, v ∈ Set.Icc lo hi := by
  have hne : values ≠ [] := List.length_pos_iff.mp hlen
  obtain ⟨lo, hlo⟩ := Option.isSome_iff_exists.mp (List.isSome_min?_of_ne_nil hne)
  obtain ⟨hi, hhi⟩ := Option.isSome_iff_exists.mp (List.isSome_max?_of_ne_nil hne)
  obtain ⟨hmem, hle⟩ := List.min?_eq_some_iff.mp hlo
  exact ⟨lo, hi, hlo, hhi, hmem, fun v hv => ⟨hle v hv, (List.max?_eq_some_iff.mp hhi).2 v hv⟩⟩

/-- **An average is between the least and the greatest of its values.**
Source: `app/strategies/helpers.py` `ema`. Kind: L -/
theorem ema_between (hperiod : 0 < period) (hlen : period ≤ values.length) :
    ∃ lo hi average, values.min? = some lo ∧ values.max? = some hi ∧
      ema values period = .ok average ∧ lo ≤ average ∧ average ≤ hi := by
  obtain ⟨lo, hi, hlo, hhi, -, hvalues⟩ := exists_min_max (hperiod.trans_le hlen)
  obtain ⟨average, hema, hle⟩ := ema_mem_Icc hperiod hlen hvalues
  exact ⟨lo, hi, average, hlo, hhi, hema, hle⟩

/-- The average of values that are not negative is not negative. Source:
`app/strategies/helpers.py` `ema`. Kind: L -/
theorem ema_nonneg (hperiod : 0 < period) (hlen : period ≤ values.length)
    (hvalues : ∀ v ∈ values, 0 ≤ v) : ∃ average, ema values period = .ok average ∧ 0 ≤ average := by
  obtain ⟨lo, hi, -, -, hmem, hbounds⟩ := exists_min_max (hperiod.trans_le hlen)
  obtain ⟨average, hema, hle⟩ := ema_mem_Icc hperiod hlen hbounds
  exact ⟨average, hema, (hvalues lo hmem).trans hle.1⟩

end averages

/-! ## Answers -/

/-- **What a strategy may answer**: no signal, or one at the last candle, to buy or to sell at its
close. Source: `app/strategies/base.py` `BaseStrategy.generate`. Kind: D -/
def Proper (candles : List Candle) : Except Exn (Option Signal) → Prop
  | .ok none => True
  | .ok (some s) => (s.side = "buy" ∨ s.side = "sell") ∧ s.index = candles.length - 1 ∧
      ∃ last, candles.getLast? = some last ∧ s.price = some last.close
  | .error _ => False

section answers

variable {c : Prop} [Decidable c] {answer : Except Exn (Option Signal)}

theorem proper_none : Proper candles (.ok none) := trivial

/-- A signal at the last candle. Source: none: infrastructure. Kind: L -/
theorem proper_lastSignal {front : List Candle} {prev last : Candle}
    (hside : side = "buy" ∨ side = "sell") :
    Proper (front ++ [prev, last]) (.ok (some (lastSignal strategyId side ticker timeframe
      (front ++ [prev, last]) now last.close))) :=
  ⟨hside, rfl, last, by simp, rfl⟩

/-- A guard, and a signal otherwise. Source: none: infrastructure. Kind: L -/
theorem proper_ite {front : List Candle} {prev last : Candle}
    (hside : side = "buy" ∨ side = "sell") :
    Proper (front ++ [prev, last]) (.ok (if c then none else some (lastSignal strategyId side ticker
      timeframe (front ++ [prev, last]) now last.close))) := by
  split_ifs
  · exact proper_none
  · exact proper_lastSignal hside

/-- A guard that ends without a signal. Source: none: infrastructure. Kind: L -/
theorem proper_unless (h : ¬ c → Proper candles answer) :
    Proper candles (if c then .ok none else answer) := by
  by_cases hc : c
  · rw [if_pos hc]
    exact proper_none
  · rw [if_neg hc]
    exact h hc

end answers

theorem GapMomentumStrategy.proper_generate :
    Proper candles (generate timeframe ticker candles now) := by
  unfold generate
  refine proper_unless fun hout => ?_
  obtain ⟨front, prev, last, rfl, hprev, hlast⟩ := exists_lastCandles (not_lt.mp (not_or.mp hout).2)
  rw [hprev, hlast]
  refine proper_unless fun hclose => ?_
  rw [pyDiv_of_ne fun h => hclose h.le]
  refine proper_unless fun hgap => proper_lastSignal ?_
  exact ite_eq_or_eq _ _ _

theorem VolatilityBreakoutStrategy.proper_generate :
    Proper candles (generate timeframe k ticker candles now) := by
  unfold generate
  refine proper_unless fun hout => ?_
  obtain ⟨front, prev, last, rfl, hprev, hlast⟩ := exists_lastCandles (not_lt.mp (not_or.mp hout).2)
  rw [hprev, hlast]
  exact proper_ite (Or.inl rfl)

theorem VolumeSurgeStrategy.proper_generate :
    Proper candles (generate timeframe ticker candles now) := by
  unfold generate
  refine proper_unless fun hout => ?_
  obtain ⟨front, prev, last, rfl, hprev, hlast⟩ :=
    exists_lastCandles (le_trans (by decide) (not_lt.mp (not_or.mp hout).2))
  obtain ⟨avg20, haverage⟩ :=
    exists_averageVolume (pySlice (volumes (front ++ [prev, last])) (-21) (-1))
  rw [hprev, hlast]
  show Proper _ (averageVolume _ >>= _)
  rw [haverage]
  refine proper_unless fun _ => proper_unless fun _ => proper_unless fun hclose => ?_
  rw [pyDiv_of_ne fun h => hclose h.le]
  exact proper_unless fun _ => proper_lastSignal (Or.inl rfl)

theorem SupportResistanceStrategy.proper_generate :
    Proper candles (generate timeframe ticker candles now) := by
  unfold generate
  refine proper_unless fun hout => ?_
  obtain ⟨front, prev, last, rfl, hprev, hlast⟩ := exists_lastCandles (not_lt.mp (not_or.mp hout).2)
  obtain ⟨rebounds, hrebounds⟩ := exists_rebound last
    (2 * ((prev.high + prev.low + prev.close) / 3) - prev.high)
  rw [hprev, hlast]
  show Proper _ (rebound last _ >>= _)
  rw [hrebounds]
  exact proper_unless fun _ => proper_lastSignal (Or.inl rfl)

namespace EmaPullbackStrategy

/-- The volumes are read without an exception. Source: `app/strategies/impl/ema_pullback.py`
`EmaPullbackStrategy.generate`. Kind: L -/
theorem exists_thinVolume (vols : List ℚ) : ∃ thin, thinVolume vols = .ok thin := by
  unfold thinVolume
  by_cases hlen : 20 ≤ vols.length
  · obtain ⟨last, hlast⟩ : ∃ last, pyGet vols (-1) = .ok last :=
      pyGet_neg_eq_ok one_pos (le_trans (by decide) hlen)
    rw [if_pos hlen]
    dsimp only
    rw [hlast]
    exact ⟨_, rfl⟩
  · rw [if_neg hlen]
    exact ⟨_, rfl⟩

/-- **The order of the averages is guard enough**: the middle one is above one that is not negative.
Source: `app/strategies/impl/ema_pullback.py` `EmaPullbackStrategy.generate`. Kind: L -/
theorem proper_generate (hprices : ∀ c ∈ candles, 0 ≤ c.close) :
    Proper candles (generate timeframe ticker candles now) := by
  unfold generate
  refine proper_unless fun hout => ?_
  have hlen : 60 ≤ candles.length := not_lt.mp (not_or.mp hout).2
  have hcloses : (closes candles).length = candles.length := List.length_map _
  have hnonneg : ∀ v ∈ closes candles, 0 ≤ v := by
    intro v hv
    obtain ⟨c, hc, rfl⟩ := List.mem_map.mp hv
    exact hprices c hc
  have haverage : ∀ period : ℕ, 0 < period → period ≤ 60 →
      ∃ average, ema (closes candles) period = .ok average ∧ 0 ≤ average :=
    fun period hpos hle => ema_nonneg hpos (hcloses ▸ hle.trans hlen) hnonneg
  obtain ⟨a5, h5, -⟩ := haverage 5 (by decide) (by decide)
  obtain ⟨a20, h20, -⟩ := haverage 20 (by decide) (by decide)
  obtain ⟨a60, h60, hslow⟩ := haverage 60 (by decide) (by decide)
  obtain ⟨thin, hthin⟩ := exists_thinVolume (volumes candles)
  obtain ⟨front, prev, last, rfl, -, -⟩ := exists_lastCandles (le_trans (by decide) hlen)
  have hlast : pyGet (closes (front ++ [prev, last])) (-1) = .ok last.close :=
    pyGet_neg_one (by simp [closes])
  dsimp only
  rw [h5, h20, h60, hlast, hthin]
  refine proper_unless fun horder => ?_
  -- the divisor is above an average that is not negative
  have hpos : 0 < a20 := hslow.trans_lt (not_not.mp horder).2
  show Proper _ (pyDiv |last.close - a20| a20 >>= _)
  rw [pyDiv_of_ne hpos.ne']
  refine proper_unless fun hfar => ?_
  exact proper_ite (Or.inl rfl)

end EmaPullbackStrategy

/-! ## The registry -/

/-- The five strategies, on any bars. Source: `app/strategies/registry.py`
`StrategyRegistry.__init__`. Kind: D -/
def StrategyRegistry.onBars (timeframe : Timeframe) (k : ℚ) : List Generate :=
  [GapMomentumStrategy.generate timeframe, EmaPullbackStrategy.generate timeframe,
    VolatilityBreakoutStrategy.generate timeframe k, VolumeSurgeStrategy.generate timeframe,
    SupportResistanceStrategy.generate timeframe]

/-- **The registered strategies** are among them. Source: `app/strategies/registry.py`
`StrategyRegistry.__init__`. Kind: P -/
theorem StrategyRegistry.registered_subset {generate : Generate}
    (h : generate ∈ StrategyRegistry.registered) :
    ∃ timeframe, generate ∈ StrategyRegistry.onBars timeframe (1 / 2) := by
  simp only [registered, List.mem_cons, List.not_mem_nil, or_false] at h
  rcases h with rfl | rfl | rfl | rfl | rfl
  · exact ⟨.m3, by simp [onBars]⟩
  · exact ⟨.m15, by simp [onBars]⟩
  · exact ⟨.m3, by simp [onBars]⟩
  · exact ⟨.m3, by simp [onBars]⟩
  · exact ⟨.m15, by simp [onBars]⟩

/-- **No strategy raises.** For every list of candles without negative prices and volumes and every
time, each of the five strategies, on any bars and with any factor, answers with no signal or with one
to buy or to sell at the last candle and its close; and in exact arithmetic the average of a list that
is long enough is between its least and its greatest value.
Source: `app/strategies/base.py` `BaseStrategy.generate`, `app/strategies/helpers.py` `ema`. Kind: P -/
theorem strategies_never_raise (timeframe : Timeframe) (k : ℚ) (ticker : String)
    (candles : List Candle) (now : Time)
    (hcandles : ∀ c ∈ candles,
      0 ≤ c.open ∧ 0 ≤ c.high ∧ 0 ≤ c.low ∧ 0 ≤ c.close ∧ 0 ≤ c.volume) :
    (∀ generate ∈ StrategyRegistry.onBars timeframe k,
      Proper candles (generate ticker candles now)) ∧
    ∀ (values : List ℚ) (period : ℕ), 0 < period → period ≤ values.length →
      ∃ lo hi average, values.min? = some lo ∧ values.max? = some hi ∧
        ema values period = .ok average ∧ lo ≤ average ∧ average ≤ hi := by
  refine ⟨fun generate h => ?_, fun values period hperiod hlen => ema_between hperiod hlen⟩
  simp only [StrategyRegistry.onBars, List.mem_cons, List.not_mem_nil, or_false] at h
  rcases h with rfl | rfl | rfl | rfl | rfl
  · exact GapMomentumStrategy.proper_generate
  · exact EmaPullbackStrategy.proper_generate fun c hc => (hcandles c hc).2.2.2.1
  · exact VolatilityBreakoutStrategy.proper_generate
  · exact VolumeSurgeStrategy.proper_generate
  · exact SupportResistanceStrategy.proper_generate

/-- On 300 bars whose close rises from 1000 to 1299 every strategy answers properly at ten o'clock, the
EMA pullback with a signal, and its middle average is between the two. Source:
`app/strategies/base.py` `BaseStrategy.generate`. Kind: C -/
theorem strategies_never_raise_rising :
    (∀ generate ∈ StrategyRegistry.onBars .m15 (1 / 2),
      Proper risingBars (generate "005930" risingBars 36000)) ∧
    (EmaPullbackStrategy.generate .m15 "005930" risingBars 36000).toOption.join.map Signal.price =
      some (some 1299) ∧
    ∃ average, ema (closes risingBars) 20 = .ok average ∧ 1000 ≤ average ∧ average ≤ 1299 := by
  obtain ⟨hproper, hbetween⟩ := strategies_never_raise .m15 (1 / 2) "005930" risingBars 36000
    (by decide +kernel)
  obtain ⟨lo, hi, average, hlo, hhi, hema, hle, hge⟩ :=
    hbetween (closes risingBars) 20 (by decide) (by decide +kernel)
  have hmin : (closes risingBars).min? = some 1000 := by decide +kernel
  have hmax : (closes risingBars).max? = some 1299 := by decide +kernel
  obtain rfl := Option.some.inj (hmin.symm.trans hlo)
  obtain rfl := Option.some.inj (hmax.symm.trans hhi)
  exact ⟨hproper, by decide +kernel, average, hema, hle, hge⟩

/-- **On doubles an average may leave the values**: the sum of three times 0.1 is rounded up.
Source: `app/strategies/helpers.py` `ema`. Kind: C -/
theorem ema_rounds_up :
    ¬ ∀ (values : List PyNum) (period : ℕ), 0 < period → period ≤ values.length →
      (∀ v ∈ values, 0 ≤ v) →
      ∃ average, ema values period = .ok average ∧
        (∃ lo ∈ values, lo ≤ average) ∧ ∃ hi ∈ values, average ≤ hi := by
  intro between
  let tenth := PyNum.binary64 (1 / 10)
  have habove : ∀ average ∈ (ema [tenth, tenth, tenth] 3).toOption, ¬ average ≤ tenth := by
    decide +kernel
  obtain ⟨average, hema, -, hi, hmem, hle⟩ :=
    between [tenth, tenth, tenth] 3 (by decide) (by decide) (by decide +kernel)
  obtain rfl : hi = tenth := by simpa using hmem
  exact habove average (by rw [hema]; rfl) hle

end HaruTrade
