import Mathlib.Tactic.Ring
import Mathlib.Tactic.Linarith
import Mathlib.Tactic.Positivity
import HaruTrade.Strategies.Impl
import HaruTrade.Repositories.Candle

/-!
# What the strategies see of a long history

The manual backtest shows a strategy the whole history and Loop B its last 240 candles. Four of the
five strategies look back at most twenty-one candles. The exponential averages of the EMA pullback
carry the whole history.

* `SameSignal` — both no signal, or both a signal with the same side and price.
* `ema_append` — what is in front of a window moves an average by at most its `drift`.
* `EmaPullbackStrategy.Clear` — a history on which the drift decides no comparison.
* `live_sees_backtest` — where the two agree; `live_sees_backtest_not` — where they do not.
-/

namespace HaruTrade

/-- The candles that Loop B reads of a history. Source: `app/loops/loop_b_runtime.py`
`LoopBRunner._sync_and_scan`. Kind: D -/
def lastCandles (candles : List Candle) : List Candle := candles.drop (candles.length - 240)

theorem listRecent_eq_lastCandles (w : World) (ticker : String) (timeframe : Timeframe) :
    CandleRepository.listRecent w ticker timeframe 240 =
      lastCandles (CandleRepository.history w ticker timeframe) := rfl

/-- Both no signal, or both a signal with the same side and price. Source: none: infrastructure.
Kind: D -/
inductive SameSignal : Except Exn (Option Signal) → Except Exn (Option Signal) → Prop
  | none : SameSignal (.ok .none) (.ok .none)
  | some {s s' : Signal} (hside : s.side = s'.side) (hprice : s.price = s'.price) :
      SameSignal (.ok (.some s)) (.ok (.some s'))

variable {ticker strategyId side : String} {timeframe : Timeframe} {now : Time}
  {candles xs ys : List Candle} {k price : ℚ}

theorem not_sameSignal {s : Signal} : ¬ SameSignal (.ok (some s)) (.ok none) := by
  rintro ⟨⟩

/-- A signal at the last candle under the same condition. Source: none: infrastructure. Kind: L -/
theorem sameSignal_ite {c d : Prop} [Decidable c] [Decidable d] (h : c ↔ d) :
    SameSignal
      (.ok (if c then none else some (lastSignal strategyId side ticker timeframe xs now price)))
      (.ok (if d then none else some (lastSignal strategyId side ticker timeframe ys now price))) := by
  by_cases hc : c
  · rw [if_pos hc, if_pos (h.mp hc)]
    exact .none
  · rw [if_neg hc, if_neg (mt h.mpr hc)]
    exact .some rfl rfl

/-- A guard that holds of both ends both without a signal. Source: none: infrastructure. Kind: L -/
theorem sameSignal_unless {c : Prop} [Decidable c] {a b : Except Exn (Option Signal)}
    (h : ¬ c → SameSignal a b) :
    SameSignal (if c then .ok none else a) (if c then .ok none else b) := by
  by_cases hc : c
  · rw [if_pos hc, if_pos hc]
    exact .none
  · rw [if_neg hc, if_neg hc]
    exact h hc

/-- A history is its last candles with others in front of 240. Source: none: infrastructure.
Kind: L -/
theorem exists_front (candles : List Candle) :
    ∃ front, candles = front ++ lastCandles candles ∧
      (front = [] ∨ (lastCandles candles).length = 240) := by
  refine ⟨candles.take (candles.length - 240), (List.take_append_drop _ _).symm, ?_⟩
  rcases Nat.lt_or_ge candles.length 240 with hlt | hge
  · left
    rw [Nat.sub_eq_zero_of_le hlt.le, List.take_zero]
  · right
    rw [lastCandles, List.length_drop]
    omega

/-- A guard on at most twenty-one candles is the same on the window.
Source: none: infrastructure. Kind: L -/
theorem length_append_lt_iff {n : ℕ} (h : xs = [] ∨ 21 ≤ ys.length) (hn : n ≤ 21) :
    (xs ++ ys).length < n ↔ ys.length < n := by
  rcases h with rfl | h
  · rfl
  · rw [List.length_append]
    omega

/-- The two last candles of a history are those of its window. Source: none: infrastructure.
Kind: L -/
theorem exists_lastTwo (xs : List Candle) (h : 2 ≤ ys.length) :
    ∃ prev last, pyGet (xs ++ ys) (-2) = .ok prev ∧ pyGet (xs ++ ys) (-1) = .ok last ∧
      pyGet ys (-2) = .ok prev ∧ pyGet ys (-1) = .ok last := by
  have hone : 1 ≤ ys.length := one_le_two.trans h
  obtain ⟨prev, hprev⟩ := pyGet_neg_eq_ok two_pos h
  obtain ⟨last, hlast⟩ := pyGet_neg_eq_ok one_pos hone
  exact ⟨prev, last, (pyGet_neg_append two_pos h).trans hprev,
    (pyGet_neg_append one_pos hone).trans hlast, hprev, hlast⟩

/-! ## Strategies that look back a few candles -/

/-- Source: `app/strategies/impl/gap_momentum.py` `GapMomentumStrategy.generate`. Kind: L -/
theorem GapMomentumStrategy.generate_append (h : xs = [] ∨ 21 ≤ ys.length) :
    SameSignal (generate timeframe ticker (xs ++ ys) now) (generate timeframe ticker ys now) := by
  unfold generate
  simp only [length_append_lt_iff h (show 2 ≤ 21 by decide)]
  refine sameSignal_unless fun hout => ?_
  rw [not_or, not_lt] at hout
  obtain ⟨prev, last, hprev, hlast, hprev', hlast'⟩ := exists_lastTwo xs hout.2
  rw [hprev, hlast, hprev', hlast']
  refine sameSignal_unless fun hclose => ?_
  rw [pyDiv_of_ne fun h => hclose h.le]
  exact sameSignal_unless fun _ => .some rfl rfl

/-- Source: `app/strategies/impl/volatility_breakout.py` `VolatilityBreakoutStrategy.generate`.
Kind: L -/
theorem VolatilityBreakoutStrategy.generate_append (h : xs = [] ∨ 21 ≤ ys.length) :
    SameSignal (generate timeframe k ticker (xs ++ ys) now) (generate timeframe k ticker ys now) := by
  unfold generate
  simp only [length_append_lt_iff h (show 2 ≤ 21 by decide)]
  refine sameSignal_unless fun hout => ?_
  rw [not_or, not_lt] at hout
  obtain ⟨prev, last, hprev, hlast, hprev', hlast'⟩ := exists_lastTwo xs hout.2
  rw [hprev, hlast, hprev', hlast']
  exact sameSignal_ite Iff.rfl

/-- Source: `app/strategies/impl/volume_surge.py` `VolumeSurgeStrategy.generate`. Kind: L -/
theorem VolumeSurgeStrategy.generate_append (h : xs = [] ∨ 21 ≤ ys.length) :
    SameSignal (generate timeframe ticker (xs ++ ys) now) (generate timeframe ticker ys now) := by
  unfold generate
  simp only [length_append_lt_iff h (show 21 ≤ 21 by decide)]
  refine sameSignal_unless fun hout => ?_
  rw [not_or, not_lt] at hout
  obtain ⟨prev, last, hprev, hlast, hprev', hlast'⟩ :=
    exists_lastTwo xs (le_trans (by decide) hout.2)
  have hvols : volumes (xs ++ ys) = volumes xs ++ volumes ys := List.map_append
  have hlen : 21 ≤ (volumes ys).length := by
    rw [volumes, List.length_map]
    exact hout.2
  have hslice : pySlice (volumes (xs ++ ys)) (-21) (-1) = pySlice (volumes ys) (-21) (-1) := by
    rw [hvols]
    exact pySlice_neg_append (by decide) one_pos hlen (le_trans (by decide) hlen)
  obtain ⟨avg20, haverage⟩ := exists_averageVolume (pySlice (volumes ys) (-21) (-1))
  rw [hprev, hlast, hprev', hlast', hslice]
  show SameSignal (averageVolume _ >>= _) (averageVolume _ >>= _)
  rw [haverage]
  refine sameSignal_unless fun _ => sameSignal_unless fun _ => sameSignal_unless fun hclose => ?_
  rw [pyDiv_of_ne fun h => hclose h.le]
  exact sameSignal_unless fun _ => .some rfl rfl

/-- Source: `app/strategies/impl/support_resistance.py` `SupportResistanceStrategy.generate`.
Kind: L -/
theorem SupportResistanceStrategy.generate_append (h : xs = [] ∨ 21 ≤ ys.length) :
    SameSignal (generate timeframe ticker (xs ++ ys) now) (generate timeframe ticker ys now) := by
  unfold generate
  simp only [length_append_lt_iff h (show 2 ≤ 21 by decide)]
  refine sameSignal_unless fun hout => ?_
  rw [not_or, not_lt] at hout
  obtain ⟨prev, last, hprev, hlast, hprev', hlast'⟩ := exists_lastTwo xs hout.2
  obtain ⟨rebounds, hrebounds⟩ := exists_rebound last
    (2 * ((prev.high + prev.low + prev.close) / 3) - prev.high)
  rw [hprev, hlast, hprev', hlast']
  show SameSignal (rebound last _ >>= _) (rebound last _ >>= _)
  rw [hrebounds]
  exact sameSignal_unless fun _ => .some rfl rfl

/-! ## Exponential averages -/

section averages

variable {values front : List ℚ} {lo hi weight c d : ℚ} {period : ℕ}

/-- One step of the average, and then the next. Source: `app/strategies/helpers.py` `ema`.
Kind: D -/
def smooth (weight : ℚ) (values : List ℚ) (current : ℚ) : ℚ :=
  values.foldl (fun current value => value * weight + current * (1 - weight)) current

/-- Where the average starts is forgotten at a fixed rate. Source: `app/strategies/helpers.py` `ema`.
Kind: L -/
theorem smooth_sub_smooth (weight : ℚ) (values : List ℚ) (c d : ℚ) :
    smooth weight values c - smooth weight values d = (1 - weight) ^ values.length * (c - d) := by
  unfold smooth
  induction values generalizing c d with
  | nil => simp
  | cons value values ih =>
      rw [List.foldl_cons, List.foldl_cons, ih, List.length_cons, pow_succ]
      ring

/-- An average of values between two bounds is between them.
Source: `app/strategies/helpers.py` `ema`. Kind: L -/
theorem smooth_mem_Icc (h0 : 0 ≤ weight) (h1 : weight ≤ 1) (hvalues : ∀ v ∈ values, v ∈ Set.Icc lo hi)
    (hc : c ∈ Set.Icc lo hi) : smooth weight values c ∈ Set.Icc lo hi := by
  unfold smooth
  induction values generalizing c with
  | nil => exact hc
  | cons value values ih =>
      rw [List.foldl_cons]
      refine ih (fun v hv => hvalues v (List.mem_cons_of_mem _ hv)) ?_
      obtain ⟨hlo, hhi⟩ := hvalues value List.mem_cons_self
      have h1' : 0 ≤ 1 - weight := sub_nonneg.mpr h1
      constructor
      · calc lo = lo * weight + lo * (1 - weight) := by ring
          _ ≤ value * weight + c * (1 - weight) :=
            add_le_add (mul_le_mul_of_nonneg_right hlo h0) (mul_le_mul_of_nonneg_right hc.1 h1')
      · calc value * weight + c * (1 - weight) ≤ hi * weight + hi * (1 - weight) :=
            add_le_add (mul_le_mul_of_nonneg_right hhi h0) (mul_le_mul_of_nonneg_right hc.2 h1')
          _ = hi := by ring

/-- The mean of values between two bounds is between them. Source: none: infrastructure.
Kind: L -/
theorem mean_mem_Icc (hvalues : ∀ v ∈ values, v ∈ Set.Icc lo hi) (hpos : 0 < values.length) :
    values.sum / values.length ∈ Set.Icc lo hi := by
  have hpos' : (0 : ℚ) < values.length := Nat.cast_pos.mpr hpos
  constructor
  · rw [le_div_iff₀ hpos', mul_comm, ← nsmul_eq_mul]
    exact List.card_nsmul_le_sum values lo fun v hv => (hvalues v hv).1
  · rw [div_le_iff₀ hpos', mul_comm, ← nsmul_eq_mul]
    exact List.sum_le_card_nsmul values hi fun v hv => (hvalues v hv).2

/-- The average is the mean of the first values, smoothed with the others.
Source: `app/strategies/helpers.py` `ema`. Kind: L -/
theorem ema_eq_smooth (hperiod : 0 < period) (hlen : period ≤ values.length) :
    ema values period =
      .ok (smooth (2 / (period + 1)) (values.drop period) ((values.take period).sum / period)) := by
  unfold ema
  rw [if_neg hperiod.ne', if_neg (not_lt.mpr hlen), pySum_eq_sum]
  rfl

theorem weight_mem_Icc (hperiod : 0 < period) : (2 : ℚ) / (period + 1) ∈ Set.Icc 0 1 := by
  have hpos : (0 : ℚ) < period + 1 := by positivity
  have hone : (1 : ℚ) ≤ period := Nat.one_le_cast.mpr hperiod
  refine ⟨by positivity, ?_⟩
  rw [div_le_one hpos]
  linarith

/-- How far the values in front of a window of 240 can move an average of values that are at most
`width` apart. Source: none: infrastructure. Kind: D -/
def drift (period : ℕ) (width : ℚ) : ℚ := (1 - 2 / (period + 1)) ^ (240 - period) * width

/-- **The drift of an average**: the average over a history and the average over its last 240 values
are both within the bounds of the values and at most the drift apart.
Source: `app/strategies/helpers.py` `ema`. Kind: P -/
theorem ema_append (hperiod : 0 < period) (hlen : period ≤ values.length)
    (hwindow : front = [] ∨ values.length = 240)
    (hvalues : ∀ v ∈ front ++ values, v ∈ Set.Icc lo hi) :
    ∃ a ∈ Set.Icc lo hi, ∃ b ∈ Set.Icc lo hi, ema (front ++ values) period = .ok a ∧
      ema values period = .ok b ∧ |a - b| ≤ drift period (hi - lo) := by
  let weight : ℚ := 2 / (period + 1)
  obtain ⟨hw0, hw1⟩ : weight ∈ Set.Icc 0 1 := weight_mem_Icc hperiod
  have hmean : ∀ zs : List ℚ, period ≤ zs.length → (∀ v ∈ zs, v ∈ Set.Icc lo hi) →
      (zs.take period).sum / period ∈ Set.Icc lo hi := by
    intro zs hzs hmem
    have htake : (zs.take period).length = period := List.length_take_of_le hzs
    have := mean_mem_Icc (fun v hv => hmem v (List.mem_of_mem_take hv)) (htake ▸ hperiod)
    rwa [htake] at this
  have hfront : period ≤ (front ++ values).length := by
    rw [List.length_append]
    omega
  -- the whole history reaches the last values with some average of the first
  have hdrop : (front ++ values).drop period =
      (front ++ values.take period).drop period ++ values.drop period := by
    rw [← List.drop_append_of_le_length, List.append_assoc, List.take_append_drop]
    rw [List.length_append, List.length_take_of_le (by omega)]
    omega
  let start := smooth weight ((front ++ values.take period).drop period)
    (((front ++ values).take period).sum / period)
  have hstart : start ∈ Set.Icc lo hi := by
    refine smooth_mem_Icc hw0 hw1 (fun v hv => hvalues v ?_) (hmean _ hfront hvalues)
    rcases List.mem_append.mp (List.mem_of_mem_drop hv) with hv | hv
    · exact List.mem_append_left _ hv
    · exact List.mem_append_right _ (List.mem_of_mem_take hv)
  have hmem : ∀ v ∈ values, v ∈ Set.Icc lo hi := fun v hv => hvalues v (List.mem_append_right _ hv)
  have hmem' : ∀ v ∈ values.drop period, v ∈ Set.Icc lo hi := fun v hv =>
    hmem v (List.mem_of_mem_drop hv)
  have hmean' := hmean values hlen hmem
  refine ⟨smooth weight (values.drop period) start, smooth_mem_Icc hw0 hw1 hmem' hstart,
    smooth weight (values.drop period) ((values.take period).sum / period),
    smooth_mem_Icc hw0 hw1 hmem' hmean', ?_, ?_, ?_⟩
  · rw [ema_eq_smooth hperiod hfront, hdrop, smooth, List.foldl_append]
    rfl
  · exact ema_eq_smooth hperiod hlen
  · have hrate : ∀ n : ℕ, 0 ≤ (1 - weight) ^ n := fun n => pow_nonneg (sub_nonneg.mpr hw1) n
    have hdist : |start - (values.take period).sum / period| ≤ hi - lo :=
      abs_sub_le_iff.mpr ⟨by linarith [hstart.2, hmean'.1], by linarith [hstart.1, hmean'.2]⟩
    rw [smooth_sub_smooth, abs_mul, List.length_drop, abs_of_nonneg (hrate _)]
    rcases hwindow with rfl | hlen'
    · have hsame : start = (values.take period).sum / period := by
        have hnil : (values.take period).drop period = [] := by simp
        show smooth weight ((values.take period).drop period) ((values.take period).sum / period) = _
        rw [hnil]
        rfl
      rw [hsame, sub_self, abs_zero, mul_zero]
      exact mul_nonneg (hrate _) (sub_nonneg.mpr (hstart.1.trans hstart.2))
    · rw [hlen']
      exact mul_le_mul_of_nonneg_left hdist (hrate _)

end averages

/-! ## The EMA pullback -/

/-- Two numbers that are further apart than they can move stay in their order.
Source: none: infrastructure. Kind: L -/
theorem lt_iff_of_drift {a a' b b' d e : ℚ} (ha : |a - a'| ≤ d) (hb : |b - b'| ≤ e)
    (h : d + e < |a - b|) : a < b ↔ a' < b' := by
  rw [abs_sub_le_iff] at ha hb
  rcases lt_abs.mp h with h | h
  · constructor
    · intro hlt
      linarith
    · intro hlt
      linarith
  · constructor
    · intro hlt
      linarith
    · intro hlt
      linarith

namespace EmaPullbackStrategy

variable {a5 a20 a60 last lo hi : ℚ} {thin : Bool}

/-- What the strategy answers from its averages, the last close and the volumes.
Source: `app/strategies/impl/ema_pullback.py` `EmaPullbackStrategy.generate`. Kind: L -/
theorem generate_eq (hin : ¬ (isActiveTime activeHours now = false ∨ candles.length < 60))
    (h5 : ema (closes candles) 5 = .ok a5) (h20 : ema (closes candles) 20 = .ok a20)
    (h60 : ema (closes candles) 60 = .ok a60) (hlast : pyGet (closes candles) (-1) = .ok last)
    (hthin : thinVolume (volumes candles) = .ok thin) (hne : a20 ≠ 0) :
    generate timeframe ticker candles now =
      .ok (if ¬ (a20 < a5 ∧ a60 < a20) ∨ 1 / 100 < |last - a20| / a20 ∨ thin = true then none
        else some (lastSignal "2" "buy" ticker timeframe candles now last)) := by
  unfold generate
  rw [if_neg hin]
  dsimp only
  rw [h5, h20, h60, hlast, hthin]
  show (if ¬ (a20 < a5 ∧ a60 < a20) then Except.ok none else do
    let pullbackRatio ← pyDiv |last - a20| a20
    if 1 / 100 < pullbackRatio then Except.ok none else
      Except.ok (if thin = true then none else
        some (lastSignal "2" "buy" ticker timeframe candles now last))) = _
  rw [pyDiv, if_neg hne]
  by_cases horder : a20 < a5 ∧ a60 < a20
  · rw [if_neg (not_not.mpr horder)]
    show (if 1 / 100 < |last - a20| / a20 then _ else _) = _
    by_cases hfar : 1 / 100 < |last - a20| / a20
    · rw [if_pos hfar, if_pos (Or.inr (Or.inl hfar))]
    · rw [if_neg hfar]
      by_cases hthin : thin = true
      · rw [if_pos hthin, if_pos (Or.inr (Or.inr hthin))]
      · rw [if_neg hthin, if_neg]
        rintro (h | h | h)
        · exact h horder
        · exact hfar h
        · exact hthin h
  · rw [if_pos horder, if_pos (Or.inl horder)]

/-- A signal is to buy at the last close. Source: `app/strategies/impl/ema_pullback.py`
`EmaPullbackStrategy.generate`. Kind: L -/
theorem of_generate {s : Signal} (h : generate timeframe ticker candles now = .ok (some s)) :
    60 ≤ candles.length ∧ s.side = "buy" ∧
      ∃ last, pyGet (closes candles) (-1) = .ok last ∧ s.price = some last := by
  unfold generate at h
  by_cases hout : isActiveTime activeHours now = false ∨ candles.length < 60
  · rw [if_pos hout] at h
    injection h with h
    cases h
  rw [if_neg hout] at h
  refine ⟨not_lt.mp (not_or.mp hout).2, ?_⟩
  obtain ⟨a5, -, h⟩ := ok_of_bind h
  obtain ⟨a20, -, h⟩ := ok_of_bind h
  obtain ⟨a60, -, h⟩ := ok_of_bind h
  by_cases horder : ¬ (a20 < a5 ∧ a60 < a20)
  · rw [if_pos horder] at h
    injection h with h
    cases h
  rw [if_neg horder] at h
  obtain ⟨last, hlast, h⟩ := ok_of_bind h
  obtain ⟨ratio, -, h⟩ := ok_of_bind h
  by_cases hfar : 1 / 100 < ratio
  · rw [if_pos hfar] at h
    injection h with h
    cases h
  rw [if_neg hfar] at h
  obtain ⟨thin, -, h⟩ := ok_of_bind h
  injection h with h
  by_cases hthin : thin = true
  · rw [if_pos hthin] at h
    cases h
  · rw [if_neg hthin] at h
    injection h with h
    subst h
    exact ⟨rfl, last, hlast, rfl⟩

/-- **Two signals of the same history are alike**, whatever is in front of the window.
Source: `app/strategies/impl/ema_pullback.py` `EmaPullbackStrategy.generate`. Kind: L -/
theorem generate_append {s s' : Signal}
    (h : generate timeframe ticker (xs ++ ys) now = .ok (some s))
    (h' : generate timeframe ticker ys now = .ok (some s')) :
    s.side = s'.side ∧ s.price = s'.price := by
  obtain ⟨-, hside, last, hlast, hprice⟩ := of_generate h
  obtain ⟨hlen, hside', last', hlast', hprice'⟩ := of_generate h'
  have hone : 1 ≤ (closes ys).length := by
    rw [closes, List.length_map]
    omega
  have hcloses : closes (xs ++ ys) = closes xs ++ closes ys := List.map_append
  rw [hcloses, show (-1 : ℤ) = -(1 : ℕ) from rfl, pyGet_neg_append one_pos hone] at hlast
  have hsame : last = last' := Except.ok.inj (hlast.symm.trans hlast')
  exact ⟨hside.trans hside'.symm, by rw [hprice, hprice', hsame]⟩

/-- The closes are within bounds and every comparison of the strategy is decided by more than the
averages can drift. Source: none: infrastructure. Kind: D -/
structure Clear (candles : List Candle) (lo hi : ℚ) : Prop where
  pos : 0 < lo
  within : ∀ c ∈ candles, c.close ∈ Set.Icc lo hi
  fast : ∀ a5 a20, ema (closes candles) 5 = .ok a5 → ema (closes candles) 20 = .ok a20 →
    drift 5 (hi - lo) + drift 20 (hi - lo) < |a5 - a20|
  slow : ∀ a20 a60, ema (closes candles) 20 = .ok a20 → ema (closes candles) 60 = .ok a60 →
    drift 20 (hi - lo) + drift 60 (hi - lo) < |a20 - a60|
  pullback : ∀ a20 last, ema (closes candles) 20 = .ok a20 → pyGet (closes candles) (-1) = .ok last →
    101 / 100 * drift 20 (hi - lo) < |(|last - a20| - a20 / 100)|

/-- The volumes of the window decide whether the last is thin. Source:
`app/strategies/impl/ema_pullback.py` `EmaPullbackStrategy.generate`. Kind: L -/
theorem thinVolume_append (front : List ℚ) {vols : List ℚ} (h : 20 ≤ vols.length) :
    ∃ thin, thinVolume (front ++ vols) = .ok thin ∧ thinVolume vols = .ok thin := by
  have hone : 1 ≤ vols.length := le_trans (by decide) h
  have hfront : 20 ≤ (front ++ vols).length := by
    rw [List.length_append]
    omega
  obtain ⟨last, hlast⟩ := pyGet_neg_eq_ok one_pos hone
  unfold thinVolume
  rw [if_pos hfront, if_pos h, show (-1 : ℤ) = -(1 : ℕ) from rfl,
    show (-20 : ℤ) = -(20 : ℕ) from rfl, pyGet_neg_append one_pos hone, hlast,
    pySlice_neg_append (by decide) one_pos h hone]
  exact ⟨_, rfl, rfl⟩

/-- The pullback is within one percent of the average, without the division.
Source: `app/strategies/impl/ema_pullback.py` `EmaPullbackStrategy.generate`. Kind: L -/
theorem far_iff_of_drift {a b d : ℚ} (ha : 0 < a) (hb : 0 < b) (hd : |a - b| ≤ d)
    (h : 101 / 100 * d < |(|last - a| - a / 100)|) :
    1 / 100 < |last - a| / a ↔ 1 / 100 < |last - b| / b := by
  rw [lt_div_iff₀ ha, lt_div_iff₀ hb]
  have hclose : |(|last - a| - |last - b|)| ≤ d := by
    refine (abs_abs_sub_abs_le_abs_sub _ _).trans ?_
    rwa [sub_sub_sub_cancel_left, abs_sub_comm]
  rw [abs_sub_le_iff] at hclose hd
  rcases lt_abs.mp h with h | h
  · constructor
    · intro _
      linarith
    · intro _
      linarith
  · constructor
    · intro hlt
      linarith
    · intro hlt
      linarith

/-- **The averages of the window are in the order of those of the whole.** Source:
`app/strategies/impl/ema_pullback.py` `EmaPullbackStrategy.generate`. Kind: L -/
theorem Clear.averages (hclear : Clear (xs ++ ys) lo hi) (hfront : xs = [] ∨ ys.length = 240)
    (hlen : 60 ≤ ys.length) :
    ∃ a5 a20 a60 b5 b20 b60,
      (ema (closes (xs ++ ys)) 5 = .ok a5 ∧ ema (closes (xs ++ ys)) 20 = .ok a20 ∧
        ema (closes (xs ++ ys)) 60 = .ok a60) ∧
      (ema (closes ys) 5 = .ok b5 ∧ ema (closes ys) 20 = .ok b20 ∧ ema (closes ys) 60 = .ok b60) ∧
      (0 < a20 ∧ 0 < b20 ∧ |a20 - b20| ≤ drift 20 (hi - lo)) ∧
      (a20 < a5 ↔ b20 < b5) ∧ (a60 < a20 ↔ b60 < b20) := by
  have hcloses : closes (xs ++ ys) = closes xs ++ closes ys := List.map_append
  have hlen' : (closes ys).length = ys.length := List.length_map _
  have hwindow : closes xs = [] ∨ (closes ys).length = 240 := by
    rcases hfront with rfl | h
    · exact Or.inl rfl
    · exact Or.inr (hlen'.trans h)
  have hmem : ∀ v ∈ closes xs ++ closes ys, v ∈ Set.Icc lo hi := by
    rw [← hcloses]
    intro v hv
    obtain ⟨c, hc, rfl⟩ := List.mem_map.mp hv
    exact hclear.within c hc
  obtain ⟨a5, -, b5, -, ha5, hb5, hd5⟩ := ema_append (show 0 < 5 by decide) (by omega) hwindow hmem
  obtain ⟨a20, hpos, b20, hpos', ha20, hb20, hd20⟩ :=
    ema_append (show 0 < 20 by decide) (by omega) hwindow hmem
  obtain ⟨a60, -, b60, -, ha60, hb60, hd60⟩ :=
    ema_append (show 0 < 60 by decide) (by omega) hwindow hmem
  rw [← hcloses] at ha5 ha20 ha60
  refine ⟨a5, a20, a60, b5, b20, b60, ⟨ha5, ha20, ha60⟩, ⟨hb5, hb20, hb60⟩,
    ⟨hclear.pos.trans_le hpos.1, hclear.pos.trans_le hpos'.1, hd20⟩, ?_, ?_⟩
  · apply lt_iff_of_drift hd20 hd5
    rw [add_comm, abs_sub_comm]
    exact hclear.fast a5 a20 ha5 ha20
  · apply lt_iff_of_drift hd60 hd20
    rw [add_comm, abs_sub_comm]
    exact hclear.slow a20 a60 ha20 ha60

/-- **On a clear history the window decides as the whole does.** Source:
`app/strategies/impl/ema_pullback.py` `EmaPullbackStrategy.generate`. Kind: P -/
theorem generate_of_clear (hfront : xs = [] ∨ ys.length = 240) (hclear : Clear (xs ++ ys) lo hi) :
    SameSignal (generate timeframe ticker (xs ++ ys) now) (generate timeframe ticker ys now) := by
  have hguard : (xs ++ ys).length < 60 ↔ ys.length < 60 := by
    rcases hfront with rfl | h
    · rfl
    · rw [List.length_append]
      omega
  by_cases hout' : isActiveTime activeHours now = false ∨ ys.length < 60
  · have hout : isActiveTime activeHours now = false ∨ (xs ++ ys).length < 60 := by rwa [hguard]
    unfold generate
    rw [if_pos hout, if_pos hout']
    exact .none
  have hout : ¬ (isActiveTime activeHours now = false ∨ (xs ++ ys).length < 60) := by rwa [hguard]
  have hlen : 60 ≤ ys.length := not_lt.mp (not_or.mp hout').2
  -- each average with its counterpart, then the last close and the volumes
  obtain ⟨a5, a20, a60, b5, b20, b60, ⟨ha5, ha20, ha60⟩, ⟨hb5, hb20, hb60⟩, ⟨hapos, hbpos, hd20⟩,
    hfast, hslow⟩ := hclear.averages hfront hlen
  have hone : 1 ≤ (closes ys).length := by
    rw [closes, List.length_map]
    omega
  obtain ⟨last, hlast⟩ := pyGet_neg_eq_ok one_pos hone
  have hlast' : pyGet (closes (xs ++ ys)) (-1) = .ok last := by
    rw [show closes (xs ++ ys) = closes xs ++ closes ys from List.map_append]
    exact (pyGet_neg_append one_pos hone).trans hlast
  have hvolslen : 20 ≤ (volumes ys).length := by
    rw [volumes, List.length_map]
    omega
  obtain ⟨thin, hthin, hthin'⟩ := thinVolume_append (volumes xs) hvolslen
  rw [← show volumes (xs ++ ys) = volumes xs ++ volumes ys from List.map_append] at hthin
  have hfar : 1 / 100 < |last - a20| / a20 ↔ 1 / 100 < |last - b20| / b20 :=
    far_iff_of_drift hapos hbpos hd20 (hclear.pullback a20 last ha20 hlast')
  rw [generate_eq hout ha5 ha20 ha60 hlast' hthin hapos.ne',
    generate_eq hout' hb5 hb20 hb60 hlast hthin' hbpos.ne']
  apply sameSignal_ite
  rw [hfast, hslow, hfar]

end EmaPullbackStrategy

/-! ## Live and backtest -/

/-- **What live and backtest see.** The four strategies that look back a few candles find the same on
the whole history and on its last 240 candles. The EMA pullback finds the same where the history is
not longer, or is clear; and where both find a signal, its side and price are the same.
Source: `app/loops/loop_b_runtime.py` `LoopBRunner._sync_and_scan`, `app/main.py`
`_start_manual_backtest`. Kind: P -/
theorem live_sees_backtest (timeframe : Timeframe) (k : ℚ) (ticker : String) (now : Time)
    (candles : List Candle) :
    (∀ generate ∈ [GapMomentumStrategy.generate timeframe,
        VolatilityBreakoutStrategy.generate timeframe k, VolumeSurgeStrategy.generate timeframe,
        SupportResistanceStrategy.generate timeframe],
      SameSignal (generate ticker candles now) (generate ticker (lastCandles candles) now)) ∧
    (candles.length ≤ 240 → EmaPullbackStrategy.generate timeframe ticker candles now =
      EmaPullbackStrategy.generate timeframe ticker (lastCandles candles) now) ∧
    (∀ lo hi, EmaPullbackStrategy.Clear candles lo hi →
      SameSignal (EmaPullbackStrategy.generate timeframe ticker candles now)
        (EmaPullbackStrategy.generate timeframe ticker (lastCandles candles) now)) ∧
    ∀ s s', EmaPullbackStrategy.generate timeframe ticker candles now = .ok (some s) →
      EmaPullbackStrategy.generate timeframe ticker (lastCandles candles) now = .ok (some s') →
      s.side = s'.side ∧ s.price = s'.price := by
  have hshort : candles.length ≤ 240 → lastCandles candles = candles := by
    intro h
    rw [lastCandles, Nat.sub_eq_zero_of_le h, List.drop_zero]
  refine ⟨?_, fun h => by rw [hshort h], ?_, ?_⟩
  all_goals
    obtain ⟨front, hsplit, hfront⟩ := exists_front candles
    generalize lastCandles candles = window at hsplit hfront
    subst hsplit
  · have hlong : front = [] ∨ 21 ≤ window.length :=
      hfront.imp_right fun h => le_trans (by decide) h.ge
    intro generate hgenerate
    simp only [List.mem_cons, List.not_mem_nil, or_false] at hgenerate
    rcases hgenerate with rfl | rfl | rfl | rfl
    · exact GapMomentumStrategy.generate_append hlong
    · exact VolatilityBreakoutStrategy.generate_append hlong
    · exact VolumeSurgeStrategy.generate_append hlong
    · exact SupportResistanceStrategy.generate_append hlong
  · intro lo hi hclear
    exact EmaPullbackStrategy.generate_of_clear hfront hclear
  · intro s s' h h'
    exact EmaPullbackStrategy.generate_append h h'

/-- Bars that open and close at the given prices. Source: none: infrastructure. Kind: D -/
def barsAt (closes : List ℚ) : List Candle :=
  closes.zipIdx.map fun (close, i) => ⟨close, close, close, close, i, 100⟩

/-- A price that rises by one in every bar. Source: none: infrastructure. Kind: D -/
def risingBars : List Candle := barsAt ((List.range 300).map fun i => 1000 + (i : ℚ))

theorem EmaPullbackStrategy.clear_risingBars : Clear risingBars 1000 1299 where
  pos := by decide
  within := by decide +kernel
  fast := by
    intro a5 a20 h5 h20
    have hfast : ∀ x ∈ (ema (closes risingBars) 5).toOption,
        ∀ y ∈ (ema (closes risingBars) 20).toOption,
        drift 5 (1299 - 1000) + drift 20 (1299 - 1000) < |x - y| := by decide +kernel
    exact hfast a5 (by rw [h5]; rfl) a20 (by rw [h20]; rfl)
  slow := by
    intro a20 a60 h20 h60
    have hslow : ∀ x ∈ (ema (closes risingBars) 20).toOption,
        ∀ y ∈ (ema (closes risingBars) 60).toOption,
        drift 20 (1299 - 1000) + drift 60 (1299 - 1000) < |x - y| := by decide +kernel
    exact hslow a20 (by rw [h20]; rfl) a60 (by rw [h60]; rfl)
  pullback := by
    intro a20 last h20 hlast
    have hpullback : ∀ x ∈ (ema (closes risingBars) 20).toOption,
        ∀ y ∈ (pyGet (closes risingBars) (-1)).toOption,
        101 / 100 * drift 20 (1299 - 1000) < |(|y - x| - x / 100)| := by decide +kernel
    exact hpullback a20 (by rw [h20]; rfl) last (by rw [hlast]; rfl)

/-- The window of a clear history of 300 bars shows the same signal. Source: none: infrastructure.
Kind: P -/
theorem live_sees_backtest_rising :
    SameSignal (EmaPullbackStrategy.generate .m15 "005930" risingBars 36000)
      (EmaPullbackStrategy.generate .m15 "005930" (lastCandles risingBars) 36000) :=
  (live_sees_backtest .m15 (1 / 2) "005930" 36000 risingBars).2.2.1 1000 1299
    EmaPullbackStrategy.clear_risingBars

/-- A price that rises from 10 to 1100 in the first 120 of 300 bars, and then rests at 1000.
Source: none: infrastructure. Kind: D -/
def restingBars : List Candle :=
  barsAt (List.replicate 60 10 ++ List.replicate 60 1100 ++ List.replicate 177 1000 ++
    List.replicate 3 1001)

/-- **Live and backtest can differ**: on the whole history the EMA pullback buys, on its last 240
candles it does not, because the slow average no longer knows the low prices.
Source: `app/strategies/impl/ema_pullback.py` `EmaPullbackStrategy.generate`. Kind: P -/
theorem live_sees_backtest_not :
    ¬ ∀ generate ∈ StrategyRegistry.registered, ∀ ticker now candles,
      SameSignal (generate ticker candles now) (generate ticker (lastCandles candles) now) := by
  intro h
  have hsame := h (EmaPullbackStrategy.generate .m15) (List.mem_cons_of_mem _ List.mem_cons_self)
    "005930" 36000 restingBars
  have hwhole : EmaPullbackStrategy.generate .m15 "005930" restingBars 36000 =
      .ok (some (lastSignal "2" "buy" "005930" .m15 restingBars 36000 1001)) :=
    eq_ok_of_toOption (by decide +kernel)
  have hlast : EmaPullbackStrategy.generate .m15 "005930" (lastCandles restingBars) 36000 =
      .ok none :=
    eq_ok_of_toOption (by decide +kernel)
  rw [hwhole, hlast] at hsame
  exact not_sameSignal hsame

end HaruTrade
