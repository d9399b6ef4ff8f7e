import HaruTrade.Core.Config
import HaruTrade.Data.Machine

/-!
# The bounds of the settings

`ConfigManager.set` refuses a number below the minimum or above the maximum of its key. Python's
comparisons with NaN are false, so NaN passes both.

* `boundedBy?` — the rule whose bounds a key has: its own, or that of the parameter it overrides.
* `Bounded` — every stored text of such a key reads as a number within the bounds.
* `within_of_checkBounds` — **what the check lets through** is within the bounds, or NaN.
* `resolveTrailAtrMult` — what the position loop makes of the settings of its trailing stop.
* `sound_iff` — the texts stay within their bounds, along a whole run, exactly when no call gives a
  float setting a text that reads as NaN.
* `rational_of_within` — a trail multiplier within its bounds is a number between 0.5 and 5.
-/

namespace HaruTrade

namespace ConfigManager

/-! ## Bounded keys -/

/-- How the text of a key with bounds is read, and the rule that has the bounds.
Source: `app/core/config.py` `ConfigManager.set`. Kind: D -/
def boundedBy? (key : String) : Option (Bool × Rule) :=
  match overridden? key with
  | some param => (rule? param).map fun rule => (false, rule)
  | none =>
    (rule? key).bind fun rule =>
      if rule.minValue.isSome ∨ rule.maxValue.isSome then some (rule.asInt, rule) else none

/-- The number is within the bounds that exist. Source: `app/core/config.py` `Rule`. Kind: D -/
def Within (rule : Rule) (n : PyNum) : Prop :=
  (∀ b ∈ rule.minValue, PyNum.le (.of b.value) n = true) ∧
    ∀ b ∈ rule.maxValue, n.le (.of b.value) = true

instance {rule : Rule} {n : PyNum} : Decidable (Within rule n) :=
  inferInstanceAs (Decidable (_ ∧ _))

/-- The text reads as a number within the bounds. Source: `app/core/config.py` `ConfigManager.set`.
Kind: D -/
def InBounds (asInt : Bool) (rule : Rule) (value : String) : Prop :=
  ∃ n, number asInt value = .ok n ∧ Within rule n

/-- Every text of a key with bounds is within them. Source: `app/core/config.py`
`ConfigManager.set`. Kind: D -/
def Bounded (m : ConfigManager) : Prop :=
  ∀ key value asInt rule, m.value? key = some value → boundedBy? key = some (asInt, rule) →
    InBounds asInt rule value

/-- The key has bounds and takes a float, and `float(value)` is NaN. Source: none: infrastructure.
Kind: D -/
def ReadsNan (key value : String) : Prop :=
  (∃ rule, boundedBy? key = some (false, rule)) ∧ PyNum.ofFloatText value = .ok .nan

variable {key value : String} {allowReadOnly asInt : Bool} {rule : Rule} {n : PyNum}
  {m : ConfigManager}

/-! ## What the check lets through -/

/-- **What the check lets through** is within the bounds, unless it is NaN.
Source: `app/core/config.py` `ConfigManager.set`. Kind: L -/
theorem within_of_checkBounds (h : checkBounds key rule n = .ok ()) (hn : n ≠ .nan) :
    Within rule n := by
  unfold checkBounds at h
  split at h
  · exact absurd h (by simp)
  · next hmin =>
    split at h
    · exact absurd h (by simp)
    · next hmax =>
      refine ⟨?_, ?_⟩
      · intro b hb
        rw [Option.mem_def.mp hb, Option.any_some, Bool.not_eq_true] at hmin
        exact PyNum.le_of_lt_eq_false (by simp) hn hmin
      · intro b hb
        rw [Option.mem_def.mp hb, Option.any_some, Bool.not_eq_true] at hmax
        exact PyNum.le_of_lt_eq_false hn (by simp) hmax

/-- NaN passes every bound. Source: `app/core/config.py` `ConfigManager.set`. Kind: L -/
theorem checkBounds_nan : checkBounds key rule .nan = .ok () := by
  unfold checkBounds
  have hlt : ∀ q : ℚ, PyNum.lt (.of q) .nan = false := fun q => rfl
  have hmin : (rule.minValue.any fun b => PyNum.nan.lt (.of b.value)) = false := by
    rcases rule.minValue with _ | b
    · rfl
    · rfl
  have hmax : (rule.maxValue.any fun b => PyNum.lt (.of b.value) .nan) = false := by
    rcases rule.maxValue with _ | b
    · rfl
    · exact hlt b.value
  rw [hmin, hmax]
  rfl

theorem ne_nan_of_number_true (h : number true value = .ok n) : n ≠ .nan := by
  unfold number at h
  rw [if_pos rfl] at h
  split at h
  · rw [← Except.ok.inj h]
    simp
  · exact absurd h (by simp)

theorem number_false_eq_nan : number false value = .ok .nan ↔ PyNum.ofFloatText value = .ok .nan := by
  unfold number
  rw [if_neg (by simp)]
  split
  · next n h =>
    rw [h, Except.ok.injEq, Except.ok.injEq]
  · next e h =>
    rw [h]
    simp

/-- A call that returns has read a number and compared it with the bounds of the key.
Source: `app/core/config.py` `ConfigManager.set`. Kind: L -/
theorem number_of_check (h : check key value allowReadOnly = .ok ())
    (hb : boundedBy? key = some (asInt, rule)) :
    ∃ n, number asInt value = .ok n ∧ checkBounds key rule n = .ok () := by
  unfold check at h
  obtain ⟨_, -, h⟩ := ok_of_bind h
  obtain ⟨_, hrule, h⟩ := ok_of_bind h
  obtain ⟨_, -, hover⟩ := ok_of_bind h
  unfold boundedBy? at hb
  split at hb
  · next param hparam =>
    obtain ⟨rule', hbase, heq⟩ := Option.map_eq_some_iff.mp hb
    obtain ⟨rfl, rfl⟩ := Prod.mk.inj heq
    simp only [checkOverride, hparam, hbase, Option.elim_some] at hover
    obtain ⟨base, hok, hover⟩ := ok_of_bind hover
    obtain ⟨n, hn, hbounds⟩ := ok_of_bind hover
    rw [← Except.ok.inj hok] at hbounds
    exact ⟨n, hn, hbounds⟩
  · obtain ⟨rule', hkey, heq⟩ := Option.bind_eq_some_iff.mp hb
    split at heq
    · next hsome =>
      obtain ⟨rfl, rfl⟩ := Prod.mk.inj (Option.some.inj heq)
      rw [hkey, Option.elim_some] at hrule
      unfold checkRule at hrule
      obtain ⟨_, -, hrule⟩ := ok_of_bind hrule
      obtain ⟨_, hrange, -⟩ := ok_of_bind hrule
      unfold checkRange at hrange
      rw [if_pos hsome] at hrange
      exact ok_of_bind hrange
    · exact absurd heq (by simp)

/-- **A text that is stored** is within the bounds of its key when it does not read as NaN.
Source: `app/core/config.py` `ConfigManager.set`. Kind: L -/
theorem inBounds_of_check (h : check key value allowReadOnly = .ok ())
    (hb : boundedBy? key = some (asInt, rule)) (hnan : ¬ ReadsNan key value) :
    InBounds asInt rule value := by
  obtain ⟨n, hn, hbounds⟩ := number_of_check h hb
  refine ⟨n, hn, within_of_checkBounds hbounds ?_⟩
  cases asInt with
  | true => exact ne_nan_of_number_true hn
  | false =>
    rintro rfl
    exact hnan ⟨⟨rule, hb⟩, number_false_eq_nan.mp hn⟩

/-! ## Settings that Loop A reads -/

/-- `float(self.config.get(key))`. Source: `app/loops/loop_a_runtime.py`
`LoopARunner._resolve_trail_atr_mult`. Kind: D -/
def readFloat (m : ConfigManager) (key : String) : Except ConfigError PyNum :=
  m.get key >>= number false

/-- The setting that overrides the trail multiplier for a strategy.
Source: `app/loops/loop_a_runtime.py` `LoopARunner._resolve_trail_atr_mult`. Kind: D -/
def trailKey (strategyId : String) : String := "strategy." ++ strategyId ++ ".trail_atr_mult"

/-- The multiplier of the trailing stop: the constructor's without a manager, else the override when
it is there and reads as a float, else the common setting. Source: `app/loops/loop_a_runtime.py`
`LoopARunner._resolve_trail_atr_mult`. Kind: D -/
def resolveTrailAtrMult (config : Option ConfigManager) (defaultTrailAtrMult : PyNum)
    (strategyId : String) : Except ConfigError PyNum :=
  match config with
  | none => .ok defaultTrailAtrMult
  | some m =>
    match m.readFloat (trailKey strategyId) with
    | .ok n => .ok n
    | .error _ => m.readFloat "trail_atr_mult"

/-- The rule of the common setting. Source: `app/core/config.py` `ConfigManager.__init__`. Kind: D -/
def trailRule : Rule := between ⟨1 / 2, "0.5"⟩ ⟨5, "5.0"⟩

/-- The multiplier is within the bounds of `trail_atr_mult`: the override when one is set, and the
common value otherwise. Source: `app/loops/loop_a_runtime.py` `LoopARunner._resolve_trail_atr_mult`.
Kind: D -/
def TrailResolves (m : ConfigManager) (defaultTrailAtrMult : PyNum) (strategyId : String) : Prop :=
  ∃ n, resolveTrailAtrMult (some m) defaultTrailAtrMult strategyId = .ok n ∧ Within trailRule n ∧
    ∃ text, (m.value? (trailKey strategyId)).or (m.value? "trail_atr_mult") = some text ∧
      PyNum.ofFloatText text = .ok n

/-- Every stored key is known, and the common setting is there. Source: `app/core/config.py`
`ConfigManager.set`. Kind: D -/
structure Known (m : ConfigManager) : Prop where
  known : ∀ key value, m.value? key = some value → checkKnown key = .ok ()
  common : ∃ value, m.value? "trail_atr_mult" = some value

theorem rule?_eq_none_of_strategy (h : PyText.startsWith "strategy." key = true) :
    rule? key = none := by
  have hrules : ∀ r ∈ rules, PyText.startsWith "strategy." r.1 = false := by decide +kernel
  unfold rule?
  rw [List.lookup_eq_none_iff]
  intro r hr
  rw [bne_iff_ne]
  rintro rfl
  rw [hrules r hr] at h
  exact absurd h (by simp)

theorem startsWith_trailKey (strategyId : String) :
    PyText.startsWith "strategy." (trailKey strategyId) = true := by
  unfold PyText.startsWith trailKey
  rw [String.toList_append, String.toList_append, List.append_assoc, List.isPrefixOf_iff_prefix]
  exact List.prefix_append _ _

theorem overridden?_trailKey {strategyId param : String}
    (h : overridden? (trailKey strategyId) = some param) : param = "trail_atr_mult" := by
  have hsplit : PyText.split '.' (trailKey strategyId) =
      PyText.split '.' ("strategy." ++ strategyId) ++ ["trail_atr_mult"] := by
    have hdot : ".trail_atr_mult" = String.ofList ('.' :: "trail_atr_mult".toList) := by decide
    have hlast : PyText.split '.' "trail_atr_mult" = ["trail_atr_mult"] :=
      PyText.split_eq_singleton (by decide)
    rw [trailKey, hdot, PyText.split_append_cons, hlast]
  unfold overridden? at h
  rw [if_pos (startsWith_trailKey strategyId)] at h
  split at h
  · next first second third hparts =>
    split at h
    · rw [hsplit] at hparts
      have hlast := congrArg List.getLast? hparts
      rw [List.getLast?_concat] at hlast
      rw [← Option.some.inj h]
      exact (Option.some.inj hlast).symm
    · exact absurd h (by simp)
  · exact absurd h (by simp)

/-- **An override of the trail multiplier** that is stored has the bounds of the multiplier.
Source: `app/core/config.py` `ConfigManager.set`. Kind: L -/
theorem boundedBy?_trailKey {strategyId : String} (h : checkKnown (trailKey strategyId) = .ok ()) :
    boundedBy? (trailKey strategyId) = some (false, trailRule) := by
  have hrule := rule?_eq_none_of_strategy (startsWith_trailKey strategyId)
  unfold checkKnown at h
  split at h
  · exact absurd h (by simp)
  · next hknown =>
    have hover : isStrategyOverrideKey (trailKey strategyId) = true := by
      by_contra hno
      exact hknown ⟨by rw [hrule]; rfl, hno⟩
    obtain ⟨param, hparam⟩ := Option.isSome_iff_exists.mp hover
    unfold boundedBy?
    rw [hparam, overridden?_trailKey hparam]
    rfl

theorem known_of_check (h : check key value allowReadOnly = .ok ()) : checkKnown key = .ok () := by
  unfold check at h
  obtain ⟨_, hknown, -⟩ := ok_of_bind h
  exact hknown

theorem readFloat_eq_ok {text : String} (h : m.value? key = some text)
    (hn : number false text = .ok n) : m.readFloat key = .ok n := by
  unfold readFloat get
  rw [h]
  exact hn

theorem readFloat_eq_error (h : m.value? key = none) :
    ∃ e, m.readFloat key = .error e := by
  unfold readFloat get
  rw [h]
  exact ⟨_, rfl⟩

theorem ofFloatText_of_number (h : number false value = .ok n) : PyNum.ofFloatText value = .ok n := by
  unfold number at h
  rw [if_neg (by simp)] at h
  split at h
  · next n' hn => rw [hn, Except.ok.inj h]
  · exact absurd h (by simp)

/-- **The trail multiplier** of a manager whose texts are within their bounds.
Source: `app/loops/loop_a_runtime.py` `LoopARunner._resolve_trail_atr_mult`. Kind: L -/
theorem trailResolves (hbounded : Bounded m) (hknown : Known m) (dflt : PyNum)
    (strategyId : String) : TrailResolves m dflt strategyId := by
  unfold TrailResolves
  simp only [resolveTrailAtrMult]
  rcases hover : m.value? (trailKey strategyId) with _ | text
  · obtain ⟨text, htext⟩ := hknown.common
    obtain ⟨n, hn, hwithin⟩ := hbounded _ _ false trailRule htext (by decide +kernel)
    obtain ⟨e, he⟩ := readFloat_eq_error hover
    rw [he, htext]
    exact ⟨n, readFloat_eq_ok htext hn, hwithin, text, rfl, ofFloatText_of_number hn⟩
  · obtain ⟨n, hn, hwithin⟩ := hbounded _ _ false trailRule hover
      (boundedBy?_trailKey (hknown.known _ _ hover))
    rw [readFloat_eq_ok hover hn]
    exact ⟨n, rfl, hwithin, text, rfl, ofFloatText_of_number hn⟩

/-! ## NaN -/

theorem mem_rules (h : rule? key = some rule) : (key, rule) ∈ rules := by
  obtain ⟨front, back, hrules, -⟩ := List.lookup_eq_some_iff.mp h
  rw [hrules]
  simp

/-- What the rules with bounds have in common. Source: `app/core/config.py`
`ConfigManager.__init__`. Kind: L -/
theorem rules_with_bounds : ∀ r ∈ rules, r.2.minValue.isSome ∨ r.2.maxValue.isSome →
    r.2.minValue.isSome = true ∧ r.2.readOnly = false ∧ r.2.allowedValues = none ∧
      r.1 ≠ "margin_close_time" ∧ r.1 ≠ "margin_close_priority" := by
  decide +kernel

theorem not_within_nan (h : rule.minValue.isSome = true) : ¬ Within rule .nan := by
  intro hwithin
  obtain ⟨b, hb⟩ := Option.isSome_iff_exists.mp h
  have hle := hwithin.1 b hb
  exact absurd hle (by simp [PyNum.le])

theorem checkFormat_of_strategy (h : PyText.startsWith "strategy." key = true) :
    checkFormat key value = .ok () := by
  have hnames : ∀ name ∈ ["margin_close_time", "margin_close_priority"],
      PyText.startsWith "strategy." name = false := by decide +kernel
  have hfalse : ∀ name ∈ ["margin_close_time", "margin_close_priority"], key ≠ name := by
    intro name hname heq
    rw [heq, hnames name hname] at h
    exact absurd h (by simp)
  unfold checkFormat
  rw [if_neg (hfalse _ (by simp)), if_neg (hfalse _ (by simp))]

theorem startsWith_of_overridden? {param : String} (h : overridden? key = some param) :
    PyText.startsWith "strategy." key = true := by
  unfold overridden? at h
  split at h
  · assumption
  · exact absurd h (by simp)

/-- **NaN is accepted** for every key with bounds that takes a float.
Source: `app/core/config.py` `ConfigManager.set`. Kind: L -/
theorem check_of_readsNan (h : ReadsNan key value) : check key value allowReadOnly = .ok () := by
  obtain ⟨⟨rule, hb⟩, hnan⟩ := h
  have hnumber : number false value = .ok .nan := number_false_eq_nan.mpr hnan
  unfold boundedBy? at hb
  unfold check checkKnown isStrategyOverrideKey checkOverride
  rcases hover : overridden? key with _ | param
  · rw [hover] at hb
    obtain ⟨rule', hkey, heq⟩ := Option.bind_eq_some_iff.mp hb
    split at heq
    · next hsome =>
      obtain ⟨hint, rfl⟩ := Prod.mk.inj (Option.some.inj heq)
      obtain ⟨-, hwritable, hallowed, htime, hpriority⟩ :=
        rules_with_bounds (key, rule') (mem_rules hkey) hsome
      have hrule : checkRule key value allowReadOnly rule' = .ok () := by
        unfold checkRule checkWritable checkRange checkAllowed
        rw [if_neg (by simp [show rule'.readOnly = false from hwritable]), if_pos hsome, hint,
          hnumber, show rule'.allowedValues = none from hallowed]
        show checkBounds key rule' .nan >>= _ = _
        rw [checkBounds_nan]
        rfl
      rw [hkey, Option.elim_some, hrule, checkFormat, if_neg htime, if_neg hpriority]
      rfl
    · exact absurd heq (by simp)
  · rw [hover] at hb
    obtain ⟨rule', hbase, -⟩ := Option.map_eq_some_iff.mp hb
    have hstrategy := startsWith_of_overridden? hover
    rw [rule?_eq_none_of_strategy hstrategy, checkFormat_of_strategy hstrategy]
    simp only [hbase, Option.elim_some, hnumber]
    show checkBounds key rule' .nan = _
    exact checkBounds_nan

/-- A text that reads as NaN is not within the bounds of its key.
Source: `app/core/config.py` `ConfigManager.set`. Kind: L -/
theorem not_bounded_of_readsNan (h : ReadsNan key value) (hvalue : m.value? key = some value) :
    ¬ Bounded m := by
  intro hbounded
  obtain ⟨⟨rule, hb⟩, hnan⟩ := h
  obtain ⟨n, hn, hwithin⟩ := hbounded key value false rule hvalue hb
  have hn' : n = .nan := Except.ok.inj (hn.symm.trans (number_false_eq_nan.mpr hnan))
  rw [hn'] at hwithin
  refine not_within_nan ?_ hwithin
  unfold boundedBy? at hb
  split at hb
  · next param hparam =>
    obtain ⟨rule', hbase, heq⟩ := Option.map_eq_some_iff.mp hb
    obtain ⟨-, rfl⟩ := Prod.mk.inj heq
    have hover : param ∈ strategyOverridableKeys := by
      unfold overridden? at hparam
      split at hparam
      · split at hparam
        · split at hparam
          · next hmem => rwa [← Option.some.inj hparam]
          · exact absurd hparam (by simp)
        · exact absurd hparam (by simp)
      · exact absurd hparam (by simp)
    have hbounds : ∀ p ∈ strategyOverridableKeys, ∀ r ∈ rule? p, r.minValue.isSome = true := by
      decide +kernel
    exact hbounds param hover rule' hbase
  · obtain ⟨rule', hkey, heq⟩ := Option.bind_eq_some_iff.mp hb
    split at heq
    · next hsome =>
      obtain ⟨-, rfl⟩ := Prod.mk.inj (Option.some.inj heq)
      exact (rules_with_bounds (key, rule') (mem_rules hkey) hsome).1
    · exact absurd heq (by simp)

/-! ## Runs -/

/-- A call of `ConfigManager.set`. Source: `app/core/config.py` `ConfigManager.set`. Kind: D -/
structure Call where
  key : String
  value : String
  allowReadOnly : Bool := false

/-- The manager. Source: `app/core/config.py` `ConfigManager.set`. Kind: D -/
def machine : Machine ConfigManager Call (Except ConfigError Unit) where
  step m call := m.set call.key call.value call.allowReadOnly

/-- The texts are within their bounds, a call that raises would change nothing, and the trail
multiplier of every strategy is within its bounds. Source: `app/core/config.py`
`ConfigManager.set`, `app/loops/loop_a_runtime.py` `LoopARunner._resolve_trail_atr_mult`. Kind: D -/
structure Sound (dflt : PyNum) (m : ConfigManager) : Prop where
  bounded : Bounded m
  raising : ∀ call e, (machine.step m call).2 = .error e → (machine.step m call).1 = m
  trail : ∀ strategyId, TrailResolves m dflt strategyId

theorem bounded_ofDefaults : Bounded ofDefaults := by
  have hdefaults : ∀ e ∈ defaults, ∀ b ∈ boundedBy? e.1,
      ((number b.1 e.2).toOption.any fun n => Within b.2 n) = true := by decide +kernel
  intro key value asInt rule hvalue hb
  obtain ⟨e, he, rfl⟩ := Option.map_eq_some_iff.mp hvalue
  obtain ⟨hmem, rfl⟩ := Table.get?_eq_some_iff.mp he
  have hany := hdefaults e hmem (asInt, rule) hb
  obtain ⟨n, hn, hwithin⟩ := (Option.any_eq_true _ _).mp hany
  exact ⟨n, eq_ok_of_toOption hn, of_decide_eq_true hwithin⟩

theorem known_ofDefaults : Known ofDefaults where
  known key value h := by
    have hdefaults : ∀ e ∈ defaults, (checkKnown e.1).toOption = some () := by decide +kernel
    obtain ⟨e, he, rfl⟩ := Option.map_eq_some_iff.mp h
    obtain ⟨hmem, rfl⟩ := Table.get?_eq_some_iff.mp he
    exact eq_ok_of_toOption (hdefaults e hmem)
  common := ⟨"1.5", by decide +kernel⟩

variable {call : Call}

variable (m call) in
/-- What one call does to the texts. Source: `app/core/config.py` `ConfigManager.set`. Kind: L -/
theorem step_cases :
    (∃ e, machine.step m call = (m, .error e)) ∨
      check call.key call.value call.allowReadOnly = .ok () ∧
        machine.step m call = (m.store call.key call.value, .ok ()) := by
  rcases hcheck : check call.key call.value call.allowReadOnly with e | u
  · exact .inl ⟨e, set_of_check_error hcheck⟩
  · exact .inr ⟨rfl, set_of_check hcheck⟩

theorem Bounded.step (hm : Bounded m) (hnan : ¬ ReadsNan call.key call.value) :
    Bounded (machine.step m call).1 := by
  rcases step_cases m call with ⟨e, hstep⟩ | ⟨hcheck, hstep⟩
  · rw [hstep]
    exact hm
  · rw [hstep]
    intro key value asInt rule hvalue hb
    rw [value?_store] at hvalue
    by_cases hkey : key = call.key
    · rw [if_pos hkey, Option.some.injEq] at hvalue
      rw [hkey] at hb
      rw [← hvalue]
      exact inBounds_of_check hcheck hb hnan
    · rw [if_neg hkey] at hvalue
      exact hm key value asInt rule hvalue hb

theorem Known.step (hm : Known m) : Known (machine.step m call).1 := by
  rcases step_cases m call with ⟨e, hstep⟩ | ⟨hcheck, hstep⟩
  · rw [hstep]
    exact hm
  · rw [hstep]
    refine ⟨?_, ?_⟩
    · intro key value hvalue
      rw [value?_store] at hvalue
      by_cases hkey : key = call.key
      · rw [hkey]
        exact known_of_check hcheck
      · rw [if_neg hkey] at hvalue
        exact hm.known key value hvalue
    · obtain ⟨text, htext⟩ := hm.common
      by_cases hkey : "trail_atr_mult" = call.key
      · exact ⟨call.value, by rw [value?_store, if_pos hkey]⟩
      · exact ⟨text, by rw [value?_store, if_neg hkey, htext]⟩

theorem known_after (calls : List Call) : Known (machine.after ofDefaults calls) :=
  Machine.invariant (I := fun _ m => Known m) (C := fun _ _ _ => True) known_ofDefaults
    (fun _ _ _ _ h => h.step) fun _ _ _ _ => trivial

/-- The run of `Bounded.step`. Source: `app/core/config.py` `ConfigManager.set`. Kind: L -/
theorem bounded_after {calls : List Call}
    (hcalls : ∀ call ∈ calls, ¬ ReadsNan call.key call.value) :
    Bounded (machine.after ofDefaults calls) := by
  refine Machine.invariant (I := fun _ m => Bounded m)
    (C := fun _ _ call => ¬ ReadsNan call.key call.value) bounded_ofDefaults ?_ ?_
  · intro log m call hnan hm
    exact hm.step hnan
  · rintro pre call post rfl
    exact hcalls call (by simp)

theorem sound_of_bounded (dflt : PyNum) (hbounded : Bounded m) (hknown : Known m) :
    Sound dflt m where
  bounded := hbounded
  raising _ _ he := set_fst_of_error he
  trail := trailResolves hbounded hknown dflt

/-- **The bounds along a run.** Every state that the calls reach keeps its texts within their bounds,
and with them the trail multiplier of every strategy, exactly when no call gives a setting with
float bounds a text that Python reads as NaN. Source: `app/core/config.py` `ConfigManager.set`,
`app/loops/loop_a_runtime.py` `LoopARunner._resolve_trail_atr_mult`. Kind: P -/
theorem sound_iff (dflt : PyNum) (calls : List Call) :
    (∀ front, front <+: calls → Sound dflt (machine.after ofDefaults front)) ↔
      ∀ call ∈ calls, ¬ ReadsNan call.key call.value := by
  constructor
  · intro hsound call hcall hnan
    obtain ⟨front, back, rfl⟩ := List.append_of_mem hcall
    have hnext := (hsound (front ++ [call]) ⟨back, by simp⟩).bounded
    rw [Machine.after_append] at hnext
    have hstored : machine.step (machine.after ofDefaults front) call =
        ((machine.after ofDefaults front).store call.key call.value, .ok ()) :=
      set_of_check (check_of_readsNan hnan)
    refine not_bounded_of_readsNan hnan ?_ hnext
    show (machine.step (machine.after ofDefaults front) call).1.value? call.key = _
    rw [hstored, value?_store, if_pos rfl]
  · intro hcalls front hfront
    have hbounded : Bounded (machine.after ofDefaults front) :=
      bounded_after fun call hcall => hcalls call (hfront.subset hcall)
    exact sound_of_bounded dflt hbounded (known_after front)

theorem rational_of_within (h : Within trailRule n) : ∃ q, n = .of q ∧ 1 / 2 ≤ q ∧ q ≤ 5 := by
  have hmin : PyNum.le (.of (1 / 2)) n = true := h.1 ⟨1 / 2, "0.5"⟩ rfl
  have hmax : n.le (.of 5) = true := h.2 ⟨5, "5.0"⟩ rfl
  match n with
  | .nan => exact absurd hmin (by simp [PyNum.le])
  | .inf true => exact absurd hmin (by simp [PyNum.le])
  | .inf false => exact absurd hmax (by simp [PyNum.le])
  | .of q => exact ⟨q, rfl, of_decide_eq_true hmin, of_decide_eq_true hmax⟩

/-- **A trailing stop at NaN.** The override is accepted, and the position loop gets NaN for its
multiplier. Source: `app/core/config.py` `ConfigManager.set`. Kind: C -/
theorem nan_accepted :
    let call : Call := { key := "strategy.1.trail_atr_mult", value := "nan" }
    let m := (machine.step ofDefaults call).1
    (machine.step ofDefaults call).2 = .ok () ∧
      resolveTrailAtrMult (some m) (.of 2) "1" = .ok .nan ∧ ¬ Within trailRule .nan ∧
      ¬ Sound (.of 2) m := by
  intro call m
  have hnan : ReadsNan call.key call.value :=
    ⟨⟨trailRule, by decide +kernel⟩, eq_ok_of_toOption (by decide +kernel)⟩
  refine ⟨eq_ok_of_toOption (by decide +kernel), eq_ok_of_toOption (by decide +kernel),
    not_within_nan rfl, ?_⟩
  intro h
  exact not_bounded_of_readsNan hnan (by decide +kernel) h.bounded

end ConfigManager

end HaruTrade
