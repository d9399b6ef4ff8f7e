import Mathlib.Data.List.Induction
import Mathlib.Order.Lattice

/-!
# Deterministic machines and the logs of their runs

A `Machine` answers every input and moves to a new state. A run of it is its `log`, the inputs with
their answers, and the state `after` it. Nothing here names a particular machine.

* `invariant` — what the first state satisfies and every step keeps holds after every run; a step
  may assume a side condition of the run.
* `log_eq_append` — a log that is cut in two is the logs of two runs.
* `Along` — a condition on the steps of a run, and `along_congr`, the rule that trades one for another
  under an invariant.
* `Since` — something happened in a log and nothing of a second kind after it.
* `countIn` — the events of a kind in a half-open time window, and `countIn_log_le`, the rule that
  bounds them over the runs of a machine.
-/

namespace HaruTrade

/-- A state with what every input does to it and what it answers.
Source: none: infrastructure. Kind: D -/
structure Machine (σ ι ο : Type) where
  step : σ → ι → σ × ο

namespace Machine

variable {σ ι ο : Type} (m : Machine σ ι ο)

/-- The state after the inputs. Source: none: infrastructure. Kind: D -/
def after (s : σ) : List ι → σ
  | [] => s
  | i :: is => after (m.step s i).1 is

/-- The inputs with their answers. Source: none: infrastructure. Kind: D -/
def log (s : σ) : List ι → List (ι × ο)
  | [] => []
  | i :: is => (i, (m.step s i).2) :: log (m.step s i).1 is

variable {m} {s : σ}

theorem after_append (is js : List ι) :
    m.after s (is ++ js) = m.after (m.after s is) js := by
  induction is generalizing s with
  | nil => rfl
  | cons i is ih => exact ih

theorem log_append (is js : List ι) :
    m.log s (is ++ js) = m.log s is ++ m.log (m.after s is) js := by
  induction is generalizing s with
  | nil => rfl
  | cons i is ih =>
      show (i, (m.step s i).2) :: m.log (m.step s i).1 (is ++ js) = _
      rw [ih]
      rfl

theorem map_fst_log (is : List ι) : (m.log s is).map Prod.fst = is := by
  induction is generalizing s with
  | nil => rfl
  | cons i is ih =>
      show i :: (m.log (m.step s i).1 is).map Prod.fst = _
      rw [ih]

/-- **A log that is cut in two** is the log of a run and of one that goes on where it ends.
Source: none: infrastructure. Kind: L -/
theorem log_eq_append {is : List ι} {pre post : List (ι × ο)} (h : m.log s is = pre ++ post) :
    ∃ js ks, is = js ++ ks ∧ pre = m.log s js ∧ post = m.log (m.after s js) ks := by
  have hcut : is = pre.map Prod.fst ++ post.map Prod.fst := by
    rw [← List.map_append, ← h, map_fst_log]
  refine ⟨pre.map Prod.fst, post.map Prod.fst, hcut, ?_⟩
  have hlen : pre.length = (m.log s (pre.map Prod.fst)).length := by
    have hfst := congrArg List.length (map_fst_log (m := m) (s := s) (pre.map Prod.fst))
    simp only [List.length_map] at hfst
    exact hfst.symm
  rw [hcut, log_append] at h
  obtain ⟨hpre, hpost⟩ := List.append_inj h.symm hlen
  exact ⟨hpre, hpost⟩

/-- An event of a log is a step from the state that the events before it lead to.
Source: none: infrastructure. Kind: L -/
theorem log_eq_append_cons {is : List ι} {pre post : List (ι × ο)} {i : ι} {o : ο}
    (h : m.log s is = pre ++ (i, o) :: post) :
    ∃ js ks, is = js ++ i :: ks ∧ pre = m.log s js ∧ o = (m.step (m.after s js) i).2 := by
  obtain ⟨js, ks, his, hpre, hpost⟩ := log_eq_append h
  cases ks with
  | nil =>
      rw [log] at hpost
      exact absurd hpost (by simp)
  | cons k ks =>
      rw [log, List.cons.injEq, Prod.mk.injEq] at hpost
      obtain ⟨⟨rfl, rfl⟩, -⟩ := hpost
      exact ⟨js, ks, his, hpre, rfl⟩

/-- **The invariant rule.** A relation between the log and the state that holds at the start, and
that every step keeps that meets the side condition, holds after every run all of whose steps meet
it. Source: none: infrastructure. Kind: P -/
theorem invariant {I : List (ι × ο) → σ → Prop} {C : List (ι × ο) → σ → ι → Prop} {is : List ι}
    (start : I [] s)
    (keep : ∀ l t i, C l t i → I l t → I (l ++ [(i, (m.step t i).2)]) (m.step t i).1)
    (side : ∀ pre i post, is = pre ++ i :: post → C (m.log s pre) (m.after s pre) i) :
    I (m.log s is) (m.after s is) := by
  induction is using List.reverseRecOn with
  | nil => exact start
  | append_singleton is i ih =>
      rw [log_append, after_append]
      refine keep _ _ i (side is i [] rfl) (ih ?_)
      intro pre j post h
      refine side pre j (post ++ [i]) ?_
      rw [h]
      simp

/-! ## Conditions on the steps of a run -/

section along

variable (m) in
/-- Every step of the run, from the state that it is taken in, meets the condition.
Source: none: infrastructure. Kind: D -/
def Along (C : σ → ι → Prop) (s : σ) : List ι → Prop
  | [] => True
  | i :: is => C s i ∧ Along C (m.step s i).1 is

variable {C P Q : σ → ι → Prop} {I : σ → Prop} {is : List ι}

/-- **The rule of conditions.** Two conditions that agree under an invariant are the same for every run
whose steps keep the invariant. Source: none: infrastructure. Kind: P -/
theorem along_congr (start : I s) (keep : ∀ t i, I t → C t i → I (m.step t i).1)
    (agree : ∀ t i, I t → C t i → (P t i ↔ Q t i)) (side : m.Along C s is) :
    m.Along P s is ↔ m.Along Q s is := by
  induction is generalizing s with
  | nil => exact Iff.rfl
  | cons i is ih =>
      obtain ⟨hnow, hlater⟩ := side
      show P s i ∧ _ ↔ Q s i ∧ _
      rw [agree s i start hnow, ih (keep s i start hnow) hlater]

end along

end Machine

/-! ## Events in a log -/

section since

variable {α : Type} {p q r : α → Prop} {l : List α} {a : α}

/-- An event with `p` is in the log, and none with `q` after it.
Source: none: infrastructure. Kind: D -/
def Since (p q : α → Prop) (l : List α) : Prop :=
  ∃ pre a post, l = pre ++ a :: post ∧ p a ∧ ∀ b ∈ post, ¬ q b

theorem Since.now (h : p a) : Since p q (l ++ [a]) :=
  ⟨l, a, [], rfl, h, by simp⟩

theorem Since.later (h : Since p q l) (ha : ¬ q a) : Since p q (l ++ [a]) := by
  obtain ⟨pre, b, post, rfl, hp, hq⟩ := h
  refine ⟨pre, b, post ++ [a], by simp, hp, ?_⟩
  intro c hc
  rcases List.mem_append.mp hc with hc | hc
  · exact hq c hc
  · rw [List.mem_singleton.mp hc]
    exact ha

theorem Since.imp (h : Since p q l) (hpr : ∀ b ∈ l, p b → r b) : Since r q l := by
  obtain ⟨pre, b, post, rfl, hp, hq⟩ := h
  exact ⟨pre, b, post, rfl, hpr b (by simp) hp, hq⟩

/-- What happened last happened after everything that would have ended it.
Source: none: infrastructure. Kind: L -/
theorem Since.exists_mem {pre mid : List α} (h : Since p q (pre ++ a :: mid)) (hq : q a)
    (hp : ¬ p a) : ∃ b ∈ mid, p b := by
  obtain ⟨front, b, back, heq, hb, hback⟩ := h
  rcases List.append_eq_append_iff.mp heq with ⟨gap, -, hgap⟩ | ⟨gap, -, hgap⟩
  · rcases List.cons_eq_append_iff.mp hgap with ⟨-, htail⟩ | ⟨gap', -, htail⟩
    · injection htail with hab
      exact absurd (hab ▸ hb) hp
    · exact ⟨b, by rw [htail]; simp, hb⟩
  · rcases List.cons_eq_append_iff.mp hgap with ⟨-, htail⟩ | ⟨gap', -, htail⟩
    · injection htail with hab
      exact absurd (hab ▸ hb) hp
    · exact absurd hq (hback a (by rw [htail]; simp))

end since

/-! ## Time windows -/

section windows

variable {τ α : Type} [LinearOrder τ] [Add τ] {a len t t' : τ} {time : α → τ} {p : α → Bool}
  {l : List α} {e : α}

/-- The time is in the half-open window of the given length that begins at `a`.
Source: none: infrastructure. Kind: D -/
def InWindow (a len t : τ) : Prop := a ≤ t ∧ t < a + len

instance : Decidable (InWindow a len t) := inferInstanceAs (Decidable (_ ∧ _))

/-- How many events of a kind a log has in a window. Source: none: infrastructure. Kind: D -/
def countIn (a len : τ) (time : α → τ) (p : α → Bool) (l : List α) : ℕ :=
  l.countP fun e => p e ∧ InWindow a len (time e)

@[simp] theorem countIn_nil : countIn a len time p [] = 0 := rfl

theorem countIn_append_counted (hp : p e = true) (hw : InWindow a len (time e)) :
    countIn a len time p (l ++ [e]) = countIn a len time p l + 1 := by
  simp [countIn, hp, hw]

theorem countIn_append_other (h : ¬ (p e = true ∧ InWindow a len (time e))) :
    countIn a len time p (l ++ [e]) = countIn a len time p l := by
  simp only [countIn, List.countP_append, List.countP_singleton]
  rw [if_neg (by simpa using h), Nat.add_zero]

/-- Events are counted only when there are some. Source: none: infrastructure. Kind: L -/
theorem exists_of_countIn_pos (h : 0 < countIn a len time p l) :
    ∃ e ∈ l, p e = true ∧ InWindow a len (time e) := by
  obtain ⟨e, he, hpe⟩ := List.countP_pos_iff.mp h
  exact ⟨e, he, by simpa using hpe⟩

theorem countIn_eq_zero_of_lt (h : ∀ e ∈ l, time e < a) : countIn a len time p l = 0 := by
  by_contra hne
  obtain ⟨e, he, -, hw, -⟩ := exists_of_countIn_pos (Nat.pos_of_ne_zero hne)
  exact absurd (h e he) (not_lt_of_ge hw)

end windows

namespace Machine

variable {σ ι ο τ : Type} [LinearOrder τ] [Add τ] {m : Machine σ ι ο} {s : σ} {time : ι → τ}
  {counted : ι × ο → Bool} {a len : τ} {bound : ℕ}

/-- **The window rule.** To bound how many events of a kind a run has in a window, give an
invariant `J` that implies the bound, that the first such event in the window establishes and that
every further step in the window keeps. Before the window nothing is counted, and after it nothing
more. Source: none: infrastructure. Kind: P -/
theorem countIn_log_le {J : List (ι × ο) → σ → Prop} {C : List (ι × ο) → σ → ι → Prop}
    {is : List ι} (clock : is.Pairwise fun i j => time i ≤ time j)
    (side : ∀ pre i post, is = pre ++ i :: post → C (m.log s pre) (m.after s pre) i)
    (le : ∀ l t, J l t → countIn a len (time ∘ Prod.fst) counted l ≤ bound)
    (first : ∀ l t i, C l t i → InWindow a len (time i) →
      countIn a len (time ∘ Prod.fst) counted l = 0 → counted (i, (m.step t i).2) = true →
      J (l ++ [(i, (m.step t i).2)]) (m.step t i).1)
    (next : ∀ l t i, C l t i → InWindow a len (time i) → J l t →
      J (l ++ [(i, (m.step t i).2)]) (m.step t i).1) :
    countIn a len (time ∘ Prod.fst) counted (m.log s is) ≤ bound := by
  -- nothing counted yet, inside the window with `J`, or past the window
  let I : List (ι × ο) → σ → Prop := fun l t =>
    countIn a len (time ∘ Prod.fst) counted l = 0 ∨ J l t ∨
      (countIn a len (time ∘ Prod.fst) counted l ≤ bound ∧ ∃ e ∈ l, a + len ≤ time e.1)
  have run : I (m.log s is) (m.after s is) := by
    refine invariant (C := fun l t i => C l t i ∧ ∀ e ∈ l, time e.1 ≤ time i) (Or.inl rfl) ?_ ?_
    · rintro l t i ⟨hC, hclock⟩ hI
      by_cases hw : InWindow a len (time i)
      · rcases hI with h0 | hJ | ⟨-, e, he, hpast⟩
        · by_cases hc : counted (i, (m.step t i).2) = true
          · exact Or.inr (Or.inl (first l t i hC hw h0 hc))
          · left
            rw [countIn_append_other fun h => hc h.1, h0]
        · exact Or.inr (Or.inl (next l t i hC hw hJ))
        · exact absurd hw.2 (not_lt_of_ge (hpast.trans (hclock e he)))
      · have hsame : countIn a len (time ∘ Prod.fst) counted (l ++ [(i, (m.step t i).2)]) =
            countIn a len (time ∘ Prod.fst) counted l := countIn_append_other fun h => hw h.2
        by_cases hbefore : time i < a
        · left
          rw [hsame]
          exact countIn_eq_zero_of_lt fun e he => lt_of_le_of_lt (hclock e he) hbefore
        · have hafter : a + len ≤ time i := by
            by_contra hlt
            exact hw ⟨le_of_not_gt hbefore, lt_of_not_ge hlt⟩
          have hmem : ∃ e ∈ l ++ [(i, (m.step t i).2)], a + len ≤ time e.1 :=
            ⟨(i, (m.step t i).2), by simp, hafter⟩
          rcases hI with h0 | hJ | ⟨hle, -⟩
          · exact Or.inl (hsame.trans h0)
          · exact Or.inr (Or.inr ⟨hsame.trans_le (le l t hJ), hmem⟩)
          · exact Or.inr (Or.inr ⟨hsame.trans_le hle, hmem⟩)
    · intro pre i post his
      refine ⟨side pre i post his, ?_⟩
      intro e he
      have hmem : e.1 ∈ pre := by
        rw [← map_fst_log (m := m) (s := s) pre]
        exact List.mem_map_of_mem he
      rw [his, List.pairwise_append] at clock
      exact clock.2.2 e.1 hmem i List.mem_cons_self
  rcases run with h0 | hJ | ⟨hle, -⟩
  · exact h0.trans_le (Nat.zero_le bound)
  · exact le _ _ hJ
  · exact hle

end Machine

end HaruTrade
