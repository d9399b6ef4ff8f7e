import Mathlib.Algebra.BigOperators.Group.List.Basic
import Mathlib.Algebra.GroupWithZero.Nat

/-!
# Steps that stay with their key

A loop goes through a list of items with different keys, and every step changes only what is seen
under its own key, and looks at nothing else. Nothing here names a particular program.

* `Keyed` — such steps; `look s k` is what is seen under a key.
* `Keyed.look_foldl` — **after the loop every key shows what its own step alone makes of it.**
* `Keyed.answers_eq` — what the steps answer on the way is what they would answer alone.
-/

namespace HaruTrade

variable {σ ι κ α β : Type} {look : σ → κ → α} {step : σ → ι → σ} {answer : σ → ι → β} {key : ι → κ}
  {is : List ι}

/-- A step changes what is seen under its key only, and makes it from that.
Source: none: infrastructure. Kind: D -/
structure Keyed (look : σ → κ → α) (step : σ → ι → σ) (key : ι → κ) : Prop where
  away : ∀ s i k, k ≠ key i → look (step s i) k = look s k
  here : ∀ s t i, look s (key i) = look t (key i) → look (step s i) (key i) = look (step t i) (key i)

/-- The answers of the steps of a loop. Source: none: infrastructure. Kind: D -/
def answers (step : σ → ι → σ) (answer : σ → ι → β) (s : σ) : List ι → List β
  | [] => []
  | i :: is => answer s i :: answers step answer (step s i) is

theorem Keyed.look_foldl_of_notMem (h : Keyed look step key) {k : κ} (hk : k ∉ is.map key) (s : σ) :
    look (is.foldl step s) k = look s k := by
  induction is generalizing s with
  | nil => rfl
  | cons i is ih =>
      rw [List.map_cons, List.mem_cons, not_or] at hk
      rw [List.foldl_cons, ih hk.2, h.away s i k hk.1]

/-- **After the loop** every key shows what its own step alone makes of it.
Source: none: infrastructure. Kind: P -/
theorem Keyed.look_foldl (h : Keyed look step key) (hkeys : (is.map key).Nodup) {i : ι} (hi : i ∈ is)
    (s : σ) : look (is.foldl step s) (key i) = look (step s i) (key i) := by
  induction is generalizing s with
  | nil => exact absurd hi List.not_mem_nil
  | cons j is ih =>
      rw [List.map_cons, List.nodup_cons] at hkeys
      rw [List.foldl_cons]
      rcases List.mem_cons.mp hi with rfl | hi
      · exact h.look_foldl_of_notMem hkeys.1 _
      · have hne : key i ≠ key j := fun heq => hkeys.1 (heq ▸ List.mem_map_of_mem hi)
        rw [ih hkeys.2 hi]
        exact h.here _ _ i (h.away s j (key i) hne)

/-- **The answers** of the loop are those that the steps would give alone.
Source: none: infrastructure. Kind: P -/
theorem Keyed.answers_eq (h : Keyed look step key) (hkeys : (is.map key).Nodup)
    (hanswer : ∀ s t i, look s (key i) = look t (key i) → answer s i = answer t i) (s : σ) :
    answers step answer s is = is.map (answer s) := by
  induction is generalizing s with
  | nil => rfl
  | cons j is ih =>
      rw [List.map_cons, List.nodup_cons] at hkeys
      rw [answers, List.map_cons, ih hkeys.2]
      refine congrArg _ (List.map_congr_left fun i hi => ?_)
      have hne : key i ≠ key j := fun heq => hkeys.1 (heq ▸ List.mem_map_of_mem hi)
      exact hanswer _ _ i (h.away s j (key i) hne)

/-- A measure that every step raises by what its answer says is raised by their sum.
Source: none: infrastructure. Kind: L -/
theorem measure_foldl (measure : σ → ℕ) (gain : β → ℕ)
    (hstep : ∀ s i, measure (step s i) = measure s + gain (answer s i)) (s : σ) :
    measure (is.foldl step s) = measure s + ((answers step answer s is).map gain).sum := by
  induction is generalizing s with
  | nil => rfl
  | cons i is ih =>
      rw [List.foldl_cons, ih, hstep, answers, List.map_cons, List.sum_cons, Nat.add_assoc]

end HaruTrade
