import Mathlib.Data.List.Perm.Basic
import Mathlib.Order.Lattice

/-!
# Taking the least element of a queue

`popLeast key` is what a priority queue answers: an element of least key, and the others. Nothing
here names a particular queue.
-/

namespace HaruTrade

variable {α κ : Type} [LinearOrder κ]

/-- An element of least key, and the others; none when the queue is empty.
Source: none: infrastructure. Kind: D -/
def popLeast (key : α → κ) : List α → Option (α × List α)
  | [] => none
  | a :: l =>
    match popLeast key l with
    | none => some (a, [])
    | some (b, rest) => if key b < key a then some (b, a :: rest) else some (a, b :: rest)

variable {key : α → κ} {l rest : List α} {a : α}

theorem popLeast_eq_none_iff : popLeast key l = none ↔ l = [] := by
  cases l with
  | nil => exact ⟨fun _ => rfl, fun _ => rfl⟩
  | cons a l =>
      refine ⟨fun h => ?_, fun h => absurd h (List.cons_ne_nil a l)⟩
      unfold popLeast at h
      split at h
      · exact absurd h (by simp)
      · split_ifs at h

/-- **The element and the others are the queue**, and no key of it is less.
Source: none: infrastructure. Kind: L -/
theorem popLeast_eq_some (h : popLeast key l = some (a, rest)) :
    l.Perm (a :: rest) ∧ ∀ b ∈ l, key a ≤ key b := by
  induction l generalizing a rest with
  | nil => exact absurd h (by simp [popLeast])
  | cons c l ih =>
      unfold popLeast at h
      cases hpop : popLeast key l with
      | none =>
          rw [hpop] at h
          obtain ⟨rfl, rfl⟩ := Prod.mk.inj (Option.some.inj h)
          obtain rfl := popLeast_eq_none_iff.mp hpop
          exact ⟨List.Perm.refl _, fun b hb => (List.mem_singleton.mp hb) ▸ le_refl _⟩
      | some popped =>
          obtain ⟨b, others⟩ := popped
          obtain ⟨hperm, hle⟩ := ih hpop
          rw [hpop] at h
          dsimp only at h
          split_ifs at h with hlt
          · obtain ⟨rfl, rfl⟩ := Prod.mk.inj (Option.some.inj h)
            refine ⟨(hperm.cons c).trans (List.Perm.swap _ _ _), ?_⟩
            intro d hd
            rcases List.mem_cons.mp hd with rfl | hd
            · exact hlt.le
            · exact hle d hd
          · obtain ⟨rfl, rfl⟩ := Prod.mk.inj (Option.some.inj h)
            refine ⟨hperm.cons c, ?_⟩
            intro d hd
            rcases List.mem_cons.mp hd with rfl | hd
            · exact le_refl _
            · exact (not_lt.mp hlt).trans (hle d hd)

end HaruTrade
