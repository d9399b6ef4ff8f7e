import HaruTrade.Coroutine.Pool

/-!
# The task that holds the loop

A task that has performed a call that does not suspend keeps the event loop until its next suspending
call, or until it ends. An invariant may therefore say more of the task that holds the loop than of the
others: between two suspending calls of a task only that task's own calls have to keep it.

* `Pool.stands` — the phases of the tasks, each with whether the task has ended.
* `System.Run.invariant_held` — **the invariant rule for invariants that know who holds the loop.**
* `System.Holds` — what the phases that are left before the next suspending call know of the world;
  `System.Run.holds`, the rule for it.
-/

namespace Coro

variable {E : Type} {R : E → Type} {ε α S A V M : Type}

/-- The phases of the tasks, in spawn order, each with whether the task has ended.
Source: none: infrastructure. Kind: D -/
def Pool.stands (c : Pool E R ε α S M) : List (M × Bool) :=
  c.tasks.map fun task => (task.phase, task.body.ended)

namespace System

variable {sys : System E R ε α S A V M} {ok : S → List M → Act E A V → Prop}
  {c c' : Pool E R ε α S M}

/-- **The invariant rule** for an invariant of the world, of where the tasks stand and of who holds the
loop. A call is made by a task that has not ended, when no other task holds the loop; the task holds the
loop afterwards unless the call suspends or the task has ended by then.
Source: none: infrastructure. Kind: P -/
theorem Run.invariant_held (hroot : Follows sys.protocol (fun _ _ => True) sys.start sys.root)
    {I : S → List (M × Bool) → Option ℕ → Prop}
    (hspawn : ∀ s st r, I s st r → I s (st ++ [(sys.start, sys.root.ended)]) r)
    (hevent : ∀ s st r v, I s st r → I (sys.handle v s) st r)
    (hperform : ∀ s st r t m e a b, I s st r → (r = none ∨ r = some t) →
      st[t]? = some (m, false) → sys.protocol.allows m e → ok s (st.map Prod.fst) (.perform t e a) →
        I (sys.exec e a s).2 (st.set t (sys.protocol.next m e (sys.exec e a s).1, b))
          (if sys.suspends e || b then none else some t))
    (hd : sys.Disciplined c) (h0 : I c.shared c.stands c.running) (h : sys.Run ok c c') :
    I c'.shared c'.stands c'.running ∧ sys.Disciplined c' := by
  induction h with
  | refl => exact ⟨h0, hd⟩
  | @tail c _ _ _ hok hs ih =>
      obtain ⟨hI, hD⟩ := ih
      refine ⟨?_, disciplined_step hroot hD hs⟩
      cases hs with
      | spawn => simpa [spawned, Pool.stands] using hspawn _ _ _ hI
      | @perform t e k m a hrun ht =>
          have hstand : c.stands[t]? = some (m, false) := by
            simp [Pool.stands, ht, ended]
          have hall : sys.protocol.allows m e := (hD _ (List.mem_of_getElem? ht)).1
          have hphases : c.stands.map Prod.fst = c.phases := by
            simp [Pool.stands, Pool.phases]
          have hnext := hperform _ _ _ _ _ _ a (k (sys.exec e a c.shared).1).ended hI hrun hstand
            hall (by rw [hphases]; exact hok)
          simpa [performed, Pool.stands, List.map_set] using hnext
      | event v => exact hevent _ _ _ _ hI

/-! ## What a phase knows -/

/-- **What the task that holds the loop knows.** A task that stands in a phase of which `Know` says
something holds the loop, and what `Know` says is so. Source: none: infrastructure. Kind: D -/
def Holds (Know : M → Option (S → Prop)) (s : S) (st : List (M × Bool)) (r : Option ℕ) : Prop :=
  ∀ t m K, st[t]? = some (m, false) → Know m = some K → r = some t ∧ K s

variable {Know : M → Option (S → Prop)} {s : S} {st : List (M × Bool)} {r : Option ℕ}

theorem Holds.spawn {m : M} {b : Bool} (h : Holds Know s st r) (hm : Know m = none) :
    Holds Know s (st ++ [(m, b)]) r := by
  intro t m' K ht hK
  rcases Nat.lt_or_ge t st.length with hlt | hge
  · rw [List.getElem?_append_left hlt] at ht
    exact h t m' K ht hK
  · rw [List.getElem?_append_right hge] at ht
    obtain ⟨rfl, -⟩ := Prod.mk.inj (List.mem_singleton.mp (List.mem_of_getElem? ht))
    rw [hm] at hK
    exact absurd hK (by simp)

/-- A call of the task that holds the loop, or of any task when none does: the other tasks know
nothing. Source: none: infrastructure. Kind: L -/
theorem Holds.perform {s' : S} {t : ℕ} {m' : M} {b susp : Bool} (h : Holds Know s st r)
    (hr : r = none ∨ r = some t)
    (hnext : ∀ K, b = false → Know m' = some K → susp = false ∧ K s') :
    Holds Know s' (st.set t (m', b)) (if susp || b then none else some t) := by
  intro t' m K ht hK
  rw [List.getElem?_set] at ht
  split_ifs at ht with heq hlt
  · obtain ⟨rfl, rfl⟩ := Prod.mk.inj (Option.some.inj ht)
    obtain ⟨hsusp, hnow⟩ := hnext K rfl hK
    subst heq hsusp
    exact ⟨rfl, hnow⟩
  · -- another task: it would have held the loop
    obtain ⟨hother, -⟩ := h t' m K ht hK
    rcases hr with rfl | rfl
    · exact absurd hother (by simp)
    · exact absurd (Option.some.inj hother) heq

end System

end Coro
