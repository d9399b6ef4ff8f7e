import Mathlib.Data.List.Basic

/-!
# What holds at every event of a history

A history is a list of events, oldest first. A property of its events may speak of the events before.
Nothing here names a particular program.

* `AtEvery P l` — every event of `l` satisfies `P`, given the events before it; `atEvery_append_singleton`
  is the rule for one more event.
* `lastOf f l` — the last value that `f` reads of an event of `l`; `lastOf_append_singleton`.
-/

namespace HaruTrade

variable {α β : Type} {P Q : List α → α → Prop} {l : List α} {a : α}

/-- Every event satisfies `P`, given the events before it. Source: none: infrastructure. Kind: D -/
def AtEvery (P : List α → α → Prop) (l : List α) : Prop :=
  ∀ pre a post, l = pre ++ a :: post → P pre a

@[simp] theorem atEvery_nil : AtEvery P [] := by
  intro pre a post h
  exact absurd h (by simp)

/-- **One more event.** Source: none: infrastructure. Kind: L -/
theorem atEvery_append_singleton : AtEvery P (l ++ [a]) ↔ AtEvery P l ∧ P l a := by
  constructor
  · intro h
    refine ⟨fun pre b post hl => h pre b (post ++ [a]) ?_, h l a [] rfl⟩
    rw [hl, List.append_assoc, List.cons_append]
  · rintro ⟨hl, ha⟩ pre b post heq
    rcases List.eq_nil_or_concat post with rfl | ⟨post', c, rfl⟩
    · obtain ⟨rfl, hab⟩ := List.append_inj' heq rfl
      obtain rfl := List.singleton_inj.mp hab
      exact ha
    · refine hl pre b post' ?_
      have hcut : l ++ [a] = (pre ++ b :: post') ++ [c] := by
        rw [heq]
        simp
      exact (List.append_inj' hcut rfl).1

theorem AtEvery.imp (h : AtEvery P l) (hPQ : ∀ pre a, P pre a → Q pre a) : AtEvery Q l :=
  fun pre a post hl => hPQ pre a (h pre a post hl)

/-- The last value that `f` reads of an event. Source: none: infrastructure. Kind: D -/
def lastOf (f : α → Option β) (l : List α) : Option β := l.reverse.findSome? f

variable {f : α → Option β}

@[simp] theorem lastOf_nil : lastOf f [] = none := rfl

@[simp] theorem lastOf_append_singleton : lastOf f (l ++ [a]) = (f a).or (lastOf f l) := by
  unfold lastOf
  rw [List.reverse_append, List.reverse_singleton, List.singleton_append, List.findSome?_cons]
  cases f a with
  | none => rfl
  | some b => rfl

theorem getLast?_filterMap : (l.filterMap f).getLast? = lastOf f l := by
  unfold lastOf
  rw [← List.head?_reverse, ← List.filterMap_reverse, List.head?_filterMap]

end HaruTrade
