import Mathlib.Data.List.Basic

/-!
# One task at a time

A service remembers the task that it started last, and starts another one only when that is done. Nothing
here names a particular program.

* `goingOn` — the remembered task is not done.
* `Latest` — all tasks but the remembered one are done; `start` and `set` are the rules for a new task and
  for a change of the remembered one.
* `Latest.alone` — **a task that is not done is the remembered one.**
-/

namespace HaruTrade

variable {τ : Type} {isDone : τ → Bool} {tasks front : List τ} {task : Option ℕ} {last : Option τ}
  {i : ℕ} {x y : τ}

/-- The task that is remembered is not done. Source: none: infrastructure. Kind: D -/
def goingOn (isDone : τ → Bool) (tasks : List τ) (task : Option ℕ) : Bool :=
  task.any fun i => (tasks[i]?).any fun x => !isDone x

/-- The tasks, oldest first, are `front`, which are done, and the one that is remembered.
Source: none: infrastructure. Kind: D -/
structure Latest (isDone : τ → Bool) (tasks : List τ) (task : Option ℕ) (front : List τ)
    (last : Option τ) : Prop where
  tasks_eq : tasks = front ++ last.toList
  task_eq : task = last.map fun _ => front.length
  frontDone : ∀ x ∈ front, isDone x = true

theorem latest_nil : Latest isDone [] none [] none := ⟨rfl, rfl, fun _ hx => absurd hx List.not_mem_nil⟩

theorem getElem?_append_toList : (front ++ last.toList)[i]? =
    if i = front.length then last else front[i]? := by
  split_ifs with hi
  · subst hi
    rw [List.getElem?_append_right (Nat.le_refl _), Nat.sub_self]
    cases last with
    | none => rfl
    | some x => rfl
  · rcases Nat.lt_or_ge i front.length with hlt | hge
    · exact List.getElem?_append_left hlt
    · rw [List.getElem?_append_right hge, List.getElem?_eq_none hge, List.getElem?_eq_none]
      have hone : last.toList.length ≤ 1 := Option.length_toList_le
      omega

namespace Latest

theorem getElem?_eq (h : Latest isDone tasks task front last) :
    tasks[i]? = if i = front.length then last else front[i]? := by
  rw [h.tasks_eq, getElem?_append_toList]

theorem length_eq (h : Latest isDone tasks task front last) :
    tasks.length = front.length + last.toList.length := by
  rw [h.tasks_eq, List.length_append]

/-- **A task that is not done is the remembered one.** Source: none: infrastructure. Kind: P -/
theorem alone (h : Latest isDone tasks task front last) (ht : tasks[i]? = some x)
    (halive : isDone x = false) : i = front.length ∧ last = some x := by
  rw [h.getElem?_eq] at ht
  split_ifs at ht with hi
  · exact ⟨hi, ht⟩
  · rw [h.frontDone x (List.mem_of_getElem? ht)] at halive
    exact absurd halive (by simp)

theorem goingOn_iff (h : Latest isDone tasks task front last) :
    goingOn isDone tasks task = true ↔ ∃ x, last = some x ∧ isDone x = false := by
  unfold goingOn
  rw [h.task_eq]
  cases hlast : last with
  | none => simp
  | some x =>
      rw [Option.map_some, Option.any_some, h.getElem?_eq, if_pos rfl, hlast, Option.any_some]
      simp

theorem isDone_of_not_goingOn (h : Latest isDone tasks task front last)
    (hstopped : ¬ goingOn isDone tasks task = true) (hlast : last = some x) : isDone x = true := by
  by_contra halive
  exact hstopped (h.goingOn_iff.mpr ⟨x, hlast, Bool.eq_false_iff.mpr halive⟩)

/-- A task is done exactly when it is before the remembered one, or is that one and done.
Source: none: infrastructure. Kind: L -/
theorem isDone_iff (h : Latest isDone tasks task front last) :
    (tasks[i]?).any isDone = true ↔
      i < front.length ∨ i = front.length ∧ last.any isDone = true := by
  rw [h.getElem?_eq]
  split_ifs with hi
  · subst hi
    simp
  · constructor
    · intro hdone
      obtain ⟨x, hx, -⟩ := (Option.any_eq_true _ _).mp hdone
      exact .inl (List.getElem?_eq_some_iff.mp hx).1
    · rintro (hlt | ⟨heq, -⟩)
      · rw [List.getElem?_eq_getElem hlt]
        exact h.frontDone _ (List.getElem_mem hlt)
      · exact absurd heq hi

/-- **A new task**, when the remembered one is done. Source: none: infrastructure. Kind: L -/
theorem start (h : Latest isDone tasks task front last)
    (hdone : ∀ x, last = some x → isDone x = true) :
    Latest isDone (tasks ++ [y]) (some tasks.length) (front ++ last.toList) (some y) where
  tasks_eq := by rw [h.tasks_eq]; rfl
  task_eq := by rw [h.tasks_eq]; rfl
  frontDone x hx := by
    rcases List.mem_append.mp hx with hx | hx
    · exact h.frontDone x hx
    · exact hdone x (Option.mem_toList.mp hx)

/-- **The remembered task changes.** Source: none: infrastructure. Kind: L -/
theorem set (h : Latest isDone tasks task front (some x)) :
    Latest isDone (tasks.set front.length y) task front (some y) where
  tasks_eq := by
    rw [h.tasks_eq, Option.toList_some, List.set_append_right _ _ (Nat.le_refl _), Nat.sub_self]
    rfl
  task_eq := h.task_eq
  frontDone := h.frontDone

end Latest

end HaruTrade
