import HaruTrade.Coroutine.Protocol

/-!
# Runs with a record of their calls

`recording exec` answers a call as `exec` does and appends the call with its answer to a record beside
the world. What a coroutine did can then be said of the record, whatever the world is.

* `Exchange` — a call with its answer.
* `exec_of_recording` — without its record, a recorded run is a run.
* `exists_record`, `Uses.exists_record` — a run only appends to the record, and only calls that its
  coroutine makes.
-/

namespace Coro

variable {E : Type} {R : E → Type} {ε α : Type} {S A : Type}

/-- A call with its answer. Source: none: infrastructure. Kind: D -/
structure Exchange (R : E → Type) where
  call : E
  answer : R call

/-- Answer a call as `exec` does, and record it. Source: none: infrastructure. Kind: D -/
def recording (exec : (e : E) → A → S → R e × S) (e : E) (a : A) (s : S × List (Exchange R)) :
    R e × (S × List (Exchange R)) :=
  ((exec e a s.1).1, ((exec e a s.1).2, s.2 ++ [⟨e, (exec e a s.1).1⟩]))

variable {exec : (e : E) → A → S → R e × S} {ok : E → A → S × List (Exchange R) → Prop}
  {p : Coro E R ε α} {s s' : S × List (Exchange R)} {out : Except ε α}

/-- **Without its record, a recorded run is a run.** Source: none: infrastructure. Kind: P -/
theorem exec_of_recording {ok' : E → A → S → Prop} (hok : ∀ e a s, ok e a s → ok' e a s.1)
    (h : Exec (recording exec) ok p s out s') : Exec exec ok' p s.1 out s'.1 := by
  induction h with
  | ret => exact .ret
  | raise => exact .raise
  | call ha _ ih => exact .call (hok _ _ _ ha) ih

/-- **A run only appends to the record.** Source: none: infrastructure. Kind: P -/
theorem exists_record (h : Exec (recording exec) ok p s out s') : ∃ l, s'.2 = s.2 ++ l := by
  induction h with
  | ret => exact ⟨[], (List.append_nil _).symm⟩
  | raise => exact ⟨[], (List.append_nil _).symm⟩
  | @call e k a s s' out _ _ ih =>
      obtain ⟨l, hl⟩ := ih
      exact ⟨⟨e, (exec e a s.1).1⟩ :: l, by rw [hl, recording, List.append_assoc]; rfl⟩

/-- A run that begins with a call records it first. Source: none: infrastructure. Kind: L -/
theorem exists_record_call {env : E → S × List (Exchange R) → A} {e : E} {k : R e → Coro E R ε α} :
    ∃ r l, ((call e k).eval (recording exec) env s).2.2 = s.2 ++ ⟨e, r⟩ :: l := by
  obtain ⟨l, hl⟩ := exists_record ((exec_iff_eval (recording exec)).mpr
    (rfl : (k (recording exec e (env e s) s).1).eval (recording exec) env
      (recording exec e (env e s) s).2 = _))
  exact ⟨(exec e (env e s) s.1).1, l, by rw [eval_call, hl, recording, List.append_assoc]; rfl⟩

/-- **A run records only calls that its coroutine makes.** Source: none: infrastructure. Kind: P -/
theorem Uses.exists_record {U : E → Prop} (hp : Uses U p)
    (h : Exec (recording exec) ok p s out s') :
    ∃ l, s'.2 = s.2 ++ l ∧ ∀ x ∈ l, U x.call := by
  induction h with
  | ret => exact ⟨[], (List.append_nil _).symm, by simp⟩
  | raise => exact ⟨[], (List.append_nil _).symm, by simp⟩
  | @call e k a s s' out _ _ ih =>
      obtain ⟨l, hl, hcalls⟩ := ih (hp.2 _)
      refine ⟨⟨e, (exec e a s.1).1⟩ :: l, by rw [hl, recording, List.append_assoc]; rfl, ?_⟩
      intro x hx
      rcases List.mem_cons.mp hx with rfl | hx
      · exact hp.1
      · exact hcalls x hx

end Coro
