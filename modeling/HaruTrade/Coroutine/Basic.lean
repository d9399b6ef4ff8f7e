import Mathlib.Logic.Basic
import Mathlib.Tactic.Common

/-!
# Coroutines over answered calls

A program that talks to its surroundings only by *calls*: it performs a call `e : E`, is resumed
with an answer of type `R e`, and ends by returning a value or by raising an exception. Nothing
here names a particular program; the runtime model instantiates `E`, `R` and the world `S`.

* `Coro E R ε α` — the coroutines, with their monad structure and `tryCatch`.
* `Exec exec ok p s out s'` — **the big-step semantics**: from world `s` the coroutine `p`, run
  alone, ends with outcome `out` in world `s'`. The world is moved by `exec : (e : E) → A → S →
  R e × S`, where `a : A` is the part of the answer the world does not determine; `ok` restricts
  the answers that may occur.
* `eval exec env p s` — the same run under a fixed strategy `env` for the answers, as a function;
  `exec_iff_eval` says the two agree, and `exec_of_checked` adds a check of every call.
-/

/-- A coroutine that performs calls `e : E`, is resumed with an answer in `R e`, and ends with an
`α` or with an exception `ε`. Source: none: infrastructure. Kind: D -/
inductive Coro (E : Type) (R : E → Type) (ε α : Type) : Type
  | ret (a : α)
  | raise (x : ε)
  | call (e : E) (k : R e → Coro E R ε α)

namespace Coro

variable {E : Type} {R : E → Type} {ε α β γ : Type}

/-! ## The monad -/

/-- Sequencing; an exception skips the continuation. Source: none: infrastructure. Kind: D -/
def bind : Coro E R ε α → (α → Coro E R ε β) → Coro E R ε β
  | ret a, f => f a
  | raise x, _ => raise x
  | call e k, f => call e fun r => (k r).bind f

instance : Monad (Coro E R ε) where
  pure := ret
  bind := bind

/-- `try p except x: h x`. Source: none: infrastructure. Kind: D -/
def tryCatch : Coro E R ε α → (ε → Coro E R ε α) → Coro E R ε α
  | ret a, _ => ret a
  | raise x, h => h x
  | call e k, h => call e fun r => (k r).tryCatch h

/-- The coroutine that performs one call and returns its answer.
Source: none: infrastructure. Kind: D -/
def perform (e : E) : Coro E R ε (R e) := call e ret

/-- Re-raise the error of an answer. Source: none: infrastructure. Kind: D -/
def ofExcept : Except ε α → Coro E R ε α
  | .ok a => ret a
  | .error x => raise x

/-- Has the coroutine ended? Source: none: infrastructure. Kind: D -/
def ended : Coro E R ε α → Bool
  | call _ _ => false
  | _ => true

@[simp] theorem pure_eq (a : α) : (pure a : Coro E R ε α) = ret a := rfl

@[simp] theorem bind_eq (p : Coro E R ε α) (f : α → Coro E R ε β) : p >>= f = p.bind f := rfl

@[simp] theorem ret_bind (a : α) (f : α → Coro E R ε β) : (ret a).bind f = f a := rfl

@[simp] theorem raise_bind (x : ε) (f : α → Coro E R ε β) : (raise x).bind f = raise x := rfl

@[simp] theorem call_bind (e : E) (k : R e → Coro E R ε α) (f : α → Coro E R ε β) :
    (call e k).bind f = call e fun r => (k r).bind f := rfl

@[simp] theorem perform_bind (e : E) (f : R e → Coro E R ε β) :
    (perform e).bind f = call e f := rfl

@[simp] theorem bind_ret (p : Coro E R ε α) : p.bind ret = p := by
  induction p with
  | ret a => rfl
  | raise x => rfl
  | call e k ih => simp only [call_bind, ih]

theorem bind_assoc (p : Coro E R ε α) (f : α → Coro E R ε β) (g : β → Coro E R ε γ) :
    (p.bind f).bind g = p.bind fun a => (f a).bind g := by
  induction p with
  | ret a => rfl
  | raise x => rfl
  | call e k ih => simp only [call_bind, ih]

instance : LawfulMonad (Coro E R ε) :=
  LawfulMonad.mk' (Coro E R ε) (fun p => bind_ret p) (fun _ _ => rfl)
    (fun p f g => bind_assoc p f g)

/-! ## Running a coroutine alone -/

section exec

variable {S A : Type} (exec : (e : E) → A → S → R e × S) (ok : E → A → S → Prop)

/-- **The big-step semantics.** `Exec exec ok p s out s'`: run alone from world `s`, under answers
that all satisfy `ok`, the coroutine `p` ends with `out` in world `s'`.
Source: none: infrastructure. Kind: D -/
inductive Exec : Coro E R ε α → S → Except ε α → S → Prop
  | ret {a : α} {s : S} : Exec (ret a) s (.ok a) s
  | raise {x : ε} {s : S} : Exec (raise x) s (.error x) s
  | call {e : E} {k : R e → Coro E R ε α} {a : A} {s s' : S} {out : Except ε α}
      (hok : ok e a s) (h : Exec (k (exec e a s).1) (exec e a s).2 out s') :
      Exec (call e k) s out s'

variable {exec ok}

@[simp] theorem exec_ret_iff {a : α} {s s' : S} {out : Except ε α} :
    Exec exec ok (ret a) s out s' ↔ out = .ok a ∧ s' = s := by
  constructor
  · rintro ⟨⟩
    exact ⟨rfl, rfl⟩
  · rintro ⟨rfl, rfl⟩
    exact .ret

@[simp] theorem exec_raise_iff {x : ε} {s s' : S} {out : Except ε α} :
    Exec exec ok (raise x : Coro E R ε α) s out s' ↔ out = .error x ∧ s' = s := by
  constructor
  · rintro ⟨⟩
    exact ⟨rfl, rfl⟩
  · rintro ⟨rfl, rfl⟩
    exact .raise

theorem exec_call_iff {e : E} {k : R e → Coro E R ε α} {s s' : S} {out : Except ε α} :
    Exec exec ok (call e k) s out s' ↔
      ∃ a, ok e a s ∧ Exec exec ok (k (exec e a s).1) (exec e a s).2 out s' := by
  constructor
  · rintro ⟨⟩
    exact ⟨_, ‹_›, ‹_›⟩
  · rintro ⟨a, ha, h⟩
    exact .call ha h

/-- A run of one call. Source: none: infrastructure. Kind: L -/
theorem exec_perform_iff {e : E} {s s' : S} {out : Except ε (R e)} :
    Exec exec ok (perform e : Coro E R ε (R e)) s out s' ↔
      ∃ a, ok e a s ∧ out = .ok (exec e a s).1 ∧ s' = (exec e a s).2 := by
  simp only [perform, exec_call_iff, exec_ret_iff]

/-- **Runs of a sequence**: the first part returns and the rest runs, or the first part raises.
Source: none: infrastructure. Kind: P -/
theorem exec_bind_iff {p : Coro E R ε α} {f : α → Coro E R ε β} {s s'' : S} {out : Except ε β} :
    Exec exec ok (p.bind f) s out s'' ↔
      (∃ a s', Exec exec ok p s (.ok a) s' ∧ Exec exec ok (f a) s' out s'') ∨
        ∃ x, out = .error x ∧ Exec exec ok p s (.error x) s'' := by
  constructor
  · intro h
    induction p generalizing s with
    | ret a => exact .inl ⟨a, s, .ret, h⟩
    | raise x =>
        obtain ⟨rfl, rfl⟩ := exec_raise_iff.mp h
        exact .inr ⟨x, rfl, .raise⟩
    | call e k ih =>
        obtain ⟨a, ha, h⟩ := exec_call_iff.mp h
        rcases ih _ h with ⟨b, s', h₁, h₂⟩ | ⟨x, rfl, h₁⟩
        · exact .inl ⟨b, s', .call ha h₁, h₂⟩
        · exact .inr ⟨x, rfl, .call ha h₁⟩
  · rintro (⟨a, s', h₁, h₂⟩ | ⟨x, rfl, h₁⟩)
    · generalize hout : Except.ok a = o at h₁
      induction h₁ with
      | ret => cases hout; exact h₂
      | raise => cases hout
      | call hok _ ih => exact .call hok (ih h₂ hout)
    · generalize hout : Except.error x = o at h₁
      induction h₁ with
      | ret => cases hout
      | raise => cases hout; exact .raise
      | call hok _ ih => exact .call hok (ih hout)

/-- **Runs of a guarded part**: it returns, or it raises and the handler runs.
Source: none: infrastructure. Kind: P -/
theorem exec_tryCatch_iff {p : Coro E R ε α} {h : ε → Coro E R ε α} {s s'' : S}
    {out : Except ε α} :
    Exec exec ok (p.tryCatch h) s out s'' ↔
      (∃ a, out = .ok a ∧ Exec exec ok p s (.ok a) s'') ∨
        ∃ x s', Exec exec ok p s (.error x) s' ∧ Exec exec ok (h x) s' out s'' := by
  constructor
  · intro hr
    induction p generalizing s with
    | ret a =>
        obtain ⟨rfl, rfl⟩ := exec_ret_iff.mp hr
        exact .inl ⟨a, rfl, .ret⟩
    | raise x => exact .inr ⟨x, s, .raise, hr⟩
    | call e k ih =>
        obtain ⟨a, ha, hr⟩ := exec_call_iff.mp hr
        rcases ih _ hr with ⟨b, rfl, h₁⟩ | ⟨x, s', h₁, h₂⟩
        · exact .inl ⟨b, rfl, .call ha h₁⟩
        · exact .inr ⟨x, s', .call ha h₁, h₂⟩
  · rintro (⟨a, rfl, h₁⟩ | ⟨x, s', h₁, h₂⟩)
    · generalize hout : Except.ok a = o at h₁
      induction h₁ with
      | ret => cases hout; exact .ret
      | raise => cases hout
      | call hok _ ih => exact .call hok (ih hout)
    · generalize hout : Except.error x = o at h₁
      induction h₁ with
      | ret => cases hout
      | raise => cases hout; exact h₂
      | call hok _ ih => exact .call hok (ih h₂ hout)

@[simp] theorem exec_ofExcept_iff {r : Except ε α} {s s' : S} {out : Except ε α} :
    Exec exec ok (ofExcept r : Coro E R ε α) s out s' ↔ out = r ∧ s' = s := by
  cases r <;> simp [ofExcept]

/-- Fewer restrictions on the answers, more runs. Source: none: infrastructure. Kind: L -/
theorem Exec.mono {ok' : E → A → S → Prop} (hok : ∀ e a s, ok e a s → ok' e a s)
    {p : Coro E R ε α} {s s' : S} {out : Except ε α} (h : Exec exec ok p s out s') :
    Exec exec ok' p s out s' := by
  induction h with
  | ret => exact .ret
  | raise => exact .raise
  | call ha _ ih => exact .call (hok _ _ _ ha) ih

/-- What every call keeps, a run keeps. Source: none: infrastructure. Kind: L -/
theorem Exec.invariant {I : S → Prop} (hstep : ∀ e a s, ok e a s → I s → I (exec e a s).2)
    {p : Coro E R ε α} {s s' : S} {out : Except ε α} (h : Exec exec ok p s out s') (hI : I s) :
    I s' := by
  induction h with
  | ret => exact hI
  | raise => exact hI
  | call ha _ ih => exact ih (hstep _ _ _ ha hI)

end exec

/-! ## Running under a fixed strategy -/

section eval

variable {S A : Type} (exec : (e : E) → A → S → R e × S)

/-- The run of `p` alone when the answers follow the strategy `env`.
Source: none: infrastructure. Kind: D -/
def eval (env : E → S → A) : Coro E R ε α → S → Except ε α × S
  | ret a, s => (.ok a, s)
  | raise x, s => (.error x, s)
  | call e k, s => (k (exec e (env e s) s).1).eval env (exec e (env e s) s).2

section

variable {exec} {env : E → S → A} {s : S}

@[simp] theorem eval_ret (a : α) : (ret a : Coro E R ε α).eval exec env s = (.ok a, s) := rfl

@[simp] theorem eval_raise (x : ε) :
    (raise x : Coro E R ε α).eval exec env s = (.error x, s) := rfl

theorem eval_call (e : E) (k : R e → Coro E R ε α) :
    (call e k).eval exec env s =
      (k (exec e (env e s) s).1).eval exec env (exec e (env e s) s).2 := rfl

@[simp] theorem eval_ofExcept (r : Except ε α) :
    (ofExcept r : Coro E R ε α).eval exec env s = (r, s) := by
  cases r <;> rfl

/-- Evaluating a sequence. Source: none: infrastructure. Kind: L -/
theorem eval_bind (p : Coro E R ε α) (f : α → Coro E R ε β) :
    (p.bind f).eval exec env s = match p.eval exec env s with
      | (.ok a, s') => (f a).eval exec env s'
      | (.error x, s') => (.error x, s') := by
  induction p generalizing s with
  | ret a => rfl
  | raise x => rfl
  | call e k ih => exact ih _

/-- Evaluating a guarded part. Source: none: infrastructure. Kind: L -/
theorem eval_tryCatch (p : Coro E R ε α) (h : ε → Coro E R ε α) :
    (p.tryCatch h).eval exec env s = match p.eval exec env s with
      | (.ok a, s') => (.ok a, s')
      | (.error x, s') => (h x).eval exec env s' := by
  induction p generalizing s with
  | ret a => rfl
  | raise x => rfl
  | call e k ih => exact ih _

end

/-- **The function is the relation** at the answers `env` gives.
Source: none: infrastructure. Kind: P -/
theorem exec_iff_eval {env : E → S → A} {p : Coro E R ε α} {s s' : S} {out : Except ε α} :
    Exec exec (fun e a s => a = env e s) p s out s' ↔ p.eval exec env s = (out, s') := by
  induction p generalizing s with
  | ret a => simp [eval, eq_comm]
  | raise x => simp [eval, eq_comm]
  | call e k ih =>
      rw [exec_call_iff]
      constructor
      · rintro ⟨a, rfl, h⟩
        exact (ih _).mp h
      · intro h
        exact ⟨_, rfl, (ih _).mpr h⟩

/-- Does every call of the run under `env` pass the check? Source: none: infrastructure. Kind: D -/
def checked (env : E → S → A) (check : E → S → Bool) : Coro E R ε α → S → Bool
  | ret _, _ => true
  | raise _, _ => true
  | call e k, s =>
      check e s && (k (exec e (env e s) s).1).checked env check (exec e (env e s) s).2

/-- A run under `env` whose calls all pass a check is a run whose answers all satisfy what the check
implies. Source: none: infrastructure. Kind: L -/
theorem exec_of_checked {env : E → S → A} {check : E → S → Bool} {ok : E → A → S → Prop}
    (hok : ∀ e s, check e s = true → ok e (env e s) s) {p : Coro E R ε α} {s : S}
    (h : p.checked exec env check s = true) :
    Exec exec ok p s (p.eval exec env s).1 (p.eval exec env s).2 := by
  induction p generalizing s with
  | ret a => exact .ret
  | raise x => exact .raise
  | call e k ih =>
      obtain ⟨he, hk⟩ := Bool.and_eq_true_iff.mp h
      exact .call (hok e s he) (ih _ hk)

end eval

end Coro
