import HaruTrade.Coroutine.Basic

/-!
# Protocols: what a coroutine may call next

A `Protocol` is an automaton over calls and answers: in phase `m` it says which calls are allowed
(`allows m e`) and which phase an answered call leads to (`next m e r`). `Follows P post m p` says
that the coroutine `p`, started in phase `m`, makes only allowed calls **whatever the answers
are**, and that every way it can end satisfies `post`. It is the abstract description of a
coroutine that a concurrent argument works with, since a phase, unlike a continuation, can be
inspected.

The rules follow the program: `follows_perform`, `Follows.bind`, `Follows.tryCatch`, and the
consequence rule `Follows.mono`. A coroutine whose calls are allowed in every phase, and move phases
only along a preorder, follows the protocol and ends along that preorder (`Uses.follows`).
-/

namespace Coro

variable {E : Type} {R : E → Type} {ε α β M : Type}

/-- An automaton over answered calls. Source: none: infrastructure. Kind: D -/
structure Protocol (E : Type) (R : E → Type) (M : Type) where
  /-- The calls a phase allows. -/
  allows : M → E → Prop
  /-- The phase after an answered call. -/
  next : M → (e : E) → R e → M

/-- **`p` follows the protocol from phase `m`** and ends as `post` says.
Source: none: infrastructure. Kind: D -/
def Follows (P : Protocol E R M) (post : Except ε α → M → Prop) : M → Coro E R ε α → Prop
  | m, ret a => post (.ok a) m
  | m, raise x => post (.error x) m
  | m, call e k => P.allows m e ∧ ∀ r, Follows P post (P.next m e r) (k r)

variable {P : Protocol E R M} {post post' : Except ε α → M → Prop} {m : M}

@[simp] theorem follows_ret {a : α} :
    Follows P post m (ret a : Coro E R ε α) ↔ post (.ok a) m := Iff.rfl

@[simp] theorem follows_raise {x : ε} :
    Follows P post m (raise x : Coro E R ε α) ↔ post (.error x) m := Iff.rfl

@[simp] theorem follows_ofExcept {r : Except ε α} :
    Follows P post m (ofExcept r : Coro E R ε α) ↔ post r m := by
  cases r <;> rfl

/-- The consequence rule. Source: none: infrastructure. Kind: L -/
theorem Follows.mono {p : Coro E R ε α} (h : Follows P post m p)
    (hp : ∀ out m', post out m' → post' out m') : Follows P post' m p := by
  induction p generalizing m with
  | ret a => exact hp _ _ h
  | raise x => exact hp _ _ h
  | call e k ih => exact ⟨h.1, fun r => ih r (h.2 r)⟩

/-- **The sequencing rule.** Source: none: infrastructure. Kind: P -/
theorem Follows.bind {p : Coro E R ε α} {f : α → Coro E R ε β} {Q : Except ε β → M → Prop}
    (h : Follows P post m p) (hok : ∀ a m', post (.ok a) m' → Follows P Q m' (f a))
    (herr : ∀ x m', post (.error x) m' → Q (.error x) m') : Follows P Q m (p.bind f) := by
  induction p generalizing m with
  | ret a => exact hok _ _ h
  | raise x => exact herr _ _ h
  | call e k ih => exact ⟨h.1, fun r => ih r (h.2 r)⟩

/-- **The exception rule.** Source: none: infrastructure. Kind: P -/
theorem Follows.tryCatch {p : Coro E R ε α} {f : ε → Coro E R ε α}
    (h : Follows P post m p) (hok : ∀ a m', post (.ok a) m' → post' (.ok a) m')
    (herr : ∀ x m', post (.error x) m' → Follows P post' m' (f x)) :
    Follows P post' m (p.tryCatch f) := by
  induction p generalizing m with
  | ret a => exact hok _ _ h
  | raise x => exact herr _ _ h
  | call e k ih => exact ⟨h.1, fun r => ih r (h.2 r)⟩

/-! ## Coroutines by the calls they make -/

/-- Every call `p` can make satisfies `U`. Source: none: infrastructure. Kind: D -/
def Uses (U : E → Prop) : Coro E R ε α → Prop
  | ret _ => True
  | raise _ => True
  | call e k => U e ∧ ∀ r, Uses U (k r)

variable {U : E → Prop}

@[simp] theorem uses_ret {a : α} : Uses U (ret a : Coro E R ε α) := trivial

@[simp] theorem uses_raise {x : ε} : Uses U (raise x : Coro E R ε α) := trivial

@[simp] theorem uses_call {e : E} {k : R e → Coro E R ε α} :
    Uses U (call e k) ↔ U e ∧ ∀ r, Uses U (k r) := Iff.rfl

@[simp] theorem uses_perform {e : E} : Uses U (perform e : Coro E R ε (R e)) ↔ U e :=
  ⟨fun h => h.1, fun h => ⟨h, fun _ => trivial⟩⟩

@[simp] theorem uses_ofExcept {r : Except ε α} : Uses U (ofExcept r : Coro E R ε α) := by
  cases r <;> trivial

theorem Uses.mono {U' : E → Prop} {p : Coro E R ε α} (h : Uses U p) (hU : ∀ e, U e → U' e) :
    Uses U' p := by
  induction p with
  | ret a => trivial
  | raise x => trivial
  | call e k ih => exact ⟨hU e h.1, fun r => ih r (h.2 r)⟩

theorem Uses.bind {p : Coro E R ε α} {f : α → Coro E R ε β} (h : Uses U p)
    (hf : ∀ a, Uses U (f a)) : Uses U (p.bind f) := by
  induction p with
  | ret a => exact hf a
  | raise x => trivial
  | call e k ih => exact ⟨h.1, fun r => ih r (h.2 r)⟩

theorem Uses.tryCatch {p : Coro E R ε α} {f : ε → Coro E R ε α} (h : Uses U p)
    (hf : ∀ x, Uses U (f x)) : Uses U (p.tryCatch f) := by
  induction p with
  | ret a => trivial
  | raise x => exact hf x
  | call e k ih => exact ⟨h.1, fun r => ih r (h.2 r)⟩

/-- **Calls that every phase allows**: if they move phases only along a reflexive and transitive
relation, so does the coroutine. Source: none: infrastructure. Kind: P -/
theorem Uses.follows {p : Coro E R ε α} (h : Uses U p) {K : M → M → Prop}
    (hrefl : ∀ m, K m m) (htrans : ∀ m₁ m₂ m₃, K m₁ m₂ → K m₂ m₃ → K m₁ m₃)
    (hstep : ∀ e m, U e → P.allows m e ∧ ∀ r, K m (P.next m e r)) :
    Follows P (fun _ m' => K m m') m p := by
  suffices hgen : ∀ m₁, K m m₁ → Follows P (fun _ m' => K m m') m₁ p from hgen m (hrefl m)
  induction p with
  | ret a => exact fun m₁ h₁ => h₁
  | raise x => exact fun m₁ h₁ => h₁
  | call e k ih =>
      intro m₁ h₁
      obtain ⟨hallows, hnext⟩ := hstep e m₁ h.1
      exact ⟨hallows, fun r => ih r (h.2 r) _ (htrans _ _ _ h₁ (hnext r))⟩

/-! ## A run of a coroutine keeps what its calls keep -/

section exec

variable {S A : Type} {exec : (e : E) → A → S → R e × S} {ok : E → A → S → Prop}

/-- **The frame rule**: a relation that is reflexive and transitive, and that every call of `p`
respects, relates the worlds before and after a run of `p`.
Source: none: infrastructure. Kind: P -/
theorem Uses.exec_rel {p : Coro E R ε α} (h : Uses U p) {K : S → S → Prop}
    (hrefl : ∀ s, K s s) (htrans : ∀ s₁ s₂ s₃, K s₁ s₂ → K s₂ s₃ → K s₁ s₃)
    (hstep : ∀ e a s, U e → ok e a s → K s (exec e a s).2) {s s' : S} {out : Except ε α}
    (hr : Exec exec ok p s out s') : K s s' := by
  induction hr with
  | ret => exact hrefl _
  | raise => exact hrefl _
  | call hok _ ih => exact htrans _ _ _ (hstep _ _ _ h.1 hok) (ih (h.2 _))

/-- A run whose answers satisfy `ok` where `p` calls satisfies any `ok'` that they imply.
Source: none: infrastructure. Kind: L -/
theorem Uses.exec_mono {ok' : E → A → S → Prop} {p : Coro E R ε α} (h : Uses U p)
    (hok : ∀ e a s, U e → ok e a s → ok' e a s) {s s' : S} {out : Except ε α}
    (hr : Exec exec ok p s out s') : Exec exec ok' p s out s' := by
  induction hr with
  | ret => exact .ret
  | raise => exact .raise
  | call ha _ ih => exact .call (hok _ _ _ h.1 ha) (ih (h.2 _))

/-- **The invariant rule**: a relation between the phase and the world that every allowed call keeps
holds at the end of a run of a coroutine that follows the protocol.
Source: none: infrastructure. Kind: P -/
theorem Follows.exec_invariant {p : Coro E R ε α} {J : M → S → Prop} (h : Follows P post m p)
    (hstep : ∀ m e a s, P.allows m e → ok e a s → J m s →
      J (P.next m e (exec e a s).1) (exec e a s).2) {s s' : S} {out : Except ε α}
    (hr : Exec exec ok p s out s') (hJ : J m s) : ∃ m', post out m' ∧ J m' s' := by
  induction hr generalizing m with
  | ret => exact ⟨m, h, hJ⟩
  | raise => exact ⟨m, h, hJ⟩
  | call hok _ ih => exact ih (h.2 _) (hstep m _ _ _ h.1 hok hJ)

end exec

end Coro
