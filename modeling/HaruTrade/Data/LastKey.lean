import Mathlib.Data.Set.Function
import Mathlib.Order.Basic

/-!
# Doing a thing once by remembering the last key

A loop is asked again and again for the occasion at hand, and each occasion has a key. It remembers
the key of the occasion that it dealt with last and nothing else, skips an occasion with that key, and
remembers nothing of an attempt that fails. Nothing here names a particular program.

* `dealtWith` — the occasions that it deals with.
* `count_dealtWith` — when the occasions come in order and their keys tell them apart, each of them
  is dealt with once if some attempt at it succeeds, and never otherwise.
* `doneLate` — what it does when the key that it remembers is read after the thing was done, and may be
  a later one than the occasion had.
* `doneOnce_doneLate_iff` — then each occasion is dealt with once exactly when no later one is taken
  for done: `InTime`.
-/

namespace HaruTrade

variable {α σ : Type} {key : α → σ} {attempts : List (α × Bool)}

/-- The keys tell the remaining occasions apart. Source: none: infrastructure. Kind: L -/
theorem injOn_tail {last last' : Option α} {b : α} {succeeds : Bool}
    (hinj : Set.InjOn key {a | last = some a ∨ ∃ s, (a, s) ∈ (b, succeeds) :: attempts})
    (hlast : ∀ l, last' = some l → l = b ∨ last = some l) :
    Set.InjOn key {a | last' = some a ∨ ∃ s, (a, s) ∈ attempts} := by
  apply hinj.mono
  rintro c (hc | ⟨s, hc⟩)
  · rcases hlast c hc with rfl | hc
    · exact Or.inr ⟨succeeds, List.mem_cons_self⟩
    · exact Or.inl hc
  · exact Or.inr ⟨s, List.mem_cons_of_mem _ hc⟩

variable [DecidableEq σ]

/-- **The occasions that are dealt with** in a list of attempts, each with its occasion and whether it
would succeed; `last` is the key that is remembered. Source: none: infrastructure. Kind: D -/
def dealtWith (key : α → σ) : Option σ → List (α × Bool) → List α
  | _, [] => []
  | last, (a, succeeds) :: attempts =>
    if last = some (key a) then dealtWith key last attempts
    else if succeeds then a :: dealtWith key (some (key a)) attempts
    else dealtWith key last attempts

variable [LinearOrder α]

/-- With an occasion that was dealt with before, no later one of the list is of its kind.
Source: none: infrastructure. Kind: L -/
theorem count_dealtWith_of_last (last : Option α)
    (hinj : Set.InjOn key {a | last = some a ∨ ∃ succeeds, (a, succeeds) ∈ attempts})
    (hlast : ∀ l ∈ last, ∀ p ∈ attempts, l ≤ p.1)
    (hsorted : attempts.Pairwise fun p q => p.1 ≤ q.1) (a : α) :
    (dealtWith key (last.map key) attempts).count a =
      if last ≠ some a ∧ (a, true) ∈ attempts then 1 else 0 := by
  induction attempts generalizing last with
  | nil => simp [dealtWith]
  | cons p attempts ih =>
      obtain ⟨b, succeeds⟩ := p
      obtain ⟨hhead, htail⟩ := List.pairwise_cons.mp hsorted
      have hbmem : b ∈ {a | last = some a ∨ ∃ s, (a, s) ∈ (b, succeeds) :: attempts} :=
        Or.inr ⟨succeeds, List.mem_cons_self⟩
      have hrest := ih last (injOn_tail hinj fun l hl => Or.inr hl)
        (fun l hl p hp => hlast l hl p (List.mem_cons_of_mem _ hp)) htail
      unfold dealtWith
      by_cases hskip : last.map key = some (key b)
      · -- the key is remembered, so the occasion is the one that was dealt with last
        obtain ⟨l, hl, hkey⟩ := Option.map_eq_some_iff.mp hskip
        obtain rfl : l = b := hinj (Or.inl hl) hbmem hkey
        rw [if_pos hskip, hrest]
        refine if_congr (and_congr_right fun hne => ?_) rfl rfl
        rw [List.mem_cons, or_iff_right]
        rintro ⟨rfl, -⟩
        exact hne hl
      · have hne : last ≠ some b := by
          rintro rfl
          exact hskip rfl
        rw [if_neg hskip]
        cases succeeds with
        | false =>
            rw [if_neg Bool.false_ne_true, hrest]
            refine if_congr (and_congr_right fun _ => ?_) rfl rfl
            simp
        | true =>
            have hnext := ih (some b)
              (injOn_tail hinj fun l hl => Or.inl (Option.some.inj hl).symm)
              (by rintro l ⟨⟩ p hp; exact hhead p hp) htail
            rw [if_pos rfl, List.count_cons]
            rw [Option.map_some] at hnext
            rw [hnext]
            by_cases hab : b = a
            · subst hab
              simp [hne]
            · have hlater : last = some a → (a, true) ∉ attempts := by
                intro hl hmem
                exact hab (le_antisymm (hhead _ hmem) (hlast a hl _ List.mem_cons_self))
              have hba : ¬ a = b := fun h => hab h.symm
              by_cases hl : last = some a
              · simp [hl, hlater hl, hab]
              · simp [hl, hab, hba]

/-- **An occasion is dealt with once if an attempt at it succeeds, and never otherwise.**
Source: none: infrastructure. Kind: P -/
theorem count_dealtWith (hinj : Set.InjOn key {a | ∃ succeeds, (a, succeeds) ∈ attempts})
    (hsorted : attempts.Pairwise fun p q => p.1 ≤ q.1) (a : α) :
    (dealtWith key none attempts).count a = if (a, true) ∈ attempts then 1 else 0 := by
  have hinj' : Set.InjOn key {a | none = some a ∨ ∃ succeeds, (a, succeeds) ∈ attempts} := by
    simpa using hinj
  have h := count_dealtWith_of_last none hinj' (by rintro l ⟨⟩) hsorted a
  simpa using h

/-! ## A key that is read late -/

section late

variable {β κ : Type} {key mark : β → κ} {due : β → Bool} {last done : Option κ}
  {attempts : List β} {a : β}

/-- **What is done** of the attempts that are due, when `key` is the key of the occasion and `mark` is
the key that is read after it was dealt with. Source: none: infrastructure. Kind: D -/
def doneLate [DecidableEq κ] (key mark : β → κ) (due : β → Bool) :
    Option κ → List β → List β
  | _, [] => []
  | last, a :: attempts =>
    if due a = true ∧ last ≠ some (key a) then a :: doneLate key mark due (some (mark a)) attempts
    else doneLate key mark due last attempts

/-- **No occasion is taken for done**: the first attempt of an occasion that is due, other than the
one in `done`, marks this occasion, or one that is not due any more. Source: none: infrastructure.
Kind: D -/
def InTime (key mark : β → κ) (due : β → Bool) (done : Option κ) (attempts : List β) : Prop :=
  ∀ pre a post, attempts = pre ++ a :: post → due a = true → done ≠ some (key a) →
    (∀ b ∈ pre, due b = true → key b ≠ key a) →
      mark a = key a ∨ ∀ b ∈ post, due b = true → key b ≠ mark a

theorem mem_of_mem_doneLate [DecidableEq κ] (h : a ∈ doneLate key mark due last attempts) :
    a ∈ attempts := by
  induction attempts generalizing last with
  | nil => exact h
  | cons b attempts ih =>
      unfold doneLate at h
      split_ifs at h with hb
      · rcases List.mem_cons.mp h with rfl | h
        · exact List.mem_cons_self
        · exact List.mem_cons_of_mem b (ih h)
      · exact List.mem_cons_of_mem b (ih h)

theorem inTime_nil : InTime key mark due done [] := by
  intro pre a post h
  exact absurd h (by simp)

theorem inTime_cons_of_not_due (ha : ¬ due a = true) :
    InTime key mark due done (a :: attempts) ↔ InTime key mark due done attempts := by
  constructor
  · intro h pre b post heq hb hdone hpre
    refine h (a :: pre) b post (by rw [heq]; rfl) hb hdone fun c hc hdue => ?_
    rcases List.mem_cons.mp hc with rfl | hc
    · exact absurd hdue ha
    · exact hpre c hc hdue
  · intro h pre b post heq hb hdone hpre
    rcases List.cons_eq_append_iff.mp heq with ⟨-, htail⟩ | ⟨pre', rfl, htail⟩
    · obtain ⟨rfl, -⟩ := List.cons.inj htail
      exact absurd hb ha
    · exact h pre' b post htail hb hdone fun c hc => hpre c (List.mem_cons_of_mem a hc)

/-- An attempt that is due is the first one of its occasion, unless the occasion is the one that is
done. Source: none: infrastructure. Kind: L -/
theorem inTime_cons_of_due (ha : due a = true)
    (hdone : done = some (key a) ∨ ∀ b ∈ attempts, done ≠ some (key b)) :
    InTime key mark due done (a :: attempts) ↔
      (done ≠ some (key a) → mark a = key a ∨ ∀ b ∈ attempts, due b = true → key b ≠ mark a) ∧
        InTime key mark due (some (key a)) attempts := by
  constructor
  · intro h
    refine ⟨fun hne => h [] a attempts rfl ha hne (by simp), fun pre b post heq hb hne hpre => ?_⟩
    have hab : key a ≠ key b := fun hab => hne (congrArg some hab)
    refine h (a :: pre) b post (by rw [heq]; rfl) hb ?_ fun c hc hdue => ?_
    · rcases hdone with hdone | hdone
      · rw [hdone]
        exact hne
      · exact hdone b (by rw [heq]; simp)
    · rcases List.mem_cons.mp hc with rfl | hc
      · exact hab
      · exact hpre c hc hdue
  · rintro ⟨hhead, htail⟩ pre b post heq hb hne hpre
    rcases List.cons_eq_append_iff.mp heq with ⟨-, hcons⟩ | ⟨pre', rfl, hcons⟩
    · obtain ⟨rfl, rfl⟩ := List.cons.inj hcons
      exact hhead hne
    · refine htail pre' b post hcons hb ?_ fun c hc => hpre c (List.mem_cons_of_mem a hc)
      exact fun hab => hpre a List.mem_cons_self ha (Option.some.inj hab)

theorem exists_due_cons {d : κ} : (∃ b ∈ a :: attempts, due b = true ∧ key b = d) ↔
    (due a = true ∧ key a = d) ∨ ∃ b ∈ attempts, due b = true ∧ key b = d := by
  simp only [List.mem_cons, or_and_right, exists_or, exists_eq_left]

variable [LinearOrder κ]

/-- The occasion that is remembered is not dealt with. Source: none: infrastructure. Kind: L -/
theorem countP_doneLate_last {m : κ} (hmark : ∀ a ∈ attempts, key a ≤ mark a)
    (hsorted : attempts.Pairwise fun a b => mark a ≤ key b) (hlast : ∀ a ∈ attempts, m ≤ key a) :
    (doneLate key mark due (some m) attempts).countP (fun a => key a = m) = 0 := by
  induction attempts with
  | nil => rfl
  | cons a attempts ih =>
      obtain ⟨hlater, hsorted⟩ := List.pairwise_cons.mp hsorted
      unfold doneLate
      split_ifs with ha
      · -- it is over with the first attempt at a later occasion
        have hlt : m < key a :=
          lt_of_le_of_ne (hlast a List.mem_cons_self) fun heq => ha.2 (congrArg some heq)
        rw [List.countP_eq_zero]
        intro b hb
        have hle : key a ≤ key b := by
          rcases List.mem_cons.mp hb with rfl | hb
          · exact le_refl _
          · exact (hmark a List.mem_cons_self).trans (hlater b (mem_of_mem_doneLate hb))
        simpa using (hlt.trans_le hle).ne'
      · exact ih (fun b hb => hmark b (List.mem_cons_of_mem a hb)) hsorted
          fun b hb => hlast b (List.mem_cons_of_mem a hb)

/-- How often each occasion should be dealt with, when one in `done` is: once, if it is due.
Source: none: infrastructure. Kind: D -/
def DoneOnce (key : β → κ) (due : β → Bool) (done : Option κ) (attempts handled : List β) : Prop :=
  ∀ d, handled.countP (fun a => key a = d) =
    if done ≠ some d ∧ ∃ a ∈ attempts, due a = true ∧ key a = d then 1 else 0

/-- An attempt of the occasion that is done changes nothing. Source: none: infrastructure. Kind: L -/
theorem doneOnce_cons_of_done {handled : List β} (h : done = some (key a)) :
    DoneOnce key due done (a :: attempts) handled ↔ DoneOnce key due done attempts handled := by
  refine forall_congr' fun d => ?_
  have hcond : (done ≠ some d ∧ ∃ b ∈ a :: attempts, due b = true ∧ key b = d) ↔
      done ≠ some d ∧ ∃ b ∈ attempts, due b = true ∧ key b = d := by
    refine and_congr_right fun hne => ?_
    rw [exists_due_cons, or_iff_right]
    rintro ⟨-, rfl⟩
    exact hne h
  rw [if_congr hcond rfl rfl]

/-- An attempt that deals with a new occasion. Source: none: infrastructure. Kind: L -/
theorem doneOnce_cons_of_due {handled : List β} (ha : due a = true) (hnew : done ≠ some (key a))
    (hfresh : ∀ b ∈ attempts, done ≠ some (key b)) :
    DoneOnce key due done (a :: attempts) (a :: handled) ↔
      DoneOnce key due (some (key a)) attempts handled := by
  refine forall_congr' fun d => ?_
  rw [List.countP_cons]
  by_cases had : key a = d
  · subst had
    have hpos : done ≠ some (key a) ∧ ∃ b ∈ a :: attempts, due b = true ∧ key b = key a :=
      ⟨hnew, a, List.mem_cons_self, ha, rfl⟩
    have hneg : ¬ (some (key a) ≠ some (key a) ∧
        ∃ b ∈ attempts, due b = true ∧ key b = key a) := fun h => h.1 rfl
    rw [if_pos hpos, if_neg hneg, if_pos (decide_eq_true rfl)]
    omega
  · have hcond : (done ≠ some d ∧ ∃ b ∈ a :: attempts, due b = true ∧ key b = d) ↔
        some (key a) ≠ some d ∧ ∃ b ∈ attempts, due b = true ∧ key b = d := by
      rw [exists_due_cons, or_iff_right fun h => had h.2]
      constructor
      · rintro ⟨-, hex⟩
        exact ⟨fun heq => had (Option.some.inj heq), hex⟩
      · rintro ⟨-, b, hb, hdue, rfl⟩
        exact ⟨hfresh b hb, b, hb, hdue, rfl⟩
    rw [if_congr hcond rfl rfl, if_neg (by simpa using had), Nat.add_zero]

/-- A first occasion that is not the one that is remembered lies behind it, and all others with it.
Source: none: infrastructure. Kind: L -/
theorem not_last_of_cons (hle : ∀ b ∈ attempts, key a ≤ key b)
    (hlast : ∀ m, last = some m → ∀ b ∈ a :: attempts, m ≤ key b) (ha : last ≠ some (key a)) :
    ∀ b ∈ a :: attempts, last ≠ some (key b) := by
  intro b hb heq
  have hba := hlast (key b) heq a List.mem_cons_self
  have hab : key a ≤ key b := by
    rcases List.mem_cons.mp hb with rfl | hb
    · exact le_refl _
    · exact hle b hb
  exact ha (heq.trans (congrArg some (le_antisymm hba hab)))

/-- Nor are they the occasion that is done, which lies before the remembered one.
Source: none: infrastructure. Kind: L -/
theorem not_done (hlast : ∀ m, last = some m → ∀ b ∈ attempts, m ≤ key b)
    (hdone : ∀ d, done = some d → ∃ m, last = some m ∧ d ≤ m)
    (hnotlast : ∀ b ∈ attempts, last ≠ some (key b)) : ∀ b ∈ attempts, done ≠ some (key b) := by
  intro b hb heq
  obtain ⟨m, hm, hbm⟩ := hdone (key b) heq
  have hmb : m = key b := le_antisymm (hlast m hm b hb) hbm
  exact hnotlast b hb (by rw [hm, hmb])

/-- From any state in which `done` is the occasion that was dealt with last and `last` is what was
remembered of it. Source: none: infrastructure. Kind: L -/
theorem doneOnce_doneLate_from (hmark : ∀ a ∈ attempts, key a ≤ mark a)
    (hsorted : attempts.Pairwise fun a b => mark a ≤ key b)
    (hlast : ∀ m, last = some m → ∀ a ∈ attempts, m ≤ key a)
    (hdone : ∀ d, done = some d → ∃ m, last = some m ∧ d ≤ m) :
    DoneOnce key due done attempts (doneLate key mark due last attempts) ↔
      (done = last ∨ ∀ a ∈ attempts, due a = true → last ≠ some (key a)) ∧
        InTime key mark due done attempts := by
  induction attempts generalizing last done with
  | nil => simp [doneLate, inTime_nil, DoneOnce]
  | cons a attempts ih =>
      obtain ⟨hlater, hsorted⟩ := List.pairwise_cons.mp hsorted
      have hmarks : ∀ b ∈ attempts, key b ≤ mark b :=
        fun b hb => hmark b (List.mem_cons_of_mem a hb)
      have hlasts : ∀ m, last = some m → ∀ b ∈ attempts, m ≤ key b :=
        fun m hm b hb => hlast m hm b (List.mem_cons_of_mem a hb)
      have hle : ∀ b ∈ attempts, key a ≤ key b :=
        fun b hb => (hmark a List.mem_cons_self).trans (hlater b hb)
      unfold doneLate
      by_cases ha : due a = true
      · by_cases hskip : last = some (key a)
        · rw [if_neg fun h => h.2 hskip]
          by_cases hd : done = some (key a)
          · -- a further attempt at the occasion that is done
            have hsame : done = last := hd.trans hskip.symm
            rw [doneOnce_cons_of_done hd, inTime_cons_of_due ha (Or.inl hd), ← hd,
              ih hmarks hsorted hlasts hdone]
            simp [hsame]
          · -- an occasion that is taken for done
            refine iff_of_false (fun hall => ?_) fun h => ?_
            · have hcount := hall (key a)
              rw [if_pos ⟨hd, a, List.mem_cons_self, ha, rfl⟩, hskip,
                countP_doneLate_last hmarks hsorted hle] at hcount
              exact absurd hcount (by decide)
            · rcases h.1 with hsame | hnone
              · exact hd (hsame.trans hskip)
              · exact hnone a List.mem_cons_self ha hskip
        · -- a new occasion
          have hnotlast : ∀ b ∈ a :: attempts, last ≠ some (key b) :=
            not_last_of_cons hle hlast hskip
          have hnew : ∀ b ∈ a :: attempts, done ≠ some (key b) := not_done hlast hdone hnotlast
          have hfresh : ∀ b ∈ attempts, done ≠ some (key b) :=
            fun b hb => hnew b (List.mem_cons_of_mem a hb)
          rw [if_pos ⟨ha, hskip⟩, doneOnce_cons_of_due ha (hnew a List.mem_cons_self) hfresh,
            inTime_cons_of_due ha (Or.inr hfresh),
            ih hmarks hsorted (by rintro m ⟨⟩; exact hlater)
              (by rintro d ⟨⟩; exact ⟨mark a, rfl, hmark a List.mem_cons_self⟩)]
          rw [and_iff_right (Or.inr fun b hb _ => hnotlast b hb)]
          refine and_congr_left fun _ => ?_
          rw [Option.some_inj, eq_comm]
          constructor
          · rintro (heq | hnone) _
            · exact Or.inl heq
            · exact Or.inr fun b hb hdue heq => hnone b hb hdue (congrArg some heq.symm)
          · intro h
            refine (h (hnew a List.mem_cons_self)).imp id fun hnone b hb hdue heq => ?_
            exact hnone b hb hdue (Option.some.inj heq).symm
      · rw [if_neg fun h => ha h.1, inTime_cons_of_not_due ha]
        have hih := ih hmarks hsorted hlasts hdone
        simpa [DoneOnce, ha] using hih

/-- **Each occasion is dealt with once exactly when none is taken for done.**
Source: none: infrastructure. Kind: P -/
theorem doneOnce_doneLate_iff (hmark : ∀ a ∈ attempts, key a ≤ mark a)
    (hsorted : attempts.Pairwise fun a b => mark a ≤ key b) :
    DoneOnce key due none attempts (doneLate key mark due none attempts) ↔
      InTime key mark due none attempts :=
  (doneOnce_doneLate_from hmark hsorted (by rintro m ⟨⟩) (by rintro d ⟨⟩)).trans
    (and_iff_right (Or.inl rfl))

end late

end HaruTrade
