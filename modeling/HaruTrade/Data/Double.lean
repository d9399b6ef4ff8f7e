import HaruTrade.Data.PyNumber
import Mathlib.Algebra.BigOperators.Group.List.Basic

/-!
# The arithmetic of doubles

A Python `float` is a `PyNum` whose numbers are doubles: every operation rounds its exact result once.
An algorithm that is written with the operations only can be run on rational numbers, where it is
exact, and on doubles. Nothing here names a particular program.

* `PyNum.add`, `PyNum.mul`, `PyNum.div` — the operations, and the instances that make them `+`, `*`
  and `/`.
* `PyNum.square?` — `x ** 2`, which is none where Python raises `OverflowError`.
* `pySum` — the compensated sum that Python's `sum` is on floats.
* `pySum_eq_sum` — on rational numbers it is the sum.
-/

namespace HaruTrade

namespace PyNum

/-! ## Operations -/

/-- The sign of what is not NaN. Source: none: infrastructure. Kind: D -/
def isNegative : PyNum → Bool
  | .nan => false
  | .inf negative => negative
  | .of q => q < 0

/-- `-a`. Source: none: infrastructure. Kind: D -/
def neg : PyNum → PyNum
  | .nan => .nan
  | .inf negative => .inf !negative
  | .of q => .of (-q)

/-- `a + b`. Source: none: infrastructure. Kind: D -/
def add : PyNum → PyNum → PyNum
  | .nan, _ => .nan
  | _, .nan => .nan
  | .inf neg, .inf neg' => if neg = neg' then .inf neg else .nan
  | .inf neg, .of _ => .inf neg
  | .of _, .inf neg => .inf neg
  | .of q, .of r => binary64 (q + r)

/-- `a * b`; infinity times zero is NaN. Source: none: infrastructure. Kind: D -/
def mul (a b : PyNum) : PyNum :=
  match a, b with
  | .nan, _ => .nan
  | _, .nan => .nan
  | .of q, .of r => binary64 (q * r)
  | _, _ => if a = .of 0 ∨ b = .of 0 then .nan else .inf (a.isNegative != b.isNegative)

/-- `a / b` for a divisor other than zero, at which Python raises. Source: none: infrastructure.
Kind: D -/
def div : PyNum → PyNum → PyNum
  | .nan, _ => .nan
  | _, .nan => .nan
  | .inf _, .inf _ => .nan
  | .inf neg, .of r => .inf (neg != decide (r < 0))
  | .of _, .inf _ => .of 0
  | .of q, .of r => binary64 (q / r)

instance : Neg PyNum := ⟨neg⟩
instance : Add PyNum := ⟨add⟩
instance : Sub PyNum := ⟨fun a b => a + -b⟩
instance : Mul PyNum := ⟨mul⟩
instance : Div PyNum := ⟨div⟩
instance : NatCast PyNum := ⟨fun n => binary64 n⟩
instance {n : ℕ} : OfNat PyNum n := ⟨binary64 n⟩
instance : LE PyNum := ⟨fun a b => le a b = true⟩
instance : LT PyNum := ⟨fun a b => lt a b = true⟩
instance : DecidableLE PyNum := fun a b => inferInstanceAs (Decidable (le a b = true))
instance : DecidableLT PyNum := fun a b => inferInstanceAs (Decidable (lt a b = true))
instance : Max PyNum := ⟨pyMax⟩
instance : Min PyNum := ⟨pyMin⟩

/-- The sum of two decimal fractions rounds above the double of their sum. -/
example : binary64 (1 / 10) + binary64 (2 / 10) ≠ binary64 (3 / 10) := by decide +kernel

/-- `x ** 2`: none when a number is squared and the result is no finite double, where Python raises
`OverflowError`. Source: none: infrastructure. Kind: D -/
def square? : PyNum → Option PyNum
  | .nan => some .nan
  | .inf _ => some (.inf false)
  | .of q =>
    match binary64 (q ^ 2) with
    | .of r => some (.of r)
    | _ => none

end PyNum

/-- `abs(x)`. Source: none: infrastructure. Kind: D -/
def pyAbs {F : Type} [Neg F] [Max F] (x : F) : F := max x (-x)

/-! ## Sums -/

section sums

variable {F : Type} [OfNat F 0] [Add F] [Sub F] [Neg F] [LE F] [DecidableLE F] [Max F]
  [DecidableEq F]

/-- A running sum and what its additions have rounded away. Source: none: infrastructure. Kind: D -/
structure CompensatedSum (F : Type) where
  hi : F
  lo : F

/-- Add one number, and the error of this addition to the compensation.
Source: none: infrastructure. Kind: D -/
def CompensatedSum.add (s : CompensatedSum F) (x : F) : CompensatedSum F :=
  let t := s.hi + x
  { hi := t
    lo := s.lo + if pyAbs x ≤ pyAbs s.hi then s.hi - t + x else x - t + s.hi }

/-- The compensation is added when it is finite and not zero; only a finite number is zero when it is
taken from itself. Source: none: infrastructure. Kind: D -/
def CompensatedSum.value (s : CompensatedSum F) : F :=
  if s.lo ≠ 0 ∧ s.lo - s.lo = 0 then s.hi + s.lo else s.hi

/-- `sum(xs)` of a list of floats: the first one is where it starts.
Source: none: infrastructure. Kind: D -/
def pySum : List F → F
  | [] => 0
  | x :: xs => (xs.foldl CompensatedSum.add ⟨x, 0⟩).value

end sums

/-- **An exact addition leaves nothing to compensate.** Source: none: infrastructure. Kind: L -/
theorem CompensatedSum.foldl_add (x : ℚ) (xs : List ℚ) :
    xs.foldl CompensatedSum.add ⟨x, 0⟩ = ⟨x + xs.sum, 0⟩ := by
  induction xs generalizing x with
  | nil => rw [List.foldl_nil, List.sum_nil, add_zero]
  | cons y ys ih =>
      have hadd : CompensatedSum.add ⟨x, 0⟩ y = ⟨x + y, 0⟩ := by
        have hlo : (0 : ℚ) + (if pyAbs y ≤ pyAbs x then x - (x + y) + y else y - (x + y) + x) = 0 := by
          split_ifs
          · ring
          · ring
        exact congrArg (CompensatedSum.mk (x + y)) hlo
      rw [List.foldl_cons, hadd, ih, List.sum_cons, add_assoc]

/-- **On rational numbers `sum` is the sum.** Source: none: infrastructure. Kind: L -/
theorem pySum_eq_sum (xs : List ℚ) : pySum xs = xs.sum := by
  cases xs with
  | nil => rfl
  | cons x xs =>
      show (xs.foldl CompensatedSum.add ⟨x, 0⟩).value = _
      rw [CompensatedSum.foldl_add, List.sum_cons]
      exact if_neg fun h => h.1 rfl

end HaruTrade
