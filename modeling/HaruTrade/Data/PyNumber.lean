import HaruTrade.Data.PyText
import Mathlib.Data.Rat.Floor

/-!
# Numbers that Python reads from text

`int(text)` and `float(text)` as Python documents them, over every text. Nothing here names a
particular program.

* `PyNum` — an `int` or a `float`: a rational number, an infinity or NaN, with Python's comparison.
* `binary64` — the double nearest to a rational number, ties to even.
* `PyNum.ofFloatText`, `PyNum.ofIntText` — `float(text)` and `int(text)`: surrounding space, decimal
  digits of any script, underscores between digits, exponents, `inf` and `nan`.
* `PyNum.le_of_lt_eq_false` — what is not NaN and not below a bound is at least the bound.
* `truncInt` — `int` of a `float`; `truncInt_mono` says that it keeps the order.
-/

namespace HaruTrade

/-! ## Numbers and their order -/

/-- A Python `int` or `float`. A zero has no sign here: no comparison sees one.
Source: none: infrastructure. Kind: D -/
inductive PyNum where
  | nan
  | inf (negative : Bool)
  | of (q : ℚ)
  deriving DecidableEq, Repr

namespace PyNum

/-- Python's `a < b`; it is false when one of them is NaN. Source: none: infrastructure. Kind: D -/
def lt : PyNum → PyNum → Bool
  | .nan, _ => false
  | _, .nan => false
  | .inf neg, .inf neg' => neg && !neg'
  | .inf neg, .of _ => neg
  | .of _, .inf neg => !neg
  | .of q, .of r => q < r

/-- Python's `a <= b`; it is false when one of them is NaN. Source: none: infrastructure. Kind: D -/
def le : PyNum → PyNum → Bool
  | .nan, _ => false
  | _, .nan => false
  | .inf neg, .inf neg' => neg || !neg'
  | .inf neg, .of _ => neg
  | .of _, .inf neg => !neg
  | .of q, .of r => q ≤ r

/-- **What the failing comparison says**: it bounds a number that is not NaN.
Source: none: infrastructure. Kind: L -/
theorem le_of_lt_eq_false {a b : PyNum} (ha : a ≠ .nan) (hb : b ≠ .nan) (h : lt b a = false) :
    le a b = true := by
  match a, b with
  | .nan, _ => exact absurd rfl ha
  | _, .nan => exact absurd rfl hb
  | .inf neg, .inf neg' => cases neg <;> cases neg' <;> first | rfl | exact absurd h (by decide)
  | .inf neg, .of q => cases neg <;> first | rfl | exact absurd h (by simp [lt])
  | .of q, .inf neg => cases neg <;> first | rfl | exact absurd h (by simp [lt])
  | .of q, .of r =>
      have hqr : ¬ r < q := by simpa [lt] using h
      simpa [le] using hqr

/-! ## Largest, smallest and absolute values -/

/-- Python's `max(a, b)`: the second number when it is greater, so that a first NaN stays and a second
one is passed over. Source: none: infrastructure. Kind: D -/
def pyMax (a b : PyNum) : PyNum := if lt a b then b else a

/-- Python's `min(a, b)`. Source: none: infrastructure. Kind: D -/
def pyMin (a b : PyNum) : PyNum := if lt b a then b else a

/-- Python's `abs`. Source: none: infrastructure. Kind: D -/
def abs : PyNum → PyNum
  | .nan => .nan
  | .inf _ => .inf false
  | .of q => .of |q|

section values

variable {q r : ℚ} {x : PyNum}

@[simp] theorem pyMax_of_of : pyMax (.of q) (.of r) = .of (max q r) := by
  by_cases h : q < r
  · simp [pyMax, lt, h, max_eq_right h.le]
  · simp [pyMax, lt, h, max_eq_left (not_lt.mp h)]

@[simp] theorem pyMin_of_of : pyMin (.of q) (.of r) = .of (min q r) := by
  by_cases h : r < q
  · simp [pyMin, lt, h, min_eq_right h.le]
  · simp [pyMin, lt, h, min_eq_left (not_lt.mp h)]

@[simp] theorem pyMax_of_nan : pyMax (.of q) .nan = .of q := rfl

@[simp] theorem pyMin_of_nan : pyMin (.of q) .nan = .of q := rfl

@[simp] theorem pyMax_of_inf : pyMax (.of q) (.inf false) = .inf false := rfl

@[simp] theorem pyMin_of_inf : pyMin (.of q) (.inf false) = .of q := rfl

/-- Nothing is greater than infinity. Source: none: infrastructure. Kind: L -/
@[simp] theorem pyMax_inf : pyMax (.inf false) x = .inf false := by
  cases x <;> rfl

/-- The values of `abs`. Source: none: infrastructure. Kind: D -/
inductive IsAbs : PyNum → Prop
  | nan : IsAbs .nan
  | inf : IsAbs (.inf false)
  | of (q : ℚ) (h : 0 ≤ q) : IsAbs (.of q)

theorem isAbs_abs : IsAbs x.abs := by
  cases x with
  | nan => exact .nan
  | inf negative => exact .inf
  | of q => exact .of |q| (abs_nonneg q)

end values

/-! ## Doubles -/

/-- Round to an integer, ties to the even one. Source: none: infrastructure. Kind: D -/
def roundHalfEven (q : ℚ) : ℤ :=
  if q - ⌊q⌋ < 1 / 2 then ⌊q⌋
  else if 1 / 2 < q - ⌊q⌋ then ⌊q⌋ + 1
  else if ⌊q⌋ % 2 = 0 then ⌊q⌋
  else ⌊q⌋ + 1

/-- The exponent of the leading binary digit of a positive number.
Source: none: infrastructure. Kind: D -/
def log2 (q : ℚ) : ℤ :=
  let e : ℤ := Nat.log2 q.num.natAbs - Nat.log2 q.den
  if q < 2 ^ e then e - 1 else e

/-- The double nearest to a number: 53 significant bits, exponents down to -1074, infinity from
`2 ^ 1024` on. Source: none: infrastructure. Kind: D -/
def binary64 (q : ℚ) : PyNum :=
  if q = 0 then .of 0
  else
    let unit : ℚ := 2 ^ max (log2 |q| - 52) (-1074)
    let rounded : ℚ := roundHalfEven (q / unit) * unit
    if 2 ^ 1024 ≤ |rounded| then .inf (rounded < 0) else .of rounded

end PyNum

namespace PyText

/-! ## What `int` and `float` read first -/

/-- The six characters of C's `isspace`. Source: none: infrastructure. Kind: D -/
def isAsciiSpace (c : Char) : Bool := c.toNat ∈ [0x9, 0xa, 0xb, 0xc, 0xd, 0x20]

/-- Space and decimal digits of other scripts become ASCII, every other character outside ASCII one
that no number has. Source: none: infrastructure. Kind: D -/
def toAscii (c : Char) : Char :=
  if c.toNat < 0x7f then c
  else if isSpace c then ' '
  else
    match decimal? c with
    | some d => Char.ofNat (0x30 + d)
    | none => '?'

/-- The text of a number without its surrounding space. Source: none: infrastructure. Kind: D -/
def numeral (s : String) : List Char := trim isAsciiSpace (s.toList.map toAscii)

/-- A leading sign, and what follows it. Source: none: infrastructure. Kind: D -/
def dropSign : List Char → Bool × List Char
  | '-' :: cs => (true, cs)
  | '+' :: cs => (false, cs)
  | cs => (false, cs)

/-- Take out underscores, which may stand between two digits only; the first argument is the
character before. Source: none: infrastructure. Kind: D -/
def dropUnderscores (before : Char) : List Char → Option (List Char)
  | [] => if before = '_' then none else some []
  | c :: cs =>
    if c = '_' then if isAsciiDigit before then dropUnderscores c cs else none
    else if before = '_' ∧ ¬ isAsciiDigit c then none
    else (dropUnderscores c cs).map (c :: ·)

end PyText

/-! ## The constructors -/

namespace PyNum

/-- The `ValueError` of `int(text)` and `float(text)`. Source: none: infrastructure. Kind: D -/
inductive TextError where
  | notFloat (text : String)
  | notInt (text : String)
  | tooManyDigits (count : ℕ)
  deriving DecidableEq, Repr

open PyText

/-- The largest exponent that is read as written. Source: none: infrastructure. Kind: D -/
def maxExponent : ℕ := 1100000000

/-- The most digits that a float is read from. Source: none: infrastructure. Kind: D -/
def maxFloatDigits : ℕ := 1000000000

/-- The most digits that an integer is read from. Source: none: infrastructure. Kind: D -/
def maxIntDigits : ℕ := 4300

/-- The digits without leading zeros. Source: none: infrastructure. Kind: D -/
def significant (ds : List Char) : List Char := ds.dropWhile (· = '0')

/-- The exponent that ends a float, 0 when the text has ended.
Source: none: infrastructure. Kind: D -/
def exponent? : List Char → Option ℤ
  | [] => some 0
  | e :: cs =>
    let (negative, ds) := dropSign cs
    if (e = 'e' ∨ e = 'E') ∧ ds ≠ [] ∧ ds.all isAsciiDigit then
      let size : ℕ :=
        if 9 < (significant ds).length ∨ maxExponent < natOf ds then maxExponent else natOf ds
      some (if negative then -size else size)
    else none

/-- The number that a decimal without a sign writes: digits with or without a point among them, and
perhaps an exponent. Source: none: infrastructure. Kind: D -/
def decimalNumber? (cs : List Char) : Option ℚ :=
  let whole := cs.takeWhile isAsciiDigit
  let afterWhole := cs.dropWhile isAsciiDigit
  let (frac, rest) :=
    match afterWhole with
    | '.' :: more => (more.takeWhile isAsciiDigit, more.dropWhile isAsciiDigit)
    | _ => ([], afterWhole)
  if whole = [] ∧ frac = [] then none
  else if maxFloatDigits < (significant (whole ++ frac)).length ∨ maxFloatDigits < frac.length then
    none
  else
    (exponent? rest).map fun (e : ℤ) =>
      (natOf (whole ++ frac) : ℚ) * 10 ^ (e - (frac.length : ℤ))

/-- `float(text)`. Source: none: infrastructure. Kind: D -/
def ofFloatText (text : String) : Except TextError PyNum :=
  let number := (dropUnderscores ' ' (numeral text)).bind fun cs =>
    let (negative, body) := dropSign cs
    let word := String.ofList (body.map Char.toLower)
    if word = "inf" ∨ word = "infinity" then some (.inf negative)
    else if word = "nan" then some .nan
    else (decimalNumber? body).map fun q => binary64 (if negative then -q else q)
  match number with
  | some n => .ok n
  | none => .error (.notFloat text)

/-- `int(text)`. Source: none: infrastructure. Kind: D -/
def ofIntText (text : String) : Except TextError ℤ :=
  let (negative, body) := dropSign (numeral text)
  let isPart := fun c => isAsciiDigit c || c = '_'
  match dropUnderscores ' ' (body.takeWhile isPart) with
  | none => .error (.notInt text)
  | some ds =>
    if ds = [] then .error (.notInt text)
    else if maxIntDigits < ds.length then .error (.tooManyDigits ds.length)
    else if body.dropWhile isPart ≠ [] then .error (.notInt text)
    else .ok (if negative then -natOf ds else natOf ds)

/-! ## Printing -/

/-- `f"{number:.nf}"`. Source: none: infrastructure. Kind: D -/
def fixed (n : ℕ) : PyNum → String
  | .nan => "nan"
  | .inf negative => if negative then "-inf" else "inf"
  | .of q =>
    let scaled := (roundHalfEven (|q| * 10 ^ n)).toNat
    let frac := Nat.repr (scaled % 10 ^ n)
    let zeros := String.ofList (List.replicate (n - frac.length) '0')
    (if q < 0 then "-" else "") ++ Nat.repr (scaled / 10 ^ n) ++ "." ++ zeros ++ frac

/-- The text of the `ValueError`; `repr` is Python's `repr` of a text.
Source: none: infrastructure. Kind: D -/
def TextError.text (repr : String → String) : TextError → String
  | .notFloat text => "could not convert string to float: " ++ repr text
  | .notInt text =>
    "invalid literal for int() with base 10: " ++ String.ofList ((repr text).toList.take 200)
  | .tooManyDigits count =>
    "Exceeds the limit (4300 digits) for integer string conversion: value has " ++
      Nat.repr count ++ " digits; use sys.set_int_max_str_digits() to increase the limit"

end PyNum

/-! ## Integers -/

/-- Python's `int` on a `float`: the fraction is dropped. Source: none: infrastructure. Kind: D -/
def truncInt (x : ℚ) : ℤ := if 0 ≤ x then ⌊x⌋ else ⌈x⌉

theorem truncInt_intCast (n : ℤ) : truncInt n = n := by
  simp [truncInt]

example : truncInt (1 / 2) = 0 := by decide +kernel

theorem truncInt_mono {x y : ℚ} (h : x ≤ y) : truncInt x ≤ truncInt y := by
  unfold truncInt
  by_cases hx : 0 ≤ x
  · rw [if_pos hx, if_pos (hx.trans h)]
    exact Int.floor_mono h
  · rw [if_neg hx]
    have hx0 : ⌈x⌉ ≤ 0 := Int.ceil_le.mpr (by simpa using (not_le.mp hx).le)
    split_ifs with hy
    · exact hx0.trans (Int.floor_nonneg.mpr hy)
    · exact Int.ceil_mono h

end HaruTrade
