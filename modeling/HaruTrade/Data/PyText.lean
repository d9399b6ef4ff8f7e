import Mathlib.Data.List.DropRight

/-!
# Python's text methods

Methods of `str` as Python documents them, over every text. Nothing here names a particular
program.

* `strip`, `split`, `fields` — `str.strip()`, `str.split(sep)` and `str.split(maxsplit=n)`.
* `upper`, `lower` — `str.upper()` and `str.lower()`, as far as a comparison with ASCII texts sees them.
* `isDigit`, `decimal?` — `str.isdigit()` and the values of the decimal digits of every script.
* `strip_strip` — stripping twice is stripping once, and `strip_upper` — the upper case of a stripped text
  is stripped.
* `split_append_cons` — a text that ends with the separator and a field without one.
-/

namespace HaruTrade

namespace PyText

/-! ## Space and splitting -/

/-- The characters of `str.isspace`. Source: none: infrastructure. Kind: D -/
def isSpace (c : Char) : Bool :=
  c.toNat ∈ [0x9, 0xa, 0xb, 0xc, 0xd, 0x1c, 0x1d, 0x1e, 0x1f, 0x20, 0x85, 0xa0, 0x1680, 0x2000,
    0x2001, 0x2002, 0x2003, 0x2004, 0x2005, 0x2006, 0x2007, 0x2008, 0x2009, 0x200a, 0x2028,
    0x2029, 0x202f, 0x205f, 0x3000]

/-- Remove the characters with `p` from both ends. Source: none: infrastructure. Kind: D -/
def trim (p : Char → Bool) (cs : List Char) : List Char :=
  ((cs.dropWhile p).reverse.dropWhile p).reverse

/-- `str.strip()`. Source: none: infrastructure. Kind: D -/
def strip (s : String) : String := String.ofList (trim isSpace s.toList)

/-- `str.split(sep)` with a separator of one character. Source: none: infrastructure. Kind: D -/
def split (sep : Char) (s : String) : List String := (s.toList.splitOn sep).map String.ofList

/-- `str.split(maxsplit=n)`: at most `n` splits at runs of space; what is left keeps its space but
for the leading one. Source: none: infrastructure. Kind: D -/
def fieldsOf : ℕ → List Char → List (List Char)
  | n, cs =>
    match cs.dropWhile isSpace with
    | [] => []
    | c :: rest =>
      match n with
      | 0 => [c :: rest]
      | n + 1 =>
        (c :: rest).takeWhile (fun c => !isSpace c) ::
          fieldsOf n ((c :: rest).dropWhile fun c => !isSpace c)

/-- `str.split(maxsplit=n)`. Source: none: infrastructure. Kind: D -/
def fields (n : ℕ) (s : String) : List String := (fieldsOf n s.toList).map String.ofList

/-- `str.startswith`. Source: none: infrastructure. Kind: D -/
def startsWith (front s : String) : Bool := front.toList.isPrefixOf s.toList

theorem split_eq_singleton {sep : Char} {s : String} (h : sep ∉ s.toList) : split sep s = [s] := by
  rw [split, List.splitOn_eq_singleton h, List.map_singleton, String.ofList_toList]

/-- Splitting goes on after a separator. Source: none: infrastructure. Kind: L -/
theorem split_append_cons {sep : Char} {s t : String} :
    split sep (s ++ String.ofList (sep :: t.toList)) = split sep s ++ split sep t := by
  rw [split, String.toList_append, String.toList_ofList, List.splitOn_append_cons_self,
    List.map_append, split, split]

/-- What is left when both ends are trimmed has nothing to trim at its front.
Source: none: infrastructure. Kind: L -/
theorem dropWhile_trim {p : Char → Bool} (cs : List Char) : (trim p cs).dropWhile p = trim p cs := by
  have hfront : List.rdropWhile p (cs.dropWhile p) <+: cs.dropWhile p :=
    List.rdropWhile_prefix p _
  have htrim : trim p cs = List.rdropWhile p (cs.dropWhile p) := rfl
  rw [htrim]
  -- what starts without `p` still does when its end is cut off
  refine List.dropWhile_eq_self_iff.mpr fun hlen => ?_
  rw [hfront.getElem hlen]
  exact List.dropWhile_get_zero_not p cs (hlen.trans_le hfront.length_le)

theorem dropWhile_reverse_trim {p : Char → Bool} (cs : List Char) :
    (trim p cs).reverse.dropWhile p = (trim p cs).reverse := by
  unfold trim
  rw [List.reverse_reverse, List.dropWhile_idempotent]

theorem trim_of_ends {p : Char → Bool} {cs : List Char} (hfront : cs.dropWhile p = cs)
    (hback : cs.reverse.dropWhile p = cs.reverse) : trim p cs = cs := by
  unfold trim
  rw [hfront, hback, List.reverse_reverse]

/-- **Stripping twice is stripping once.** Source: none: infrastructure. Kind: L -/
theorem strip_strip (s : String) : strip (strip s) = strip s := by
  unfold strip
  rw [String.toList_ofList, trim_of_ends (dropWhile_trim s.toList) (dropWhile_reverse_trim s.toList)]

/-- Replacing characters leaves a front without `p` as it is, when no character without `p` becomes nothing
or one with `p`. Source: none: infrastructure. Kind: L -/
theorem dropWhile_flatMap {p : Char → Bool} {f : Char → List Char} {cs : List Char}
    (hf : ∀ c, p c = false → f c ≠ [] ∧ ∀ d ∈ f c, p d = false) (h : cs.dropWhile p = cs) :
    (cs.flatMap f).dropWhile p = cs.flatMap f := by
  cases cs with
  | nil => rfl
  | cons c cs =>
      have hc : p c = false := by
        by_contra hc
        rw [List.dropWhile_cons_of_pos (by simpa using hc)] at h
        exact absurd (congrArg List.length h)
          (Nat.ne_of_lt (Nat.lt_succ_of_le (List.dropWhile_suffix p).length_le))
      obtain ⟨hne, hall⟩ := hf c hc
      obtain ⟨d, ds, hd⟩ := List.exists_cons_of_ne_nil hne
      have hpd : p d = false := hall d (hd ▸ List.mem_cons_self)
      rw [List.flatMap_cons, hd, List.cons_append, List.dropWhile_cons_of_neg]
      rw [hpd]
      exact Bool.false_ne_true

theorem trim_flatMap {p : Char → Bool} {f : Char → List Char} {cs : List Char}
    (hf : ∀ c, p c = false → f c ≠ [] ∧ ∀ d ∈ f c, p d = false) :
    trim p ((trim p cs).flatMap f) = (trim p cs).flatMap f := by
  refine trim_of_ends (dropWhile_flatMap hf (dropWhile_trim cs)) ?_
  rw [List.reverse_flatMap]
  refine dropWhile_flatMap (fun c hc => ?_) (dropWhile_reverse_trim cs)
  obtain ⟨hne, hall⟩ := hf c hc
  exact ⟨List.reverse_ne_nil_iff.mpr hne, fun d hd => hall d (List.mem_reverse.mp hd)⟩

/-- Nothing is stripped from a text without space. Source: none: infrastructure. Kind: L -/
theorem strip_of_forall {cs : List Char} (h : ∀ c ∈ cs, isSpace c = false) :
    strip (String.ofList cs) = String.ofList cs := by
  have hdrop : ∀ l : List Char, (∀ c ∈ l, isSpace c = false) → l.dropWhile isSpace = l := by
    intro l hl
    cases l with
    | nil => rfl
    | cons c l =>
        rw [List.dropWhile_cons_of_neg]
        rw [hl c List.mem_cons_self]
        exact Bool.false_ne_true
  unfold strip trim
  rw [String.toList_ofList, hdrop cs h, hdrop cs.reverse fun c hc => h c (List.mem_reverse.mp hc),
    List.reverse_reverse]

/-! ## Case -/

/-- The upper case of a character, where it is ASCII; other characters are left.
Source: none: infrastructure. Kind: D -/
def asciiUpper (c : Char) : List Char :=
  match c.toNat with
  | 0xdf => ['S', 'S']
  | 0x131 => ['I']
  | 0x17f => ['S']
  | 0xfb00 => ['F', 'F']
  | 0xfb01 => ['F', 'I']
  | 0xfb02 => ['F', 'L']
  | 0xfb03 => ['F', 'F', 'I']
  | 0xfb04 => ['F', 'F', 'L']
  | 0xfb05 => ['S', 'T']
  | 0xfb06 => ['S', 'T']
  | _ => [c.toUpper]

/-- `str.upper()`, for a comparison with ASCII texts. Source: none: infrastructure. Kind: D -/
def upper (s : String) : String := String.ofList (s.toList.flatMap asciiUpper)

/-- The upper case of what is no space has none. Source: none: infrastructure. Kind: L -/
theorem isSpace_asciiUpper {c : Char} (hc : isSpace c = false) :
    asciiUpper c ≠ [] ∧ ∀ d ∈ asciiUpper c, isSpace d = false := by
  have hupper : isSpace c.toUpper = false := by
    by_cases hlower : 97 ≤ c.toNat ∧ c.toNat ≤ 122
    · have hall : ∀ n < 26, isSpace (Char.ofNat (97 + n)).toUpper = false := by decide
      have hn := hall (c.toNat - 97) (by omega)
      rwa [Nat.add_sub_cancel' hlower.1, Char.ofNat_toNat] at hn
    · have hsame : c.toUpper = c := dif_neg hlower
      rw [hsame]
      exact hc
  unfold asciiUpper
  split
  case h_11 => exact ⟨List.cons_ne_nil _ _, List.forall_mem_singleton.mpr hupper⟩
  all_goals
    refine ⟨List.cons_ne_nil _ _, ?_⟩
    simp only [List.forall_mem_cons]
    exact ⟨by decide, by simp [isSpace]⟩

/-- **The upper case of a stripped text** has no space at its ends. Source: none: infrastructure. Kind: L -/
theorem strip_upper (s : String) : strip (upper (strip s)) = upper (strip s) := by
  unfold strip upper
  rw [String.toList_ofList, String.toList_ofList, trim_flatMap fun c hc => isSpace_asciiUpper hc]

/-- The lower case of a character, where it is ASCII; other characters are left.
Source: none: infrastructure. Kind: D -/
def asciiLower (c : Char) : List Char :=
  match c.toNat with
  | 0x130 => ['i', Char.ofNat 0x307]
  | 0x212a => ['k']
  | _ => [c.toLower]

/-- `str.lower()`, for a comparison with ASCII texts. Source: none: infrastructure. Kind: D -/
def lower (s : String) : String := String.ofList (s.toList.flatMap asciiLower)

/-! ## Digits -/

/-- The zeros of the scripts with decimal digits: the ten characters from each of them on have the
values 0 to 9 (Unicode 16). Source: none: infrastructure. Kind: D -/
def decimalZeros : List ℕ :=
  [0x30, 0x660, 0x6f0, 0x7c0, 0x966, 0x9e6, 0xa66, 0xae6, 0xb66, 0xbe6, 0xc66, 0xce6, 0xd66, 0xde6,
    0xe50, 0xed0, 0xf20, 0x1040, 0x1090, 0x17e0, 0x1810, 0x1946, 0x19d0, 0x1a80, 0x1a90, 0x1b50,
    0x1bb0, 0x1c40, 0x1c50, 0xa620, 0xa8d0, 0xa900, 0xa9d0, 0xa9f0, 0xaa50, 0xabf0, 0xff10,
    0x104a0, 0x10d30, 0x10d40, 0x11066, 0x110f0, 0x11136, 0x111d0, 0x112f0, 0x11450, 0x114d0,
    0x11650, 0x116c0, 0x116d0, 0x116da, 0x11730, 0x118e0, 0x11950, 0x11bf0, 0x11c50, 0x11d50,
    0x11da0, 0x11f50, 0x16130, 0x16a60, 0x16ac0, 0x16b50, 0x16d70, 0x1ccf0, 0x1d7ce, 0x1d7d8,
    0x1d7e2, 0x1d7ec, 0x1d7f6, 0x1e140, 0x1e2f0, 0x1e4f0, 0x1e5f1, 0x1e950, 0x1fbf0]

/-- The value of a decimal digit. Source: none: infrastructure. Kind: D -/
def decimal? (c : Char) : Option ℕ :=
  (decimalZeros.find? fun z => z ≤ c.toNat ∧ c.toNat < z + 10).map (c.toNat - ·)

/-- First and last of the runs of characters that are digits but no decimal digits, such as
superscripts. Source: none: infrastructure. Kind: D -/
def otherDigits : List (ℕ × ℕ) :=
  [(178, 179), (185, 185), (4969, 4977), (6618, 6618), (8304, 8304), (8308, 8313), (8320, 8329),
    (9312, 9320), (9332, 9340), (9352, 9360), (9450, 9450), (9461, 9469), (9471, 9471),
    (10102, 10110), (10112, 10120), (10122, 10130), (68160, 68163), (69216, 69224),
    (69714, 69722), (127232, 127242)]

/-- `str.isdigit` of one character. Source: none: infrastructure. Kind: D -/
def isDigitChar (c : Char) : Bool :=
  (decimal? c).isSome || otherDigits.any fun run => run.1 ≤ c.toNat ∧ c.toNat ≤ run.2

/-- `str.isdigit`. Source: none: infrastructure. Kind: D -/
def isDigit (s : String) : Bool := s ≠ "" && s.toList.all isDigitChar

/-- The digits `0` to `9`. Source: none: infrastructure. Kind: D -/
def isAsciiDigit (c : Char) : Bool := '0' ≤ c ∧ c ≤ '9'

/-- The number that ASCII digits write. Source: none: infrastructure. Kind: D -/
def natOf (ds : List Char) : ℕ := ds.foldl (fun n c => 10 * n + (c.toNat - 0x30)) 0

end PyText

end HaruTrade
