import Mathlib

/-! # Text produced by Go's formatting verbs

The three verbs the modelled code uses on data: `%q` (and `strconv.Quote`), `%d` and the
zero-padded `%0wd`.  The two decimal forms are injective (`formatInt_injective`,
`formatPadded_injective`), so a text built from one of them determines the number.  Which
characters a quoted text keeps is left open (`IsPrint`). -/

namespace AcceleratorFabric.GoText

/-- `strconv.IsPrint`; which characters are printable is a matter of the tables of Unicode. -/
class IsPrint where
  isPrint : Char → Bool

/-- The printable characters of ASCII and no others. -/
@[reducible] def asciiPrint : IsPrint where
  isPrint c := decide (32 ≤ c.toNat ∧ c.toNat < 127)

/-- The last lower-case hexadecimal digits of a number, as many as the width. -/
def hexDigits : ℕ → ℕ → List Char
  | 0, _ => []
  | width + 1, n => hexDigits width (n / 16) ++ [Nat.digitChar (n % 16)]

/-- One character of a quoted text.  The quote and the backslash are always escaped, all others
if they are not printable. -/
def quoteChar [IsPrint] (c : Char) : List Char :=
  if c = '"' ∨ c = '\\' then ['\\', c]
  else if IsPrint.isPrint c then [c]
  else match c.toNat with
    | 7 => ['\\', 'a']
    | 8 => ['\\', 'b']
    | 9 => ['\\', 't']
    | 10 => ['\\', 'n']
    | 11 => ['\\', 'v']
    | 12 => ['\\', 'f']
    | 13 => ['\\', 'r']
    | n =>
        if n < 32 ∨ n = 127 then '\\' :: 'x' :: hexDigits 2 n
        else if n < 65536 then '\\' :: 'u' :: hexDigits 4 n
        else '\\' :: 'U' :: hexDigits 8 n

/-- `strconv.Quote`, also the verb `%q`. -/
def quote [IsPrint] (s : String) : String :=
  String.ofList ('"' :: (s.toList.flatMap quoteChar ++ ['"']))

/-- The verb `%d`. -/
def formatInt (n : ℤ) : String :=
  String.ofList (if n < 0 then '-' :: Nat.toDigits 10 n.natAbs else Nat.toDigits 10 n.natAbs)

/-- The digits of the verb `%0wd` after the sign. -/
def paddedDigits (width n : ℕ) : List Char :=
  List.replicate (width - (Nat.toDigits 10 n).length) '0' ++ Nat.toDigits 10 n

/-- The verb `%0wd`: zeros go between the sign and the digits, the sign counts as one column. -/
def formatPadded (width : ℕ) (n : ℤ) : String :=
  String.ofList (if n < 0 then '-' :: paddedDigits (width - 1) n.natAbs
    else paddedDigits width n.natAbs)

/-! ### Injectivity -/

theorem ofDigitChars_paddedDigits (width n : ℕ) :
    Nat.ofDigitChars 10 (paddedDigits width n) 0 = n := by
  unfold paddedDigits
  rw [Nat.ofDigitChars_append, Nat.ofDigitChars_replicate_zero, Nat.mul_zero,
    Nat.ofDigitChars_ten_toDigits]

theorem paddedDigits_zero (n : ℕ) : paddedDigits 0 n = Nat.toDigits 10 n := by
  simp [paddedDigits]

theorem dash_not_mem_paddedDigits (width n : ℕ) : '-' ∉ paddedDigits width n := by
  intro h
  unfold paddedDigits at h
  rcases List.mem_append.mp h with h | h
  · have := List.eq_of_mem_replicate h
    exact absurd this (by decide)
  · have := Nat.isDigit_of_mem_toDigits (by decide) (by decide) h
    exact absurd this (by decide)

/-- A signed decimal text determines its number, whatever the padding. -/
theorem signed_injective {w₁ w₂ : ℕ} {m n : ℤ}
    (h : (if m < 0 then '-' :: paddedDigits w₁ m.natAbs else paddedDigits w₂ m.natAbs) =
      (if n < 0 then '-' :: paddedDigits w₁ n.natAbs else paddedDigits w₂ n.natAbs)) : m = n := by
  have key : ∀ {w : ℕ} {a b : ℕ}, paddedDigits w a = paddedDigits w b → a = b := by
    intro w a b e
    rw [← ofDigitChars_paddedDigits w a, e, ofDigitChars_paddedDigits]
  split_ifs at h with hm hn hn
  · have := key (List.cons.inj h).2
    omega
  · exact absurd (h ▸ List.mem_cons_self) (dash_not_mem_paddedDigits w₂ n.natAbs)
  · exact absurd (h ▸ List.mem_cons_self) (dash_not_mem_paddedDigits w₂ m.natAbs)
  · have := key h
    omega

theorem formatInt_injective {m n : ℤ} (h : formatInt m = formatInt n) : m = n := by
  unfold formatInt at h
  have h' := String.ofList_injective h
  simp only [← paddedDigits_zero] at h'
  exact signed_injective h'

theorem formatPadded_injective {width : ℕ} {m n : ℤ}
    (h : formatPadded width m = formatPadded width n) : m = n :=
  signed_injective (String.ofList_injective h)

end AcceleratorFabric.GoText
