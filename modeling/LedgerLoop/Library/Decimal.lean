import LedgerLoop.Library.Binary64

/-!
# Decimal numbers and numeric rendering

Python's `decimal.Decimal` for finite numbers: a signed coefficient and a base-10 exponent, with the
arithmetic of the default context (28 significant digits, ties to even) and the two renderings the
program uses, `str(d)` and `format(d, "+f")`. A sign on zero is not represented.

`formatFixed` is `format(x, ".nf")` of a float: the exact value of the double, rounded half-even.
-/

set_option autoImplicit false

namespace LedgerLoop.Library

/-- `Decimal`: `coeff * 10 ^ exp`. -/
structure Decimal where
  coeff : ℤ
  exp : ℤ
deriving DecidableEq, Repr

namespace Decimal

/-- Number of significant digits kept by the default context. -/
def precision : ℕ := 28

/-- The number denoted. -/
def toRat (d : Decimal) : ℚ := d.coeff * (10 : ℚ) ^ d.exp

/-- Decimal digits of the coefficient. -/
def digits (d : Decimal) : List Char := Nat.toDigits 10 d.coeff.natAbs

/-- Drop `k` digits of the coefficient, rounding half to even. -/
def dropDigits (d : Decimal) (k : ℕ) : Decimal :=
  ⟨Binary64.halfEven (d.coeff / (10 : ℚ) ^ k), d.exp + k⟩

/-- Round a result to the context's precision; a carry may add one digit, dropped exactly. -/
def fix (d : Decimal) : Decimal :=
  let d' := d.dropDigits (d.digits.length - precision)
  d'.dropDigits (d'.digits.length - precision)

/-- A coefficient within the precision is kept. -/
lemma fix_eq_self {d : Decimal} (fits : |d.coeff| < 10 ^ 28) : d.fix = d := by
  have short : d.digits.length - precision = 0 := by
    have bound : d.coeff.natAbs < 10 ^ 28 := by
      have := Int.natCast_natAbs d.coeff
      zify; omega
    have le := (Nat.length_toDigits_le_iff (by decide) (by decide)).2 bound
    unfold digits precision
    omega
  have kept : d.dropDigits 0 = d := by
    simp [dropDigits, Binary64.halfEven_intCast]
  simp only [fix, short, kept]

/-- Dropping the digits beyond the precision leaves a coefficient of full length. -/
lemma le_dropDigits {d : Decimal} (long : 10 ^ 27 ≤ |d.coeff|) :
    10 ^ 27 ≤ |(d.dropDigits (d.digits.length - precision)).coeff| ∧
      d.exp ≤ (d.dropDigits (d.digits.length - precision)).exp := by
  set k := d.digits.length - precision with k_def
  have big : (10 : ℤ) ^ (27 + k) ≤ |d.coeff| := by
    by_cases zero : k = 0
    · simpa [zero] using long
    · by_contra less
      have bound : d.coeff.natAbs < 10 ^ (27 + k) := by
        have := Int.natCast_natAbs d.coeff
        zify; omega
      have le := (Nat.length_toDigits_le_iff (by decide) (by omega)).2 bound
      unfold digits precision at k_def
      omega
  have pos : (0 : ℚ) < 10 ^ k := by positivity
  refine ⟨?_, by simp [dropDigits]⟩
  rw [pow_add, le_abs] at big
  rw [le_abs]
  rcases big with big | big
  · left
    apply Binary64.le_halfEven
    rw [le_div_iff₀ pos]
    exact_mod_cast big
  · right
    rw [le_neg]
    apply Binary64.halfEven_le
    rw [div_le_iff₀ pos, Int.cast_neg, neg_mul]
    exact_mod_cast le_neg.1 big

lemma le_fix {d : Decimal} (long : 10 ^ 27 ≤ |d.coeff|) :
    10 ^ 27 ≤ |d.fix.coeff| ∧ d.exp ≤ d.fix.exp := by
  obtain ⟨long', exp'⟩ := le_dropDigits long
  obtain ⟨long'', exp''⟩ := le_dropDigits long'
  exact ⟨long'', exp'.trans exp''⟩

/-- `a.scaleb(shift)`: the exponent shifted. -/
def scaleb (a : Decimal) (shift : ℤ) : Decimal := fix ⟨a.coeff, a.exp + shift⟩

/-- `abs(a)`. -/
def abs (a : Decimal) : Decimal := fix ⟨|a.coeff|, a.exp⟩

/-- `a * b`. -/
def mul (a b : Decimal) : Decimal := fix ⟨a.coeff * b.coeff, a.exp + b.exp⟩

/-- `a - b`: aligned at the smaller exponent. -/
def sub (a b : Decimal) : Decimal :=
  let e := min a.exp b.exp
  fix ⟨a.coeff * 10 ^ (a.exp - e).toNat - b.coeff * 10 ^ (b.exp - e).toNat, e⟩

/-- `max(a, b)`: the first of two equal values. -/
def max (a b : Decimal) : Decimal := if a.toRat < b.toRat then b else a

/-- Sign of a rendering. -/
def sign (d : Decimal) : String := if d.coeff < 0 then "-" else ""

/-- Coefficient digits with the decimal point after the first `dotplace` of them. -/
def pointAt (digits : List Char) (dotplace : ℤ) : String :=
  if dotplace ≤ 0 then
    "0." ++ String.ofList (List.replicate (-dotplace).toNat '0' ++ digits)
  else if digits.length ≤ dotplace then
    String.ofList (digits ++ List.replicate (dotplace.toNat - digits.length) '0')
  else
    String.ofList (digits.take dotplace.toNat) ++ "." ++
      String.ofList (digits.drop dotplace.toNat)

/-- `str(d)`: plain notation while the exponent is small, scientific otherwise. -/
def str (d : Decimal) : String :=
  let leftdigits := d.exp + d.digits.length
  if d.exp ≤ 0 ∧ -6 < leftdigits then
    d.sign ++ pointAt d.digits leftdigits
  else
    let e := leftdigits - 1
    d.sign ++ pointAt d.digits 1 ++ "E" ++ (if e < 0 then "" else "+") ++ toString e

/-- `format(d, "+f")`: always signed, never scientific. -/
def formatSigned (d : Decimal) : String :=
  (if d.coeff < 0 then "-" else "+") ++ pointAt d.digits (d.exp + d.digits.length)

example : str ⟨100000, -2⟩ = "1000.00" := by decide
example : formatSigned ⟨-500, -2⟩ = "-5.00" := by decide

end Decimal

/-- `format(x, ".nf")` of a float with value `x`. -/
def formatFixed (n : ℕ) (x : ℚ) : String :=
  let scaled := (Binary64.halfEven (|x| * 10 ^ n)).toNat
  let whole := toString (scaled / 10 ^ n)
  let frac := Nat.toDigits 10 (scaled % 10 ^ n)
  (if x < 0 then "-" else "") ++ whole ++
    (if n = 0 then "" else "." ++ String.ofList (List.replicate (n - frac.length) '0' ++ frac))

end LedgerLoop.Library
