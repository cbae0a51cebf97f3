import LedgerLoop.Library.DecimalText

/-!
# Rounded decimal numbers, and their text

`a + b` of the default context, and `a.quantize(...)` with `ROUND_HALF_UP`. A number with a few decimal places
is read back from the text `str` gives of it (`ofText_str`).
-/

set_option autoImplicit false

namespace LedgerLoop.Library.Decimal

/-- `a + b`: aligned at the smaller exponent. -/
def add (a b : Decimal) : Decimal :=
  let e := min a.exp b.exp
  fix ⟨a.coeff * 10 ^ (a.exp - e).toNat + b.coeff * 10 ^ (b.exp - e).toNat, e⟩

/-- `a.quantize(Decimal((0, (1,), exp)), rounding=ROUND_HALF_UP)`; `none` is `InvalidOperation`. -/
def quantize (a : Decimal) (exp : ℤ) : Option Decimal :=
  let coeff := ⌊|a.toRat| * 10 ^ (-exp) + 1 / 2⌋
  if coeff < 10 ^ precision then some ⟨if a.coeff < 0 then -coeff else coeff, exp⟩ else none

example : quantize ⟨12345, -3⟩ (-2) = some ⟨1235, -2⟩ ∧ quantize ⟨-12345, -3⟩ (-2) = some ⟨-1235, -2⟩ := by
  decide +kernel

section Text
variable {d d' : Decimal} {n : ℕ} {e : ℤ}

lemma exp_of_quantize (eq : d.quantize e = some d') : d'.exp = e := by
  unfold quantize at eq
  dsimp only at eq
  by_cases fits : ⌊|d.toRat| * 10 ^ (-e) + 1 / 2⌋ < 10 ^ precision
  · rw [if_pos fits] at eq
    rw [← Option.some.inj eq]
  · rw [if_neg fits] at eq
    cases eq

/-- Digits denote the number they are of. -/
lemma value_toDigits : value (Nat.toDigits 10 n) = n := by
  have fold (cs : List Char) (ascii : ∀ c ∈ cs, c.isDigit = true) (k : ℕ) :
      cs.foldl (fun n c => 10 * n + (PyInt.decimal c).getD 0) k = Nat.ofDigitChars 10 cs k := by
    induction cs generalizing k with
    | nil => rfl
    | cons c cs ih =>
      have digit := ascii c List.mem_cons_self
      rw [List.foldl_cons, PyInt.decimal_of_isDigit digit, Option.getD_some, Nat.ofDigitChars_cons]
      exact ih (fun c mem => ascii c (List.mem_cons_of_mem _ mem)) _
  rw [value, fold _ (fun c mem => Nat.isDigit_of_mem_toDigits (by decide) (by decide) mem)]
  exact Nat.ofDigitChars_ten_toDigits

/-- Leading zeros do not count. -/
lemma value_zeros {cs : List Char} : value (List.replicate n '0' ++ cs) = value cs := by
  have zero : 10 * 0 + (PyInt.decimal '0').getD 0 = 0 := by decide
  induction n with
  | zero => rfl
  | succ n ih =>
    rw [List.replicate_succ, List.cons_append, value, List.foldl_cons, zero]
    exact ih

/-- The point stands between digits, as many after it as the exponent says. -/
lemma pointAt_eq (point : d.exp < 0) : ∃ whole frac,
    (pointAt d.digits (d.exp + d.digits.length)).toList = whole ++ '.' :: frac ∧ whole ≠ [] ∧
      (∀ c ∈ whole ++ frac, c.isDigit = true) ∧ value (whole ++ frac) = d.coeff.natAbs ∧
        (frac.length : ℤ) = -d.exp := by
  have ascii : ∀ c ∈ d.digits, c.isDigit = true := fun c mem =>
    Nat.isDigit_of_mem_toDigits (by decide) (by decide) mem
  have some_ : d.digits ≠ [] := Nat.toDigits_ne_nil
  unfold pointAt
  split_ifs with before after
  · -- all digits are behind the point, after zeros
    refine ⟨['0'], List.replicate (-(d.exp + d.digits.length)).toNat '0' ++ d.digits, ?_, by simp, ?_, ?_, ?_⟩
    · simp only [String.toList_append, String.toList_ofList]
      rfl
    · intro c mem
      simp only [List.cons_append, List.nil_append, List.mem_cons, List.mem_append] at mem
      rcases mem with rfl | zero | mem
      · rfl
      · rw [List.eq_of_mem_replicate zero]
        rfl
      · exact ascii c mem
    · rw [← List.append_assoc]
      exact (value_zeros (n := _ + 1)).trans value_toDigits
    · rw [List.length_append, List.length_replicate]
      omega
  · omega
  · have split : d.digits.take (d.exp + d.digits.length).toNat ++ d.digits.drop (d.exp + d.digits.length).toNat =
        d.digits := List.take_append_drop _ _
    refine ⟨d.digits.take (d.exp + d.digits.length).toNat, d.digits.drop (d.exp + d.digits.length).toNat,
      ?_, ?_, ?_, ?_, ?_⟩
    · simp only [String.toList_append, String.toList_ofList, List.append_assoc]
      rfl
    · intro none_
      rcases List.take_eq_nil_iff.1 none_ with zero | nil
      · omega
      · exact some_ nil
    · rwa [split]
    · rw [split]
      exact value_toDigits
    · rw [List.length_drop]
      omega

/-- A number with decimal places and few leading zeros is read back from its text. -/
lemma ofText_str (point : d.exp < 0) (plain : -6 < d.exp + d.digits.length) : ofText d.str.toList = some d := by
  obtain ⟨whole, frac, text, some_, digits, denotes, places⟩ := pointAt_eq point
  have read := ofText_plain (decide (d.coeff < 0)) digits some_
  have signed : d.str.toList = (if decide (d.coeff < 0) = true then ['-'] else []) ++ whole ++ '.' :: frac := by
    rw [str, if_pos ⟨point.le, plain⟩, String.toList_append, text, List.append_assoc]
    congr 1
    by_cases neg : d.coeff < 0
    · rw [sign, if_pos neg, if_pos (decide_eq_true neg)]
      rfl
    · rw [sign, if_neg neg, if_neg (by simpa using neg)]
      rfl
  rw [signed, read, denotes, places, neg_neg]
  have coeff : (if decide (d.coeff < 0) = true then -(d.coeff.natAbs : ℤ) else d.coeff.natAbs) = d.coeff := by
    by_cases neg : d.coeff < 0
    · rw [if_pos (decide_eq_true neg)]
      omega
    · rw [if_neg (by simpa using neg)]
      omega
  rw [coeff]

end Text

end LedgerLoop.Library.Decimal
