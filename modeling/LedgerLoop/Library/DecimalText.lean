import LedgerLoop.Library.Decimal
import LedgerLoop.Library.PyInt

/-!
# Decimal numbers as text

`Decimal(s)` of a text, for finite numbers: a sign, digits with a point and an exponent, between blanks;
underscores are ignored and digits are those of every script. Infinities and `NaN` are `none`, and the
bounds of the exponent are left out.
-/

set_option autoImplicit false

namespace LedgerLoop.Library.Decimal

/-- A decimal digit. -/
def isDigit (c : Char) : Bool := (PyInt.decimal c).isSome

/-- What digits denote. -/
def value (cs : List Char) : ℕ := cs.foldl (fun n c => 10 * n + (PyInt.decimal c).getD 0) 0

/-- An optional sign, and whether it is a minus. -/
def signed : List Char → Bool × List Char
  | [] => (false, [])
  | c :: cs => if c = '-' then (true, cs) else if c = '+' then (false, cs) else (false, c :: cs)

/-- An optional exponent. -/
def exponent : List Char → Option ℤ
  | [] => some 0
  | c :: cs =>
    let (negative, ds) := signed cs
    if (c = 'e' ∨ c = 'E') ∧ ds ≠ [] ∧ ds.all isDigit then
      some (if negative then -value ds else value ds)
    else none

/-- `Decimal(s)`. -/
def ofText (s : List Char) : Option Decimal :=
  let (negative, rest) := signed ((PyText.strip PyText.isSpace s).filter (· != '_'))
  let whole := rest.takeWhile isDigit
  let tail := rest.dropWhile isDigit
  let point := tail.head? == some '.'
  let frac := if point then tail.tail.takeWhile isDigit else []
  let after := if point then tail.tail.dropWhile isDigit else tail
  if whole = [] ∧ frac = [] then none
  else
    (exponent after).map fun e =>
      ⟨if negative then -value (whole ++ frac) else value (whole ++ frac), e - frac.length⟩

example : ofText " -1_0.50\n".toList = some ⟨-1050, -2⟩ ∧ ofText ".5e3".toList = some ⟨5, 2⟩ ∧
    ofText "1.".toList = some ⟨1, 0⟩ ∧ ofText "1,5".toList = none := by
  decide

section Plain
variable {c : Char} {whole frac : List Char}

/-- An ASCII digit is a digit and nothing else. -/
lemma isDigit_of_ascii (digit : c.isDigit = true) :
    isDigit c = true ∧ PyText.isSpace c = false ∧ c ≠ '_' ∧ c ≠ '-' ∧ c ≠ '+' := by
  have range := Char.isDigit_iff_toNat.1 digit
  refine ⟨by rw [isDigit, PyInt.decimal_of_isDigit digit]; rfl, PyInt.not_isSpace_of_isDigit digit,
    ?_, ?_, ?_⟩
  all_goals
    rintro rfl
    revert range
    decide

/-- A plain numeral denotes its digits. -/
lemma ofText_plain (negative : Bool) (digits : ∀ c ∈ whole ++ frac, c.isDigit = true) (some_ : whole ≠ []) :
    ofText ((if negative then ['-'] else []) ++ whole ++ '.' :: frac) =
      some ⟨if negative then -value (whole ++ frac) else value (whole ++ frac), -frac.length⟩ := by
  have wholeDigits : ∀ c ∈ whole, isDigit c = true := fun c mem =>
    (isDigit_of_ascii (digits c (List.mem_append_left _ mem))).1
  have fracDigits : ∀ c ∈ frac, isDigit c = true := fun c mem =>
    (isDigit_of_ascii (digits c (List.mem_append_right _ mem))).1
  have units : ∀ c ∈ (if negative then ['-'] else []) ++ whole ++ '.' :: frac,
      PyText.isSpace c = false ∧ c ≠ '_' := by
    intro c mem
    simp only [List.mem_append, List.mem_cons] at mem
    rcases mem with (sign | mem) | rfl | mem
    · cases negative with
      | true => exact List.mem_singleton.1 sign ▸ by decide
      | false => cases sign
    · have := isDigit_of_ascii (digits c (List.mem_append_left _ mem))
      exact ⟨this.2.1, this.2.2.1⟩
    · decide
    · have := isDigit_of_ascii (digits c (List.mem_append_right _ mem))
      exact ⟨this.2.1, this.2.2.1⟩
  have strip := @PyInt.strip_eq_self _ PyText.isSpace fun c mem => (units c mem).1
  have kept : ((if negative then ['-'] else []) ++ whole ++ '.' :: frac).filter (· != '_') = _ :=
    List.filter_eq_self.2 fun c mem => by simpa using (units c mem).2
  have sign : signed ((if negative then ['-'] else []) ++ whole ++ '.' :: frac) =
      (negative, whole ++ '.' :: frac) := by
    cases negative with
    | true => rfl
    | false =>
      cases whole with
      | nil => exact absurd rfl some_
      | cons c cs =>
        have := isDigit_of_ascii (digits c (by simp))
        simp [signed, this.2.2.2]
  have point : isDigit '.' = false := by decide
  have after : frac.dropWhile isDigit = [] := List.dropWhile_eq_nil_iff.2 fracDigits
  have taken : frac.takeWhile isDigit = frac := List.takeWhile_eq_self_iff.2 fracDigits
  rw [ofText, strip, kept, sign]
  simp only [List.takeWhile_append_of_pos wholeDigits, List.dropWhile_append_of_pos wholeDigits]
  simp [point, after, taken, some_, exponent]

end Plain

end LedgerLoop.Library.Decimal
