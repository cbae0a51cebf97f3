import LedgerLoop.Library.PyText
import Mathlib.Data.List.TakeWhile

/-!
# Decimal integers as text

`int(s)` and `str(n)` of Python. `int` takes more than `str` gives: blanks around the number, a plus sign,
leading zeros, single underscores between digits and the decimal digits of every script. It takes no
dot (`dot_notMem_of_int`), and it reads back what `str` gives (`int_str`).

The digits are those of Unicode 14, the version of Python 3.11.
-/

set_option autoImplicit false

namespace LedgerLoop.Library.PyInt

/-- The zeros of the scripts; the other nine digits follow each of them. -/
def zeros : List ℕ :=
  [0x30, 0x660, 0x6F0, 0x7C0, 0x966, 0x9E6, 0xA66, 0xAE6, 0xB66, 0xBE6, 0xC66, 0xCE6, 0xD66, 0xDE6,
    0xE50, 0xED0, 0xF20, 0x1040, 0x1090, 0x17E0, 0x1810, 0x1946, 0x19D0, 0x1A80, 0x1A90, 0x1B50,
    0x1BB0, 0x1C40, 0x1C50, 0xA620, 0xA8D0, 0xA900, 0xA9D0, 0xA9F0, 0xAA50, 0xABF0, 0xFF10, 0x104A0,
    0x10D30, 0x11066, 0x110F0, 0x11136, 0x111D0, 0x112F0, 0x11450, 0x114D0, 0x11650, 0x116C0,
    0x11730, 0x118E0, 0x11950, 0x11C50, 0x11D50, 0x11DA0, 0x16A60, 0x16AC0, 0x16B50, 0x1D7CE,
    0x1D7D8, 0x1D7E2, 0x1D7EC, 0x1D7F6, 0x1E140, 0x1E2F0, 0x1E950, 0x1FBF0]

/-- `unicodedata.decimal`. -/
def decimal (c : Char) : Option ℕ :=
  (zeros.find? fun z => z ≤ c.toNat && c.toNat < z + 10).map fun z => c.toNat - z

/-- Digits with single underscores between them; `value` is what the digits before denote. -/
def digits (value : ℕ) : List Char → Option ℕ
  | [] => some value
  | '_' :: c :: cs => (decimal c).bind fun d => digits (10 * value + d) cs
  | c :: cs => (decimal c).bind fun d => digits (10 * value + d) cs

/-- `sys.get_int_max_str_digits()`. -/
def maxStrDigits : ℕ := 4300

/-- One digit, then more digits, and not too many. -/
def number (cs : List Char) : Option ℕ :=
  if maxStrDigits < (cs.filter (· != '_')).length then none
  else
    match cs with
    | [] => none
    | c :: cs => (decimal c).bind fun d => digits d cs

/-- `int(s)`; `none` is a `ValueError`. -/
def int (s : List Char) : Option ℤ :=
  match PyText.strip PyText.isIntSpace s with
  | '+' :: cs => (number cs).map fun n : ℕ => (n : ℤ)
  | '-' :: cs => (number cs).map fun n : ℕ => -(n : ℤ)
  | cs => (number cs).map fun n : ℕ => (n : ℤ)

/-- `str(n)`. -/
def str (n : ℤ) : List Char :=
  if n < 0 then '-' :: (Nat.repr n.natAbs).toList else (Nat.repr n.natAbs).toList

/-- Spellings of one number, and texts that are none. -/
example : int "1_0".toList = some 10 ∧ int " +010\t".toList = some 10 ∧
    int "\u0661\u0660".toList = some 10 ∧ int "1__0".toList = none ∧ int "1_".toList = none ∧
    int "1.0".toList = none := by decide

variable {c : Char} {cs s : List Char} {value n : ℕ} {i : ℤ}

/-- Digits are digits and underscores. -/
lemma of_digits (h : digits value cs = some n) : ∀ c ∈ cs, c = '_' ∨ (decimal c).isSome := by
  induction value, cs using digits.induct with
  | case1 => simp
  | case2 value c cs ih =>
    simp only [digits, Option.bind_eq_some_iff] at h
    obtain ⟨d, eq, rest⟩ := h
    intro c' mem
    rcases List.mem_cons.1 mem with rfl | mem
    · exact .inl rfl
    rcases List.mem_cons.1 mem with rfl | mem
    · exact .inr (by simp [eq])
    · exact ih d rest c' mem
  | case3 value c cs other ih =>
    rw [digits.eq_3 _ _ _ other, Option.bind_eq_some_iff] at h
    obtain ⟨d, eq, rest⟩ := h
    intro c' mem
    rcases List.mem_cons.1 mem with rfl | mem
    · exact .inr (by simp [eq])
    · exact ih d rest c' mem

lemma of_number (h : number cs = some n) : ∀ c ∈ cs, c = '_' ∨ (decimal c).isSome := by
  unfold number at h
  split_ifs at h
  cases cs with
  | nil => simp
  | cons c cs =>
    simp only [Option.bind_eq_some_iff] at h
    obtain ⟨d, eq, rest⟩ := h
    intro c' mem
    rcases List.mem_cons.1 mem with rfl | mem
    · exact .inr (by simp [eq])
    · exact of_digits rest c' mem

/-- What is not stripped stays. -/
lemma mem_strip {drop : Char → Bool} (mem : c ∈ s) (kept : drop c = false) : c ∈ PyText.strip drop s := by
  have keep {s : List Char} (mem : c ∈ s) : c ∈ s.dropWhile drop := by
    rw [← List.takeWhile_append_dropWhile (p := drop) (l := s), List.mem_append] at mem
    refine mem.resolve_left fun dropped => ?_
    rw [List.mem_takeWhile_imp dropped] at kept
    cases kept
  rw [PyText.strip, List.mem_reverse]
  exact keep (List.mem_reverse.2 (keep mem))

/-- A number has no dot. -/
lemma dot_notMem_of_int (h : int s = some i) : '.' ∉ s := by
  have no_dot {cs : List Char} {n : ℕ} (h : number cs = some n) : '.' ∉ cs := fun mem => by
    rcases of_number h _ mem with eq | digit
    · cases eq
    · revert digit
      decide
  intro mem
  have kept : '.' ∈ PyText.strip PyText.isIntSpace s := mem_strip mem (by decide)
  unfold int at h
  split at h
  · rename_i cs eq
    obtain ⟨n, read, _⟩ := Option.map_eq_some_iff.1 h
    rw [eq] at kept
    exact no_dot read ((List.mem_cons.1 kept).resolve_left (by decide))
  · rename_i cs eq
    obtain ⟨n, read, _⟩ := Option.map_eq_some_iff.1 h
    rw [eq] at kept
    exact no_dot read ((List.mem_cons.1 kept).resolve_left (by decide))
  · obtain ⟨n, read, _⟩ := Option.map_eq_some_iff.1 h
    exact no_dot read kept

/-- A text without blanks is not stripped. -/
lemma strip_eq_self {drop : Char → Bool} (none : ∀ c ∈ s, drop c = false) : PyText.strip drop s = s := by
  have keep {s : List Char} (none : ∀ c ∈ s, drop c = false) : s.dropWhile drop = s := by
    rw [List.dropWhile_eq_self_iff]
    exact fun pos => by simpa using none _ (List.getElem_mem pos)
  rw [PyText.strip, keep none, keep fun c mem => none c (List.mem_reverse.1 mem), List.reverse_reverse]

lemma decimal_of_isDigit (digit : c.isDigit = true) : decimal c = some (c.toNat - '0'.toNat) := by
  have range := Char.isDigit_iff_toNat.1 digit
  have first : decide (48 ≤ c.toNat) && decide (c.toNat < 48 + 10) := by
    simp only [Bool.and_eq_true, decide_eq_true_eq]
    exact ⟨range.1, Nat.lt_succ_of_le range.2⟩
  rw [decimal, zeros, List.find?_cons, first]
  rfl

/-- ASCII digits denote what Lean reads in them. -/
lemma digits_eq (ascii : ∀ c ∈ cs, c.isDigit = true) :
    digits value cs = some (Nat.ofDigitChars 10 cs value) := by
  induction cs generalizing value with
  | nil => rfl
  | cons c cs ih =>
    have digit := ascii c List.mem_cons_self
    have plain : ∀ c' cs', c = '_' → cs = c' :: cs' → False := by
      rintro _ _ rfl _
      cases digit
    rw [digits.eq_3 _ _ _ plain, decimal_of_isDigit digit, Option.bind_some,
      ih fun c mem => ascii c (List.mem_cons_of_mem _ mem), Nat.ofDigitChars_cons]

/-- A numeral is read back. -/
lemma number_repr (small : n < 10 ^ maxStrDigits) : number (Nat.repr n).toList = some n := by
  have ascii : ∀ c ∈ Nat.toDigits 10 n, c.isDigit = true := fun c mem =>
    Nat.isDigit_of_mem_toDigits (by decide) (by decide) mem
  have short : ¬maxStrDigits < ((Nat.toDigits 10 n).filter (· != '_')).length :=
    not_lt.2 ((List.length_filter_le _ _).trans
      ((Nat.length_toDigits_le_iff (by decide) (by decide)).2 small))
  rw [Nat.toList_repr]
  unfold number
  rw [if_neg short]
  have read := @digits_eq (Nat.toDigits 10 n) 0 ascii
  rw [Nat.ofDigitChars_ten_toDigits] at read
  cases eq : Nat.toDigits 10 n with
  | nil => exact absurd eq Nat.toDigits_ne_nil
  | cons c cs =>
    rw [eq] at read ascii
    have plain : ∀ c' cs', c = '_' → cs = c' :: cs' → False := by
      rintro _ _ rfl _
      cases ascii _ List.mem_cons_self
    rw [digits.eq_3 _ _ _ plain] at read
    simpa using read

lemma isDigit_of_mem_repr (mem : c ∈ (Nat.repr n).toList) : c.isDigit = true := by
  rw [Nat.toList_repr] at mem
  exact Nat.isDigit_of_mem_toDigits (by decide) (by decide) mem

/-- A numeral consists of digits, after a minus sign if there is one. -/
lemma of_mem_str (mem : c ∈ str i) : c = '-' ∨ c.isDigit = true := by
  unfold str at mem
  split_ifs at mem
  · exact (List.mem_cons.1 mem).imp_right isDigit_of_mem_repr
  · exact .inr (isDigit_of_mem_repr mem)

/-- A digit is no blank. -/
lemma not_isSpace_of_isDigit (digit : c.isDigit = true) : PyText.isSpace c = false := by
  have range := Char.isDigit_iff_toNat.1 digit
  have low : '0'.toNat = 48 := rfl
  have high : '9'.toNat = 57 := rfl
  rw [low, high] at range
  rw [PyText.isSpace, ← Bool.not_eq_true]
  simp only [Bool.or_eq_true, Bool.and_eq_true, decide_eq_true_eq, beq_iff_eq]
  omega

/-- No blank is in a numeral. -/
lemma not_isSpace_of_mem_str (mem : c ∈ str i) : PyText.isSpace c = false := by
  rcases of_mem_str mem with rfl | digit
  · decide
  · exact not_isSpace_of_isDigit digit

/-- `int(str(n))` is `n`. -/
lemma int_str (small : i.natAbs < 10 ^ maxStrDigits) : int (str i) = some i := by
  have blank : ∀ c ∈ str i, PyText.isIntSpace c = false := fun c mem => by
    rw [PyText.isIntSpace, not_isSpace_of_mem_str mem, Bool.false_and]
  rw [int, strip_eq_self blank]
  unfold str
  split_ifs with neg
  · change (number _).map _ = _
    rw [number_repr small, Option.map_some]
    congr 1
    omega
  · have digit {c : Char} {cs : List Char} (eq : (Nat.repr i.natAbs).toList = c :: cs) :
        c.isDigit = true := isDigit_of_mem_repr (eq ▸ List.mem_cons_self)
    split
    · rename_i eq
      cases digit eq
    · rename_i eq
      cases digit eq
    · rw [number_repr small, Option.map_some]
      congr 1
      omega

/-- A numeral is as long as the number has digits, and one longer with its sign. -/
lemma length_str {k : ℕ} (pos : 0 < k) (small : i.natAbs < 10 ^ k) : (str i).length ≤ k + 1 := by
  have digits : (Nat.repr i.natAbs).toList.length ≤ k := by
    rw [Nat.toList_repr]
    exact (Nat.length_toDigits_le_iff (by decide) pos).2 small
  unfold str
  split_ifs
  · exact Nat.succ_le_succ digits
  · exact digits.trans (Nat.le_succ k)

/-- Numbers that `int` reads are told apart by their numerals. -/
lemma str_inj {j : ℤ} (small : i.natAbs < 10 ^ maxStrDigits) (small' : j.natAbs < 10 ^ maxStrDigits) :
    str i = str j ↔ i = j := by
  constructor
  · intro same
    have read := int_str small
    rw [same, int_str small'] at read
    exact (Option.some.inj read).symm
  · rintro rfl
    rfl

end LedgerLoop.Library.PyInt
