import Mathlib.Data.List.TakeWhile
import Mathlib.Tactic

/-!
# JavaScript text

A JavaScript string is the list of its UTF-16 code units, so that `length` and `slice` count what the
language counts, and a surrogate may stand alone. The methods and regular expression classes here are
those of the standard: `\s` and `trim` know the same white space and line terminators, `\d` the ten
ASCII digits.
-/

set_option autoImplicit false

namespace LedgerLoop.Library

/-- A string: its UTF-16 code units. -/
abbrev JsText := List UInt16

namespace JsText

/-- The code unit of a character of the basic plane. -/
def unit (c : Char) : UInt16 := c.toNat.toUInt16

/-- A literal of such characters. -/
def lit (s : String) : JsText := s.toList.map unit

/-- `\s`: white space and line terminators. -/
def isSpace (u : UInt16) : Bool :=
  (9 ≤ u && u ≤ 13) || u == 0x20 || u == 0xA0 || u == 0x1680 || (0x2000 ≤ u && u ≤ 0x200A) ||
    u == 0x2028 || u == 0x2029 || u == 0x202F || u == 0x205F || u == 0x3000 || u == 0xFEFF

/-- `\d`. -/
def isDigit (u : UInt16) : Bool := unit '0' ≤ u && u ≤ unit '9'

/-- `s.trim()`. -/
def trim (s : JsText) : JsText := ((s.dropWhile isSpace).reverse.dropWhile isSpace).reverse

/-- The value of a digit. -/
def digitValue (u : UInt16) : ℕ := u.toNat - 48

/-- What a text of digits denotes. -/
def number (s : JsText) : ℕ := s.foldl (fun n u => 10 * n + digitValue u) 0

/-- The digit of a value. -/
def digit (d : ℕ) : UInt16 := (48 + d).toUInt16

/-- `String(n)` of a natural number below `10 ^ 21`. -/
def ofNat (n : ℕ) : JsText := if n = 0 then [unit '0'] else (Nat.digits 10 n).reverse.map digit

/-- `String(i)` of an integer of that size. -/
def ofInt (i : ℤ) : JsText := if i < 0 then unit '-' :: ofNat i.natAbs else ofNat i.natAbs

/-- The first half of a surrogate pair. -/
def isHigh (u : UInt16) : Bool := 0xD800 ≤ u && u ≤ 0xDBFF

/-- The second half. -/
def isLow (u : UInt16) : Bool := 0xDC00 ≤ u && u ≤ 0xDFFF

/-- The character of a unit that is no surrogate. -/
def toChar (u : UInt16) : Char := Char.ofNat u.toNat

/-- The characters of a text; `none` if a surrogate stands alone. -/
def decode : JsText → Option (List Char)
  | [] => some []
  | [u] => if isHigh u || isLow u then none else some [toChar u]
  | u :: v :: rest =>
    if isHigh u && isLow v then
      (decode rest).map (Char.ofNat (0x10000 + (u.toNat - 0xD800) * 0x400 + (v.toNat - 0xDC00)) :: ·)
    else if isHigh u || isLow u then none
    else (decode (v :: rest)).map (toChar u :: ·)

example : decode [0xD83D, 0xDE00, 0x41] = some [Char.ofNat 0x1F600, 'A'] ∧ decode [0x41, 0xD83D] = none := by
  decide

example : trim (lit " 12.50\t") = lit "12.50" ∧ ofInt (-1204) = lit "-1204" ∧ number (lit "0120") = 120 := by
  decide

section Digits
variable {d n : ℕ} {u : UInt16} {s t : JsText}

lemma digitValue_digit (lt : d < 10) : digitValue (digit d) = d := by
  interval_cases d <;> rfl

lemma isDigit_digit (lt : d < 10) : isDigit (digit d) = true := by
  interval_cases d <;> rfl

lemma toNat_of_isDigit (isDigit : isDigit u = true) : 48 ≤ u.toNat ∧ u.toNat ≤ 57 := by
  simp only [JsText.isDigit, Bool.and_eq_true, decide_eq_true_eq, UInt16.le_iff_toNat_le] at isDigit
  exact isDigit

lemma digitValue_lt (digit : isDigit u = true) : digitValue u < 10 := by
  have := toNat_of_isDigit digit
  unfold digitValue
  omega

/-- A digit is neither white space nor any other character. -/
lemma not_isSpace_of_isDigit (digit : isDigit u = true) : isSpace u = false := by
  obtain ⟨lo, hi⟩ := toNat_of_isDigit digit
  have eq : u.toNat.toUInt16 = u := by simp
  rw [← eq]
  interval_cases u.toNat <;> decide

/-- Nothing is trimmed where no white space is. -/
lemma trim_eq_self (none : ∀ u ∈ s, isSpace u = false) : trim s = s := by
  have keep {l : JsText} (none : ∀ u ∈ l, isSpace u = false) : l.dropWhile isSpace = l :=
    List.dropWhile_eq_self_iff.2 fun pos => Bool.not_eq_true _ ▸ none _ (List.getElem_mem pos)
  rw [trim, keep none, keep fun u mem => none u (List.mem_reverse.1 mem), List.reverse_reverse]

@[simp] lemma number_nil : number [] = 0 := rfl

lemma number_append : number (s ++ t) = number s * 10 ^ t.length + number t := by
  have shift (n : ℕ) : t.foldl (fun n u => 10 * n + digitValue u) n = n * 10 ^ t.length + number t := by
    unfold number
    induction t generalizing n with
    | nil => simp
    | cons u t ih =>
      rw [List.foldl_cons, List.foldl_cons, ih, ih (10 * 0 + _), List.length_cons, pow_succ]
      ring
  rw [number, List.foldl_append, shift]
  rfl

lemma number_cons : number (u :: s) = digitValue u * 10 ^ s.length + number s := by
  have split := @number_append [u] s
  simpa [number] using split

lemma number_lt (digits : ∀ u ∈ s, isDigit u = true) : number s < 10 ^ s.length := by
  induction s with
  | nil => simp
  | cons u s ih =>
    have head := digitValue_lt (digits u (by simp))
    have tail := ih fun u mem => digits u (by simp [mem])
    rw [number_cons, List.length_cons, pow_succ]
    nlinarith [Nat.one_le_pow s.length 10 (by norm_num)]

lemma number_replicate (k : ℕ) : number (List.replicate k (unit '0')) = 0 := by
  induction k with
  | zero => rfl
  | succ k ih => rw [List.replicate_succ, number_cons, ih]; simp [digitValue, unit]

lemma isDigit_of_mem_ofNat (mem : u ∈ ofNat n) : isDigit u = true := by
  unfold ofNat at mem
  split_ifs at mem with zero
  · obtain rfl := List.mem_singleton.1 mem
    decide
  · obtain ⟨d, memD, rfl⟩ := List.mem_map.1 mem
    exact isDigit_digit (Nat.digits_lt_base (by norm_num) (List.mem_reverse.1 memD))

@[simp] lemma number_ofNat : number (ofNat n) = n := by
  have ofDigits (l : List ℕ) (lt : ∀ d ∈ l, d < 10) :
      number (l.reverse.map digit) = Nat.ofDigits 10 l := by
    induction l with
    | nil => rfl
    | cons d l ih =>
      rw [List.reverse_cons, List.map_append, number_append, ih fun d mem => lt d (by simp [mem]),
        Nat.ofDigits_cons]
      simp [number, digitValue_digit (lt d (by simp))]
      ring
  unfold ofNat
  split_ifs with zero
  · rw [zero]
    rfl
  · rw [ofDigits _ fun d mem => Nat.digits_lt_base (by norm_num) mem, Nat.ofDigits_digits]

lemma ofNat_injective : Function.Injective ofNat := fun n m same => by
  rw [← number_ofNat (n := n), same, number_ofNat]

lemma length_ofNat_le {k : ℕ} (small : n < 10 ^ k) (pos : 0 < k) : (ofNat n).length ≤ k := by
  unfold ofNat
  split_ifs with zero
  · exact pos
  · rw [List.length_map, List.length_reverse]
    exact (Nat.digits_length_le_iff (by norm_num) n).2 small

/-- An integer is written with digits and perhaps a minus sign. -/
lemma of_mem_ofInt {i : ℤ} (mem : u ∈ ofInt i) : u = unit '-' ∨ isDigit u = true := by
  unfold ofInt at mem
  split_ifs at mem
  · exact (List.mem_cons.1 mem).imp_right isDigit_of_mem_ofNat
  · exact .inr (isDigit_of_mem_ofNat mem)

lemma ofInt_injective : Function.Injective ofInt := fun i j same => by
  have apart {n m : ℕ} : unit '-' :: ofNat n ≠ ofNat m := fun eq => by
    have digit := isDigit_of_mem_ofNat (u := unit '-') (n := m) (eq ▸ by simp)
    revert digit
    decide
  simp only [ofInt] at same
  split_ifs at same with neg neg' neg'
  · have := ofNat_injective (List.cons.inj same).2
    omega
  · exact (apart same).elim
  · exact (apart same.symm).elim
  · have := ofNat_injective same
    omega

end Digits

section Decoding
variable {s t : JsText} {cs : List Char}

lemma not_surrogate {u : UInt16} (ascii : u.toNat < 128) : isHigh u = false ∧ isLow u = false := by
  simp only [isHigh, isLow, UInt16.le_iff_toNat_le, Bool.and_eq_false_iff, decide_eq_false_iff_not]
  exact ⟨.inl (by simp only [UInt16.reduceToNat]; omega), .inl (by simp only [UInt16.reduceToNat]; omega)⟩

/-- An ASCII text has a character for each unit. -/
lemma decode_ascii (ascii : ∀ u ∈ s, u.toNat < 128) : decode s = some (s.map toChar) := by
  fun_induction decode s with
  | case1 => rfl
  | case2 u surrogate =>
    have := not_surrogate (ascii u (by simp))
    simp [this] at surrogate
  | case3 => rfl
  | case4 u v rest pair ih =>
    have := not_surrogate (ascii u (by simp))
    simp [this] at pair
  | case5 u v rest pair surrogate =>
    have := not_surrogate (ascii u (by simp))
    simp [this] at surrogate
  | case6 u v rest pair surrogate ih =>
    rw [ih fun u mem => ascii u (List.mem_cons_of_mem _ mem)]
    rfl

/-- A text has no more characters than units, and none only if it is empty. -/
lemma length_of_decode (eq : decode s = some cs) : cs.length ≤ s.length ∧ (cs = [] → s = []) := by
  fun_induction decode s generalizing cs with
  | case1 => exact ⟨by simp [← Option.some.inj eq], fun _ => rfl⟩
  | case2 => cases eq
  | case3 => simp [← Option.some.inj eq]
  | case4 u v rest pair ih =>
    obtain ⟨cs', eq', rfl⟩ := Option.map_eq_some_iff.1 eq
    have := (ih eq').1
    exact ⟨by simp only [List.length_cons]; omega, nofun⟩
  | case5 => cases eq
  | case6 u v rest pair surrogate ih =>
    obtain ⟨cs', eq', rfl⟩ := Option.map_eq_some_iff.1 eq
    have := (ih eq').1
    exact ⟨by simp only [List.length_cons] at this ⊢; omega, nofun⟩

end Decoding

end JsText
end LedgerLoop.Library
