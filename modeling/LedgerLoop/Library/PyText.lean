import Mathlib.Tactic

/-!
# Python text functions

`str` methods and constructors of Python's standard library on lists of characters: `partition`,
`strip`, `replace` with an empty replacement, `encode`, `int(s, 16)` and `uuid.UUID(s)` with its `str`.

`int(s, 16)` accepts surrounding whitespace, a plus sign, a `0x` prefix and single underscores between
digits, so `UUID` accepts more than the usual spellings. A minus sign never reaches `int`, because `UUID`
has removed the hyphens. Decimal digits outside ASCII are not recognised: text that arrives as Latin-1
has none.
-/

set_option autoImplicit false

namespace LedgerLoop.Library.PyText

/-- `str.isspace` of one character. -/
def isSpace (c : Char) : Bool :=
  let n := c.toNat
  (9 ≤ n && n ≤ 13) || (28 ≤ n && n ≤ 32) || n == 0x85 || n == 0xA0 || n == 0x1680 ||
    (0x2000 ≤ n && n ≤ 0x200A) || n == 0x2028 || n == 0x2029 || n == 0x202F || n == 0x205F ||
    n == 0x3000

/-- The whitespace `int` skips: the control characters 28 to 31 are not in it. -/
def isIntSpace (c : Char) : Bool := isSpace c && !(28 ≤ c.toNat && c.toNat ≤ 31)

/-- `s.strip(chars)`. -/
def strip (drop : Char → Bool) (s : List Char) : List Char :=
  ((s.dropWhile drop).reverse.dropWhile drop).reverse

/-- `s.partition(sep)` for one character: what precedes and what follows the first one, if any. -/
def partition (sep : Char) (s : List Char) : List Char × Option (List Char) :=
  (s.takeWhile (· != sep), (s.dropWhile (· != sep)).tail?)

/-- `s.replace(sub, "")`; `skip` characters of an occurrence are still to be dropped. -/
def removeAll (sub : List Char) : (skip : ℕ) → List Char → List Char
  | _, [] => []
  | skip + 1, _ :: cs => removeAll sub skip cs
  | 0, c :: cs =>
    if sub.isPrefixOf (c :: cs) then removeAll sub (sub.length - 1) cs else c :: removeAll sub 0 cs

/-- The value of a hexadecimal digit. -/
def hexDigit (c : Char) : Option ℕ :=
  if '0' ≤ c ∧ c ≤ '9' then some (c.toNat - '0'.toNat)
  else if 'a' ≤ c ∧ c ≤ 'f' then some (c.toNat - 'a'.toNat + 10)
  else if 'A' ≤ c ∧ c ≤ 'F' then some (c.toNat - 'A'.toNat + 10)
  else none

/-- Digits with single underscores between them; `value` is what the digits before denote. -/
def hexDigits (value : ℕ) : List Char → Option ℕ
  | [] => some value
  | '_' :: c :: cs => (hexDigit c).bind fun d => hexDigits (16 * value + d) cs
  | c :: cs => (hexDigit c).bind fun d => hexDigits (16 * value + d) cs

/-- One digit, then more digits. -/
def hexNumber : List Char → Option ℕ
  | [] => none
  | c :: cs => (hexDigit c).bind fun d => hexDigits d cs

/-- `int(s, 16)` of a text without a minus sign. -/
def int16 (s : List Char) : Option ℕ :=
  let unsigned :=
    match strip isIntSpace s with
    | '+' :: cs => cs
    | cs => cs
  match unsigned with
  | '0' :: 'x' :: '_' :: cs | '0' :: 'X' :: '_' :: cs => hexNumber cs
  | '0' :: 'x' :: cs | '0' :: 'X' :: cs => hexNumber cs
  | cs => hexNumber cs

/-- `uuid.UUID(s).int`; `none` is a `ValueError`. -/
def uuid (s : List Char) : Option ℕ :=
  let plain := removeAll "uuid:".toList 0 (removeAll "urn:".toList 0 s)
  let hex := (strip (fun c => c == '\x7b' || c == '\x7d') plain).filter (· != '-')
  if hex.length = 32 then (int16 hex).filter (· < 2 ^ 128) else none

/-- `str(uuid.UUID(int=n))`. -/
def uuidStr (n : ℕ) : List Char :=
  let digits := Nat.toDigits 16 n
  let hex := List.replicate (32 - digits.length) '0' ++ digits
  hex.take 8 ++ '-' :: (hex.drop 8).take 4 ++ '-' :: (hex.drop 12).take 4 ++
    '-' :: (hex.drop 16).take 4 ++ '-' :: hex.drop 20

/-- Two spellings of one identifier. -/
example : uuid "urn:uuid:\x7b00000000-0000-0000-0000-0000000000AB\x7d".toList = some 171 ∧
    uuid " +0x_0_00000000000000000000000ab".toList = some 171 := by decide

/-- Two ways to split a text at a separator: the same, or one separator comes later in the text. -/
lemma append_sep_cases {α : Type*} {sep : α} {a a' b b' : List α} (h : a ++ sep :: b = a' ++ sep :: b') :
    (a = a' ∧ b = b') ∨ (∃ m, a' = a ++ sep :: m ∧ b = m ++ sep :: b') ∨
      ∃ m, a = a' ++ sep :: m ∧ b' = m ++ sep :: b := by
  rcases List.append_eq_append_iff.1 h with ⟨c, rfl, eq⟩ | ⟨c, rfl, eq⟩
  · cases c with
    | nil => exact .inl ⟨(List.append_nil a).symm, (List.cons.inj eq).2⟩
    | cons x m =>
      obtain ⟨rfl, rest⟩ := List.cons.inj eq
      exact .inr (.inl ⟨m, rfl, rest⟩)
  · cases c with
    | nil => exact .inl ⟨List.append_nil a', (List.cons.inj eq).2.symm⟩
    | cons x m =>
      obtain ⟨rfl, rest⟩ := List.cons.inj eq
      exact .inr (.inr ⟨m, rfl, rest⟩)

/-- What follows the last separator determines the rest. -/
lemma append_sep_inj {α : Type*} {sep : α} {a a' b b' : List α} (h : a ++ sep :: b = a' ++ sep :: b')
    (none : sep ∉ b) (none' : sep ∉ b') : a = a' ∧ b = b' := by
  rcases append_sep_cases h with same | ⟨m, _, rfl⟩ | ⟨m, _, rfl⟩
  · exact same
  · exact absurd (by simp) none
  · exact absurd (by simp) none'

/-- A decimal number has no other characters than digits. -/
lemma notMem_repr {c : Char} (notDigit : c.isDigit = false) (n : ℕ) : c ∉ (Nat.repr n).toList := by
  intro mem
  rw [Nat.toList_repr] at mem
  have digit := Nat.isDigit_of_mem_toDigits (by decide) (by decide) mem
  rw [notDigit] at digit
  cases digit

/-- Decimal numbers are read back. -/
lemma repr_injective : Function.Injective fun n : ℕ => (Nat.repr n).toList := by
  intro m n same
  simp only [Nat.toList_repr] at same
  have read := congrArg (fun digits => Nat.ofDigitChars 10 digits 0) same
  simpa using read

/-- `s.encode()`. -/
def encode (s : List Char) : List UInt8 := (String.ofList s).toUTF8.data.toList

lemma encode_eq (s : List Char) : encode s = s.flatMap String.utf8EncodeChar := by
  rw [encode, String.toUTF8, String.toByteArray_ofList, List.utf8Encode]
  simp

lemma encode_append (s t : List Char) : encode (s ++ t) = encode s ++ encode t := by
  simp [encode_eq]

/-- An ASCII byte of an encoded character is the character. -/
lemma toNat_of_mem_utf8EncodeChar {c : Char} {b : UInt8} (mem : b ∈ String.utf8EncodeChar c)
    (ascii : b.toNat < 128) : b.toNat = c.toNat := by
  have scalar : c.val.toNat < 0x110000 := by
    have valid := c.valid
    rw [UInt32.isValidChar] at valid
    rcases valid with low | high <;> omega
  unfold String.utf8EncodeChar at mem
  simp only at mem
  split_ifs at mem
  · rw [List.mem_singleton.1 mem]
    simp only [UInt8.toNat_ofNat', Char.toNat]
    omega
  -- the bytes of a longer encoding are not ASCII
  all_goals
    simp only [List.mem_cons, List.not_mem_nil, or_false] at mem
    refine absurd ascii ?_
    rcases mem with rfl | rfl | rfl | rfl <;> simp only [UInt8.toNat_ofNat'] <;> omega

/-- The byte of an ASCII character is in an encoding only where the character is in the text. -/
lemma byte_notMem_encode {c : Char} {s : List Char} (ascii : c.toNat < 128) (none : c ∉ s) :
    UInt8.ofNat c.toNat ∉ encode s := by
  intro mem
  rw [encode_eq, List.mem_flatMap] at mem
  obtain ⟨c', memC, memB⟩ := mem
  have toNat : (UInt8.ofNat c.toNat).toNat = c.toNat := by
    rw [UInt8.toNat_ofNat']
    omega
  have same : c.toNat = c'.toNat := toNat ▸ toNat_of_mem_utf8EncodeChar memB (toNat.symm ▸ ascii)
  exact none ((Char.ext (UInt32.toNat_inj.1 same) : c = c') ▸ memC)

end LedgerLoop.Library.PyText
