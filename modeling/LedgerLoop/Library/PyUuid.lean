import LedgerLoop.Library.PyInt

/-!
# Hexadecimal identifiers

What `uuid.UUID(s)` of Python makes of a text of hexadecimal digits and hyphens, and how `str` writes the
result. The digits are what counts: `uuid_eq` reads them, and by `filter_uuidStr` they are what is
written, in lower case.
-/

set_option autoImplicit false

namespace LedgerLoop.Library.PyText

variable {c : Char} {s cs : List Char} {d value : ℕ}

/-- The number hexadecimal digits denote. -/
def hexValue (value : ℕ) (cs : List Char) : ℕ := cs.foldl (fun n c => 16 * n + (hexDigit c).getD 0) value

/-- The characters that mean something to `UUID` or to `int`. -/
def signs : List Char := ['-', '+', '_', 'x', 'X', 'u', '\x7b', '\x7d']

/-- A digit is ASCII. -/
lemma toNat_of_hexDigit (digit : hexDigit c = some d) : c.toNat < 128 := by
  unfold hexDigit at digit
  split_ifs at digit with decimal lower upper
  · exact lt_of_le_of_lt (show c.toNat ≤ '9'.toNat from decimal.2) (by decide)
  · exact lt_of_le_of_lt (show c.toNat ≤ 'f'.toNat from lower.2) (by decide)
  · exact lt_of_le_of_lt (show c.toNat ≤ 'F'.toNat from upper.2) (by decide)

/-- What holds of the ASCII characters by their codes. -/
lemma of_ascii {P : Char → Prop} (each : ∀ n < 128, P (Char.ofNat n)) (small : c.toNat < 128) : P c := by
  rw [← Char.ofNat_toNat c]
  exact each _ small

/-- A digit in lower case is how its value is written, and it is neither a blank nor a sign. -/
lemma of_hexDigit (digit : hexDigit c = some d) : d < 16 ∧ c.toLower = Nat.digitChar d ∧
    hexDigit c.toLower = some d ∧ isSpace c = false ∧ c ∉ signs := by
  have each := of_ascii (P := fun c => (hexDigit c).all (fun d => d < 16 ∧ c.toLower = Nat.digitChar d ∧
    hexDigit c.toLower = some d ∧ isSpace c = false ∧ c ∉ signs) = true) (by decide +kernel) (toNat_of_hexDigit digit)
  rw [digit, Option.all_some, decide_eq_true_eq] at each
  exact each

lemma hexValue_append : hexValue value (s ++ cs) = hexValue (hexValue value s) cs := List.foldl_append

/-- Digits are read. -/
lemma hexDigits_eq (digits : ∀ c ∈ cs, (hexDigit c).isSome) : hexDigits value cs = some (hexValue value cs) := by
  induction cs generalizing value with
  | nil => rfl
  | cons c cs ih =>
    obtain ⟨d, digit⟩ := Option.isSome_iff_exists.1 (digits c List.mem_cons_self)
    have plain : ∀ c' cs', c = '_' → cs = c' :: cs' → False := by
      rintro _ _ rfl _
      cases digit
    rw [hexDigits.eq_3 _ _ _ plain, digit, Option.bind_some, ih fun c mem => digits c (List.mem_cons_of_mem _ mem),
      hexValue, hexValue, List.foldl_cons, digit, Option.getD_some]

/-- The size of a number of `k` digits. -/
lemma hexValue_lt (digits : ∀ c ∈ cs, (hexDigit c).isSome) : hexValue 0 cs < 16 ^ cs.length := by
  induction cs using List.reverseRecOn with
  | nil => decide
  | append_singleton cs c ih =>
    obtain ⟨d, digit⟩ := Option.isSome_iff_exists.1 (digits c (by simp))
    have rest := ih fun c mem => digits c (List.mem_append_left _ mem)
    have small := (of_hexDigit digit).1
    rw [hexValue_append, hexValue, List.foldl_cons, List.foldl_nil, digit, Option.getD_some, List.length_append,
      List.length_singleton, pow_succ]
    omega

/-- Writing what has been read gives the digits in lower case. -/
lemma leftpad_toDigits (digits : ∀ c ∈ cs, (hexDigit c).isSome) (some_ : cs ≠ []) :
    (Nat.toDigits 16 (hexValue 0 cs)).leftpad cs.length '0' = cs.map Char.toLower := by
  induction cs using List.reverseRecOn with
  | nil => exact absurd rfl some_
  | append_singleton cs c ih =>
    obtain ⟨d, digit⟩ := Option.isSome_iff_exists.1 (digits c (by simp))
    obtain ⟨small, lower, _⟩ := of_hexDigit digit
    have value : hexValue 0 (cs ++ [c]) = 16 * hexValue 0 cs + d := by
      rw [hexValue_append, hexValue, List.foldl_cons, List.foldl_nil, digit, Option.getD_some]
    rw [value, List.map_append, List.map_singleton, lower]
    cases cs with
    | nil => rw [hexValue, List.foldl_nil, mul_zero, zero_add, Nat.toDigits_of_lt_base small]; rfl
    | cons c' cs =>
      rw [← ih (fun c mem => digits c (List.mem_append_left _ mem)) (List.cons_ne_nil _ _)]
      rcases Nat.eq_zero_or_pos (hexValue 0 (c' :: cs)) with zero | pos
      · rw [zero, mul_zero, zero_add, Nat.toDigits_of_lt_base small, Nat.toDigits_zero]
        simp [List.leftpad, List.replicate_succ', List.append_assoc]
      · rw [← Nat.toDigits_append_toDigits (by decide) pos small, Nat.toDigits_of_lt_base small]
        simp [List.leftpad, List.append_assoc]

/-- Case does not change the number. -/
lemma hexValue_map_toLower (digits : ∀ c ∈ cs, (hexDigit c).isSome) :
    hexValue value (cs.map Char.toLower) = hexValue value cs := by
  induction cs generalizing value with
  | nil => rfl
  | cons c cs ih =>
    obtain ⟨d, digit⟩ := Option.isSome_iff_exists.1 (digits c List.mem_cons_self)
    rw [List.map_cons, hexValue, hexValue, List.foldl_cons, List.foldl_cons, digit, (of_hexDigit digit).2.2.1]
    exact ih fun c mem => digits c (List.mem_cons_of_mem _ mem)

/-- Digits without a sign or a blank are a number. -/
lemma int16_eq (digits : ∀ c ∈ cs, (hexDigit c).isSome) (some_ : cs ≠ []) :
    int16 cs = some (hexValue 0 cs) := by
  have plain : ∀ c ∈ cs, isSpace c = false ∧ c ∉ signs := fun c mem => by
    obtain ⟨d, digit⟩ := Option.isSome_iff_exists.1 (digits c mem)
    exact (of_hexDigit digit).2.2.2
  have number : hexNumber cs = some (hexValue 0 cs) := by
    cases cs with
    | nil => exact absurd rfl some_
    | cons c cs =>
      obtain ⟨d, digit⟩ := Option.isSome_iff_exists.1 (digits c List.mem_cons_self)
      rw [hexNumber, digit, Option.bind_some, hexDigits_eq fun c mem => digits c (List.mem_cons_of_mem _ mem),
        hexValue, hexValue, List.foldl_cons, digit, Option.getD_some, mul_zero, zero_add]
  have blank : ∀ c ∈ cs, isIntSpace c = false := fun c mem => by
    rw [isIntSpace, (plain c mem).1, Bool.false_and]
  rw [int16, PyInt.strip_eq_self blank]
  split
  case h_5 =>
    split
    · exact absurd (by decide) (plain '+' List.mem_cons_self).2
    · exact number
  -- a base prefix has a sign in it
  all_goals
    rename_i eq
    split at eq
    · exact absurd (by decide) (plain '+' List.mem_cons_self).2
    · subst eq
      exact absurd (by decide) (plain _ (List.mem_cons_of_mem _ List.mem_cons_self)).2

/-- A text without the first character of `sub` has no occurrence to remove. -/
lemma removeAll_eq_self {sub : List Char} (none : c ∉ s) : removeAll (c :: sub) 0 s = s := by
  induction s with
  | nil => rfl
  | cons c' s ih =>
    have other : (c :: sub).isPrefixOf (c' :: s) = false := by
      rw [List.isPrefixOf, Bool.and_eq_false_iff]
      exact .inl (by simpa using fun eq : c = c' => none (eq ▸ List.mem_cons_self))
    rw [removeAll, if_neg (by simp [other]), ih fun mem => none (List.mem_cons_of_mem _ mem)]

/-- `UUID` of hexadecimal digits and hyphens: 32 digits are an identifier. -/
lemma uuid_eq (chars : ∀ c ∈ s, c = '-' ∨ (hexDigit c).isSome) :
    uuid s = if (s.filter (· != '-')).length = 32 then some (hexValue 0 (s.filter (· != '-'))) else none := by
  have digits : ∀ c ∈ s.filter (· != '-'), (hexDigit c).isSome := fun c mem => by
    obtain ⟨mem, digit⟩ := List.mem_filter.1 mem
    exact (chars c mem).resolve_left (by simpa using digit)
  have no_sign : ∀ c ∈ s, c = '-' ∨ c ∉ signs := fun c mem => (chars c mem).imp_right fun digit => by
    obtain ⟨d, digit⟩ := Option.isSome_iff_exists.1 digit
    exact (of_hexDigit digit).2.2.2.2
  have no_u : 'u' ∉ s := fun mem => by
    rcases no_sign _ mem with eq | sign
    · cases eq
    · exact sign (by decide)
  have urn : removeAll "urn:".toList 0 s = s := removeAll_eq_self no_u
  have uuid_ : removeAll "uuid:".toList 0 s = s := removeAll_eq_self no_u
  have braces : strip (fun c => c == '\x7b' || c == '\x7d') s = s := PyInt.strip_eq_self fun c mem => by
    rw [Bool.or_eq_false_iff, beq_eq_false_iff_ne, beq_eq_false_iff_ne]
    constructor <;> rintro rfl <;> rcases no_sign _ mem with eq | sign
    · cases eq
    · exact sign (by decide)
    · cases eq
    · exact sign (by decide)
  simp only [uuid, urn, uuid_, braces]
  split_ifs with long
  · have some_ : s.filter (· != '-') ≠ [] := fun eq => by
      rw [eq] at long
      cases long
    have bound : hexValue 0 (s.filter (· != '-')) < 2 ^ 128 :=
      lt_of_lt_of_eq (hexValue_lt digits) (by rw [long]; norm_num)
    rw [int16_eq digits some_, Option.filter_some, if_pos (decide_eq_true bound)]
  · rfl

/-- What `str` writes, without the hyphens. -/
lemma filter_uuidStr {n : ℕ} {hex : List Char} (written : (Nat.toDigits 16 n).leftpad 32 '0' = hex)
    (digits : '-' ∉ hex) : (uuidStr n).filter (· != '-') = hex := by
  have keep {part : List Char} (sub : part ⊆ hex) : part.filter (· != '-') = part :=
    List.filter_eq_self.2 fun c mem => by
      rw [bne_iff_ne]
      rintro rfl
      exact digits (sub mem)
  have group {i : ℕ} : ((hex.drop i).take 4).filter (· != '-') = (hex.drop i).take 4 :=
    keep fun _ mem => List.drop_subset _ _ (List.take_subset _ _ mem)
  have split (i k : ℕ) : (hex.drop i).take k ++ hex.drop (i + k) = hex.drop i := by
    rw [← List.drop_drop]
    exact List.take_append_drop k (hex.drop i)
  have text : uuidStr n = hex.take 8 ++ '-' :: (hex.drop 8).take 4 ++ '-' :: (hex.drop 12).take 4 ++
      '-' :: (hex.drop 16).take 4 ++ '-' :: hex.drop 20 := by rw [← written]; rfl
  have hyphen {cs : List Char} : ('-' :: cs).filter (· != '-') = cs.filter (· != '-') := rfl
  simp only [text, List.filter_append, hyphen]
  rw [keep (List.take_subset _ _), group, group, group, keep (List.drop_subset _ _), List.append_assoc,
    List.append_assoc, List.append_assoc, split 16 4, split 12 4, split 8 4]
  exact List.take_append_drop 8 hex

end LedgerLoop.Library.PyText
