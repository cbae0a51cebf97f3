import LedgerLoop.Library.Binary64
import LedgerLoop.Library.JsText

/-!
# Money at the edge

Port of `lib/money.ts`. An amount is an integer of minor units; a JavaScript number that holds one is an
integer here, so the negative zero is zero. The arithmetic of `parseMinor` is that of doubles, without a
bound on the exponent: what overflows there is no safe integer here either.

A `Numeral` is a decimal as it is written, and says which texts are amounts.
-/

set_option autoImplicit false

namespace LedgerLoop.Frontend
open Library JsText

/-- `[,\s]`. -/
def isSeparator (u : UInt16) : Bool := u == unit ',' || isSpace u

/-- `[+-]`. -/
def isSign (u : UInt16) : Bool := u == unit '+' || u == unit '-'

/-- `/^([+-]?)(\d*)(?:\.(\d*))?$/`: the sign, the whole part and the fraction. -/
def matchDecimal (text : JsText) : Option (JsText × JsText × JsText) :=
  let sign := (text.take 1).filter isSign
  let rest := text.drop sign.length
  match rest.dropWhile isDigit with
  | [] => some (sign, rest.takeWhile isDigit, [])
  | u :: frac =>
    if u == unit '.' && frac.all isDigit then some (sign, rest.takeWhile isDigit, frac) else none

/-- `Number.isSafeInteger`. -/
def isSafeInteger (x : ℚ) : Bool := x.den == 1 && decide (|x| ≤ 2 ^ 53 - 1)

/-- `Number(digits || '0')`. -/
def toNumber (digits : JsText) : ℚ := Binary64.nearest (number digits)

/-- `(frac + '0'.repeat(scale)).slice(0, scale)`. -/
def padded (frac : JsText) (scale : ℕ) : JsText := (frac ++ List.replicate scale (unit '0')).take scale

/-- The number `parseMinor` puts together; `none` if it is not safe. -/
def assemble (sign whole frac : JsText) (scale : ℕ) : Option ℤ :=
  let units := Binary64.nearest (toNumber whole * 10 ^ scale)
  let magnitude := Binary64.nearest (units + toNumber (padded frac scale))
  if isSafeInteger magnitude then
    some (if sign = lit "-" then -magnitude.num else magnitude.num)
  else none

/-- `parseMinor`. -/
def parseMinor (raw : JsText) (scale : ℕ := 2) : Option ℤ :=
  let text := (trim raw).filter (!isSeparator ·)
  if text = [] then none
  else
    (matchDecimal text).bind fun (sign, whole, frac) =>
      if whole = [] ∧ frac = [] then none else assemble sign whole frac scale

/-- The digits of an amount before and after the point. -/
def splitDigits (value : ℤ) (scale : ℕ) : JsText × JsText :=
  let digits := (ofNat value.natAbs).leftpad (scale + 1) (unit '0')
  digits.splitAt (digits.length - scale)

/-- `toDecimalString`. -/
def toDecimalString (value : ℤ) (scale : ℕ := 2) : JsText :=
  let (whole, frac) := splitDigits value scale
  (if value < 0 then lit "-" else []) ++ whole ++ unit '.' :: frac

/-- `\w`. -/
def isWord (u : UInt16) : Bool :=
  isDigit u || (unit 'A' ≤ u && u ≤ unit 'Z') || (unit 'a' ≤ u && u ≤ unit 'z') || u == unit '_'

/-- `(\d{3})+(?!\d)`, at the start of a text. -/
def threes : JsText → Bool
  | a :: b :: c :: rest =>
    isDigit a && isDigit b && isDigit c && (!(rest.head?.any isDigit) || threes rest)
  | _ => false

/-- `.replace(/\B(?=(\d{3})+(?!\d))/g, ',')` of what follows `before`. -/
def group (before : Option UInt16) : JsText → JsText
  | [] => []
  | u :: rest =>
    if before.any isWord == isWord u && threes (u :: rest) then
      unit ',' :: u :: group (some u) rest
    else u :: group (some u) rest

/-- `formatMinor`. -/
def formatMinor (value : ℤ) (scale : ℕ := 2) : JsText :=
  let (whole, frac) := splitDigits value scale
  (if value < 0 then lit "-" else []) ++ group none whole ++ unit '.' :: frac

example : toDecimalString (-5) = lit "-0.05" ∧ formatMinor 123456789 = lit "1,234,567.89" := by
  decide

/-! ## Numerals -/

/-- A decimal as it is written; each group of its whole part follows a comma. -/
structure Numeral where
  sign : JsText
  head : JsText
  groups : List JsText
  frac : Option JsText

namespace Numeral

/-- The whole part without its commas. -/
def whole (m : Numeral) : JsText := m.head ++ m.groups.flatten

/-- The fraction with its point. -/
def tail (m : Numeral) : JsText := m.frac.elim [] (unit '.' :: ·)

def text (m : Numeral) : JsText := m.sign ++ m.head ++ m.groups.flatMap (unit ',' :: ·) ++ m.tail

/-- The numeral without its commas. -/
def plain (m : Numeral) : Numeral := { m with head := m.whole, groups := [] }

/-- The magnitude, in units. -/
def magnitude (m : Numeral) : ℚ :=
  number m.whole + number (m.frac.getD []) / 10 ^ (m.frac.getD []).length

/-- What is denoted. -/
def value (m : Numeral) : ℚ := if m.sign = lit "-" then -m.magnitude else m.magnitude

/-- The commas stand before groups of three, after a first group of one to three; neither a comma nor
    white space stands elsewhere, nor a sign or a point. -/
structure Grouped (m : Numeral) : Prop where
  sign : m.sign = [] ∨ m.sign = lit "+" ∨ m.sign = lit "-"
  plain : ∀ u ∈ m.whole ++ m.frac.getD [],
    isSeparator u = false ∧ isSign u = false ∧ u ≠ unit '.'
  first : m.groups ≠ [] → 1 ≤ m.head.length ∧ m.head.length ≤ 3
  three : ∀ g ∈ m.groups, g.length = 3

/-- A grouped decimal with a digit. -/
structure Valid (m : Numeral) : Prop extends m.Grouped where
  digits : ∀ u ∈ m.whole ++ m.frac.getD [], isDigit u = true
  nonempty : m.whole ++ m.frac.getD [] ≠ []

end Numeral

section Arithmetic
variable {w p : ℕ} {frac : JsText}

/-- Below the bound the doubles are exact. -/
lemma nearest_units (small : w * 100 + p < 2 ^ 53) :
    Binary64.nearest (Binary64.nearest (Binary64.nearest w * 10 ^ 2) + Binary64.nearest p) =
      (w * 100 + p : ℕ) := by
  have exact (n : ℕ) (le : n ≤ w * 100 + p) : Binary64.nearest n = n :=
    Binary64.nearest_natCast (lt_of_le_of_lt le small)
  have scaled : (w : ℚ) * 10 ^ 2 = (w * 100 : ℕ) := by push_cast; ring
  rw [exact w (by omega), scaled, exact (w * 100) (by omega), exact p (by omega), ← Nat.cast_add,
    exact _ le_rfl]

/-- What reaches the bound stays there. -/
lemma le_nearest {x : ℚ} (le : 2 ^ 53 ≤ x) : 2 ^ 53 ≤ Binary64.nearest x := by
  have pos : 0 < x := by linarith [show (0 : ℚ) < 2 ^ 53 by positivity]
  have log : (53 : ℤ) ≤ Int.log 2 x := (Int.zpow_le_iff_le_log (by norm_num) pos).1 (by exact_mod_cast le)
  have near := Binary64.pow_le_nearestPos pos
  have grow : (2 : ℚ) ^ (53 : ℤ) ≤ 2 ^ Int.log 2 x := zpow_le_zpow_right₀ (by norm_num) log
  rw [Binary64.nearest, if_pos pos]
  exact_mod_cast grow.trans near

lemma le_nearest_units (big : 2 ^ 53 ≤ w * 100 + p) (hundredth : p < 100) :
    2 ^ 53 ≤ Binary64.nearest (Binary64.nearest (Binary64.nearest w * 10 ^ 2) + Binary64.nearest p) := by
  have small : Binary64.nearest p = p := Binary64.nearest_natCast (by omega)
  rw [small]
  refine le_nearest ?_
  by_cases exact : w * 100 < 2 ^ 53
  · have scaled : (w : ℚ) * 10 ^ 2 = (w * 100 : ℕ) := by push_cast; ring
    rw [Binary64.nearest_natCast (n := w) (by omega), scaled, Binary64.nearest_natCast exact]
    exact_mod_cast big
  · have units : (2 : ℚ) ^ 53 ≤ Binary64.nearest (Binary64.nearest w * 10 ^ 2) := by
      refine le_nearest ?_
      by_cases whole : w < 2 ^ 53
      · rw [Binary64.nearest_natCast whole]
        exact_mod_cast (by omega : 2 ^ 53 ≤ w * 10 ^ 2)
      · have := le_nearest (x := w) (by exact_mod_cast not_lt.1 whole)
        nlinarith
    linarith [show (0 : ℚ) ≤ p from p.cast_nonneg]

lemma isSafeInteger_units (hundredth : p < 100) :
    isSafeInteger (Binary64.nearest
      (Binary64.nearest (Binary64.nearest w * 10 ^ 2) + Binary64.nearest p)) = true ↔
      w * 100 + p < 2 ^ 53 := by
  constructor
  · intro safe
    by_contra big
    have le := le_nearest_units (not_lt.1 big) hundredth
    simp only [isSafeInteger, Bool.and_eq_true, decide_eq_true_eq] at safe
    linarith [le_abs_self (Binary64.nearest
      (Binary64.nearest (Binary64.nearest w * 10 ^ 2) + Binary64.nearest p))]
  · intro small
    have le : ((w * 100 + p : ℕ) : ℚ) ≤ 2 ^ 53 - 1 := by
      rw [le_sub_iff_add_le]
      exact_mod_cast small
    rw [nearest_units small, isSafeInteger, Rat.den_natCast, Nat.abs_cast]
    simpa using le

/-- The first two digits of a fraction are its hundredths, cut off. -/
lemma number_padded (digits : ∀ u ∈ frac, isDigit u = true) :
    number (padded frac 2) < 100 ∧
      (number (padded frac 2) : ℤ) = ⌊(number frac : ℚ) / 10 ^ frac.length * 100⌋ := by
  have two : (padded frac 2).length = 2 := by simp [padded]
  have all : ∀ u ∈ padded frac 2, isDigit u = true := fun u mem => by
    rcases List.mem_append.1 (List.mem_of_mem_take mem) with mem | mem
    · exact digits u mem
    · exact List.eq_of_mem_replicate mem ▸ by decide
  refine ⟨by simpa [two] using number_lt all, (Int.floor_eq_iff.2 ?_).symm⟩
  -- the digits that are cut off, or the zeros that are put on
  have cut : ∃ rest : ℕ, rest < 10 ^ frac.length ∧
      number frac * 100 = number (padded frac 2) * 10 ^ frac.length + rest := by
    by_cases long : 2 ≤ frac.length
    · have taken : padded frac 2 = frac.take 2 := List.take_append_of_le_length long
      have split := number_append (s := frac.take 2) (t := frac.drop 2)
      rw [List.take_append_drop, List.length_drop] at split
      have small := number_lt fun u mem => digits u (List.mem_of_mem_drop (i := 2) mem)
      rw [List.length_drop] at small
      have scale : 10 ^ frac.length = 10 ^ (frac.length - 2) * 100 := by
        rw [show 100 = 10 ^ 2 from rfl, ← pow_add, Nat.sub_add_cancel long]
      refine ⟨number (frac.drop 2) * 100, by rw [scale]; omega, ?_⟩
      rw [split, taken, scale]
      ring
    · have put : padded frac 2 = frac ++ List.replicate (2 - frac.length) (unit '0') := by
        rw [padded, List.take_append, List.take_of_length_le (by omega), List.take_replicate]
        congr 2
        omega
      have scale : 10 ^ (2 - frac.length) * 10 ^ frac.length = 100 := by
        rw [← pow_add, Nat.sub_add_cancel (by omega)]
        rfl
      refine ⟨0, by positivity, ?_⟩
      rw [put, number_append, number_replicate, List.length_replicate, add_zero, add_zero, mul_assoc, scale]
  obtain ⟨rest, small, eq⟩ := cut
  have pos : (0 : ℚ) < 10 ^ frac.length := by positivity
  have eq' : (number frac : ℚ) * 100 = number (padded frac 2) * 10 ^ frac.length + rest := by
    exact_mod_cast eq
  have small' : (rest : ℚ) < 10 ^ frac.length := by exact_mod_cast small
  rw [div_mul_eq_mul_div, eq', add_div, mul_div_cancel_right₀ _ pos.ne']
  have part := (div_lt_one pos).2 small'
  have nonneg : (0 : ℚ) ≤ rest / 10 ^ frac.length := by positivity
  push_cast
  constructor <;> linarith

end Arithmetic

section Texts
variable {m m' : Numeral} {u : UInt16} {text : JsText}

lemma plain_of_isDigit (digit : isDigit u = true) :
    isSeparator u = false ∧ isSign u = false ∧ u ≠ unit '.' := by
  have range := toNat_of_isDigit digit
  have ne (c : Char) (out : c.toNat.toUInt16.toNat < 48) : u ≠ unit c := by
    rintro rfl
    exact absurd range.1 (not_le.2 out)
  have comma := ne ',' (by decide)
  have plus := ne '+' (by decide)
  have minus := ne '-' (by decide)
  exact ⟨by simp [isSeparator, comma, not_isSpace_of_isDigit digit], by simp [isSign, plus, minus],
    ne '.' (by decide)⟩

namespace Numeral

lemma text_of_flat (flat : m.groups = []) : m.text = m.sign ++ (m.head ++ m.tail) := by
  simp [text, flat]

lemma whole_of_flat (flat : m.groups = []) : m.whole = m.head := by
  simp [whole, flat]

lemma tail_cases : m.tail = [] ∨ m.tail = unit '.' :: m.frac.getD [] := by
  cases eq : m.frac <;> simp [tail, eq]

/-- A plain unit or the point. -/
lemma mem_body (flat : m.groups = []) (mem : u ∈ m.head ++ m.tail) :
    u ∈ m.whole ++ m.frac.getD [] ∨ u = unit '.' := by
  rw [whole_of_flat flat]
  rcases List.mem_append.1 mem with head | tail
  · exact .inl (List.mem_append_left _ head)
  · rcases m.tail_cases with none_ | some_
    · rw [none_] at tail
      cases tail
    · rw [some_] at tail
      rcases List.mem_cons.1 tail with point | frac
      · exact .inr point
      · exact .inl (List.mem_append_right _ frac)

/-- The sign of a numeral is what the expression takes for it. -/
lemma Grouped.sign_text (grouped : m.Grouped) (flat : m.groups = []) :
    (m.text.take 1).filter isSign = m.sign := by
  rw [text_of_flat flat]
  rcases grouped.sign with none_ | plus | minus
  · rw [none_, List.nil_append, List.filter_eq_nil_iff]
    intro u mem
    rcases mem_body flat (List.mem_of_mem_take mem) with plain | rfl
    · simp [(grouped.plain u plain).2.1]
    · decide
  · rw [plus]
    rfl
  · rw [minus]
    rfl

/-- A numeral without commas is determined by its text. -/
lemma Grouped.eq_of_text (grouped : m.Grouped) (grouped' : m'.Grouped) (flat : m.groups = [])
    (flat' : m'.groups = []) (same : m.text = m'.text) : m = m' := by
  have sign : m.sign = m'.sign := by rw [← grouped.sign_text flat, same, grouped'.sign_text flat']
  have head {m : Numeral} (grouped : m.Grouped) (flat : m.groups = []) :
      (m.head ++ m.tail).takeWhile (· != unit '.') = m.head := by
    rw [List.takeWhile_append_of_pos fun u mem => ?_]
    · rcases m.tail_cases with none_ | some_ <;> simp [*]
    · have := grouped.plain u (by simp [whole_of_flat flat, mem])
      simpa using this.2.2
  have body : m.head ++ m.tail = m'.head ++ m'.tail := by
    rw [text_of_flat flat, text_of_flat flat', sign] at same
    exact List.append_cancel_left same
  have heads : m.head = m'.head := by rw [← head grouped flat, body, head grouped' flat']
  have tails : m.tail = m'.tail := List.append_cancel_left (heads ▸ body)
  have fracs : m.frac = m'.frac := by
    cases eq : m.frac <;> cases eq' : m'.frac <;> simp [tail, eq, eq'] at tails <;> simp [tails]
  cases m
  cases m'
  simp_all

/-- The expression takes a numeral without commas apart. -/
lemma Valid.matchDecimal_text (valid : m.Valid) (flat : m.groups = []) :
    matchDecimal m.text = some (m.sign, m.head, m.frac.getD []) := by
  have digits : ∀ u ∈ m.head, isDigit u = true := fun u mem =>
    valid.digits u (by simp [whole_of_flat flat, mem])
  have drop : m.text.drop m.sign.length = m.head ++ m.tail := by rw [text_of_flat flat, List.drop_left]
  have frac : (m.frac.getD []).all isDigit = true :=
    List.all_eq_true.2 fun u mem => valid.digits u (by simp [mem])
  simp only [matchDecimal, valid.sign_text flat, drop]
  rw [List.takeWhile_append_of_pos digits, List.dropWhile_append_of_pos digits]
  cases eq : m.frac with
  | none => simp [tail, eq]
  | some f => 
    rw [eq, Option.getD_some] at frac
    have point : isDigit (unit '.') = false := by decide
    simp [tail, eq, frac, point]

/-- The sign is put off and the rest follows. -/
lemma sign_append (text : JsText) :
    ((text.take 1).filter isSign = [] ∨ (text.take 1).filter isSign = lit "+" ∨
      (text.take 1).filter isSign = lit "-") ∧
    (text.take 1).filter isSign ++ text.drop ((text.take 1).filter isSign).length = text := by
  cases text with
  | nil => exact ⟨.inl rfl, rfl⟩
  | cons u rest =>
    cases signed : isSign u with
    | false => simp [signed]
    | true =>
      have either : u = unit '+' ∨ u = unit '-' := by simpa [isSign] using signed
      refine ⟨.inr ?_, by simp [signed]⟩
      rcases either with rfl | rfl
      · exact .inl rfl
      · exact .inr rfl

/-- What the expression matches is a numeral without commas. -/
lemma of_matchDecimal {sign whole frac : JsText} (eq : matchDecimal text = some (sign, whole, frac))
    (some_ : ¬(whole = [] ∧ frac = [])) :
    ∃ m : Numeral, m.Valid ∧ m.groups = [] ∧ m.text = text ∧ m.sign = sign ∧ m.head = whole ∧
      m.frac.getD [] = frac := by
  obtain ⟨signs, split⟩ := sign_append text
  simp only [matchDecimal] at eq
  generalize (text.take 1).filter isSign = sign' at *
  have digits : ∀ u ∈ (text.drop sign'.length).takeWhile isDigit, isDigit u = true := fun u mem =>
    List.all_eq_true.1 List.all_takeWhile u mem
  have body := List.takeWhile_append_dropWhile (p := isDigit) (l := text.drop sign'.length)
  have build (f : Option JsText) (all : ∀ u ∈ f.getD [], isDigit u = true)
      (nonempty : ¬((text.drop sign'.length).takeWhile isDigit = [] ∧ f.getD [] = [])) :
      (⟨sign', (text.drop sign'.length).takeWhile isDigit, [], f⟩ : Numeral).Valid := by
    have every : ∀ u ∈ (text.drop sign'.length).takeWhile isDigit ++ [].flatten ++ f.getD [],
        isDigit u = true := by
      intro u mem
      rcases List.mem_append.1 mem with head | frac
      · exact digits u (by simpa using head)
      · exact all u frac
    exact ⟨⟨signs, fun u mem => plain_of_isDigit (every u mem), nofun, nofun⟩, every,
      by simpa [Numeral.whole] using nonempty⟩
  split at eq
  · rename_i none_
    obtain ⟨rfl, rest⟩ := Prod.mk.inj (Option.some.inj eq)
    obtain ⟨rfl, rfl⟩ := Prod.mk.inj rest
    refine ⟨_, build none nofun (by simpa using some_), rfl, ?_, rfl, rfl, rfl⟩
    rw [none_, List.append_nil] at body
    rw [text_of_flat rfl]
    simpa [tail, body] using split
  · rename_i u f here
    split_ifs at eq with point
    obtain ⟨rfl, rest⟩ := Prod.mk.inj (Option.some.inj eq)
    obtain ⟨rfl, rfl⟩ := Prod.mk.inj rest
    simp only [Bool.and_eq_true, beq_iff_eq, List.all_eq_true] at point
    obtain ⟨rfl, all⟩ := point
    refine ⟨_, build (some f) all (by simpa using some_), rfl, ?_, rfl, rfl, rfl⟩
    rw [here] at body
    rw [text_of_flat rfl]
    simpa [tail, body] using split

/-- The hundredths of a magnitude, cut off. -/
lemma Valid.floor_magnitude (valid : m.Valid) :
    0 ≤ m.magnitude ∧ ⌊m.magnitude * 100⌋ =
      (number m.whole * 100 + number (padded (m.frac.getD []) 2) : ℕ) := by
  have cut := (number_padded fun u mem => valid.digits u (List.mem_append_right m.whole mem)).2
  refine ⟨by unfold magnitude; positivity, ?_⟩
  have split : m.magnitude * 100 = (number m.whole * 100 : ℕ) +
      (number (m.frac.getD []) : ℚ) / 10 ^ (m.frac.getD []).length * 100 := by
    unfold magnitude
    push_cast
    ring
  rw [split, Int.floor_natCast_add, ← cut]
  push_cast
  rfl

/-- The amount of a numeral, cut off at the hundredths. -/
def minor (m : Numeral) : ℤ := Binary64.truncate (m.value * 100)

lemma Valid.minor_eq (valid : m.Valid) :
    m.minor = (if m.sign = lit "-" then -1 else 1) *
      ((number m.whole * 100 + number (padded (m.frac.getD []) 2) : ℕ) : ℤ) := by
  obtain ⟨nonneg, floor⟩ := valid.floor_magnitude
  have pos : 0 ≤ m.magnitude * 100 := by positivity
  rw [minor, value, ← floor]
  split_ifs
  · rw [neg_mul, Binary64.truncate_neg, Binary64.truncate, if_pos pos]
    ring
  · rw [Binary64.truncate, if_pos pos, one_mul]

/-- An amount is in range as its hundredths are. -/
lemma Valid.abs_lt (valid : m.Valid) : |m.value * 100| < 2 ^ 53 ↔
    number m.whole * 100 + number (padded (m.frac.getD []) 2) < 2 ^ 53 := by
  obtain ⟨nonneg, floor⟩ := valid.floor_magnitude
  have abs : |m.value * 100| = m.magnitude * 100 := by
    rw [value]
    split_ifs
    · rw [neg_mul, abs_neg, abs_of_nonneg (by positivity)]
    · rw [abs_of_nonneg (by positivity)]
  have bound := @Int.floor_lt ℚ _ _ _ (2 ^ 53) (m.magnitude * 100)
  rw [floor] at bound
  rw [abs]
  constructor
  · intro lt
    exact_mod_cast bound.2 (by exact_mod_cast lt)
  · intro lt
    exact_mod_cast bound.1 (by exact_mod_cast lt)

end Numeral

/-- The digits of a numeral are put together exactly, or not at all. -/
lemma assemble_eq (valid : m.Valid) (flat : m.groups = []) :
    assemble m.sign m.head (m.frac.getD []) 2 =
      if |m.value * 100| < 2 ^ 53 then some m.minor else none := by
  have hundredth := (number_padded fun u mem => valid.digits u (List.mem_append_right m.whole mem)).1
  simp only [assemble, toNumber, isSafeInteger_units hundredth, valid.abs_lt, m.whole_of_flat flat]
  split_ifs with small minus
  · rw [nearest_units small, valid.minor_eq, if_pos minus, Rat.num_natCast, m.whole_of_flat flat]
    ring_nf
  · rw [nearest_units small, valid.minor_eq, if_neg minus, Rat.num_natCast, m.whole_of_flat flat, one_mul]
  · rfl

/-- `parseMinor` reads what is left without separators, if that is a decimal in range. -/
lemma parseMinor_eq_some {raw : JsText} {v : ℤ} : parseMinor raw = some v ↔
    ∃ m : Numeral, m.Valid ∧ m.groups = [] ∧ m.text = (trim raw).filter (!isSeparator ·) ∧
      |m.value * 100| < 2 ^ 53 ∧ v = m.minor := by
  simp only [parseMinor]
  generalize (trim raw).filter (!isSeparator ·) = text
  constructor
  · intro eq
    split_ifs at eq
    obtain ⟨⟨sign, whole, frac⟩, matched, eq⟩ := Option.bind_eq_some_iff.1 eq
    split_ifs at eq with nothing
    obtain ⟨m, valid, flat, rfl, rfl, rfl, rfl⟩ := Numeral.of_matchDecimal matched nothing
    rw [assemble_eq valid flat] at eq
    split_ifs at eq with small
    exact ⟨m, valid, flat, rfl, small, (Option.some.inj eq).symm⟩
  · rintro ⟨m, valid, flat, rfl, small, rfl⟩
    have digits : ¬(m.head = [] ∧ m.frac.getD [] = []) := fun none_ =>
      valid.nonempty (by simp [m.whole_of_flat flat, none_])
    have nonempty : m.text ≠ [] := fun none_ => by
      have matched : matchDecimal [] = _ := none_ ▸ valid.matchDecimal_text flat
      obtain ⟨_, parts⟩ := Prod.mk.inj (Option.some.inj matched)
      obtain ⟨head, frac⟩ := Prod.mk.inj parts
      exact digits ⟨head.symm, frac.symm⟩
    rw [if_neg nonempty, valid.matchDecimal_text flat, Option.bind_some, if_neg digits,
      assemble_eq valid flat, if_pos small]

/-- What `parseMinor` returns is a safe integer. -/
lemma abs_lt_of_parseMinor {raw : JsText} {v : ℤ} (eq : parseMinor raw = some v) : |v| < 2 ^ 53 := by
  obtain ⟨m, valid, _, _, small, rfl⟩ := parseMinor_eq_some.1 eq
  have nat := valid.abs_lt.1 small
  rw [valid.minor_eq, abs_mul]
  split_ifs
  · rw [abs_neg, abs_one, one_mul, Nat.abs_cast]
    exact_mod_cast nat
  · rw [abs_one, one_mul, Nat.abs_cast]
    exact_mod_cast nat

namespace Numeral

@[simp] lemma whole_plain : m.plain.whole = m.whole := by
  simp [plain, whole]

@[simp] lemma value_plain : m.plain.value = m.value := by
  rw [value, magnitude, whole_plain]
  rfl

@[simp] lemma minor_plain : m.plain.minor = m.minor := by
  rw [minor, value_plain, minor]

lemma Grouped.plain' (grouped : m.Grouped) : m.plain.Grouped where
  sign := grouped.sign
  plain := m.whole_plain ▸ grouped.plain
  first := nofun
  three := nofun

/-- Without separators a grouped numeral is the numeral without commas. -/
lemma Grouped.filter_text (grouped : m.Grouped) : m.text.filter (!isSeparator ·) = m.plain.text := by
  have keep {s : JsText} (sub : ∀ u ∈ s, u ∈ m.whole ++ m.frac.getD []) :
      s.filter (!isSeparator ·) = s :=
    List.filter_eq_self.2 fun u mem => by simp [(grouped.plain u (sub u mem)).1]
  have sign : m.sign.filter (!isSeparator ·) = m.sign := by
    rcases grouped.sign with eq | eq | eq <;> rw [eq] <;> rfl
  have head : m.head.filter (!isSeparator ·) = m.head := keep fun u mem => by simp [whole, mem]
  have groups : (m.groups.flatMap (unit ',' :: ·)).filter (!isSeparator ·) = m.groups.flatten := by
    rw [List.filter_flatMap, List.flatten_eq_flatMap]
    refine List.flatMap_congr fun g mem => ?_
    have comma : isSeparator (unit ',') = true := by decide
    rw [List.filter_cons_of_neg (by simp [comma]), keep fun u memU => ?_]
    · rfl
    · exact List.mem_append_left _ (List.mem_append_right _ (List.mem_flatten.2 ⟨g, mem, memU⟩))
  have tail : m.tail.filter (!isSeparator ·) = m.tail := by
    rcases m.tail_cases with eq | eq
    · rw [eq]
      rfl
    · have point : isSeparator (unit '.') = false := by decide
      rw [eq, List.filter_cons_of_pos (by simp [point]), keep fun u mem => by simp [mem]]
  rw [text, List.filter_append, List.filter_append, List.filter_append, sign, head, groups, tail]
  simp [Numeral.text, Numeral.plain, Numeral.whole, Numeral.tail]

/-- A grouped numeral is valid if it is without its commas. -/
lemma Grouped.valid (grouped : m.Grouped) (valid : m.plain.Valid) : m.Valid where
  toGrouped := grouped
  digits := m.whole_plain ▸ valid.digits
  nonempty := m.whole_plain ▸ valid.nonempty

lemma Valid.plain' (valid : m.Valid) : m.plain.Valid where
  toGrouped := valid.toGrouped.plain'
  digits := m.whole_plain.symm ▸ valid.digits
  nonempty := m.whole_plain.symm ▸ valid.nonempty

end Numeral

/-- An amount in range is read, whatever white space is around it. -/
lemma Numeral.Valid.parseMinor_eq {m : Numeral} {raw : JsText} (valid : m.Valid)
    (small : |m.value * 100| < 2 ^ 53) (text : m.text = trim raw) : parseMinor raw = some m.minor :=
  parseMinor_eq_some.2 ⟨m.plain, valid.plain', rfl, by rw [← text, valid.filter_text],
    m.value_plain.symm ▸ small, m.minor_plain.symm⟩

/-- `parseMinor` reads nothing but amounts, and those as they are, exactly where the commas of the trimmed
    text stand between groups of three and no white space stands in it, or where no decimal in range is
    left without its commas and white space. And it reads every amount in range. -/
theorem parseMinor_faithful_iff (raw : JsText) :
    ((∀ v, parseMinor raw = some v → ∃ m : Numeral, m.Valid ∧ m.text = trim raw ∧ v = m.minor) ↔
      (∃ m : Numeral, m.Grouped ∧ m.text = trim raw) ∨
        ¬∃ m : Numeral, m.Valid ∧ m.groups = [] ∧ m.text = (trim raw).filter (!isSeparator ·) ∧
          |m.value * 100| < 2 ^ 53) ∧
    ∀ m : Numeral, m.Valid → m.text = trim raw → |m.value * 100| < 2 ^ 53 →
      parseMinor raw = some m.minor := by
  refine ⟨?_, fun m valid text small => valid.parseMinor_eq small text⟩
  constructor
  · intro faithful
    refine or_iff_not_imp_right.2 fun readable => ?_
    obtain ⟨m, valid, flat, text, small⟩ := not_not.1 readable
    obtain ⟨m', valid', text', _⟩ := faithful _ (parseMinor_eq_some.2 ⟨m, valid, flat, text, small, rfl⟩)
    exact ⟨m', valid'.toGrouped, text'⟩
  · intro condition v eq
    obtain ⟨m, valid, flat, text, small, rfl⟩ := parseMinor_eq_some.1 eq
    rcases condition with ⟨m', grouped, text'⟩ | unreadable
    · have same : m = m'.plain := by
        refine valid.eq_of_text grouped.plain' flat rfl ?_
        rw [text, ← text', grouped.filter_text]
      subst same
      exact ⟨m', grouped.valid valid, text', m'.minor_plain⟩
    · exact absurd ⟨m, valid, flat, text, small⟩ unreadable

/-- A decimal comma is taken for a thousands separator. -/
theorem decimal_comma_misread : parseMinor (lit "1,5") = some 1500 ∧
    ¬∃ m : Numeral, m.Valid ∧ m.text = trim (lit "1,5") := by
  refine ⟨by decide +kernel, ?_⟩
  rintro ⟨m, valid, text⟩
  cases eq : m.groups with
  | nil =>
    have comma : unit ',' ∈ (m.text.filter (!isSeparator ·)) := by
      rw [valid.filter_text, Numeral.plain, m.whole_of_flat eq, ← eq, text]
      decide
    simpa [isSeparator] using (List.mem_filter.1 comma).2
  | cons g gs =>
    have first := (valid.first (by simp [eq])).1
    have three := valid.three g (by simp [eq])
    have length := congrArg List.length text
    have short : (trim (lit "1,5")).length = 3 := by decide
    rw [short, Numeral.text, eq] at length
    simp only [List.length_append, List.flatMap_cons, List.length_cons] at length
    omega

end Texts

section Rendering
variable {u : UInt16} {s : JsText} {v : ℤ}

lemma isWord_of_isDigit (digit : isDigit u = true) : isWord u = true := by
  simp [isWord, digit]

/-- In a text of digits the look-ahead sees groups of three exactly before a multiple of three. -/
lemma threes_eq (digits : ∀ u ∈ s, isDigit u = true) :
    threes s = true ↔ s ≠ [] ∧ s.length % 3 = 0 := by
  fun_induction threes s with
  | case1 a b c rest ih =>
    have tail := ih fun u mem => digits u (by simp [mem])
    have abc : isDigit a = true ∧ isDigit b = true ∧ isDigit c = true := by simp [digits]
    cases rest with
    | nil => simp [abc]
    | cons d rest =>
      have next : isDigit d = true := digits d (by simp)
      simp only [abc, next, List.head?_cons, Option.any_some, Bool.not_true, Bool.false_or,
        Bool.and_self, Bool.true_and, tail]
      simp only [ne_eq, reduceCtorEq, not_false_eq_true, true_and, List.length_cons]
      omega
  | case2 s short =>
    rcases s with _ | ⟨a, _ | ⟨b, _ | ⟨c, rest⟩⟩⟩
    · simp
    · simp
    · simp
    · exact (short a b c rest rfl).elim

/-- After a digit, a comma stands before each group of three counted from the right. -/
lemma group_some (digits : ∀ v ∈ s, isDigit v = true) (digit : isDigit u = true) :
    ∃ (head : JsText) (groups : List JsText), head.length = s.length % 3 ∧
      (∀ g ∈ groups, g.length = 3) ∧ s = head ++ groups.flatten ∧
      group (some u) s = head ++ groups.flatMap (unit ',' :: ·) := by
  induction s generalizing u with
  | nil => exact ⟨[], [], rfl, nofun, rfl, rfl⟩
  | cons v s ih =>
    obtain ⟨head, groups, length, three, eq, grouped⟩ :=
      ih (fun w mem => digits w (by simp [mem])) (digits v (by simp))
    have word : (some u).any isWord == isWord v := by
      simp [isWord_of_isDigit digit, isWord_of_isDigit (digits v (by simp))]
    have ahead := threes_eq digits
    by_cases multiple : (v :: s).length % 3 = 0
    · refine ⟨[], (v :: head) :: groups, multiple.symm, ?_, ?_, ?_⟩
      · refine List.forall_mem_cons.2 ⟨?_, three⟩
        rw [List.length_cons] at multiple ⊢
        omega
      · simp [eq]
      · rw [group, word, ahead.2 ⟨by simp, multiple⟩]
        simp [grouped]
    · refine ⟨v :: head, groups, ?_, three, by simp [eq], ?_⟩
      · rw [List.length_cons] at multiple ⊢
        rw [List.length_cons]
        omega
      · have none_ : threes (v :: s) = false := Bool.eq_false_iff.2 fun yes => multiple (ahead.1 yes).2
        rw [group, none_, Bool.and_false]
        simp [grouped]

/-- At the start no comma stands. -/
lemma group_none (digits : ∀ v ∈ s, isDigit v = true) (nonempty : s ≠ []) :
    ∃ (head : JsText) (groups : List JsText), 1 ≤ head.length ∧ head.length ≤ 3 ∧
      (∀ g ∈ groups, g.length = 3) ∧ s = head ++ groups.flatten ∧
      group none s = head ++ groups.flatMap (unit ',' :: ·) := by
  cases s with
  | nil => exact absurd rfl nonempty
  | cons v s =>
    have digit := digits v (by simp)
    obtain ⟨head, groups, length, three, eq, grouped⟩ :=
      group_some (s := s) (fun w mem => digits w (by simp [mem])) digit
    refine ⟨v :: head, groups, by simp, ?_, three, by simp [eq], ?_⟩
    · rw [List.length_cons]
      omega
    · rw [group, Option.any_none, isWord_of_isDigit digit]
      simp [grouped]

/-- The digits before and after the point denote the hundredths. -/
lemma splitDigits_spec (v : ℤ) :
    (∀ u ∈ (splitDigits v 2).1 ++ (splitDigits v 2).2, isDigit u = true) ∧ (splitDigits v 2).1 ≠ [] ∧
      (splitDigits v 2).2.length = 2 ∧
      number (splitDigits v 2).1 * 100 + number (splitDigits v 2).2 = v.natAbs := by
  have digits : ∀ u ∈ (ofNat v.natAbs).leftpad 3 (unit '0'), isDigit u = true := fun u mem => by
    rcases List.mem_append.1 mem with mem | mem
    · exact List.eq_of_mem_replicate mem ▸ by decide
    · exact isDigit_of_mem_ofNat mem
  have denotes : number ((ofNat v.natAbs).leftpad 3 (unit '0')) = v.natAbs := by
    rw [List.leftpad, number_append, number_replicate, number_ofNat, zero_mul, zero_add]
  have long : 3 ≤ ((ofNat v.natAbs).leftpad 3 (unit '0')).length := by
    rw [List.length_leftpad]
    exact le_max_left ..
  simp only [splitDigits, List.splitAt_eq]
  generalize (ofNat v.natAbs).leftpad (2 + 1) (unit '0') = all at *
  have split := number_append (s := all.take (all.length - 2)) (t := all.drop (all.length - 2))
  have two : (all.drop (all.length - 2)).length = 2 := by
    rw [List.length_drop]
    omega
  rw [List.take_append_drop, two, denotes] at split
  refine ⟨by simpa using digits, ?_, two, split.symm⟩
  rw [ne_eq, List.take_eq_nil_iff]
  rintro (none_ | rfl)
  · omega
  · simp at long

namespace Numeral

/-- No white space stands in a grouped numeral. -/
lemma Grouped.trim_text {m : Numeral} (grouped : m.Grouped) : trim m.text = m.text := by
  have plain {u : UInt16} (mem : u ∈ m.whole ++ m.frac.getD []) : isSpace u = false := by
    have := (grouped.plain u mem).1
    simp only [isSeparator, Bool.or_eq_false_iff] at this
    exact this.2
  refine trim_eq_self fun u mem => ?_
  simp only [text, List.mem_append, List.mem_flatMap] at mem
  rcases mem with ((sign | head) | ⟨g, memG, mem⟩) | tail
  · rcases grouped.sign with eq | eq | eq <;> rw [eq] at sign
    · cases sign
    · exact List.mem_singleton.1 sign ▸ by decide
    · exact List.mem_singleton.1 sign ▸ by decide
  · exact plain (List.mem_append_left _ (List.mem_append_left _ head))
  · rcases List.mem_cons.1 mem with rfl | mem
    · decide
    · exact plain (List.mem_append_left _ (List.mem_append_right _ (List.mem_flatten.2 ⟨g, memG, mem⟩)))
  · rcases m.tail_cases with eq | eq <;> rw [eq] at tail
    · cases tail
    · rcases List.mem_cons.1 tail with rfl | frac
      · decide
      · exact plain (List.mem_append_right _ frac)

/-- `parseMinor` reads an amount in range. -/
lemma Valid.parseMinor_text {m : Numeral} (valid : m.Valid) (small : |m.value * 100| < 2 ^ 53) :
    parseMinor m.text = some m.minor :=
  valid.parseMinor_eq small valid.trim_text.symm

/-- The numeral `toDecimalString` writes. -/
def ofMinor (v : ℤ) : Numeral :=
  ⟨if v < 0 then lit "-" else [], (splitDigits v 2).1, [], some (splitDigits v 2).2⟩

lemma valid_ofMinor (v : ℤ) : (ofMinor v).Valid := by
  obtain ⟨digits, nonempty, _, _⟩ := splitDigits_spec v
  have every : ∀ u ∈ (ofMinor v).whole ++ (ofMinor v).frac.getD [], isDigit u = true := by
    simpa [ofMinor, whole] using digits
  refine ⟨⟨?_, fun u mem => plain_of_isDigit (every u mem), nofun, nofun⟩, every, ?_⟩
  · unfold ofMinor
    split_ifs <;> simp
  · simp [ofMinor, whole, nonempty]

lemma value_ofMinor (v : ℤ) : (ofMinor v).value = v / 100 := by
  obtain ⟨_, _, two, denotes⟩ := splitDigits_spec v
  have magnitude : (ofMinor v).magnitude = (v.natAbs : ℚ) / 100 := by
    rw [magnitude, ofMinor, whole, List.flatten_nil, List.append_nil, Option.getD_some, two, ← denotes]
    push_cast
    ring
  have abs : (v.natAbs : ℚ) = |(v : ℚ)| := by
    rw [← Int.cast_abs, ← Int.natCast_natAbs, Int.cast_natCast]
  rw [value, magnitude, abs]
  by_cases negative : v < 0
  · have neg : (v : ℚ) ≤ 0 := by exact_mod_cast negative.le
    rw [if_pos (by simp [ofMinor, negative]), abs_of_nonpos neg]
    ring
  · have nonneg : (0 : ℚ) ≤ v := by exact_mod_cast not_lt.1 negative
    rw [if_neg (by simp [ofMinor, negative, lit]), abs_of_nonneg nonneg]

end Numeral

/-- What is rendered is read back: `toDecimalString` and `formatMinor` write the numeral of the amount,
    with a point and two digits, the latter with a comma before each group of three. -/
theorem render_parse {v : ℤ} (safe : |v| ≤ 2 ^ 53 - 1) :
    parseMinor (toDecimalString v) = some v ∧ parseMinor (formatMinor v) = some v ∧
    ∃ m g : Numeral, m.Valid ∧ m.text = toDecimalString v ∧ m.value = v / 100 ∧
      (m.sign = [] ∨ m.sign = lit "-") ∧ m.head ≠ [] ∧ m.groups = [] ∧
      (∃ frac, m.frac = some frac ∧ frac.length = 2) ∧
      g.Valid ∧ g.text = formatMinor v ∧ g.plain = m ∧ 1 ≤ g.head.length ∧ g.head.length ≤ 3 := by
  obtain ⟨digits, nonempty, two, _⟩ := splitDigits_spec v
  have valid := Numeral.valid_ofMinor v
  have value := Numeral.value_ofMinor v
  obtain ⟨head, groups, pos, le, three, split, grouped⟩ :=
    group_none (s := (splitDigits v 2).1) (fun u mem => digits u (List.mem_append_left _ mem)) nonempty
  let g : Numeral := ⟨(Numeral.ofMinor v).sign, head, groups, (Numeral.ofMinor v).frac⟩
  have plain : g.plain = Numeral.ofMinor v := by
    simp [g, Numeral.plain, Numeral.whole, Numeral.ofMinor, split]
  have validG : g.Valid := by
    have whole : g.whole = (Numeral.ofMinor v).whole := by rw [← plain, g.whole_plain]
    exact Numeral.Grouped.valid ⟨valid.sign, whole ▸ valid.plain, fun _ => ⟨pos, le⟩, three⟩ (plain ▸ valid)
  have text : (Numeral.ofMinor v).text = toDecimalString v := by
    simp [Numeral.text, Numeral.ofMinor, Numeral.tail, toDecimalString]
  have textG : g.text = formatMinor v := by
    simp [g, Numeral.text, Numeral.ofMinor, Numeral.tail, formatMinor, grouped]
  have small : |(Numeral.ofMinor v).value * 100| < 2 ^ 53 := by
    rw [value, div_mul_cancel₀ _ (by norm_num), ← Int.cast_abs]
    exact_mod_cast Int.lt_of_le_sub_one safe
  have minor : (Numeral.ofMinor v).minor = v := by
    rw [Numeral.minor, value, div_mul_cancel₀ _ (by norm_num)]
    simp [Binary64.truncate]
  have parse := valid.parseMinor_text small
  have parseG := validG.parseMinor_text (by rwa [← g.value_plain, plain])
  refine ⟨?_, ?_, _, g, valid, text, value, ?_, nonempty, rfl, ⟨_, rfl, two⟩, validG, textG, plain, pos, le⟩
  · rw [← text, parse, minor]
  · rw [← textG, parseG, ← g.minor_plain, plain, minor]
  · unfold Numeral.ofMinor
    split_ifs <;> simp

theorem render_parse_sample : formatMinor (-123456789) = lit "-1,234,567.89" ∧
    parseMinor (formatMinor (-123456789)) = some (-123456789) :=
  ⟨by decide, (render_parse (by norm_num)).2.1⟩

end Rendering

end LedgerLoop.Frontend
