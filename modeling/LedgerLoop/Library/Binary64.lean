import Mathlib.Tactic
import Mathlib.Data.Int.Log
import Mathlib.Data.Rat.Floor

/-!
# Binary64 rounding of rationals

IEEE 754 double arithmetic as rounding of exact rational results: `nearest q` is the binary64 number
nearest to `q`, ties to even, for `q` zero or of magnitude in the normal range (neither subnormal nor
past the largest finite double). A division or product of doubles is `nearest` of the exact quotient or
product, so a chain of float operations is a chain of `nearest`s.

`nearest_mono` carries the whole use of the library: a comparison of float results against a bound is
decided at one input and transported to all others by monotonicity.
-/

set_option autoImplicit false

namespace LedgerLoop.Library.Binary64

/-- Nearest integer, ties to even. -/
def halfEven (x : ℚ) : ℤ :=
  if x - ⌊x⌋ < 1 / 2 then ⌊x⌋
  else if 1 / 2 < x - ⌊x⌋ then ⌊x⌋ + 1
  else if ⌊x⌋ % 2 = 0 then ⌊x⌋
  else ⌊x⌋ + 1

lemma halfEven_eq_floor_or (x : ℚ) : halfEven x = ⌊x⌋ ∨ halfEven x = ⌊x⌋ + 1 := by
  unfold halfEven
  split_ifs <;> simp

lemma halfEven_intCast (n : ℤ) : halfEven n = n := by
  simp [halfEven]

/-- Rounding to an integer is monotone. -/
lemma halfEven_mono {x y : ℚ} (le : x ≤ y) : halfEven x ≤ halfEven y := by
  have floor_le : ⌊x⌋ ≤ ⌊y⌋ := Int.floor_mono le
  rcases floor_le.lt_or_eq with lt | eq
  · -- a whole integer lies between `x` and `y`
    rcases halfEven_eq_floor_or x with hx | hx <;> rcases halfEven_eq_floor_or y with hy | hy <;>
      omega
  · unfold halfEven
    rw [eq]
    split_ifs <;> first | omega | linarith

/-- A bound by an integer survives rounding to an integer. -/
lemma halfEven_le {x : ℚ} {n : ℤ} (le : x ≤ n) : halfEven x ≤ n := by
  simpa [halfEven_intCast] using halfEven_mono le

lemma le_halfEven {x : ℚ} {n : ℤ} (le : (n : ℚ) ≤ x) : n ≤ halfEven x := by
  simpa [halfEven_intCast] using halfEven_mono le

/-- The unit in the last place of a positive number: 53 significant bits. -/
def ulp (q : ℚ) : ℚ := (2 : ℚ) ^ (Int.log 2 q - 52)

lemma ulp_pos (q : ℚ) : 0 < ulp q := zpow_pos (by norm_num) _

/-- A power of two in units in the last place. -/
lemma pow_mul_ulp (q : ℚ) (k : ℤ) : (2 : ℚ) ^ k * ulp q = (2 : ℚ) ^ (Int.log 2 q + (k - 52)) := by
  rw [ulp, ← zpow_add₀ (by norm_num)]
  congr 1
  ring

/-- Rounding of a positive number. -/
def nearestPos (q : ℚ) : ℚ := halfEven (q / ulp q) * ulp q

/-- The double nearest to `q`, ties to even. -/
def nearest (q : ℚ) : ℚ :=
  if 0 < q then nearestPos q else if q < 0 then -nearestPos (-q) else 0

/-- A positive number is not rounded past the next power of two. -/
lemma nearestPos_le_pow {q : ℚ} : nearestPos q ≤ (2 : ℚ) ^ (Int.log 2 q + 1) := by
  have lt : q < (2 : ℚ) ^ (Int.log 2 q + 1) := by
    exact_mod_cast Int.lt_zpow_succ_log_self (b := 2) (by norm_num) q
  have scale := pow_mul_ulp q 53
  norm_num at scale
  have scaled : q / ulp q ≤ ((9007199254740992 : ℤ) : ℚ) := by
    rw [div_le_iff₀ (ulp_pos q)]
    push_cast
    rw [scale]
    exact lt.le
  have bound : (halfEven (q / ulp q) : ℚ) ≤ 9007199254740992 := by exact_mod_cast halfEven_le scaled
  calc nearestPos q ≤ 9007199254740992 * ulp q := mul_le_mul_of_nonneg_right bound (ulp_pos q).le
    _ = (2 : ℚ) ^ (Int.log 2 q + 1) := scale

/-- A positive number is not rounded below its leading power of two. -/
lemma pow_le_nearestPos {q : ℚ} (pos : 0 < q) : (2 : ℚ) ^ Int.log 2 q ≤ nearestPos q := by
  have le : (2 : ℚ) ^ Int.log 2 q ≤ q := by
    exact_mod_cast Int.zpow_log_le_self (b := 2) (by norm_num) pos
  have scale := pow_mul_ulp q 52
  norm_num at scale
  have scaled : ((4503599627370496 : ℤ) : ℚ) ≤ q / ulp q := by
    rw [le_div_iff₀ (ulp_pos q)]
    push_cast
    rw [scale]
    exact le
  have bound : (4503599627370496 : ℚ) ≤ halfEven (q / ulp q) := by exact_mod_cast le_halfEven scaled
  calc (2 : ℚ) ^ Int.log 2 q = 4503599627370496 * ulp q := scale.symm
    _ ≤ nearestPos q := mul_le_mul_of_nonneg_right bound (ulp_pos q).le

lemma nearestPos_pos {q : ℚ} (pos : 0 < q) : 0 < nearestPos q :=
  lt_of_lt_of_le (zpow_pos (by norm_num) _) (pow_le_nearestPos pos)

lemma nearestPos_mono {q r : ℚ} (pos : 0 < q) (le : q ≤ r) : nearestPos q ≤ nearestPos r := by
  have log_le : Int.log 2 q ≤ Int.log 2 r := Int.log_mono_right pos le
  rcases log_le.lt_or_eq with lt | eq
  · -- the two lie in different binades, and neither leaves its own
    calc nearestPos q ≤ (2 : ℚ) ^ (Int.log 2 q + 1) := nearestPos_le_pow
      _ ≤ (2 : ℚ) ^ Int.log 2 r := zpow_le_zpow_right₀ (by norm_num) (by omega)
      _ ≤ nearestPos r := pow_le_nearestPos (lt_of_lt_of_le pos le)
  · have same : ulp q = ulp r := by rw [ulp, ulp, eq]
    unfold nearestPos
    rw [same]
    apply mul_le_mul_of_nonneg_right _ (ulp_pos r).le
    exact_mod_cast halfEven_mono (div_le_div_of_nonneg_right le (ulp_pos r).le)

lemma nearest_nonneg {q : ℚ} (nonneg : 0 ≤ q) : 0 ≤ nearest q := by
  unfold nearest
  split_ifs with pos neg
  · exact (nearestPos_pos pos).le
  · exact absurd neg (not_lt.2 nonneg)
  · exact le_rfl

lemma nearest_nonpos {q : ℚ} (nonpos : q ≤ 0) : nearest q ≤ 0 := by
  unfold nearest
  split_ifs with pos neg
  · exact absurd pos (not_lt.2 nonpos)
  · have := nearestPos_pos (neg_pos.2 neg)
    linarith
  · exact le_rfl

/-- Rounding to double is monotone. -/
theorem nearest_mono {q r : ℚ} (le : q ≤ r) : nearest q ≤ nearest r := by
  rcases lt_trichotomy q 0 with negq | rfl | posq
  · rcases lt_or_ge r 0 with negr | nonneg
    · have le' : nearestPos (-r) ≤ nearestPos (-q) :=
        nearestPos_mono (neg_pos.2 negr) (neg_le_neg le)
      simp only [nearest, negq, negr, not_lt.2 negq.le, not_lt.2 negr.le, if_true, if_false]
      linarith
    · exact (nearest_nonpos negq.le).trans (nearest_nonneg nonneg)
  · exact (nearest_nonpos le_rfl).trans (nearest_nonneg le)
  · have posr : 0 < r := lt_of_lt_of_le posq le
    simp only [nearest, posq, posr, if_true]
    exact nearestPos_mono posq le

/-- Evaluation rule: the leading power of two and the rounded significand determine `nearest q`. -/
lemma nearest_eq {q : ℚ} {e n : ℤ} (lo : (2 : ℚ) ^ e ≤ q) (hi : q < (2 : ℚ) ^ (e + 1))
    (near : halfEven (q / (2 : ℚ) ^ (e - 52)) = n) : nearest q = n * (2 : ℚ) ^ (e - 52) := by
  have pos : 0 < q := lt_of_lt_of_le (zpow_pos (by norm_num) _) lo
  have log_eq : Int.log 2 q = e := by
    apply le_antisymm
    · have := (Int.lt_zpow_iff_log_lt (b := 2) (x := e + 1) (by norm_num) pos).1 (by exact_mod_cast hi)
      omega
    · exact (Int.zpow_le_iff_le_log (b := 2) (by norm_num) pos).1 (by exact_mod_cast lo)
  simp only [nearest, pos, if_true, nearestPos, ulp, log_eq, near]

/-- Python's `int(x)` of a float: truncation toward zero. -/
def truncate (x : ℚ) : ℤ := if 0 ≤ x then ⌊x⌋ else ⌈x⌉

/-- Rounding to an integer adds at most one half. -/
lemma halfEven_le_add_half (x : ℚ) : (halfEven x : ℚ) ≤ x + 1 / 2 := by
  have floor := Int.floor_le x
  unfold halfEven
  split_ifs <;> push_cast <;> linarith

/-- Rounding to an integer takes away at most one half. -/
lemma sub_half_le_halfEven (x : ℚ) : x - 1 / 2 ≤ halfEven x := by
  have floor := (Int.lt_floor_add_one x).le
  unfold halfEven
  split_ifs <;> push_cast <;> linarith

/-- Rounding to double adds at most half a unit in the last place. -/
lemma nearestPos_le_add {q : ℚ} : nearestPos q ≤ q + ulp q / 2 := by
  have scaled := mul_le_mul_of_nonneg_right (halfEven_le_add_half (q / ulp q)) (ulp_pos q).le
  rw [add_mul, div_mul_cancel₀ _ (ulp_pos q).ne'] at scaled
  unfold nearestPos
  linarith

lemma sub_le_nearestPos {q : ℚ} : q - ulp q / 2 ≤ nearestPos q := by
  have scaled := mul_le_mul_of_nonneg_right (sub_half_le_halfEven (q / ulp q)) (ulp_pos q).le
  rw [sub_mul, div_mul_cancel₀ _ (ulp_pos q).ne'] at scaled
  unfold nearestPos
  linarith

/-- The relative error of rounding to double is at most `2 ^ -53`. -/
lemma abs_nearest_sub_le {q : ℚ} (nonneg : 0 ≤ q) : |nearest q - q| ≤ q / 2 ^ 53 := by
  rcases nonneg.eq_or_lt with rfl | pos
  · simp [nearest]
  have half : ulp q / 2 ≤ q / 2 ^ 53 := by
    have le : (2 : ℚ) ^ Int.log 2 q ≤ q := by
      exact_mod_cast Int.zpow_log_le_self (b := 2) (by norm_num) pos
    have scale := pow_mul_ulp q 52
    norm_num at scale
    rw [le_div_iff₀ (by positivity)]
    linarith
  rw [nearest, if_pos pos, abs_le]
  constructor <;> linarith [@nearestPos_le_add q, @sub_le_nearestPos q]

/-- Integers of up to 53 bits are doubles. -/
lemma nearest_natCast {n : ℕ} (small : n < 2 ^ 53) : nearest n = n := by
  rcases Nat.eq_zero_or_pos n with rfl | pos
  · simp [nearest]
  have posQ : (0 : ℚ) < n := by exact_mod_cast pos
  have log_lt : Int.log 2 (n : ℚ) < 53 :=
    (Int.lt_zpow_iff_log_lt (b := 2) (by norm_num) posQ).1 (by exact_mod_cast small)
  obtain ⟨k, eq⟩ := Int.eq_ofNat_of_zero_le (show 0 ≤ 52 - Int.log 2 (n : ℚ) by omega)
  have whole : (n : ℚ) / ulp n = ((n * 2 ^ k : ℕ) : ℤ) := by
    rw [ulp, div_eq_mul_inv, ← zpow_neg, neg_sub, eq]
    push_cast
    rfl
  rw [nearest, if_pos posQ, nearestPos, whole, halfEven_intCast, ← whole,
    div_mul_cancel₀ _ (ulp_pos _).ne']

lemma nearest_neg (q : ℚ) : nearest (-q) = -nearest q := by
  rcases lt_trichotomy q 0 with neg | rfl | pos
  · simp [nearest, neg, not_lt.2 neg.le]
  · simp [nearest]
  · simp [nearest, pos, not_lt.2 pos.le]

lemma truncate_neg (x : ℚ) : truncate (-x) = -truncate x := by
  rcases lt_trichotomy x 0 with neg | rfl | pos
  · simp [truncate, neg.le, not_le.2 neg, Int.floor_neg]
  · simp [truncate]
  · simp [truncate, pos.le, not_le.2 pos, Int.ceil_neg]

/-- A number whose distance to the next integer is more than half a unit in the last place keeps its
    integral part. -/
lemma truncate_nearest {q : ℚ} {e : ℤ} (nonneg : 0 ≤ q) (small : q < (2 : ℚ) ^ e) (exact : e ≤ 53)
    (gap : q + (2 : ℚ) ^ (e - 54) < ⌊q⌋ + 1) : truncate (nearest q) = ⌊q⌋ := by
  rw [truncate, if_pos (nearest_nonneg nonneg), Int.floor_eq_iff]
  rcases nonneg.eq_or_lt with rfl | pos
  · simp [nearest]
  constructor
  · obtain ⟨n, eq⟩ := Int.eq_ofNat_of_zero_le (Int.floor_nonneg.2 nonneg)
    have cast : ((⌊q⌋ : ℤ) : ℚ) = (n : ℚ) := by rw [eq]; rfl
    have le : (n : ℚ) ≤ q := cast ▸ Int.floor_le q
    have bound : n < 2 ^ 53 := by
      have lt : (n : ℚ) < (2 : ℚ) ^ (53 : ℤ) :=
        (le.trans_lt small).trans_le (zpow_le_zpow_right₀ (by norm_num) exact)
      exact_mod_cast lt
    rw [cast, ← nearest_natCast bound]
    exact nearest_mono le
  · have log_lt : Int.log 2 q < e :=
      (Int.lt_zpow_iff_log_lt (b := 2) (by norm_num) pos).1 (by exact_mod_cast small)
    have half : ulp q / 2 ≤ (2 : ℚ) ^ (e - 54) := by
      rw [ulp, div_eq_mul_inv, ← zpow_sub_one₀ (by norm_num)]
      exact zpow_le_zpow_right₀ (by norm_num) (by omega)
    rw [nearest, if_pos pos]
    have := @nearestPos_le_add q
    linarith

/-- Truncation is monotone. -/
lemma truncate_mono {x y : ℚ} (le : x ≤ y) : truncate x ≤ truncate y := by
  unfold truncate
  split_ifs with hx hy hy
  · exact Int.floor_mono le
  · exact absurd (hx.trans le) hy
  · have : ⌈x⌉ ≤ 0 := Int.ceil_le.2 (by push_cast; linarith)
    exact this.trans (Int.floor_nonneg.2 hy)
  · exact Int.ceil_mono le

/-- Rounding a quotient of integers to an integer. -/
lemma halfEven_div (n : ℤ) {m : ℕ} (pos : 0 < m) : halfEven ((n : ℚ) / m) =
    if 2 * (n % m) < m then n / m else if m < 2 * (n % m) then n / m + 1
    else if n / m % 2 = 0 then n / m else n / m + 1 := by
  have posQ : (0 : ℚ) < m := by exact_mod_cast pos
  have floor : ⌊(n : ℚ) / m⌋ = n / m := Rat.floor_intCast_div_natCast n m
  have rest : (n : ℚ) / m - ((n / m : ℤ) : ℚ) = ((n % m : ℤ) : ℚ) / m := by
    have split : (n : ℚ) = m * ((n / m : ℤ) : ℚ) + ((n % m : ℤ) : ℚ) := by
      exact_mod_cast (Int.mul_ediv_add_emod n m).symm
    rw [eq_div_iff posQ.ne', sub_mul, div_mul_cancel₀ _ posQ.ne']
    linarith
  have below : ((n % m : ℤ) : ℚ) / m < 1 / 2 ↔ 2 * (n % m) < m := by
    rw [div_lt_div_iff₀ posQ (by norm_num), one_mul, mul_comm]
    exact_mod_cast Iff.rfl
  have above : 1 / 2 < ((n % m : ℤ) : ℚ) / m ↔ (m : ℤ) < 2 * (n % m) := by
    rw [div_lt_div_iff₀ (by norm_num) posQ, one_mul, mul_comm]
    exact_mod_cast Iff.rfl
  simp only [halfEven, floor, rest, below, above]

/-- Powers of two are doubles. -/
lemma nearest_two_pow (k : ℕ) : nearest (2 ^ k) = 2 ^ k := by
  have scale : (2 : ℚ) ^ (52 : ℤ) * (2 : ℚ) ^ ((k : ℤ) - 52) = 2 ^ k := by
    rw [← zpow_add₀ (by norm_num), add_sub_cancel, zpow_natCast]
  have whole : (2 : ℚ) ^ k / (2 : ℚ) ^ ((k : ℤ) - 52) = ((4503599627370496 : ℤ) : ℚ) := by
    rw [← scale, mul_div_cancel_right₀ _ (zpow_ne_zero _ (by norm_num))]
    norm_num
  have lt : (2 : ℚ) ^ k < (2 : ℚ) ^ ((k : ℤ) + 1) := by
    rw [← zpow_natCast]
    exact zpow_lt_zpow_right₀ (by norm_num) (lt_add_one _)
  rw [nearest_eq (zpow_natCast _ _).le lt (whole ▸ halfEven_intCast _), ← scale]
  norm_num

/-- The double of an integer of `53 + k` bits. -/
lemma nearest_of_binade {n k : ℕ} (lo : 2 ^ (52 + k) ≤ n) (hi : n < 2 ^ (53 + k)) :
    nearest n = halfEven (((n : ℤ) : ℚ) / (2 ^ k : ℕ)) * 2 ^ k := by
  have scale : ((52 + k : ℕ) : ℤ) - 52 = k := by push_cast; ring
  have loQ : (2 : ℚ) ^ ((52 + k : ℕ) : ℤ) ≤ n := by
    rw [zpow_natCast]
    exact_mod_cast lo
  have hiQ : (n : ℚ) < (2 : ℚ) ^ (((52 + k : ℕ) : ℤ) + 1) := by
    rw [← Nat.cast_succ, zpow_natCast, show (52 + k).succ = 53 + k by omega]
    exact_mod_cast hi
  rw [nearest_eq loQ hiQ rfl, scale, zpow_natCast]
  push_cast
  rfl

/-- A comparison with a small whole number survives rounding. -/
lemma nearest_le_natCast {k : ℤ} {n : ℕ} (small : n + 1 < 2 ^ 53) : nearest k ≤ n ↔ k ≤ n := by
  constructor
  · intro le
    by_contra above
    have next : ((n + 1 : ℕ) : ℚ) ≤ k := by exact_mod_cast Int.add_one_le_iff.2 (not_le.1 above)
    have := (nearest_mono next).trans le
    rw [nearest_natCast small, Nat.cast_le] at this
    omega
  · intro le
    have leQ : (k : ℚ) ≤ n := by exact_mod_cast le
    simpa only [nearest_natCast (Nat.lt_of_succ_lt small)] using nearest_mono leQ

/-- Positive numbers whose doubles are out of order are close to each other. -/
lemma sub_le_of_nearest_le {q r : ℚ} (posq : 0 < q) (posr : 0 < r) (le : nearest r ≤ nearest q) :
    r - q ≤ ulp q / 2 + ulp r / 2 := by
  simp only [nearest, posq, posr, if_true] at le
  have := @nearestPos_le_add q
  have := @sub_le_nearestPos r
  linarith

lemma nearest_abs (q : ℚ) : |nearest q| = nearest |q| := by
  rcases le_total 0 q with nonneg | nonpos
  · rw [abs_of_nonneg nonneg, abs_of_nonneg (nearest_nonneg nonneg)]
  · rw [abs_of_nonpos nonpos, abs_of_nonpos (nearest_nonpos nonpos), nearest_neg]

/-- A number below a power of two is rounded in units that keep 53 bits. -/
lemma ulp_le {q : ℚ} {k : ℤ} (pos : 0 < q) (lt : q < (2 : ℚ) ^ k) : ulp q ≤ (2 : ℚ) ^ (k - 53) := by
  have log_lt : Int.log 2 q < k :=
    (Int.lt_zpow_iff_log_lt (b := 2) (by norm_num) pos).1 (by exact_mod_cast lt)
  exact zpow_le_zpow_right₀ (by norm_num) (by omega)

/-- So its rounding errs by half of such a unit. -/
lemma abs_nearest_sub_le_of_lt {q : ℚ} {k : ℤ} (nonneg : 0 ≤ q) (lt : q < (2 : ℚ) ^ k) :
    |nearest q - q| ≤ (2 : ℚ) ^ (k - 53) / 2 := by
  rcases nonneg.eq_or_lt with rfl | pos
  · have scale : (0 : ℚ) < 2 ^ (k - 53) := zpow_pos (by norm_num) _
    simpa [nearest] using (half_pos scale).le
  · have unit_ := ulp_le pos lt
    rw [nearest, if_pos pos, abs_le]
    constructor <;> linarith [@nearestPos_le_add q, @sub_le_nearestPos q]

end LedgerLoop.Library.Binary64
