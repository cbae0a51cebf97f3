import LedgerLoop.Webhooks.Adapters

/-!
# Minor units

Whether `minor_to_major` is exact. The amount of a gateway's event is untyped JSON that goes through
`int()`, which drops the fraction of a float and takes `true` for one; the decimal shift after it is
exact, or ends beyond `numeric(18,2)`. So an accepted amount is the number that was sent iff that number
is whole (`minor_units_exact_iff`).
-/

set_option autoImplicit false

namespace LedgerLoop.Adapters
open LedgerLoop.Library

/-- The number a JSON value is: a numeral in a string is what `int` reads in it, a boolean is none. -/
def numberSent (rt : Runtime) : Json → Option ℚ
  | .int n => some n
  | .float (.finite x) => some x
  | .float .negZero => some 0
  | .str s => (rt.intOfStr s).map fun n : ℤ => (n : ℚ)
  | _ => none

/-- A whole number was sent. -/
def Whole (rt : Runtime) (sent : Json) : Prop := ∃ n : ℤ, numberSent rt sent = some (n : ℚ)

/-- An amount is exactly the number of minor units that was sent. -/
def Exact (rt : Runtime) (amount : Money) (currency : PyStr) (sent : Json) : Prop :=
  numberSent rt sent = some (amount.toDecimal.toRat * 10 ^ exponent rt currency)

/-- The amount of an event and its currency, as the adapter of a gateway reads them. -/
def amountField (rt : Runtime) (body : List (PyStr × Json)) : WebhookProvider → Option (Json × PyStr)
  | .stripe => (payment? rt (stripe rt) body).map fun p => (p.amount, p.currency)
  | .razorpay => (payment? rt razorpay body).map fun p => (p.amount, p.currency)
  | .custom => none

section
variable {rt : Runtime} {shape : Shape} {body : List (PyStr × Json)} {w : AdaptedWebhook}
  {provider : WebhookProvider} {sent : Json} {units : ℤ} {places : ℕ} {m : Money}

lemma exponent_le (currency : PyStr) : exponent rt currency ≤ 2 := by
  unfold exponent
  split_ifs <;> omega

/-- `int` keeps whole numbers and nothing else. -/
lemma numberSent_eq_iff_whole (read : int rt sent = .ok units) :
    numberSent rt sent = some (units : ℚ) ↔ Whole rt sent := by
  refine ⟨fun kept => ⟨units, kept⟩, fun ⟨n, whole⟩ => ?_⟩
  suffices eq : n = units by rwa [← eq]
  cases sent with
  | int k =>
    cases read
    exact_mod_cast (Option.some.inj whole).symm
  | float x =>
    cases x with
    | finite x =>
      cases read
      obtain rfl : x = n := Option.some.inj whole
      simp
    | negZero =>
      cases read
      exact_mod_cast (Option.some.inj whole).symm
    | inf _ | nan => cases whole
  | str s =>
    simp only [int] at read
    cases spelled : rt.intOfStr s with
    | none =>
      rw [spelled] at read
      cases read
    | some k =>
      rw [spelled] at read
      cases read
      simp only [numberSent, spelled, Option.map_some, Option.some.injEq] at whole
      exact_mod_cast whole.symm
  | null | bool _ | list _ | dict _ => cases whole

/-- The shift of the exponent is exact where the result is an amount. -/
lemma toRat_mul_of_scaleb (few : places ≤ 2)
    (stored : Money.ofDecimal ((⟨units, 0⟩ : Decimal).scaleb (-places)) = some m) (nonzero : m.minor ≠ 0) :
    m.toDecimal.toRat * 10 ^ places = units := by
  obtain ⟨_, bounded⟩ := (Money.ofDecimal_scaleb few).1 ⟨m, stored, nonzero⟩
  have short : |units| < 10 ^ 28 := bounded.trans_le (pow_le_pow_right₀ (by norm_num) (by omega))
  have value : (⟨units, -places⟩ : Decimal).toRat * 100 = m.minor := by
    have eq := Money.ofDecimal_eq_some.1 stored
    rwa [Decimal.scaleb, zero_add, Decimal.fix_eq_self (d := ⟨units, -places⟩) short] at eq
  have minor : m.toDecimal.toRat * 100 = m.minor := by
    rw [Money.toRat_toDecimal, div_mul_cancel₀ _ (by norm_num)]
  have same : m.toDecimal.toRat = (⟨units, -places⟩ : Decimal).toRat :=
    mul_right_cancel₀ (by norm_num) (minor.trans value.symm)
  rw [same, Decimal.toRat, zpow_neg, zpow_natCast, inv_mul_cancel_right₀ (by positivity)]

/-- What an accepted event stores is the whole number that `int` reads in the amount. -/
lemma adaptPayment_amount (ok : adaptPayment rt shape body = .ok w) :
    ∃ p units, payment? rt shape body = some p ∧ p.currency = .ofString w.payload.currency ∧
      int rt p.amount = .ok units ∧
      w.payload.amount.toDecimal.toRat * 10 ^ exponent rt p.currency = units := by
  cases payment : payment? rt shape body with
  | none =>
    obtain ⟨message, refused⟩ := adaptPayment_none payment
    rw [refused] at ok
    cases ok
  | some p =>
    rw [adaptPayment_some payment] at ok
    simp only [bind, Except.bind, minorToMajor] at ok
    split at ok
    · cases ok
    split at ok
    · cases ok
    split at ok
    · cases ok
    rename_i major converted
    split_ifs at converted
    cases whole : int rt p.amount with
    | error e =>
      rw [whole] at converted
      cases converted
    | ok units =>
      rw [whole] at converted
      cases converted
      unfold adapted at ok
      split at ok
      · rename_i payload valid
        cases ok
        obtain ⟨_, money, code, _, _⟩ := gatewayWebhookIn_eq_some.1 valid
        exact ⟨p, units, rfl, (PyStr.ofString_of_toString? code).symm, whole,
          toRat_mul_of_scaleb (exponent_le _) money payload.amount_nonzero⟩
      · cases ok

/-- The amount of an accepted event is what was sent iff a whole number was sent. -/
lemma exact_iff_whole (gateway : provider ≠ .custom) (ok : adapt rt provider body = .ok w) :
    ∃ sent, amountField rt body provider = some (sent, .ofString w.payload.currency) ∧
      (Exact rt w.payload.amount (.ofString w.payload.currency) sent ↔ Whole rt sent) := by
  have read {shape : Shape} (ok : adaptPayment rt shape body = .ok w) :
      ∃ p, payment? rt shape body = some p ∧ p.currency = .ofString w.payload.currency ∧
        (Exact rt w.payload.amount (.ofString w.payload.currency) p.amount ↔ Whole rt p.amount) := by
    obtain ⟨p, units, payment, currency, whole, stored⟩ := adaptPayment_amount ok
    refine ⟨p, payment, currency, ?_⟩
    rw [Exact, ← currency, stored]
    exact numberSent_eq_iff_whole whole
  cases provider with
  | stripe =>
    obtain ⟨p, payment, currency, iff⟩ := read ok
    exact ⟨p.amount, by rw [amountField, payment, ← currency]; rfl, iff⟩
  | razorpay =>
    obtain ⟨p, payment, currency, iff⟩ := read ok
    exact ⟨p.amount, by rw [amountField, payment, ← currency]; rfl, iff⟩
  | custom => exact absurd rfl gateway

/-- Every accepted event of a gateway stores exactly what was sent iff a whole number was sent; a whole
    number that no amount is exactly is refused. -/
theorem minor_units_exact_iff (gateway : provider ≠ .custom) :
    (∀ w, adapt rt provider body = .ok w →
      ∃ sent, amountField rt body provider = some (sent, .ofString w.payload.currency) ∧
        (Exact rt w.payload.amount (.ofString w.payload.currency) sent ↔ Whole rt sent)) ∧
    ∀ sent currency, amountField rt body provider = some (sent, currency) → Whole rt sent →
      (∀ m, ¬Exact rt m currency sent) → ∀ w, adapt rt provider body ≠ .ok w := by
  refine ⟨fun w ok => exact_iff_whole gateway ok, fun sent currency field whole none_ w ok => ?_⟩
  obtain ⟨sent', field', iff⟩ := exact_iff_whole gateway ok
  obtain ⟨rfl, rfl⟩ := Prod.mk.inj (Option.some.inj (field.symm.trans field'))
  exact none_ _ (iff.2 whole)

end

end LedgerLoop.Adapters

namespace LedgerLoop

namespace WebhookSample
open LedgerLoop.Library LedgerLoop.Adapters

/-- A `payment_intent.succeeded` event in rupees. -/
def stripeBody (amount : Json) : List (PyStr × Json) :=
  [(.ofString "type", .str (.ofString "payment_intent.succeeded")),
    (.ofString "data", .dict [(.ofString "object", .dict
      [(.ofString "id", .str (.ofString "pi_3Ox")), (.ofString "amount", amount),
        (.ofString "currency", .str (.ofString "INR")), (.ofString "created", .int 1704067200)])])]

/-- What is stored of an event, in hundredths. -/
def storedMinor (amount : Json) : Option ℤ :=
  (adapt runtime .stripe (stripeBody amount)).toOption.map (·.payload.amount.minor)

/-- An event with a stored amount is accepted. -/
lemma exists_accepted {amount : Json} {minor : ℤ} (stored : storedMinor amount = some minor) :
    ∃ w, adapt runtime .stripe (stripeBody amount) = .ok w ∧ w.payload.amount.minor = minor := by
  unfold storedMinor at stored
  cases adapted : adapt runtime .stripe (stripeBody amount) with
  | error e =>
    rw [adapted] at stored
    cases stored
  | ok w =>
    rw [adapted] at stored
    exact ⟨w, rfl, Option.some.inj stored⟩

/-- The amount of an event in rupees is read where it is. -/
lemma amountField_stripeBody (amount : Json) :
    amountField runtime (stripeBody amount) .stripe = some (amount, .ofString "INR") := by
  rfl

end WebhookSample

namespace Adapters
open LedgerLoop.Library WebhookSample

/-- 105000 paise are stored as exactly 1050.00 rupees. -/
theorem minor_units_exact_sample :
    ∃ w, adapt runtime .stripe (stripeBody (.int 105000)) = .ok w ∧ w.payload.amount.minor = 105000 ∧
      Exact runtime w.payload.amount (.ofString w.payload.currency) (.int 105000) := by
  obtain ⟨w, ok, minor⟩ := exists_accepted (by decide +kernel : storedMinor (.int 105000) = some 105000)
  obtain ⟨sent, field, iff⟩ :=
    (@minor_units_exact_iff runtime (stripeBody (.int 105000)) .stripe (by decide)).1 w ok
  rw [amountField_stripeBody] at field
  obtain ⟨rfl, _⟩ := Prod.mk.inj (Option.some.inj field)
  exact ⟨w, ok, minor, iff.2 ⟨105000, rfl⟩⟩

/-- 1050.5 paise are accepted and stored as 10.50 rupees, half a paisa less. -/
theorem fraction_of_paisa_dropped :
    ∃ w, adapt runtime .stripe (stripeBody (.float (.finite (2101 / 2)))) = .ok w ∧
      w.payload.amount.toDecimal.str = "10.50" ∧
      ¬Exact runtime w.payload.amount (.ofString "INR") (.float (.finite (2101 / 2))) := by
  obtain ⟨w, ok, minor⟩ := exists_accepted
    (by decide +kernel : storedMinor (.float (.finite (2101 / 2))) = some 1050)
  refine ⟨w, ok, by rw [Money.toDecimal, minor]; decide, fun exact_ => ?_⟩
  have places : exponent runtime (.ofString "INR") = 2 := by decide
  rw [Exact, places, Money.toRat_toDecimal, minor, numberSent, Option.some.injEq] at exact_
  norm_num at exact_

end Adapters

end LedgerLoop
