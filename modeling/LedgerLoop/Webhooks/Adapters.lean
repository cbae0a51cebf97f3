import LedgerLoop.Db.Models
import LedgerLoop.Library.PyValue

/-!
# Payload adapters

Port of `webhooks/adapters.py`: a provider's payload becomes a `GatewayWebhookIn` and an idempotency key.

An adapter raises `AdapterError`, which the endpoint answers with a 422, or whatever a statement raises
that nothing catches. `Runtime` has the pure functions of the standard library, of Pydantic and of the
database that the endpoint calls; nothing is assumed of them beyond their types.
-/

set_option autoImplicit false

namespace LedgerLoop
open LedgerLoop.Library

/-- Which gateway is posting (`db/enums.py`). -/
inductive WebhookProvider where
  | stripe
  | razorpay
  | custom
deriving DecidableEq, Repr

/-- What `json.loads` raises: `JSONDecodeError`, or another exception (undecodable bytes, an integer
    literal beyond the digit limit, nesting beyond the recursion limit). -/
inductive LoadsError where
  | jsonDecodeError (message : PyStr)
  | other
deriving DecidableEq, Repr

/-- `hexdigest()` of a SHA-256. -/
structure HexDigest where
  text : String
  length : text.length = 64
  hex : text.toList.all (fun c => c.isDigit || ('a' ≤ c && c ≤ 'f')) = true

/-- What the endpoint calls and does not define. -/
structure Runtime where
  /-- `_hexdigest(secret, payload)`. -/
  hexdigest : String → List UInt8 → HexDigest
  loads : List UInt8 → Except LoadsError Json
  /-- `repr(v)`. -/
  repr : Json → PyStr
  /-- `int(s)`, or a `ValueError`. -/
  intOfStr : PyStr → Option ℤ
  /-- `s.upper()`. -/
  upper : PyStr → PyStr
  /-- `GatewayWebhookIn.model_validate(body)`, or a `ValidationError`. -/
  modelValidate : Json → Option GatewayWebhookIn
  /-- The text of a value in a `jsonb` column, or `none` where the statement raises. -/
  jsonb : Json → Option String

/-- An exception on the way of a delivery. -/
inductive Raised where
  /-- `AdapterError`. -/
  | adapterError (message : PyStr)
  | typeError
  | valueError
  | overflowError
  | attributeError
  /-- Pydantic's `ValidationError`. -/
  | validationError
  /-- What `json.loads` raises. -/
  | loads (error : LoadsError)
  /-- What encoding an argument or a statement raises. -/
  | database (error : PyError)
deriving DecidableEq, Repr

/-- A count of minor units is an amount iff it has at most 16 digits before the point. -/
lemma Money.ofDecimal_scaleb {units : ℤ} {places : ℕ} (few : places ≤ 2) :
    (∃ m, Money.ofDecimal ((⟨units, 0⟩ : Decimal).scaleb (-places)) = some m ∧ m.minor ≠ 0) ↔
      units ≠ 0 ∧ |units| < 10 ^ (16 + places) := by
  have hundred : (100 : ℚ) = 10 ^ places * 10 ^ (2 - places) := by
    rw [← pow_add, Nat.add_sub_cancel' few]
    norm_num
  have whole : (10 : ℤ) ^ 18 = 10 ^ (16 + places) * 10 ^ (2 - places) := by
    rw [← pow_add]
    congr 1
    omega
  have pos : (0 : ℤ) < 10 ^ (2 - places) := by positivity
  simp only [Money.ofDecimal_eq_some, Decimal.scaleb, zero_add]
  by_cases short : |units| < 10 ^ 28
  · have value : (⟨units, -places⟩ : Decimal).toRat * 100 = ((units * 10 ^ (2 - places) : ℤ) : ℚ) := by
      rw [Decimal.toRat, hundred, zpow_neg, zpow_natCast]
      push_cast
      field_simp
    rw [Decimal.fix_eq_self (d := ⟨units, -places⟩) short, value]
    constructor
    · rintro ⟨m, eq, nonzero⟩
      have minor := Int.cast_injective eq
      have bounded := m.bounded
      rw [← minor, abs_mul, abs_of_pos pos, whole] at bounded
      exact ⟨fun zero => nonzero (by rw [← minor, zero, zero_mul]), lt_of_mul_lt_mul_right bounded pos.le⟩
    · rintro ⟨nonzero, bounded⟩
      have bounded' : |units * 10 ^ (2 - places)| < 10 ^ 18 := by
        rw [abs_mul, abs_of_pos pos, whole]
        exact mul_lt_mul_of_pos_right bounded pos
      exact ⟨⟨_, bounded'⟩, rfl, mul_ne_zero nonzero pos.ne'⟩
  · -- the context rounds, and what it rounds to is too large as well
    have long : (10 : ℤ) ^ 28 ≤ |units| := not_lt.1 short
    obtain ⟨coeff, exp⟩ := Decimal.le_fix (d := ⟨units, -places⟩) (le_trans (by norm_num) long)
    constructor
    · rintro ⟨m, eq, _⟩
      exfalso
      have small : |((m.minor : ℤ) : ℚ)| < 10 ^ 18 := by exact_mod_cast m.bounded
      have scale : (10 : ℚ) ^ (-2 : ℤ) ≤ 10 ^ (Decimal.fix ⟨units, -places⟩).exp :=
        zpow_le_zpow_right₀ (by norm_num) (le_trans (by simp; omega) exp)
      have coeff' : (10 : ℚ) ^ 27 ≤ |((Decimal.fix ⟨units, -places⟩).coeff : ℚ)| := by
        exact_mod_cast coeff
      rw [← eq, Decimal.toRat, abs_mul, abs_mul, abs_of_pos (a := (10 : ℚ) ^ _) (by positivity)] at small
      have := mul_le_mul coeff' scale (by positivity) (abs_nonneg _)
      norm_num at this small
      linarith
    · rintro ⟨_, bounded⟩
      exact absurd (lt_of_lt_of_le bounded (pow_le_pow_right₀ (by norm_num) (by omega))) short

/-- `GatewayWebhookIn(...)`, or a `ValidationError`. -/
def gatewayWebhookIn (txnId : PyStr) (amount : Decimal) (currency : PyStr) (occurredAt : Datetime)
    (gatewayRef : PyStr) : Option GatewayWebhookIn :=
  match txnId.toString?, Money.ofDecimal amount, currency.toString?, gatewayRef.toString? with
  | some txnId, some amount, some currency, some gatewayRef =>
    if h : HasLength 128 txnId ∧ amount.minor ≠ 0 ∧ IsCurrency currency ∧ HasLength 128 gatewayRef then
      some
        { txnId := txnId, amount := amount, currency := currency, occurredAt := .utc occurredAt
          gatewayRef := gatewayRef, txnId_length := h.1, amount_nonzero := h.2.1
          currency_iso := h.2.2.1, gatewayRef_length := h.2.2.2 }
    else none
  | _, _, _, _ => none

/-- A payload that validates has the texts and the amount it was given. -/
lemma gatewayWebhookIn_eq_some {txnId currency gatewayRef : PyStr} {amount : Decimal}
    {occurredAt : Datetime} {payload : GatewayWebhookIn} :
    gatewayWebhookIn txnId amount currency occurredAt gatewayRef = some payload ↔
      txnId.toString? = some payload.txnId ∧ Money.ofDecimal amount = some payload.amount ∧
      currency.toString? = some payload.currency ∧ gatewayRef.toString? = some payload.gatewayRef ∧
      payload.occurredAt = .utc occurredAt := by
  unfold gatewayWebhookIn
  constructor
  · intro valid
    split at valid
    · split_ifs at valid
      cases valid
      refine ⟨?_, ?_, ?_, ?_, rfl⟩ <;> assumption
    · cases valid
  · rintro ⟨txn, money, code, ref, at_⟩
    rw [txn, money, code, ref]
    obtain ⟨_, _, _, _, _, length, nonzero, iso, length'⟩ := payload
    cases at_
    exact dif_pos ⟨length, nonzero, iso, length'⟩

/-- A provider delivery, normalised. -/
structure AdaptedWebhook where
  payload : GatewayWebhookIn
  idempotencyKey : PyStr
  eventType : PyStr
deriving DecidableEq, Repr

namespace Adapters

/-- `_ZERO_DECIMAL`. -/
def zeroDecimal : List String :=
  ["BIF", "CLP", "DJF", "GNF", "JPY", "KMF", "KRW", "MGA", "PYG", "RWF", "UGX", "VND", "VUV", "XAF",
    "XOF", "XPF"]

/-- `_THREE_DECIMAL`. -/
def threeDecimal : List String := ["BHD", "IQD", "JOD", "KWD", "LYD", "OMR", "TND"]

/-- Whether a code is in a set of currencies. -/
def isOneOf (codes : List String) (code : PyStr) : Bool := codes.any (PyStr.ofString · == code)

section
variable (rt : Runtime)

/-- `str(v)`. -/
def str : Json → PyStr
  | .str s => s
  | v => rt.repr v

/-- `int(v)`. -/
def int : Json → Except Raised ℤ
  | .int n => .ok n
  | .bool b => .ok b.toInt
  | .float (.finite x) => .ok (if x < 0 then ⌈x⌉ else ⌊x⌋)
  | .float .negZero => .ok 0
  | .float (.inf _) => .error .overflowError
  | .float .nan => .error .valueError
  | .str s => match rt.intOfStr s with
    | some n => .ok n
    | none => .error .valueError
  | .null | .list _ | .dict _ => .error .typeError

/-- The digits of a currency's minor unit. -/
def exponent (currency : PyStr) : ℕ := if isOneOf zeroDecimal (rt.upper currency) then 0 else 2

/-- `minor_to_major`. -/
def minorToMajor (minorUnits : Json) (currency : PyStr) : Except Raised Decimal := do
  let code := rt.upper currency
  if isOneOf threeDecimal code then
    .error (.adapterError (.ofString "currency " ++ code ++ .ofString
      " has three minor digits and cannot be stored in numeric(18,2) without rounding"))
  else
    let units ← int rt minorUnits
    return (⟨units, 0⟩ : Decimal).scaleb (-exponent rt currency)

/-- The walk of `_require`, `walked` being the part of the path behind it. -/
def walk (walked : List String) : List String → Json → Except Raised Json
  | [], cursor => .ok cursor
  | key :: path, cursor =>
    let walked := walked ++ [key]
    let missing : Except Raised Json := .error (.adapterError
      (.ofString "payload missing " ++ PyStr.join (.ofString ".") (walked.map PyStr.ofString)))
    match cursor with
    | .dict entries => match Json.get? entries key with
      | some value => walk walked path value
      | none => missing
    | _ => missing

/-- `_require`. -/
def require (source : Json) (path : List String) : Except Raised Json := walk [] path source

/-- `datetime.fromtimestamp(n, tz=UTC)`. -/
def fromTimestamp (seconds : ℤ) : Option Datetime :=
  (Datetime.ofUs ((seconds + 62135596800) * 1000000)).toOption

/-- `_instant`. -/
def instant (epochSeconds : Json) (field : String) : Except Raised Datetime :=
  match (int rt epochSeconds).toOption.bind fromTimestamp with
  | some at_ => .ok at_
  | none => .error (.adapterError
      (.ofString (field ++ " is not a unix timestamp: ") ++ rt.repr epochSeconds))

/-- `d.get(key, default)` where `d` may be no dictionary. -/
def getAttr (v : Json) (key : String) (default : Json) : Except Raised Json :=
  match v with
  | .dict entries => .ok ((Json.get? entries key).getD default)
  | _ => .error .attributeError

/-- `(v.get(key) or {}).get("txn_id") or fallback`. -/
def merchantTxnId (holder : Json) (key : String) (fallback : PyStr) : Except Raised PyStr := do
  let metadata ← getAttr holder key .null
  let txnId ← getAttr (if metadata.truthy then metadata else .dict []) "txn_id" .null
  return str rt (if txnId.truthy then txnId else .str fallback)

/-- The constructor call at the end of an adapter. -/
def adapted (txnId : PyStr) (amount : Decimal) (currency : PyStr) (occurredAt : Datetime)
    (gatewayRef idempotencyKey eventType : PyStr) : Except Raised AdaptedWebhook :=
  match gatewayWebhookIn txnId amount currency occurredAt gatewayRef with
  | some payload =>
    .ok { payload := payload, idempotencyKey := idempotencyKey, eventType := eventType }
  | none => .error .validationError

/-- What the adapters of the two gateways do not share. -/
structure Shape where
  provider : String
  /-- Where the event type is, and the one that is handled. -/
  typeField : String
  eventType : String
  /-- Where the payment is. -/
  path : List String
  /-- Where the merchant's fields are in it. -/
  metadata : String
  createdField : String
  /-- What stands for a missing `createdField`. -/
  created : List (PyStr × Json) → Json
  /-- The rest of the idempotency key, of the body and the payment id. -/
  eventId : List (PyStr × Json) → PyStr → PyStr

/-- The body of `adapt_stripe` and `adapt_razorpay`. -/
def adaptPayment (shape : Shape) (body : List (PyStr × Json)) : Except Raised AdaptedWebhook := do
  let eventType := str rt ((Json.get? body shape.typeField).getD (.str []))
  if eventType ≠ .ofString shape.eventType then
    .error (.adapterError
      (.ofString ("unhandled " ++ shape.provider ++ " event type ") ++ rt.repr (.str eventType)))
  else
    let payment ← require (.dict body) shape.path
    let amount ← require (.dict body) (shape.path ++ ["amount"])
    let currency ← require (.dict body) (shape.path ++ ["currency"])
    let currency := rt.upper (str rt currency)
    let id ← require (.dict body) (shape.path ++ ["id"])
    let paymentId := str rt id
    let txnId ← merchantTxnId rt payment shape.metadata paymentId
    let created ← getAttr payment shape.createdField (shape.created body)
    let occurred ← instant rt created (".".intercalate (shape.path ++ [shape.createdField]))
    let major ← minorToMajor rt amount currency
    adapted txnId major currency occurred paymentId
      (.ofString (shape.provider ++ ":") ++ shape.eventId body paymentId) eventType

/-- Stripe's `payment_intent.succeeded`. -/
def stripe : Shape where
  provider := "stripe"
  typeField := "type"
  eventType := "payment_intent.succeeded"
  path := ["data", "object"]
  metadata := "metadata"
  createdField := "created"
  created body := (Json.get? body "created").getD .null
  eventId body intentId :=
    let eventId := (Json.get? body "id").getD .null
    str rt (if eventId.truthy then eventId else .str intentId)

/-- Razorpay's `payment.captured`: there is no event id in the body. -/
def razorpay : Shape where
  provider := "razorpay"
  typeField := "event"
  eventType := "payment.captured"
  path := ["payload", "payment", "entity"]
  metadata := "notes"
  createdField := "created_at"
  created _ := .null
  eventId _ paymentId := paymentId

/-- `adapt_stripe`. -/
def adaptStripe : List (PyStr × Json) → Except Raised AdaptedWebhook := adaptPayment rt (stripe rt)

/-- `adapt_razorpay`. -/
def adaptRazorpay : List (PyStr × Json) → Except Raised AdaptedWebhook := adaptPayment rt razorpay

/-- `adapt_custom`. -/
def adaptCustom (body : List (PyStr × Json)) : Except Raised AdaptedWebhook :=
  match rt.modelValidate (.dict body) with
  | none => .error .validationError
  | some payload => .ok
      { payload := payload
        idempotencyKey := .ofString ("custom:" ++ payload.txnId ++ ":" ++ payload.gatewayRef)
        eventType := .ofString "custom" }

/-- `adapt`. -/
def adapt (provider : WebhookProvider) (body : List (PyStr × Json)) : Except Raised AdaptedWebhook :=
  match provider with
  | .stripe => adaptStripe rt body
  | .razorpay => adaptRazorpay rt body
  | .custom => adaptCustom rt body

end

section Require
variable {path walked : List String} {v w : Json} {rt : Runtime}

lemma walk_ok (found : Json.path? path v = some w) : walk walked path v = .ok w := by
  induction path generalizing walked v with
  | nil => exact congrArg Except.ok (Option.some.inj found)
  | cons key path ih =>
    cases v with
    | dict entries =>
      obtain ⟨next, at_key, found⟩ := Option.bind_eq_some_iff.1 found
      simp only [walk, at_key]
      exact ih found
    | _ => cases found

lemma walk_error (missing : Json.path? path v = none) :
    ∃ message, walk walked path v = .error (.adapterError message) := by
  induction path generalizing walked v with
  | nil => cases missing
  | cons key path ih =>
    cases v with
    | dict entries =>
      simp only [Json.path?] at missing
      simp only [walk]
      cases at_key : Json.get? entries key with
      | none => exact ⟨_, rfl⟩
      | some next => exact ih (by simpa [at_key] using missing)
    | _ => exact ⟨_, rfl⟩

/-- `_require` is a lookup, or names the part of the path that is missing. -/
lemma require_cases (path : List String) (v : Json) :
    (∃ w, Json.path? path v = some w ∧ require v path = .ok w) ∨
      (Json.path? path v = none ∧ ∃ message, require v path = .error (.adapterError message)) := by
  cases found : Json.path? path v with
  | none => exact .inr ⟨rfl, walk_error found⟩
  | some w => exact .inl ⟨w, rfl, walk_ok found⟩

end Require

/-- The payment of an event, as an adapter reads it. -/
structure Payment where
  amount : Json
  currency : PyStr
  id : PyStr
  metadata : Json
  created : Json

/-- The payment of an event of the type that is handled, where every required field is there. -/
def payment? (rt : Runtime) (shape : Shape) (body : List (PyStr × Json)) : Option Payment :=
  let field (path : List String) := Json.path? (shape.path ++ path) (.dict body)
  if str rt ((Json.get? body shape.typeField).getD (.str [])) = .ofString shape.eventType then do
    let amount ← field ["amount"]
    let currency ← field ["currency"]
    let id ← field ["id"]
    return { amount := amount
             currency := rt.upper (str rt currency)
             id := str rt id
             metadata := (field [shape.metadata]).getD .null
             created := (field [shape.createdField]).getD (shape.created body) }
  else none

/-- The merchant's transaction id, or the payment's. -/
def Payment.txnId (rt : Runtime) (p : Payment) : Except Raised PyStr :=
  (getAttr (if p.metadata.truthy then p.metadata else .dict []) "txn_id" .null).map fun txnId =>
    str rt (if txnId.truthy then txnId else .str p.id)

section Spec
variable {rt : Runtime} {shape : Shape} {body : List (PyStr × Json)} {p : Payment}
  {w : AdaptedWebhook}

/-- An event of another type or without a required field is refused. -/
lemma adaptPayment_none (none : payment? rt shape body = none) :
    ∃ message, adaptPayment rt shape body = .error (.adapterError message) := by
  unfold adaptPayment
  by_cases handled : str rt ((Json.get? body shape.typeField).getD (.str [])) = .ofString shape.eventType
  · simp only [ne_eq, handled, not_true_eq_false, if_false]
    rcases require_cases shape.path (.dict body) with ⟨_, _, root⟩ | ⟨_, message, root⟩
    · rcases require_cases (shape.path ++ ["amount"]) (.dict body) with
        ⟨_, at_amount, amount⟩ | ⟨_, message, amount⟩
      · rcases require_cases (shape.path ++ ["currency"]) (.dict body) with
          ⟨_, at_currency, currency⟩ | ⟨_, message, currency⟩
        · rcases require_cases (shape.path ++ ["id"]) (.dict body) with
            ⟨_, at_id, _⟩ | ⟨_, message, id⟩
          · simp [payment?, handled, at_amount, at_currency, at_id] at none
          · exact ⟨message, by rw [root, amount, currency, id]; rfl⟩
        · exact ⟨message, by rw [root, amount, currency]; rfl⟩
      · exact ⟨message, by rw [root, amount]; rfl⟩
    · exact ⟨message, by rw [root]; rfl⟩
  · simp only [ne_eq, handled, not_false_eq_true, if_true]
    exact ⟨_, rfl⟩

/-- The adapter of an event of the handled type with every required field. -/
lemma adaptPayment_some (some : payment? rt shape body = some p) :
    adaptPayment rt shape body = (do
      let txnId ← p.txnId rt
      let occurred ← instant rt p.created (".".intercalate (shape.path ++ [shape.createdField]))
      let major ← minorToMajor rt p.amount p.currency
      adapted txnId major p.currency occurred p.id
        (.ofString (shape.provider ++ ":") ++ shape.eventId body p.id)
        (.ofString shape.eventType)) := by
  have handled : str rt ((Json.get? body shape.typeField).getD (.str [])) =
      .ofString shape.eventType := by
    by_contra other
    simp [payment?, other] at some
  simp only [payment?, handled, if_true, Option.bind_eq_bind, Option.bind_eq_some_iff,
    Option.pure_def] at some
  obtain ⟨amount, at_amount, currency, at_currency, id, at_id, made⟩ := some
  cases made
  rw [Json.path?_append] at at_amount
  obtain ⟨payment, at_payment, in_payment⟩ := Option.bind_eq_some_iff.1 at_amount
  have at_amount : require (.dict body) (shape.path ++ ["amount"]) = .ok amount := walk_ok (by
    rw [Json.path?_append, at_payment]; exact in_payment)
  have at_currency : require (.dict body) (shape.path ++ ["currency"]) = .ok currency := walk_ok at_currency
  have at_id : require (.dict body) (shape.path ++ ["id"]) = .ok id := walk_ok at_id
  have root : require (.dict body) shape.path = .ok payment := walk_ok at_payment
  cases payment with
  | dict entries =>
    have field (key : String) : Json.path? (shape.path ++ [key]) (.dict body) = Json.get? entries key := by
      rw [Json.path?_append, at_payment]
      simp [Json.path?]
    simp only [field]
    unfold adaptPayment
    simp only [ne_eq, handled, not_true_eq_false, if_false, root, at_amount, at_currency, at_id]
    simp only [bind, Except.bind, merchantTxnId, Payment.txnId, getAttr]
    cases (if ((Json.get? entries shape.metadata).getD .null).truthy = true then
        (Json.get? entries shape.metadata).getD .null else .dict []) <;> rfl
  | _ => cases in_payment

/-- The id of a payment is where the shape says. -/
lemma exists_id (some : payment? rt shape body = some p) :
    ∃ id, Json.path? (shape.path ++ ["id"]) (.dict body) = .some id ∧ p.id = str rt id := by
  unfold payment? at some
  split_ifs at some
  simp only [Option.bind_eq_bind, Option.bind_eq_some_iff, Option.pure_def] at some
  obtain ⟨_, _, _, _, id, at_id, made⟩ := some
  cases made
  exact ⟨id, at_id, rfl⟩

/-- An accepted event has a payment, and the key is made of its id. -/
lemma adaptPayment_ok (ok : adaptPayment rt shape body = .ok w) :
    ∃ p, payment? rt shape body = some p ∧
      w.idempotencyKey = .ofString (shape.provider ++ ":") ++ shape.eventId body p.id := by
  cases payment : payment? rt shape body with
  | none =>
    obtain ⟨message, refused⟩ := adaptPayment_none payment
    rw [refused] at ok
    cases ok
  | some p =>
    refine ⟨p, rfl, ?_⟩
    rw [adaptPayment_some payment] at ok
    simp only [bind, Except.bind] at ok
    split at ok
    · cases ok
    split at ok
    · cases ok
    split at ok
    · cases ok
    unfold adapted at ok
    split at ok
    · cases ok
      rfl
    · cases ok

end Spec

end Adapters

namespace WebhookSample

/-- What `hexdigest` is of the body `{}` under the secret `whsec_test`. -/
def digest : HexDigest where
  text := "46bdc2a2e83964bd2695acc6a1f97162d8bafc135a071aa5cd5c99aae5481440"
  length := by decide +kernel
  hex := by decide +kernel

/-- `GatewayWebhookIn.model_validate` of a body whose fields are strings, a whole amount and a
    timestamp in seconds. -/
def modelValidate : Json → Option GatewayWebhookIn
  | .dict body =>
    match Json.get? body "txn_id", Json.get? body "amount", Json.get? body "currency",
      Json.get? body "occurred_at", Json.get? body "gateway_ref" with
    | some (.str txnId), some (.int amount), some (.str currency), some (.int seconds),
      some (.str gatewayRef) =>
      (Adapters.fromTimestamp seconds).bind fun occurredAt =>
        gatewayWebhookIn txnId ⟨amount, 0⟩ currency occurredAt gatewayRef
    | _, _, _, _, _ => none
  | _ => none

/-- The functions the sample deliveries reach, at the values they reach them with. -/
def runtime : Runtime where
  hexdigest _ _ := digest
  loads _ := .ok (.dict [])
  repr _ := []
  intOfStr _ := none
  upper s := s
  modelValidate := modelValidate
  jsonb _ := some "\x7b\x7d"

end WebhookSample

end LedgerLoop
