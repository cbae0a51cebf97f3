import LedgerLoop.Library.Calendar
import LedgerLoop.Library.DecimalText
import LedgerLoop.Webhooks.Recorded
import LedgerLoop.Webhooks.Sources

/-!
# The test button

Port of `_synthetic_event` and of `test_gateway_source` of `api/routes_ingest.py`: a synthetic event is
signed with the secret of the source and goes the way of a real one, through `verify`, `adapt` and the
ingestion.
-/

set_option autoImplicit false

namespace LedgerLoop
open LedgerLoop.Library

namespace SelfTest
open Signatures

/-- A number in at least `width` digits. -/
def digits (width n : ℕ) : List Char := (Nat.toDigits 10 n).leftpad width '0'

/-- `at.isoformat()` of a UTC reading. -/
def isoformat (at_ : Datetime) : String :=
  let c := Calendar.Civil.ofMs (at_.us / 1000)
  let micros := (at_.us % 1000000).toNat
  .ofList (digits 4 c.year.toNat ++ '-' :: (digits 2 c.month ++ '-' :: (digits 2 c.day ++ 'T' ::
    (digits 2 c.hour ++ ':' :: (digits 2 c.minute ++ ':' :: (digits 2 c.second ++
      ((if micros = 0 then [] else '.' :: digits 6 micros) ++ "+00:00".toList)))))))

example : isoformat (.newYear 3661) = "2024-01-01T01:01:01+00:00" := by decide +kernel

/-- `stamp`, as it is formatted. -/
def stampText (at_ : Datetime) : String := .ofList (PyInt.str (posixSeconds at_))

/-- `txn_id` of `_synthetic_event`. -/
def txnIdOf (at_ : Datetime) : String := "LEDGERLOOP-TEST-" ++ stampText at_

/-- A string of a body. -/
def text (s : String) : Json := .str (.ofString s)

/-- What a merchant posts: five texts. -/
def customEvent (txnId amount currency occurredAt gatewayRef : String) : List (PyStr × Json) :=
  Json.entries [("txn_id", text txnId), ("amount", text amount), ("currency", text currency),
    ("occurred_at", text occurredAt), ("gateway_ref", text gatewayRef)]

/-- `_synthetic_event`. -/
def syntheticEvent (provider : WebhookProvider) (at_ : Datetime) : List (PyStr × Json) :=
  let stamp := stampText at_
  match provider with
  | .stripe => Json.entries
      [("id", text ("evt_test_" ++ stamp)), ("type", text "payment_intent.succeeded"),
       ("created", .int (posixSeconds at_)),
       ("data", .dict (Json.entries
         [("object", .dict (Json.entries
           [("id", text ("pi_test_" ++ stamp)), ("amount", .int 105000), ("currency", text "inr"),
            ("created", .int (posixSeconds at_)),
            ("metadata", .dict (Json.entries [("txn_id", text (txnIdOf at_))]))]))]))]
  | .razorpay => Json.entries
      [("event", text "payment.captured"),
       ("payload", .dict (Json.entries
         [("payment", .dict (Json.entries
           [("entity", .dict (Json.entries
             [("id", text ("pay_test_" ++ stamp)), ("amount", .int 105000), ("currency", text "INR"),
              ("created_at", .int (posixSeconds at_)),
              ("notes", .dict (Json.entries [("txn_id", text (txnIdOf at_))]))]))]))]))]
  | .custom => customEvent (txnIdOf at_) "1050.00" "INR" (isoformat at_) ("REF-TEST-" ++ stamp)

/-- `WebhookTestResult`. -/
structure WebhookTestResult where
  delivered : Bool
  httpStatus : ℕ
  duplicate : Bool
  txnId : Option String := none
  detail : Option PyStr := none
deriving DecidableEq, Repr

/-- What the button is answered with: 404, or a result. -/
inductive TestResponse where
  | notFound
  | result (result : WebhookTestResult)
deriving DecidableEq, Repr

/-- The answer to a test that is refused. -/
def refusal : Rejection → TestResponse
  | .invalidSignature reason =>
    .result { delivered := false, httpStatus := 401, duplicate := false
              detail := some (.ofString reason) }
  | .invalidPayload detail =>
    .result { delivered := false, httpStatus := 422, duplicate := false, detail := some detail }

/-- The answer to a test that is delivered. -/
def receipt (outcome : IngestOutcome) : TestResponse :=
  .result { delivered := true, httpStatus := 202, duplicate := outcome.duplicate
            txnId := some outcome.txnId }

section
variable (rt : Runtime) (dumps : Json → List UInt8)

/-- `test_gateway_source` between its two uses of the database; `dumps` is `json.dumps(..).encode()`. -/
def judgeTest (source : ResolvedSource) (signedAt : Datetime) : Except Raised Judged :=
  let body := syntheticEvent source.provider signedAt
  let rawBody := dumps (.dict body)
  let header := sign rt source.provider rawBody source.signingSecret signedAt
  match verify rt source.provider rawBody (some header) source.signingSecret signedAt defaultTolerance with
  | .error e => .error e
  | .ok verdict =>
    if verdict.ok = false then .ok (.refused (.invalidSignature verdict.reason))
    else
      match Adapters.adapt rt source.provider body with
      | .error (.adapterError message) => .ok (.refused (.invalidPayload message))
      | .error e => .error e
      | .ok delivery => .ok (.taken delivery (.dict body))

/-- What a press of the button takes from outside: the clock when the event is signed and when it is
    recorded, and what the ingestion draws. -/
structure Press where
  signedAt : Datetime
  recordedAt : Datetime
  draws : IngestDraws

/-- `test_gateway_source`. -/
def testGatewaySource (db : WebhookDb) (tenantId sourceId : ℕ) (press : Press) :
    WebhookDb × Except Raised TestResponse :=
  match Sources.resolveSourceForTenant db.store db.webhookSources tenantId sourceId with
  | none => (db, .ok .notFound)
  | some source =>
    match judgeTest rt dumps source press.signedAt with
    | .error e => (db, .error e)
    | .ok judged => settleJudged rt db source press.draws press.recordedAt refusal
        (fun _ outcome => receipt outcome) judged

/-- One press after the other, with the answers. -/
def pressAll (db : WebhookDb) (tenantId sourceId : ℕ) :
    List Press → WebhookDb × List (Except Raised TestResponse)
  | [] => (db, [])
  | press :: presses =>
    let (after, answer) := testGatewaySource rt dumps db tenantId sourceId press
    let (last, answers) := pressAll after tenantId sourceId presses
    (last, answer :: answers)

/-- What the button relies on at an instant. -/
structure Host (at_ : Datetime) : Prop where
  int : ∀ s : List Char, rt.intOfStr (s.map Char.toNat) = PyInt.int s
  upper_lower : rt.upper (.ofString "inr") = .ofString "INR"
  upper_upper : rt.upper (.ofString "INR") = .ofString "INR"
  /-- A body of five texts is read text by text. -/
  validates : ∀ txnId amount currency gatewayRef money, Decimal.ofText amount.toList = some money →
    rt.modelValidate (.dict (customEvent txnId amount currency (isoformat at_) gatewayRef)) =
      gatewayWebhookIn (.ofString txnId) money (.ofString currency) at_ (.ofString gatewayRef)
  jsonb : ∀ provider, (rt.jsonb (.dict (syntheticEvent provider at_))).isSome = true

end

/-- The key of a test. -/
def testKey (provider : WebhookProvider) (at_ : Datetime) : String :=
  match provider with
  | .stripe => "stripe:" ++ ("evt_test_" ++ stampText at_)
  | .razorpay => "razorpay:" ++ ("pay_test_" ++ stampText at_)
  | .custom => "custom:" ++ txnIdOf at_ ++ ":" ++ ("REF-TEST-" ++ stampText at_)

/-- The reference of a test. -/
def testRef (provider : WebhookProvider) (at_ : Datetime) : String :=
  match provider with
  | .stripe => "pi_test_" ++ stampText at_
  | .razorpay => "pay_test_" ++ stampText at_
  | .custom => "REF-TEST-" ++ stampText at_

/-- The instant is one that binary64 seconds tell apart from the next second: up to the year 2514. -/
def Recent (at_ : Datetime) : Prop := |at_.us - epoch| < 2 ^ 34 * 1000000

/-- What the test of a provider is adapted to. -/
structure Synthetic (provider : WebhookProvider) (at_ : Datetime) (delivery : AdaptedWebhook) : Prop where
  key : delivery.idempotencyKey = .ofString (testKey provider at_)
  txnId : delivery.payload.txnId = txnIdOf at_
  amount : delivery.payload.amount.minor = 105000
  currency : delivery.payload.currency = "INR"
  gatewayRef : delivery.payload.gatewayRef = testRef provider at_
  occurredAt : ∃ instant, delivery.payload.occurredAt = .utc instant ∧
    |at_.diff instant| < Timedelta.seconds 1

section Stamp
variable {at_ at' instant : Datetime} {text : String} {n : ℕ}

/-- What is left of an instant after its second is less than a second. -/
lemma natAbs_tmod_second (k : ℤ) : (k.tmod 1000000).natAbs < 1000000 := by
  rw [Int.natAbs_tmod]
  exact Nat.mod_lt _ (by decide)

/-- A stamp has few digits. -/
lemma posixSeconds_lt (recent : Recent at_) : (posixSeconds at_).natAbs < 10 ^ 11 := by
  have bounds := abs_lt.1 recent
  have split := Int.mul_tdiv_add_tmod (at_.us - epoch) 1000000
  have rest := natAbs_tmod_second (at_.us - epoch)
  rw [posixSeconds_eq recent]
  omega

lemma length_stampText (recent : Recent at_) : (stampText at_).length ≤ 12 := by
  rw [stampText, String.length_ofList]
  exact PyInt.length_str (by decide) (posixSeconds_lt recent)

/-- Stamps are told apart by their texts. -/
lemma stampText_inj (recent : Recent at_) (recent' : Recent at') :
    stampText at_ = stampText at' ↔ posixSeconds at_ = posixSeconds at' := by
  have small {d : Datetime} (recent : Recent d) : (posixSeconds d).natAbs < 10 ^ PyInt.maxStrDigits :=
    (posixSeconds_lt recent).trans_le (Nat.pow_le_pow_right (by decide) (by decide))
  rw [← PyInt.str_inj (small recent) (small recent'), stampText, stampText, String.ofList_inj]

/-- A text of the test fits its column. -/
lemma hasLength_stamp (recent : Recent at_) (pos : 1 ≤ text.length) (short : text.length + 12 ≤ n) :
    HasLength n (text ++ stampText at_) := by
  have stamp := length_stampText recent
  rw [HasLength, String.length_append]
  omega

/-- A stamp has no code point 0. -/
lemma hasNul_stampText : hasNul (stampText at_) = false := by
  rw [hasNul, stampText, String.toList_ofList, ← Bool.not_eq_true, List.contains_iff_mem]
  intro mem
  cases PyInt.of_mem_str mem with
  | inl minus => cases minus
  | inr digit => cases digit

lemma hasNul_append {a b : String} : hasNul (a ++ b) = (hasNul a || hasNul b) := by
  rw [hasNul, String.toList_append, Bool.eq_iff_iff]
  simp [hasNul]

/-- The second of the stamp is within a second of the instant. -/
lemma exists_stamp (recent : Recent at_) : ∃ instant,
    Adapters.fromTimestamp (posixSeconds at_) = some instant ∧ |at_.diff instant| < Timedelta.seconds 1 := by
  obtain ⟨instant, at_stamp, us⟩ := exists_second recent
  refine ⟨instant, at_stamp, ?_⟩
  have split := Int.mul_tdiv_add_tmod (at_.us - epoch) 1000000
  have rest := natAbs_tmod_second (at_.us - epoch)
  have apart : at_.diff instant = (at_.us - epoch).tmod 1000000 := by
    rw [Datetime.diff, us]
    linarith only [split]
  rw [apart, Int.abs_eq_natAbs]
  exact Int.ofNat_lt.2 rest

end Stamp

section Adapt
variable {rt : Runtime} {at_ instant : Datetime} {shape : Adapters.Shape} {body : List (PyStr × Json)}
  {id : String}

/-- The payment of a test. -/
def testPayment (id : String) (at_ : Datetime) : Adapters.Payment where
  amount := .int 105000
  currency := .ofString "INR"
  id := .ofString id
  metadata := .dict (Json.entries [("txn_id", text (txnIdOf at_))])
  created := .int (posixSeconds at_)

/-- The payload of a test. -/
lemma exists_payload (recent : Recent at_) (length : HasLength 128 id) (units : Decimal)
    (money : units.toRat * 100 = 105000) (instant : Datetime) : ∃ payload : GatewayWebhookIn,
      gatewayWebhookIn (.ofString (txnIdOf at_)) units (.ofString "INR") instant (.ofString id) = some payload ∧
      payload.txnId = txnIdOf at_ ∧ payload.amount.minor = 105000 ∧ payload.currency = "INR" ∧
      payload.gatewayRef = id ∧ payload.occurredAt = .utc instant := by
  let payload : GatewayWebhookIn :=
    { txnId := txnIdOf at_, amount := ⟨105000, by decide⟩, currency := "INR"
      occurredAt := .utc instant, gatewayRef := id
      txnId_length := hasLength_stamp recent (by decide) (by decide)
      amount_nonzero := by decide
      currency_iso := by decide
      gatewayRef_length := length }
  have amount : Money.ofDecimal units = some ⟨105000, by decide⟩ :=
    Money.ofDecimal_eq_some.2 (by rw [money]; norm_num)
  refine ⟨payload, gatewayWebhookIn_eq_some.2 ⟨?_, amount, ?_, ?_, rfl⟩, rfl, rfl, rfl, rfl, rfl⟩
  · exact PyStr.toString?_ofString _
  · exact PyStr.toString?_ofString _
  · exact PyStr.toString?_ofString _

/-- The two gateways adapt the payment of a test. -/
lemma adaptPayment_test (host : Host rt at_) (recent : Recent at_) (length : HasLength 128 id)
    (found : Adapters.payment? rt shape body = some (testPayment id at_)) :
    ∃ payload instant, Adapters.adaptPayment rt shape body = .ok
        { payload := payload
          idempotencyKey := .ofString (shape.provider ++ ":") ++ shape.eventId body (.ofString id)
          eventType := .ofString shape.eventType } ∧
      payload.txnId = txnIdOf at_ ∧ payload.amount.minor = 105000 ∧ payload.currency = "INR" ∧
      payload.gatewayRef = id ∧ payload.occurredAt = .utc instant ∧
      |at_.diff instant| < Timedelta.seconds 1 := by
  obtain ⟨instant, at_stamp, near⟩ := exists_stamp recent
  have value : ((⟨105000, 0⟩ : Decimal).scaleb (-2)).toRat * 100 = 105000 := by
    rw [Decimal.scaleb, Decimal.fix_eq_self (by decide), Decimal.toRat]
    norm_num
  obtain ⟨payload, made, fields⟩ := exists_payload recent length _ value instant
  have txnId : (testPayment id at_).txnId rt = .ok (.ofString (txnIdOf at_)) := by
    rw [txnId_ok fun _ => ⟨_, rfl⟩]
    have nonempty : (PyStr.ofString (txnIdOf at_)).isEmpty = false := by
      rw [txnIdOf, PyStr.ofString_append]
      rfl
    simp [Adapters.Payment.txnText, testPayment, Json.path?, text, Json.truthy, nonempty, Adapters.str]
  have occurred (field : String) :
      Adapters.instant rt (testPayment id at_).created field = .ok instant := by
    have second : (Adapters.int rt (testPayment id at_).created).toOption.bind Adapters.fromTimestamp =
        some instant := at_stamp
    simp only [Adapters.instant, second]
  have major : Adapters.minorToMajor rt (testPayment id at_).amount (testPayment id at_).currency =
      .ok ((⟨105000, 0⟩ : Decimal).scaleb (-2)) := by
    -- rupees have two minor digits
    have two : Adapters.isOneOf Adapters.threeDecimal (.ofString "INR") = false ∧
        Adapters.isOneOf Adapters.zeroDecimal (.ofString "INR") = false := by decide +kernel
    simp [Adapters.minorToMajor, testPayment, host.upper_upper, two, Adapters.int, Adapters.exponent, bind,
      Except.bind, pure, Except.pure]
  rw [Adapters.adaptPayment_some found, txnId, occurred, major]
  refine ⟨payload, instant, ?_, fields.1, fields.2.1, fields.2.2.1, fields.2.2.2.1, fields.2.2.2.2, near⟩
  change Adapters.adapted _ _ (.ofString "INR") _ (.ofString id) _ _ = _
  rw [Adapters.adapted, made]
  rfl

/-- A text of a body that has characters is truthy. -/
lemma truthy_text {s : String} (pos : 1 ≤ s.length) : (text s).truthy = true := by
  cases chars : s.toList with
  | nil => rw [← String.length_toList, chars] at pos; cases pos
  | cons c cs => simp [text, Json.truthy, PyStr.ofString, chars]

/-- The synthetic event is adapted, whoever the provider is. -/
lemma adapt_syntheticEvent (host : Host rt at_) (recent : Recent at_) (provider : WebhookProvider) :
    ∃ delivery, Adapters.adapt rt provider (syntheticEvent provider at_) = .ok delivery ∧
      Synthetic provider at_ delivery := by
  cases provider with
  | stripe =>
    have length : HasLength 128 ("pi_test_" ++ stampText at_) :=
      hasLength_stamp recent (by decide) (by decide)
    have found : Adapters.payment? rt (Adapters.stripe rt) (syntheticEvent .stripe at_) =
        some (testPayment ("pi_test_" ++ stampText at_) at_) := by
      simp [Adapters.payment?, Adapters.stripe, syntheticEvent, Json.path?, List.lookup_cons, Adapters.str,
        text, testPayment, host.upper_lower]
    obtain ⟨payload, instant, adapted, txnId, amount, currency, gatewayRef, occurredAt, near⟩ :=
      adaptPayment_test host recent length found
    refine ⟨_, adapted, ?_, txnId, amount, currency, gatewayRef, instant, occurredAt, near⟩
    -- the event has an id of its own, which the key is made of
    have event : (Adapters.stripe rt).eventId (syntheticEvent .stripe at_)
        (.ofString ("pi_test_" ++ stampText at_)) = .ofString ("evt_test_" ++ stampText at_) := by
      have first : Json.get? (syntheticEvent .stripe at_) "id" = some (text ("evt_test_" ++ stampText at_)) := by
        simp [syntheticEvent]
      have given : (text ("evt_test_" ++ stampText at_)).truthy = true :=
        truthy_text (@hasLength_stamp at_ "evt_test_" 128 recent (by decide) (by decide)).1
      change Adapters.str rt (if _ then _ else _) = _
      rw [first, Option.getD_some, if_pos given]
      rfl
    change PyStr.ofString ("stripe" ++ ":") ++ _ = _
    rw [event, ← PyStr.ofString_append]
    rfl
  | razorpay =>
    have length : HasLength 128 ("pay_test_" ++ stampText at_) :=
      hasLength_stamp recent (by decide) (by decide)
    have found : Adapters.payment? rt Adapters.razorpay (syntheticEvent .razorpay at_) =
        some (testPayment ("pay_test_" ++ stampText at_) at_) := by
      simp [Adapters.payment?, Adapters.razorpay, syntheticEvent, Json.path?, List.lookup_cons, Adapters.str,
        text, testPayment, host.upper_upper]
    obtain ⟨payload, instant, adapted, txnId, amount, currency, gatewayRef, occurredAt, near⟩ :=
      adaptPayment_test host recent length found
    refine ⟨_, adapted, ?_, txnId, amount, currency, gatewayRef, instant, occurredAt, near⟩
    change PyStr.ofString ("razorpay" ++ ":") ++ PyStr.ofString _ = _
    rw [← PyStr.ofString_append]
    rfl
  | custom =>
    have length : HasLength 128 ("REF-TEST-" ++ stampText at_) :=
      hasLength_stamp recent (by decide) (by decide)
    have value : (⟨105000, -2⟩ : Decimal).toRat * 100 = 105000 := by norm_num [Decimal.toRat]
    obtain ⟨payload, made, txnId, amount, currency, gatewayRef, occurredAt⟩ :=
      exists_payload recent length _ value at_
    have validated : rt.modelValidate (.dict (syntheticEvent .custom at_)) = some payload := by
      rw [← made]
      exact host.validates _ _ _ _ _ (by decide +kernel)
    refine ⟨{ payload := payload
              idempotencyKey := .ofString ("custom:" ++ payload.txnId ++ ":" ++ payload.gatewayRef)
              eventType := .ofString "custom" }, ?_, ?_, txnId, amount, currency, gatewayRef, at_, occurredAt, ?_⟩
    · change Adapters.adaptCustom rt _ = _
      rw [Adapters.adaptCustom, validated]
    · change PyStr.ofString ("custom:" ++ payload.txnId ++ ":" ++ payload.gatewayRef) = _
      rw [txnId, gatewayRef]
      rfl
    · simp [Datetime.diff, Timedelta.seconds]

end Adapt

section Sign
variable {rt : Runtime} {at_ : Datetime} {provider : WebhookProvider} {rawBody : List UInt8} {secret : String}

/-- A bare digest is what the verifier of a bare digest expects. -/
lemma verifyBare_digest : verifyBare rt rawBody (some (rt.hexdigest secret rawBody).text) secret =
    .ok { ok := true } := by
  have nonempty : (rt.hexdigest secret rawBody).text.toList ≠ [] := by
    intro empty
    have length := (rt.hexdigest secret rawBody).length
    rw [← String.length_toList, empty] at length
    cases length
  have whole : PyText.strip PyText.isSpace (rt.hexdigest secret rawBody).text.toList =
      (rt.hexdigest secret rawBody).text.toList :=
    PyInt.strip_eq_self fun c mem => (plain_of_mem_digest mem).1
  have ascii := ascii_hexDigest (rt.hexdigest secret rawBody)
  have compared := compareDigest_of_ascii ascii ascii
  rw [beq_self_eq_true] at compared
  unfold verifyBare
  simp only [Option.getD_some, nonempty, if_false, whole, compared]
  rfl

/-- What `sign` produces is verified at the same instant. -/
lemma verify_sign (int : ∀ s : List Char, rt.intOfStr (s.map Char.toNat) = PyInt.int s)
    (recent : Recent at_) : ∃ verdict,
      verify rt provider rawBody (some (sign rt provider rawBody secret at_)) secret at_ defaultTolerance =
        .ok verdict ∧ verdict.ok = true := by
  cases provider with
  | stripe =>
    obtain ⟨instant, at_stamp, near⟩ := exists_stamp recent
    have window : |at_.diff instant| ≤ defaultTolerance := near.le.trans (by decide)
    have accepts := (@accepts_sign_iff rt rawBody secret at_ at_ defaultTolerance _ int withEntries_sign).2
      ⟨instant, at_stamp, window⟩
    rwa [String.ofList_toList] at accepts
  | razorpay => exact ⟨_, verifyBare_digest, rfl⟩
  | custom => exact ⟨_, verifyBare_digest, rfl⟩

end Sign

section Press
variable {rt : Runtime} {dumps : Json → List UInt8} {at_ at' : Datetime} {provider : WebhookProvider}
  {db after : WebhookDb} {tenantId sourceId : ℕ} {source : ResolvedSource} {press : Press}
  {delivery : AdaptedWebhook} {body : Json} {draws : IngestDraws} {outcome : IngestOutcome}

/-- The key of a test fits its column. -/
lemma length_testKey (recent : Recent at_) : (testKey provider at_).length ≤ 255 := by
  have stamp := length_stampText recent
  cases provider with
  | stripe | razorpay | custom =>
    simp only [testKey, txnIdOf, String.length_append]
    have literals : "stripe:".length + "evt_test_".length ≤ 100 ∧ "razorpay:".length + "pay_test_".length ≤ 100 ∧
        "custom:".length + "LEDGERLOOP-TEST-".length + ":".length + "REF-TEST-".length ≤ 100 := by decide
    omega

/-- No text of a test has a code point 0. -/
lemma hasNul_test : hasNul (testKey provider at_) = false ∧ hasNul (txnIdOf at_) = false ∧
    hasNul (testRef provider at_) = false := by
  have literal : hasNul "stripe:" = false ∧ hasNul "evt_test_" = false ∧ hasNul "razorpay:" = false ∧
      hasNul "pay_test_" = false ∧ hasNul "custom:" = false ∧ hasNul ":" = false ∧
      hasNul "LEDGERLOOP-TEST-" = false ∧ hasNul "REF-TEST-" = false ∧ hasNul "pi_test_" = false := by
    decide
  cases provider with
  | stripe | razorpay | custom => simp [testKey, testRef, txnIdOf, hasNul_append, hasNul_stampText, literal]

/-- Tests of one source have the same key iff they are of the same second. -/
lemma testKey_inj (recent : Recent at_) (recent' : Recent at') :
    testKey provider at_ = testKey provider at' ↔ posixSeconds at_ = posixSeconds at' := by
  rw [← stampText_inj recent recent']
  constructor
  · intro same
    cases provider with
    | stripe =>
      exact (String.append_right_inj _).1 ((String.append_right_inj _).1 same)
    | razorpay =>
      exact (String.append_right_inj _).1 ((String.append_right_inj _).1 same)
    | custom =>
      -- the stamp stands in the key twice, so its length is known before it is
      have lengths := congrArg String.length same
      simp only [testKey, txnIdOf, String.length_append] at lengths
      have chars := congrArg String.toList same
      simp only [testKey, txnIdOf, String.toList_append, List.append_assoc] at chars
      have stamps := (List.append_cancel_left (List.append_cancel_left chars))
      exact String.toList_inj.1 (List.append_inj_left stamps (by
        rw [String.length_toList, String.length_toList]
        omega))
  · intro same
    cases provider with
    | stripe | razorpay | custom => simp only [testKey, txnIdOf, same]

/-- The button is judged: its event is taken. -/
lemma judgeTest_taken (host : Host rt at_) (recent : Recent at_) : ∃ delivery,
    judgeTest rt dumps source at_ =
      .ok (.taken delivery (.dict (syntheticEvent source.provider at_))) ∧
    Synthetic source.provider at_ delivery := by
  obtain ⟨delivery, adapted, synthetic⟩ := adapt_syntheticEvent host recent source.provider
  obtain ⟨verdict, verified, genuine⟩ := @verify_sign rt at_ source.provider
    (dumps (.dict (syntheticEvent source.provider at_))) source.signingSecret host.int recent
  refine ⟨delivery, ?_, synthetic⟩
  unfold judgeTest
  simp only [verified, genuine, Bool.true_eq_false, if_false, adapted]

/-- The result of a test that is delivered. -/
def tested (press : Press) (duplicate : Bool) : WebhookTestResult where
  delivered := true
  httpStatus := 202
  duplicate := duplicate
  txnId := some (txnIdOf press.signedAt)

/-- A row a test has stored: 1050.00 rupees at the second of the test, under the reference and the key of
    the second. -/
structure IsTest (tenantId : ℕ) (provider : WebhookProvider) (at_ : Datetime) (row : RawRow) : Prop where
  tenantId : row.tenantId = tenantId
  txnId : row.txnId = txnIdOf at_
  amount : row.amount.minor = 105000
  currency : row.currency = "INR"
  ref : row.ref = testRef provider at_
  idempotencyKey : row.idempotencyKey = testKey provider at_
  occurredAt : |at_.diff row.occurredAt| < Timedelta.seconds 1

/-- The gateway table after a test: one row more, or one submission more of the row of the second. -/
def Taken (tenantId : ℕ) (provider : WebhookProvider) (at_ : Datetime) (s : Store)
    (rows : List RawRow) : Prop :=
  (Ingest.stored s .gateway tenantId (testKey provider at_) = true ∧
      rows = Ingest.bump tenantId (testKey provider at_) 1 (s.raw .gateway)) ∨
    (Ingest.stored s .gateway tenantId (testKey provider at_) = false ∧
      ∃ row, IsTest tenantId provider at_ row ∧ rows = s.raw .gateway ++ [row])

/-- A press on a live source of the tenant is delivered. -/
lemma testGatewaySource_delivers
    (found : Sources.resolveSourceForTenant db.store db.webhookSources tenantId sourceId = some source)
    (host : Host rt press.signedAt) (recent : Recent press.signedAt) : ∃ after,
      testGatewaySource rt dumps db tenantId sourceId press = (after, .ok (.result (tested press
        (Ingest.stored db.store .gateway tenantId (testKey source.provider press.signedAt))))) ∧
      after.webhookSources =
        updateWhere (·.id == sourceId) (.stamp .ok press.recordedAt) db.webhookSources ∧
      (∀ id, after.store.hasAccount id = db.store.hasAccount id) ∧
      Taken tenantId source.provider press.signedAt db.store (after.store.raw .gateway) := by
  obtain ⟨row, mem, selected, account, _, resolved⟩ := Sources.resolveWhere_some found
  rw [Bool.and_eq_true, beq_iff_eq, beq_iff_eq] at selected
  have own : source.tenantId = tenantId := by rw [resolved]; exact selected.2
  have id : source.sourceId = sourceId := by rw [resolved]; exact selected.1
  obtain ⟨delivery, judged, synthetic⟩ := @judgeTest_taken rt dumps _ source host recent
  -- what the event is adapted to fits, so that its ingestion does not fail
  obtain ⟨clean, cleanTxn, cleanRef⟩ := @hasNul_test press.signedAt source.provider
  have key : delivery.idempotencyKey.toString? = some (testKey source.provider press.signedAt) := by
    rw [synthetic.key, PyStr.toString?_ofString]
  obtain ⟨instant, occurredAt, near⟩ := synthetic.occurredAt
  have utc : delivery.payload.occurredAt.toUtc = .ok instant := by
    rw [occurredAt, AwareDatetime.toUtc_utc]
  have storable : Storable rt db.store source.tenantId delivery.idempotencyKey delivery.payload.txnId
      delivery.payload.gatewayRef (.dict (syntheticEvent source.provider press.signedAt)) := by
    refine ⟨⟨_, key, clean, _, varchar_of_fits (length_testKey recent), .inl rfl⟩, ?_, ?_, host.jsonb _⟩
    · rw [synthetic.txnId]; exact cleanTxn
    · rw [synthetic.gatewayRef]; exact cleanRef
  obtain ⟨⟨db', outcome⟩, ingested⟩ := (@ingestDelivery_ok_iff rt db source.tenantId delivery
    (.dict (syntheticEvent source.provider press.signedAt)) press.draws
    (by rw [resolved]; exact account)).2 ⟨⟨_, utc⟩, storable⟩
  obtain ⟨key', rawBody, at_key, _, _, run, sources⟩ := ingestDelivery_call rt ingested
  obtain rfl := Option.some.inj (key.symm.trans at_key)
  have answer : testGatewaySource rt dumps db tenantId sourceId press =
      (recordDelivery db' sourceId .ok press.recordedAt, .ok (receipt outcome)) := by
    unfold testGatewaySource
    simp only [found, judged, settleJudged, ingested, id]
  have accounts (id : ℕ) : db'.store.hasAccount id = db.store.hasAccount id :=
    Ingest.hasAccount_ingestGateway run id
  have recorded : (recordDelivery db' sourceId .ok press.recordedAt).webhookSources =
      updateWhere (·.id == sourceId) (.stamp .ok press.recordedAt) db.webhookSources :=
    congrArg (updateWhere _ _) sources
  refine ⟨recordDelivery db' sourceId .ok press.recordedAt, ?_, recorded, accounts, ?_⟩
  · rw [answer]
    obtain ⟨column, _, fits, _, _, did⟩ := Ingest.ingestGateway_ok run
    obtain rfl : column = _ := Ingest.column_of_fits (length_testKey recent) fits
    rcases did with ⟨held, existing, _, retried, _⟩ | ⟨absent, _, first, _⟩
    · rw [own] at held
      rw [held, retried, receipt, tested, ← synthetic.txnId]
      rfl
    · rw [own] at absent
      rw [absent, first, receipt, tested, ← synthetic.txnId]
      rfl
  · change Taken _ _ _ _ (db'.store.raw .gateway)
    obtain ⟨column, stamp, fits, _, at_stamp, did⟩ := Ingest.ingestGateway_ok run
    obtain rfl : column = _ := Ingest.column_of_fits (length_testKey recent) fits
    rcases did with ⟨held, _, _, _, eq⟩ | ⟨absent, _, _, eq⟩
    · rw [own] at held eq
      rw [eq, Ingest.raw_enqueue, Store.raw_setRaw]
      exact .inl ⟨held, rfl⟩
    · rw [own] at absent eq
      rw [eq, Ingest.raw_enqueue, Store.raw_setRaw]
      obtain rfl := Except.ok.inj (utc.symm.trans at_stamp)
      refine .inr ⟨absent, Ingest.gatewayRow tenantId delivery.payload (testKey source.provider press.signedAt)
        rawBody instant press.draws, ?_, rfl⟩
      constructor
      · rfl
      · exact synthetic.txnId
      · exact synthetic.amount
      · exact synthetic.currency
      · exact synthetic.gatewayRef
      · rfl
      · exact near

/-- The keys that are stored after a test. -/
lemma Taken.stored {s s' : Store} (taken : Taken tenantId provider at_ s (s'.raw .gateway)) (key : String) :
    Ingest.stored s' .gateway tenantId key =
      (Ingest.stored s .gateway tenantId key || key == testKey provider at_) := by
  cases taken with
  | inl again =>
    obtain ⟨held, rows⟩ := again
    have read (rows : List RawRow) : rows.any (Ingest.holdsKey tenantId key) =
        (rows.map (Ingest.holdsKey tenantId key)).any id := by
      rw [List.any_map]
      rfl
    have same : Ingest.stored s' .gateway tenantId key = Ingest.stored s .gateway tenantId key := by
      rw [Ingest.stored, rows, read, Ingest.map_bump fun _ _ => rfl, ← read]
      rfl
    rw [same]
    cases own : key == testKey provider at_ with
    | true => rw [eq_of_beq own, held, Bool.or_true]
    | false => rw [Bool.or_false]
  | inr new =>
    obtain ⟨_, row, test, rows⟩ := new
    have holds : Ingest.holdsKey tenantId key row = (key == testKey provider at_) := by
      rw [Ingest.holdsKey, test.tenantId, test.idempotencyKey, beq_self_eq_true, Bool.true_and, Bool.beq_comm]
    rw [Ingest.stored, rows, List.any_append, Ingest.stored, List.any_cons, List.any_nil, Bool.or_false, holds]

/-- The keys of the table after a test. -/
lemma Taken.indexKeys {s : Store} {rows : List RawRow} (taken : Taken tenantId provider at_ s rows) :
    rows.map RawRow.indexKey = (s.raw .gateway).map RawRow.indexKey ++
      if Ingest.stored s .gateway tenantId (testKey provider at_) then []
      else [(tenantId, testKey provider at_)] := by
  cases taken with
  | inl again =>
    obtain ⟨held, rows⟩ := again
    rw [rows, Ingest.map_bump fun _ _ => rfl, held, if_pos rfl, List.append_nil]
  | inr new =>
    obtain ⟨absent, row, test, rows⟩ := new
    rw [rows, absent, List.map_append, List.map_singleton, RawRow.indexKey, test.tenantId,
      test.idempotencyKey]
    rfl

/-- The rows of the table after a test. -/
lemma Taken.of_mem {s : Store} {rows : List RawRow} {row : RawRow}
    (taken : Taken tenantId provider at_ s rows) (mem : row ∈ rows) :
    (∃ old ∈ s.raw .gateway, row = { old with duplicateCount := row.duplicateCount }) ∨
      IsTest tenantId provider at_ row := by
  cases taken with
  | inl again =>
    rw [again.2] at mem
    exact .inl (Ingest.of_mem_bump mem)
  | inr new =>
    obtain ⟨_, test, isTest, rows⟩ := new
    rw [rows, List.mem_append, List.mem_singleton] at mem
    cases mem with
    | inl old => exact .inl ⟨row, old, rfl⟩
    | inr same => exact .inr (same ▸ isTest)

end Press

namespace Sample

/-- The instants of the sample presses. -/
def instants : List Datetime := [.newYear 0, .newYear 1]

/-- `GatewayWebhookIn.model_validate` of a body of texts with one of the instants. -/
def modelValidate : Json → Option GatewayWebhookIn
  | .dict body =>
    match Json.get? body "txn_id", Json.get? body "amount", Json.get? body "currency",
      Json.get? body "occurred_at", Json.get? body "gateway_ref" with
    | some (.str txnId), some (.str amount), some (.str currency), some (.str occurredAt),
      some (.str gatewayRef) => do
      let amount ← amount.toString?
      let money ← Decimal.ofText amount.toList
      let instant ← instants.find? fun at_ => PyStr.ofString (isoformat at_) == occurredAt
      gatewayWebhookIn txnId money currency instant gatewayRef
    | _, _, _, _, _ => none
  | _ => none

/-- A member of a dumped body. -/
def member : PyStr × Json → PyStr
  | (key, .str value) => .ofString "\"" ++ key ++ .ofString "\": \"" ++ value ++ .ofString "\""
  | _ => []

/-- `json.dumps` of a body of plain texts. -/
def dumpsText (body : List (PyStr × Json)) : PyStr :=
  .ofString "\x7b" ++ (PyStr.ofString ", ").intercalate (body.map member) ++ .ofString "\x7d"

def dumps : Json → List UInt8
  | .dict body => (dumpsText body).map UInt8.ofNat
  | _ => []

/-- The text of such a body in a `jsonb` column: the short keys first. -/
def jsonb : Json → Option String
  | .dict body => some <| .ofList <| (dumpsText <| body.mergeSort fun a b =>
      decide (a.1.length < b.1.length ∨ a.1.length = b.1.length ∧ a.1 ≤ b.1)).map Char.ofNat
  | _ => none

/-- HMAC-SHA256 of the bodies of the two instants under `whsec_test`. -/
def firstDigest : HexDigest where
  text := "0180c44c0c0188ae77935ccc2b52f9bf90b1364d10753c9fb2595118dad5bf58"
  length := by decide +kernel
  hex := by decide +kernel

def secondDigest : HexDigest where
  text := "89d7a15b35b4e7e582229ca1477bde7efd491d40c5490058165b415c91deee13"
  length := by decide +kernel
  hex := by decide +kernel

def hexdigest (secret : String) (payload : List UInt8) : HexDigest :=
  if payload = dumps (.dict (syntheticEvent .custom (.newYear 0))) then firstDigest
  else if payload = dumps (.dict (syntheticEvent .custom (.newYear 1))) then secondDigest
  else WebhookSample.runtime.hexdigest secret payload

example : dumps (.dict (syntheticEvent .custom (.newYear 0))) =
    ("\x7b\"txn_id\": \"LEDGERLOOP-TEST-1704067200\", \"amount\": \"1050.00\", \"currency\": \"INR\", " ++
      "\"occurred_at\": \"2024-01-01T00:00:00+00:00\", \"gateway_ref\": \"REF-TEST-1704067200\"\x7d").toList.map
        (fun c => UInt8.ofNat c.toNat) := by decide +kernel

def runtime : Runtime :=
  { WebhookSample.runtime with
    hexdigest := hexdigest
    jsonb := jsonb
    intOfStr := fun s => PyInt.int (s.map Char.ofNat)
    upper := fun s => s.map fun n => if 97 ≤ n ∧ n ≤ 122 then n - 32 else n
    modelValidate := modelValidate }

def press (n : ℕ) : Press where
  signedAt := .newYear n
  recordedAt := .newYear n
  draws := { rowId := fun i => n + i + 1, eventId := fun i => n + i + 1, now := .newYear n }

lemma host {at_ : Datetime} (known : at_ = .newYear 0 ∨ at_ = .newYear 1) : Host runtime at_ where
  int := StripeSample.runtime_int
  upper_lower := by decide +kernel
  upper_upper := by decide +kernel
  validates txnId amount currency gatewayRef money read := by
    have instant : instants.find? (fun at_' => PyStr.ofString (isoformat at_') == PyStr.ofString (isoformat at_)) =
        some at_ := by
      cases known with
      | inl first => rw [first]; decide +kernel
      | inr second => rw [second]; decide +kernel
    show modelValidate (.dict (customEvent txnId amount currency (isoformat at_) gatewayRef)) = _
    simp [modelValidate, customEvent, List.lookup_cons, text, read, instant]
  jsonb _ := rfl

end Sample

end SelfTest
end LedgerLoop
