import LedgerLoop.Services.IngestCall
import LedgerLoop.Services.Tenancy
import LedgerLoop.Webhooks.Delivery
import LedgerLoop.Webhooks.StripeScheme

/-!
# Webhook sources

Port of the rest of `services/sources.py` and of the endpoints of `api/routes_ingest.py` that create, list
and test a source, and of `scripts/create_webhook_source.py`.

The real endpoint and the test button judge a request in the same way and go on alike: `Judged` is what
either has found out when its ingestion transaction begins, and `judgeDelivery` is the part of
`providerWebhook` up to there (`providerWebhook_eq`).
-/

set_option autoImplicit false

namespace LedgerLoop
open LedgerLoop.Library

/-- The table `webhook_sources`. The columns that only a listing reads are functions of the row's id. -/
structure SourceTable where
  rows : List WebhookSource := []
  label : ℕ → String := fun _ => ""
  createdAt : ℕ → Datetime

/-- What `create_source` draws. -/
structure SourceDraws where
  sourceId : ℕ
  /-- `generate_source_token()`. -/
  sourceToken : String
  /-- `generate_signing_secret()`. -/
  signingSecret : String
  /-- `now()` of the transaction. -/
  now : Datetime

/-- `WebhookSourceCreate`. -/
structure WebhookSourceCreate where
  provider : WebhookProvider
  label : String
  label_length : HasLength 255 label

/-- `WebhookSourceOut`. -/
structure WebhookSourceOut where
  id : ℕ
  provider : WebhookProvider
  sourceToken : String
  label : String
  lastEventAt : Option Datetime
  lastDeliveryStatus : Option WebhookDeliveryStatus
  createdAt : Datetime
  revokedAt : Option Datetime
deriving DecidableEq, Repr

/-- `Tenant.is_demo`. -/
def Tenant.isDemo (tenant : Tenant) : Bool := tenant.kind == .demo

namespace Sources

/-- `signing_secret or generate_signing_secret()`. -/
def secretOf (signingSecret : Option String) (draws : SourceDraws) : String :=
  match signingSecret with
  | none => draws.signingSecret
  | some given => if given = "" then draws.signingSecret else given

/-- The row `create_source` adds. -/
def sourceRow (tenantId : ℕ) (provider : WebhookProvider) (signingSecret : Option String)
    (draws : SourceDraws) : WebhookSource where
  id := draws.sourceId
  accountId := tenantId
  provider := provider
  sourceToken := draws.sourceToken
  signingSecret := secretOf signingSecret draws

/-- `create_source`: the table, and the new row. -/
def createSource (s : Store) (table : SourceTable) (tenantId : ℕ) (provider : WebhookProvider)
    (label : String) (signingSecret : Option String) (draws : SourceDraws) :
    Except PyError (SourceTable × WebhookSource) :=
  let source := sourceRow tenantId provider signingSecret draws
  if 64 < source.sourceToken.length then .error (.dataError "source_token")
  else if 255 < source.signingSecret.length then .error (.dataError "signing_secret")
  else if 255 < label.length then .error (.dataError "label")
  else if [source.sourceToken, source.signingSecret, label].any hasNul then .error (.dataError "text")
  else if table.rows.any (·.sourceToken == source.sourceToken) then
    .error (.uniqueViolation "uq_webhook_sources_source_token")
  else if s.hasAccount tenantId = false then .error (.foreignKeyViolation "account_id")
  else .ok
    ({ rows := table.rows ++ [source]
       label := Function.update table.label source.id label
       createdAt := Function.update table.createdAt source.id draws.now }, source)

/-- `_source_out`. -/
def sourceOut (table : SourceTable) (row : WebhookSource) : WebhookSourceOut where
  id := row.id
  provider := row.provider
  sourceToken := row.sourceToken
  label := table.label row.id
  lastEventAt := row.lastEventAt
  lastDeliveryStatus := row.lastDeliveryStatus
  createdAt := table.createdAt row.id
  revokedAt := row.revokedAt

/-- `create_gateway_source`. -/
def createGatewaySource (s : Store) (table : SourceTable) (tenant : Tenant)
    (payload : WebhookSourceCreate) (draws : SourceDraws) :
    Except PyError (SourceTable × WebhookSourceOut) :=
  if tenant.isDemo then
    .error (.httpException 403 "a live endpoint requires an account key; demo tenants expire after 24h")
  else
    (createSource s table tenant.accountId payload.provider payload.label none draws).map
      fun (table, source) => (table, sourceOut table source)

/-- `list_sources`. -/
def listSources (table : SourceTable) (tenantId : ℕ) : List WebhookSource :=
  (table.rows.filter (·.accountId == tenantId)).mergeSort fun a b => decide (a.id ≤ b.id)

/-- `list_gateway_sources`. -/
def listGatewaySources (table : SourceTable) (tenant : Tenant) : List WebhookSourceOut :=
  (listSources table tenant.accountId).map (sourceOut table)

/-- How `scripts/create_webhook_source.py` fails. -/
inductive RegisterError where
  /-- `main` wants the secret that the provider has issued. -/
  | noSigningSecret (provider : WebhookProvider)
  | noAccount (accountName : String)
  | notReal (accountName : String) (kind : AccountKind)
  | failed (error : PyError)
deriving DecidableEq, Repr

/-- The exit code of `main`. -/
def RegisterError.exitCode : RegisterError → ℕ
  | .noSigningSecret _ => 2
  | .noAccount _ | .notReal .. | .failed _ => 1

/-- `register`. -/
def register (s : Store) (table : SourceTable) (accountName : String) (provider : WebhookProvider)
    (label : String) (signingSecret : Option String) (draws : SourceDraws) :
    Except RegisterError (SourceTable × WebhookSource) :=
  match s.accounts.find? (·.name == accountName) with
  | none => .error (.noAccount accountName)
  | some account =>
    if account.kind ≠ .real then .error (.notReal accountName account.kind)
    else
      (createSource s table account.id provider label signingSecret draws).mapError .failed

/-- `main` of the script. -/
def registerMain (s : Store) (table : SourceTable) (accountName : String) (provider : WebhookProvider)
    (label : String) (signingSecret : Option String) (draws : SourceDraws) :
    Except RegisterError (SourceTable × WebhookSource) :=
  if provider ≠ .custom ∧ signingSecret.getD "" = "" then .error (.noSigningSecret provider)
  else register s table accountName provider label signingSecret draws

/-- The two lookups of a live source. -/
def resolveWhere (s : Store) (rows : List WebhookSource) (p : WebhookSource → Bool) :
    Option ResolvedSource :=
  match rows.find? fun source => p source && s.hasAccount source.accountId with
  | none => none
  | some source =>
    if source.revokedAt.isSome then none
    else some
      { sourceId := source.id, provider := source.provider
        signingSecret := source.signingSecret, tenantId := source.accountId }

/-- `resolve_source`. -/
def resolveToken (s : Store) (rows : List WebhookSource) (sourceToken : String) :
    Option ResolvedSource :=
  resolveWhere s rows fun source => source.sourceToken == sourceToken

/-- `resolve_source_for_tenant`. -/
def resolveSourceForTenant (s : Store) (rows : List WebhookSource) (tenantId sourceId : ℕ) :
    Option ResolvedSource :=
  resolveWhere s rows fun source => source.id == sourceId && source.accountId == tenantId

lemma resolveSource_eq (db : WebhookDb) (sourceToken : String) :
    resolveSource db sourceToken = resolveToken db.store db.webhookSources sourceToken := rfl

/-- What is resolved is a live row with an account. -/
lemma resolveWhere_some {s : Store} {rows : List WebhookSource} {p : WebhookSource → Bool}
    {source : ResolvedSource} (found : resolveWhere s rows p = some source) :
    ∃ row ∈ rows, p row = true ∧ s.hasAccount row.accountId = true ∧ row.revokedAt = none ∧
      source = { sourceId := row.id, provider := row.provider, signingSecret := row.signingSecret
                 tenantId := row.accountId } := by
  unfold resolveWhere at found
  split at found
  · cases found
  · rename_i row at_row
    split_ifs at found with revoked
    cases found
    have selected := List.find?_some at_row
    rw [Bool.and_eq_true] at selected
    exact ⟨row, List.mem_of_find?_eq_some at_row, selected.1, selected.2, by simpa using revoked, rfl⟩

/-- What a source is created as. -/
lemma createSource_ok {s : Store} {table table' : SourceTable} {tenantId : ℕ}
    {provider : WebhookProvider} {label : String} {signingSecret : Option String} {draws : SourceDraws}
    {source : WebhookSource}
    (ok : createSource s table tenantId provider label signingSecret draws = .ok (table', source)) :
    source = sourceRow tenantId provider signingSecret draws ∧
      table'.rows = table.rows ++ [source] ∧ s.hasAccount tenantId = true ∧
      (∀ row ∈ table.rows, row.sourceToken ≠ source.sourceToken) ∧
      table'.label = Function.update table.label source.id label ∧
      table'.createdAt = Function.update table.createdAt source.id draws.now := by
  unfold createSource at ok
  simp only at ok
  split_ifs at ok with _ _ _ _ taken account
  cases ok
  refine ⟨rfl, rfl, by simpa using account, fun row mem same => taken ?_, rfl, rfl⟩
  exact List.any_eq_true.2 ⟨row, mem, by simpa using same⟩

/-- The last record is what is seen. -/
lemma updateWhere_stamp {rows : List WebhookSource} {sourceId : ℕ} {status status' : WebhookDeliveryStatus}
    {now now' : Datetime} :
    updateWhere (·.id == sourceId) (.stamp status' now') (updateWhere (·.id == sourceId) (.stamp status now) rows) =
      updateWhere (·.id == sourceId) (.stamp status' now') rows := by
  rw [updateWhere, updateWhere, List.map_map]
  refine List.map_congr_left fun row _ => ?_
  have stamped : ((row.stamp status now).id == sourceId) = (row.id == sourceId) := rfl
  rw [Function.comp_apply]
  split_ifs with own other
  · rfl
  · exact absurd (stamped.trans own) other
  · rfl

/-- A record of a delivery does not change what is resolved. -/
lemma resolveWhere_stamp {s s' : Store} {rows : List WebhookSource} {p : WebhookSource → Bool}
    {sourceId : ℕ} {status : WebhookDeliveryStatus} {now : Datetime}
    (accounts : ∀ id, s'.hasAccount id = s.hasAccount id) (blind : ∀ row, p (row.stamp status now) = p row) :
    resolveWhere s' (updateWhere (·.id == sourceId) (.stamp status now) rows) p = resolveWhere s rows p := by
  unfold resolveWhere
  induction rows with
  | nil => rfl
  | cons row rows ih =>
    -- the columns that are read of a row stay as they are
    have same : ∃ row', (if row.id == sourceId then row.stamp status now else row) = row' ∧
        p row' = p row ∧ row'.accountId = row.accountId ∧ row'.revokedAt = row.revokedAt ∧
        row'.id = row.id ∧ row'.provider = row.provider ∧ row'.signingSecret = row.signingSecret := by
      cases row.id == sourceId with
      | true => exact ⟨row.stamp status now, rfl, blind row, rfl, rfl, rfl, rfl, rfl⟩
      | false => exact ⟨row, rfl, rfl, rfl, rfl, rfl, rfl, rfl⟩
    obtain ⟨row', eq, selected, account, revoked, id, provider, secret⟩ := same
    rw [updateWhere, List.map_cons, List.find?_cons, List.find?_cons, eq, selected, account, accounts]
    cases p row && s.hasAccount row.accountId with
    | true => simp only [account, revoked, id, provider, secret]
    | false => exact ih

end Sources

/-- Why an endpoint refuses a request. -/
inductive Rejection where
  | invalidSignature (reason : String)
  | invalidPayload (detail : PyStr)
deriving DecidableEq, Repr

/-- The status a refusal is recorded with. -/
def Rejection.status : Rejection → WebhookDeliveryStatus
  | .invalidSignature _ => .invalidSignature
  | .invalidPayload _ => .invalidPayload

/-- What an endpoint has found out of a request when it goes on to the database. -/
inductive Judged where
  | refused (rejection : Rejection)
  | taken (delivery : AdaptedWebhook) (body : Json)

section
variable (rt : Runtime)

/-- `provider_webhook` between its two uses of the database. -/
def judgeDelivery (source : ResolvedSource) (rawBody : List UInt8) (headers : String → Option String)
    (now : Datetime) : Except Raised Judged :=
  match Signatures.verify rt source.provider rawBody
    (headers (Signatures.signatureHeader source.provider)) source.signingSecret now
    Signatures.defaultTolerance with
  | .error e => .error e
  | .ok verdict =>
    if verdict.ok = false then .ok (.refused (.invalidSignature verdict.reason))
    else
      match readPayload rt source.provider rawBody with
      | .error e =>
        match e.caught? with
        | some detail => .ok (.refused (.invalidPayload detail))
        | none => .error e
      | .ok (delivery, body) => .ok (.taken delivery body)

/-- The database's part of a request that has been judged, and the answer: the ingestion if there is one,
    and the record. -/
def settleJudged {α : Type} (db : WebhookDb) (source : ResolvedSource) (draws : IngestDraws)
    (recordedAt : Datetime) (refusal : Rejection → α) (receipt : AdaptedWebhook → IngestOutcome → α) :
    Judged → WebhookDb × Except Raised α
  | .refused rejection =>
    (recordDelivery db source.sourceId rejection.status recordedAt, .ok (refusal rejection))
  | .taken delivery body =>
    match ingestDelivery rt db source.tenantId delivery body draws with
    | .error e => (db, .error e)
    | .ok (db, outcome) =>
      (recordDelivery db source.sourceId .ok recordedAt, .ok (receipt delivery outcome))

/-- The call of `ingest_gateway` for a delivery, with the encoding of its arguments. -/
def deliveryCall (tenantId : ℕ) (delivery : AdaptedWebhook) (body : Json) : Except Raised IngestCall :=
  match delivery.idempotencyKey.toString?, rt.jsonb body with
  | none, _ => .error (.database (.dataError "idempotency_key"))
  | _, none => .error (.database (.dataError "raw_payload"))
  | some key, some rawBody => .ok (.gateway tenantId delivery.payload key rawBody)

/-- A delivery is ingested by its call. -/
lemma ingestDelivery_call {db after : WebhookDb} {tenantId : ℕ} {delivery : AdaptedWebhook} {body : Json}
    {draws : IngestDraws} {outcome : IngestOutcome}
    (ok : ingestDelivery rt db tenantId delivery body draws = .ok (after, outcome)) :
    ∃ key rawBody, delivery.idempotencyKey.toString? = some key ∧ rt.jsonb body = some rawBody ∧
      deliveryCall rt tenantId delivery body = .ok (.gateway tenantId delivery.payload key rawBody) ∧
      Ingest.ingestGateway db.store tenantId delivery.payload key rawBody draws = .ok (after.store, outcome) ∧
      after.webhookSources = db.webhookSources := by
  unfold ingestDelivery at ok
  split at ok
  · cases ok
  · cases ok
  · rename_i key rawBody at_key at_body
    split at ok
    · cases ok
    · rename_i store outcome' run
      cases ok
      refine ⟨key, rawBody, at_key, at_body, ?_, run, rfl⟩
      rw [deliveryCall, at_key, at_body]

/-- The answer to a delivery that is refused. -/
def Rejection.response : Rejection → DeliveryResponse
  | .invalidSignature _ => .unauthorized
  | .invalidPayload detail => .unprocessable detail

/-- A delivery is looked up, judged, and settled. -/
lemma providerWebhook_eq (db : WebhookDb) (request : DeliveryRequest) :
    providerWebhook rt db request =
      match resolveSource db request.sourceToken with
      | none => (db, .ok .notFound)
      | some source =>
        match judgeDelivery rt source request.rawBody request.headers request.now with
        | .error e => (db, .error e)
        | .ok judged => settleJudged rt db source request.draws request.recordedAt Rejection.response
            (fun delivery outcome => .accepted delivery.eventType outcome) judged := by
  -- both sides go the same way: verification, parsing, ingestion
  unfold providerWebhook
  cases resolveSource db request.sourceToken with
  | none => rfl
  | some source =>
    simp only [judgeDelivery]
    cases Signatures.verify rt source.provider request.rawBody
        (request.headers (Signatures.signatureHeader source.provider)) source.signingSecret request.now
        Signatures.defaultTolerance with
    | error e => rfl
    | ok verdict =>
      simp only
      cases genuine : verdict.ok with
      | false => rfl
      | true =>
        simp only [Bool.true_eq_false, if_false]
        cases readPayload rt source.provider request.rawBody with
        | error e =>
          simp only
          cases e.caught? <;> rfl
        | ok read =>
          cases read with
          | mk delivery body =>
            cases ingested : ingestDelivery rt db source.tenantId delivery body request.draws with
            | error e => simp only [settleJudged, ingested]
            | ok after => simp only [settleJudged, ingested]

end

end LedgerLoop
