import LedgerLoop.Services.Ingest
import LedgerLoop.Webhooks.Signatures

/-!
# Deliveries

Port of `provider_webhook` of `api/routes_ingest.py` and of `resolve_source` and `record_delivery` of
`services/sources.py`. A delivery has a response or raises what nothing in the endpoint catches, and
leaves the tables as its committed transactions do.

A `WebhookDb` carries what the schema enforces: the unique indexes the endpoint relies on, and the
foreign key of a source. The columns of a source that are here are those the endpoint reads or writes.
-/

set_option autoImplicit false

namespace LedgerLoop
open LedgerLoop.Library

/-- Outcome of the most recent delivery to a source. -/
inductive WebhookDeliveryStatus where
  | ok
  | invalidSignature
  | invalidPayload
deriving DecidableEq, Repr

/-- A row of `webhook_sources`. -/
structure WebhookSource where
  id : ℕ
  accountId : ℕ
  provider : WebhookProvider
  sourceToken : String
  signingSecret : String
  lastEventAt : Option Datetime := none
  lastDeliveryStatus : Option WebhookDeliveryStatus := none
  revokedAt : Option Datetime := none
deriving DecidableEq, Repr

/-- The key of the unique index of a raw table. -/
def RawRow.indexKey (row : RawRow) : ℕ × String := (row.tenantId, row.idempotencyKey)

/-- The tables of the endpoint. -/
structure WebhookDb where
  store : Store
  webhookSources : List WebhookSource
  source_id : (webhookSources.map (·.id)).Nodup
  source_account : ∀ source ∈ webhookSources, store.hasAccount source.accountId = true
  gateway_key : ((store.raw .gateway).map RawRow.indexKey).Nodup

/-- `ResolvedSource`. -/
structure ResolvedSource where
  sourceId : ℕ
  provider : WebhookProvider
  signingSecret : String
  tenantId : ℕ
deriving DecidableEq, Repr

/-- `resolve_source`. -/
def resolveSource (db : WebhookDb) (sourceToken : String) : Option ResolvedSource :=
  match db.webhookSources.find? fun source =>
    source.sourceToken == sourceToken && db.store.hasAccount source.accountId with
  | none => none
  | some source =>
    if source.revokedAt.isSome then none
    else some
      { sourceId := source.id, provider := source.provider
        signingSecret := source.signingSecret, tenantId := source.accountId }

/-- The update of `record_delivery`. -/
def WebhookSource.stamp (status : WebhookDeliveryStatus) (now : Datetime) (source : WebhookSource) :
    WebhookSource :=
  { source with lastEventAt := some now, lastDeliveryStatus := some status }

/-- `record_delivery`. -/
def recordDelivery (db : WebhookDb) (sourceId : ℕ) (status : WebhookDeliveryStatus) (now : Datetime) :
    WebhookDb where
  store := db.store
  webhookSources := updateWhere (·.id == sourceId) (.stamp status now) db.webhookSources
  source_id := by
    rw [map_updateWhere db.webhookSources fun source => (rfl : (source.stamp status now).id = source.id)]
    exact db.source_id
  source_account := by
    intro source mem
    rcases mem_updateWhere.1 mem with ⟨source0, mem0, _, rfl⟩ | ⟨mem0, _⟩
    · exact db.source_account source0 mem0
    · exact db.source_account source mem0
  gateway_key := db.gateway_key

namespace Ingest
variable {s s' : Store} {tenantId : ℕ} {payload : GatewayWebhookIn} {idempotencyKey rawBody : String}
  {draws : IngestDraws} {outcome : IngestOutcome}

/-- Ingestion keeps the accounts. -/
lemma hasAccount_ingestGateway
    (run : ingestGateway s tenantId payload idempotencyKey rawBody draws = .ok (s', outcome)) (id : ℕ) :
    s'.hasAccount id = s.hasAccount id := by
  obtain ⟨_, _, _, _, _, ⟨_, _, _, _, rfl⟩ | ⟨_, _, _, rfl⟩⟩ := ingestGateway_ok run <;>
    simp [Store.hasAccount]

/-- Ingestion keeps the unique index. -/
lemma nodup_ingestGateway (unique : ((s.raw .gateway).map RawRow.indexKey).Nodup)
    (run : ingestGateway s tenantId payload idempotencyKey rawBody draws = .ok (s', outcome)) :
    ((s'.raw .gateway).map RawRow.indexKey).Nodup := by
  obtain ⟨column, _, _, _, _, ⟨_, _, _, _, rfl⟩ | ⟨absent, _, _, rfl⟩⟩ := ingestGateway_ok run
  · simp only [raw_enqueue, Store.raw_setRaw]
    rw [map_bump fun _ _ => rfl]
    exact unique
  · simp only [raw_enqueue, Store.raw_setRaw]
    refine nodup_map_concat unique fun row mem same => ?_
    obtain ⟨tenant, key⟩ := Prod.mk.inj same
    have held : stored s .gateway tenantId column = true :=
      List.any_eq_true.2 ⟨row, mem, by simp [holdsKey, tenant, key, gatewayRow]⟩
    rw [absent] at held
    cases held

/-- The unique index has one row for a key that is stored. -/
lemma exists_filter_bump (unique : ((s.raw .gateway).map RawRow.indexKey).Nodup)
    (held : stored s .gateway tenantId idempotencyKey = true) :
    ∃ row, (bump tenantId idempotencyKey 1 (s.raw .gateway)).filter (holdsKey tenantId idempotencyKey) =
      [row] := by
  have unique' : ((bump tenantId idempotencyKey 1 (s.raw .gateway)).map RawRow.indexKey).Nodup := by
    rw [map_bump fun _ _ => rfl]
    exact unique
  rw [← List.length_eq_one_iff, ← List.countP_eq_length_filter,
    countP_eq_one_iff (List.Nodup.of_map _ unique')]
  · obtain ⟨row, mem, holds⟩ := List.any_eq_true.1 held
    exact ⟨_, mem_updateWhere.2 (.inl ⟨row, mem, holds, rfl⟩), holds⟩
  · intro row mem row' mem' holds holds'
    refine eq_of_key unique' mem mem' ?_
    simp only [holdsKey, Bool.and_eq_true, beq_iff_eq] at holds holds'
    simp [RawRow.indexKey, holds, holds']

/-- The column takes the key: it fits, or is cut to a key that is not stored yet. -/
def KeyAccepted (s : Store) (tenantId : ℕ) (idempotencyKey : String) : Prop :=
  ∃ column, varchar 255 idempotencyKey = some column ∧
    (column = idempotencyKey ∨ stored s .gateway tenantId column = false)

/-- Where the schema's constraints hold, ingestion fails on its arguments only. -/
lemma ingestGateway_ok_iff (unique : ((s.raw .gateway).map RawRow.indexKey).Nodup)
    (account : s.hasAccount tenantId = true) :
    (∃ r, ingestGateway s tenantId payload idempotencyKey rawBody draws = .ok r) ↔
      (∃ utc, payload.occurredAt.toUtc = .ok utc) ∧
        [idempotencyKey, payload.txnId, payload.gatewayRef].any hasNul = false ∧
        KeyAccepted s tenantId idempotencyKey := by
  constructor
  · rintro ⟨⟨s', outcome⟩, run⟩
    obtain ⟨column, occurredAt, held, fits, utc, _⟩ := ingestGateway_ok run
    refine ⟨⟨occurredAt, utc⟩, clean_of_ingestGateway run, column, held, ?_⟩
    cases old : stored s .gateway tenantId column with
    | true => exact .inl (fits old)
    | false => exact .inr rfl
  · rintro ⟨⟨occurredAt, utc⟩, clean, column, held, fits⟩
    simp only [ingestGateway, utc, bind, Except.bind, clean, held, Bool.false_eq_true, if_false, account,
      Bool.true_eq_false]
    cases old : stored s .gateway tenantId column with
    | true =>
      have same : column = idempotencyKey := fits.resolve_right (by simp [old])
      obtain ⟨row, one⟩ := exists_filter_bump unique old
      simp only [same, ne_eq, not_true_eq_false, if_true, if_false] at one ⊢
      simp only [one]
      exact ⟨_, rfl⟩
    | false => exact ⟨_, rfl⟩

end Ingest

section
variable (rt : Runtime)

/-- The ingestion transaction of a delivery, with the encoding of its arguments. -/
def ingestDelivery (db : WebhookDb) (tenantId : ℕ) (adapted : AdaptedWebhook) (body : Json)
    (draws : IngestDraws) : Except Raised (WebhookDb × IngestOutcome) :=
  match adapted.idempotencyKey.toString?, rt.jsonb body with
  | none, _ => .error (.database (.dataError "idempotency_key"))
  | _, none => .error (.database (.dataError "raw_payload"))
  | some key, some rawBody =>
    match run : Ingest.ingestGateway db.store tenantId adapted.payload key rawBody draws with
    | .error e => .error (.database e)
    | .ok (store, outcome) => .ok
        ({ store := store
           webhookSources := db.webhookSources
           source_id := db.source_id
           source_account := fun source mem =>
            (Ingest.hasAccount_ingestGateway run _).trans (db.source_account source mem)
           gateway_key := Ingest.nodup_ingestGateway db.gateway_key run }, outcome)

/-- The `try` block of the endpoint: the adapted delivery and the body it is of. -/
def readPayload (provider : WebhookProvider) (rawBody : List UInt8) :
    Except Raised (AdaptedWebhook × Json) :=
  match rt.loads rawBody with
  | .error e => .error (.loads e)
  | .ok (.dict body) => (Adapters.adapt rt provider body).map fun adapted => (adapted, .dict body)
  | .ok _ => .error (.adapterError (.ofString "payload is not a JSON object"))

/-- `except (AdapterError, json.JSONDecodeError) as exc`: the text of what is caught. -/
def Raised.caught? : Raised → Option PyStr
  | .adapterError message | .loads (.jsonDecodeError message) => some message
  | _ => none

/-- What a delivery is answered with. -/
inductive DeliveryResponse where
  /-- 202. -/
  | accepted (eventType : PyStr) (outcome : IngestOutcome)
  /-- 401. -/
  | unauthorized
  /-- 404. -/
  | notFound
  /-- 422. -/
  | unprocessable (detail : PyStr)
deriving DecidableEq, Repr

/-- What comes with a delivery request, and what its transactions draw. -/
structure DeliveryRequest where
  sourceToken : String
  rawBody : List UInt8
  headers : String → Option String
  /-- The clock at the verification and at `record_delivery`. -/
  now : Datetime
  recordedAt : Datetime
  draws : IngestDraws

/-- `provider_webhook`. -/
def providerWebhook (db : WebhookDb) (request : DeliveryRequest) :
    WebhookDb × Except Raised DeliveryResponse :=
  match resolveSource db request.sourceToken with
  | none => (db, .ok .notFound)
  | some resolved =>
    let record (db : WebhookDb) (status : WebhookDeliveryStatus) : WebhookDb :=
      recordDelivery db resolved.sourceId status request.recordedAt
    match Signatures.verify rt resolved.provider request.rawBody
      (request.headers (Signatures.signatureHeader resolved.provider)) resolved.signingSecret
      request.now Signatures.defaultTolerance with
    | .error e => (db, .error e)
    | .ok verdict =>
      if verdict.ok = false then (record db .invalidSignature, .ok .unauthorized)
      else
        match readPayload rt resolved.provider request.rawBody with
        | .error e =>
          match e.caught? with
          | some detail => (record db .invalidPayload, .ok (.unprocessable detail))
          | none => (db, .error e)
        | .ok (adapted, body) =>
          match ingestDelivery rt db resolved.tenantId adapted body request.draws with
          | .error e => (db, .error e)
          | .ok (db, outcome) => (record db .ok, .ok (.accepted adapted.eventType outcome))

end

end LedgerLoop
