import LedgerLoop.Library.PyText
import LedgerLoop.Services.IngestCall
import LedgerLoop.Webhooks.Delivery

/-!
# Idempotency keys of deliveries

An adapter derives the idempotency key from what identifies the event: Stripe's event id, Razorpay's
payment id, the pair of `txn_id` and `gateway_ref` of a custom source. The key is a tag and these texts.
For a custom source the two texts are joined by a colon that either of them may contain, so that the keys
of two payments can be one. And a key that ends in spaces beyond its 255th character is stored without
them, so that it can be that of another payment in the table only (`keys_separate_iff`).
-/

set_option autoImplicit false

namespace LedgerLoop
open LedgerLoop.Library

/-- What tells one payment from another. -/
inductive EventIdentity where
  | stripe (eventId : PyStr)
  | razorpay (paymentId : PyStr)
  | custom (txnId gatewayRef : String)
deriving DecidableEq, Repr

/-- The identity a delivery carries: Stripe's event id, or the payment intent's where the event has
    none. -/
def eventIdentity (rt : Runtime) (body : List (PyStr × Json)) : WebhookProvider → Option EventIdentity
  | .stripe =>
    let eventId := (Json.get? body "id").getD .null
    (if eventId.truthy then some eventId else Json.path? ["data", "object", "id"] (.dict body)).map
      fun id => .stripe (Adapters.str rt id)
  | .razorpay => (Json.path? ["payload", "payment", "entity", "id"] (.dict body)).map
      fun id => .razorpay (Adapters.str rt id)
  | .custom => (rt.modelValidate (.dict body)).map
      fun payload => .custom payload.txnId payload.gatewayRef

/-- Who sends an identity. -/
def EventIdentity.provider : EventIdentity → WebhookProvider
  | .stripe _ => .stripe
  | .razorpay _ => .razorpay
  | .custom .. => .custom

/-- The idempotency key of an identity. -/
def EventIdentity.key : EventIdentity → PyStr
  | .stripe eventId => .ofString "stripe:" ++ eventId
  | .razorpay paymentId => .ofString "razorpay:" ++ paymentId
  | .custom txnId gatewayRef => .ofString ("custom:" ++ txnId ++ ":" ++ gatewayRef)

/-- The second pair is the first with the separator one colon later. -/
def EventIdentity.Shifted (i i' : EventIdentity) : Prop :=
  ∃ txnId part gatewayRef, i = .custom txnId (part ++ ":" ++ gatewayRef) ∧
    i' = .custom (txnId ++ ":" ++ part) gatewayRef

namespace EventIdentity
variable {i i' : EventIdentity}

/-- Two ways to split a text at a colon. -/
lemma split_cases {t g t' g' : String} (same : t ++ ":" ++ g = t' ++ ":" ++ g') :
    (t = t' ∧ g = g') ∨ (∃ m, t' = t ++ ":" ++ m ∧ g = m ++ ":" ++ g') ∨
      ∃ m, t = t' ++ ":" ++ m ∧ g' = m ++ ":" ++ g := by
  have chars : t.toList ++ ':' :: g.toList = t'.toList ++ ':' :: g'.toList := by
    simpa using congrArg String.toList same
  rcases PyText.append_sep_cases chars with ⟨eq, eq'⟩ | ⟨m, eq, eq'⟩ | ⟨m, eq, eq'⟩
  · exact .inl ⟨String.toList_inj.1 eq, String.toList_inj.1 eq'⟩
  · refine .inr (.inl ⟨String.ofList m, String.toList_inj.1 ?_, String.toList_inj.1 ?_⟩)
    · simpa using eq
    · simpa using eq'
  · refine .inr (.inr ⟨String.ofList m, String.toList_inj.1 ?_, String.toList_inj.1 ?_⟩)
    · simpa using eq
    · simpa using eq'

lemma custom_key (txnId gatewayRef : String) :
    (custom txnId gatewayRef).key =
      PyStr.ofString "custom:" ++ PyStr.ofString (txnId ++ ":" ++ gatewayRef) := by
  simp only [key, String.append_assoc, PyStr.ofString_append]

/-- A key begins with a letter of the provider's. -/
lemma head_key (i : EventIdentity) : i.key.head? =
    match i with
    | .stripe _ => some 's'.toNat
    | .razorpay _ => some 'r'.toNat
    | .custom .. => some 'c'.toNat := by
  cases i with
  | stripe e => rfl
  | razorpay p => rfl
  | custom t g =>
    rw [custom_key]
    rfl

/-- Identities with one key are equal, or pairs that differ in where the separator is. -/
lemma key_eq_iff : i.key = i'.key ↔ i = i' ∨ Shifted i i' ∨ Shifted i' i := by
  constructor
  · intro same
    have head := congrArg List.head? same
    rw [head_key, head_key] at head
    cases i with
    | stripe e =>
      cases i' with
      | stripe e' => exact .inl (congrArg _ (List.append_cancel_left same))
      | razorpay p => simp at head
      | custom t g => simp at head
    | razorpay p =>
      cases i' with
      | stripe e => simp at head
      | razorpay p' => exact .inl (congrArg _ (List.append_cancel_left same))
      | custom t g => simp at head
    | custom t g =>
      cases i' with
      | stripe e => simp at head
      | razorpay p => simp at head
      | custom t' g' =>
        rw [custom_key, custom_key] at same
        rcases split_cases (PyStr.ofString_injective (List.append_cancel_left same)) with
          ⟨rfl, rfl⟩ | ⟨m, rfl, rfl⟩ | ⟨m, rfl, rfl⟩
        · exact .inl rfl
        · exact .inr (.inl ⟨t, m, g', rfl, rfl⟩)
        · exact .inr (.inr ⟨t', m, g, rfl, rfl⟩)
  · rintro (rfl | ⟨_, _, _, rfl, rfl⟩ | ⟨_, _, _, rfl, rfl⟩)
    · rfl
    · simp [key, String.append_assoc]
    · simp [key, String.append_assoc]

/-- The separator cannot be in two places of one pair. -/
lemma Shifted.ne (shifted : Shifted i i') : i ≠ i' := by
  obtain ⟨txnId, part, gatewayRef, rfl, rfl⟩ := shifted
  intro same
  have length := congrArg String.length (EventIdentity.custom.inj same).1
  simp only [String.length_append] at length
  have one : ":".length = 1 := rfl
  omega

end EventIdentity

/-- A delivery that `adapt` accepts. -/
structure AcceptedDelivery (rt : Runtime) where
  provider : WebhookProvider
  body : List (PyStr × Json)
  webhook : AdaptedWebhook
  accepted : Adapters.adapt rt provider body = .ok webhook

namespace AcceptedDelivery
variable {rt : Runtime} (d d' : AcceptedDelivery rt)

/-- The deliveries come from one provider and carry one event identity. -/
def SamePayment : Prop :=
  d.provider = d'.provider ∧ eventIdentity rt d.body d.provider = eventIdentity rt d'.body d'.provider

/-- One key iff one payment. -/
def KeysAgree : Prop := d.webhook.idempotencyKey = d'.webhook.idempotencyKey ↔ SamePayment d d'

/-- Whatever account both are ingested into, the first before, and whatever happens to the account before
    and in between, as long as the rows of the first call are kept: the second is not answered as a
    duplicate of the row that the first was answered with, unless they are of one payment. -/
def NotSwallowed : Prop :=
  ∀ (before between s after : Store) (tenantId : ℕ) (key key' rawBody rawBody' : String)
    (draws draws' : IngestDraws) (outcome outcome' : IngestOutcome),
    d.webhook.idempotencyKey.toString? = some key →
    d'.webhook.idempotencyKey.toString? = some key' →
    Ingest.ingestGateway before tenantId d.webhook.payload key rawBody draws = .ok (between, outcome) →
    (∀ row ∈ between.raw .gateway, ∃ row' ∈ s.raw .gateway,
      row'.id = row.id ∧ row'.indexKey = row.indexKey) →
    ((s.raw .gateway).map RawRow.id).Nodup →
    Ingest.ingestGateway s tenantId d'.webhook.payload key' rawBody' draws' = .ok (after, outcome') →
    outcome'.duplicate = true → outcome'.rowId = outcome.rowId → SamePayment d d'

/-- The database takes the key, the texts and the instant of a delivery. -/
def Ingestible : Prop :=
  ∃ i key, eventIdentity rt d.body d.provider = some i ∧ i.key.toString? = some key ∧
    [key, d.webhook.payload.txnId, d.webhook.payload.gatewayRef].any hasNul = false ∧
    ∃ utc, d.webhook.payload.occurredAt.toUtc = .ok utc

/-- The text of the first identity is that of the second, which fills its column, and spaces. -/
def CutOnto : Prop :=
  ∃ i i' spaces, eventIdentity rt d.body d.provider = some i ∧
    eventIdentity rt d'.body d'.provider = some i' ∧ i'.key.length = 255 ∧ 0 < spaces ∧
    i.key = i'.key ++ List.replicate spaces ' '.toNat

/-- The deliveries are of a custom source, and the first `gateway_ref` begins with the part of the second
    `txn_id` that follows the first `txn_id` and a colon. -/
def ColonShifted : Prop :=
  d.provider = .custom ∧ d'.provider = .custom ∧ ∃ payload payload' part,
    rt.modelValidate (.dict d.body) = some payload ∧
    rt.modelValidate (.dict d'.body) = some payload' ∧
    payload'.txnId = payload.txnId ++ ":" ++ part ∧
    payload.gatewayRef = part ++ ":" ++ payload'.gatewayRef

variable {d d'}

/-- The key of an accepted delivery is that of the identity it carries. -/
lemma exists_identity (d : AcceptedDelivery rt) : ∃ i,
    eventIdentity rt d.body d.provider = some i ∧ d.webhook.idempotencyKey = i.key := by
  obtain ⟨provider, body, webhook, accepted⟩ := d
  cases provider with
  | stripe =>
    obtain ⟨p, payment, key⟩ := Adapters.adaptPayment_ok accepted
    obtain ⟨id, at_id, is_id⟩ := Adapters.exists_id payment
    simp only [eventIdentity]
    by_cases named : ((Json.get? body "id").getD .null).truthy = true
    · refine ⟨.stripe (Adapters.str rt ((Json.get? body "id").getD .null)), by simp [named], ?_⟩
      simp only [key, Adapters.stripe, named, if_true]
      rfl
    · refine ⟨.stripe p.id, ?_, ?_⟩
      · rw [if_neg named, is_id]
        exact congrArg _ at_id
      · simp only [key, Adapters.stripe, named]
        rfl
  | razorpay =>
    obtain ⟨p, payment, key⟩ := Adapters.adaptPayment_ok accepted
    obtain ⟨id, at_id, is_id⟩ := Adapters.exists_id payment
    exact ⟨.razorpay p.id, Option.map_eq_some_iff.2 ⟨id, at_id, by rw [is_id]⟩, key⟩
  | custom =>
    simp only [Adapters.adapt, Adapters.adaptCustom] at accepted
    split at accepted
    · cases accepted
    · rename_i payload valid
      cases accepted
      exact ⟨_, Option.map_eq_some_iff.2 ⟨payload, valid, rfl⟩, rfl⟩

section Identity
variable {i i' : EventIdentity}

/-- The identity tells the provider. -/
lemma provider_eq {provider : WebhookProvider} {body : List (PyStr × Json)}
    (carries : eventIdentity rt body provider = some i) : provider = i.provider := by
  cases provider <;> obtain ⟨_, _, rfl⟩ := Option.map_eq_some_iff.1 carries <;> rfl

lemma samePayment_iff (carries : eventIdentity rt d.body d.provider = some i)
    (carries' : eventIdentity rt d'.body d'.provider = some i') : SamePayment d d' ↔ i = i' := by
  unfold SamePayment
  rw [carries, carries', Option.some.injEq]
  constructor
  · exact And.right
  · rintro rfl
    exact ⟨(provider_eq carries).trans (provider_eq carries').symm, rfl⟩

lemma colonShifted_iff (carries : eventIdentity rt d.body d.provider = some i)
    (carries' : eventIdentity rt d'.body d'.provider = some i') :
    ColonShifted d d' ↔ i.Shifted i' := by
  constructor
  · rintro ⟨custom, custom', payload, payload', part, valid, valid', txnId, gatewayRef⟩
    rw [custom] at carries
    rw [custom'] at carries'
    simp only [eventIdentity, valid, valid', Option.map_some, Option.some.injEq] at carries carries'
    exact ⟨payload.txnId, part, payload'.gatewayRef, by rw [← carries, gatewayRef],
      by rw [← carries', txnId]⟩
  · rintro ⟨txnId, part, gatewayRef, rfl, rfl⟩
    have custom := provider_eq carries
    have custom' := provider_eq carries'
    rw [custom] at carries
    rw [custom'] at carries'
    obtain ⟨payload, valid, same⟩ := Option.map_eq_some_iff.1 carries
    obtain ⟨payload', valid', same'⟩ := Option.map_eq_some_iff.1 carries'
    obtain ⟨txn, ref⟩ := EventIdentity.custom.inj same
    obtain ⟨txn', ref'⟩ := EventIdentity.custom.inj same'
    exact ⟨custom, custom', payload, payload', part, valid, valid', by rw [txn', txn],
      by rw [ref, ref']⟩

end Identity

section Stored
variable {s s' : Store} {tenantId : ℕ} {payload : GatewayWebhookIn} {key key' rawBody : String}
  {draws : IngestDraws} {outcome : IngestOutcome}

/-- A call is answered with the row of its key, as the column has it. -/
lemma exists_row (run : Ingest.ingestGateway s tenantId payload key rawBody draws = .ok (s', outcome)) :
    ∃ column, varchar 255 key = some column ∧ ∃ row ∈ s'.raw .gateway, row.id = outcome.rowId ∧
      row.indexKey = (tenantId, column) := by
  obtain ⟨column, _, held, _, _, ⟨_, existing, one, rfl, rfl⟩ | ⟨_, _, rfl, rfl⟩⟩ :=
    Ingest.ingestGateway_ok run
  · obtain ⟨mem, holds⟩ := List.mem_filter.1 (one ▸ List.mem_singleton_self existing)
    refine ⟨column, held, existing, by simpa using mem, rfl, ?_⟩
    simpa [Ingest.holdsKey, RawRow.indexKey] using holds
  · exact ⟨column, held, _, List.mem_append_right _ (List.mem_singleton_self _), rfl, rfl⟩

/-- A duplicate is of a row that stood under its key. -/
lemma exists_duplicated
    (run : Ingest.ingestGateway s tenantId payload key rawBody draws = .ok (s', outcome))
    (again : outcome.duplicate = true) :
    ∃ row ∈ s.raw .gateway, row.id = outcome.rowId ∧ row.indexKey = (tenantId, key) := by
  obtain ⟨column, _, _, fits, _, ⟨old, existing, one, rfl, _⟩ | ⟨_, _, rfl, _⟩⟩ :=
    Ingest.ingestGateway_ok run
  · obtain rfl := fits old
    obtain ⟨bumped, holds⟩ := List.mem_filter.1 (one ▸ List.mem_singleton_self existing)
    obtain ⟨row, mem, erased⟩ := Ingest.of_mem_bump bumped
    have same : existing.indexKey = row.indexKey := by rw [erased]; rfl
    refine ⟨row, mem, by rw [Ingest.retry, erased], ?_⟩
    rw [← same]
    simpa [Ingest.holdsKey, RawRow.indexKey] using holds
  · cases again

/-- Where a row has the key, a call is answered as a duplicate. -/
lemma duplicate_of_row {row : RawRow} (fits : key.length ≤ 255) (mem : row ∈ s.raw .gateway)
    (same : row.indexKey = (tenantId, key))
    (run : Ingest.ingestGateway s tenantId payload key rawBody draws = .ok (s', outcome)) :
    outcome.duplicate = true := by
  obtain ⟨column, _, held, _, _, ⟨_, _, _, rfl, _⟩ | ⟨absent, _⟩⟩ := Ingest.ingestGateway_ok run
  · rfl
  · obtain rfl := Ingest.column_of_fits fits held
    have stands : Ingest.holdsKey tenantId column row = true := by
      simpa [Ingest.holdsKey, RawRow.indexKey] using same
    exact absurd stands (List.any_eq_false.1 absent row mem)

/-- A delivery that is ingested is one that the database takes. -/
lemma ingestible_of_ok (text : d.webhook.idempotencyKey.toString? = some key)
    (run : Ingest.ingestGateway s tenantId d.webhook.payload key rawBody draws = .ok (s', outcome)) :
    Ingestible d := by
  obtain ⟨i, carries, key_eq⟩ := exists_identity d
  obtain ⟨_, occurredAt, _, _, utc, _⟩ := Ingest.ingestGateway_ok run
  exact ⟨i, key, carries, key_eq ▸ text, Ingest.clean_of_ingestGateway run, occurredAt, utc⟩

/-- A key is stored as another one iff that one fills its column and the rest is spaces. -/
lemma cutOnto_iff (text : d.webhook.idempotencyKey.toString? = some key)
    (text' : d'.webhook.idempotencyKey.toString? = some key') :
    CutOnto d d' ↔ key' ≠ key ∧ varchar 255 key = some key' := by
  obtain ⟨i, carries, key_eq⟩ := exists_identity d
  obtain ⟨i', carries', key_eq'⟩ := exists_identity d'
  have codes : PyStr.ofString key = i.key := key_eq ▸ PyStr.ofString_of_toString? text
  have codes' : PyStr.ofString key' = i'.key := key_eq' ▸ PyStr.ofString_of_toString? text'
  have spaced (n : ℕ) : key = key' ++ String.ofList (List.replicate n ' ') ↔
      i.key = i'.key ++ List.replicate n ' '.toNat := by
    rw [← PyStr.ofString_injective.eq_iff, PyStr.ofString_append, codes, codes', PyStr.ofString,
      String.toList_ofList, List.map_replicate]
  have length : key'.length = i'.key.length := by
    rw [← codes', PyStr.ofString, List.length_map, String.length_toList]
  constructor
  · rintro ⟨j, j', spaces, at_j, at_j', filled, some_, same⟩
    obtain rfl := Option.some.inj (carries.symm.trans at_j)
    obtain rfl := Option.some.inj (carries'.symm.trans at_j')
    have spelled := (spaced spaces).2 same
    have ne : key' ≠ key := by
      intro eq
      have longer := congrArg String.length spelled
      rw [String.length_append, String.length_ofList, List.length_replicate, eq] at longer
      omega
    exact ⟨ne, (varchar_eq_some_iff_of_ne ne).2 ⟨length.trans filled, spaces, spelled⟩⟩
  · rintro ⟨ne, held⟩
    obtain ⟨filled, spaces, spelled⟩ := (varchar_eq_some_iff_of_ne ne).1 held
    refine ⟨i, i', spaces, carries, carries', length.symm.trans filled, ?_, (spaced spaces).1 spelled⟩
    refine Nat.pos_of_ne_zero fun none => ne ?_
    simp [spelled, none]

end Stored

/-- Keys that agree exactly on one payment, and are not stored one as the other, never let a second payment
    be swallowed. -/
lemma KeysAgree.notSwallowed (agree : KeysAgree d d')
    (apart : ¬(CutOnto d d' ∧ Ingestible d ∧ Ingestible d')) : NotSwallowed d d' := by
  intro before between s after tenantId key key' _ _ _ _ outcome outcome' text text' first kept ids second
    again sameRow
  -- the row that is answered has the second key, and is the row of the first
  obtain ⟨column, held, row, mem, rowId, rowKey⟩ := exists_row first
  obtain ⟨row1, mem1, id1, key1⟩ := kept row mem
  obtain ⟨row2, mem2, id2, key2⟩ := exists_duplicated second again
  obtain rfl : row1 = row2 :=
    List.inj_on_of_nodup_map ids mem1 mem2 (by rw [id1, rowId, id2, sameRow])
  have stored_as : varchar 255 key = some key' := by
    rw [held, ← (Prod.mk.inj (rowKey.symm.trans (key1.symm.trans key2))).2]
  by_cases same : key' = key
  · apply agree.1
    rw [← PyStr.ofString_of_toString? text, ← PyStr.ofString_of_toString? text', same]
  · exact absurd ⟨(cutOnto_iff text text').2 ⟨same, stored_as⟩, ingestible_of_ok text first,
      ingestible_of_ok text' second⟩ apart

/-- A delivery that is stored under the key of another payment swallows that payment. -/
lemma not_notSwallowed (cut : CutOnto d d') (takes : Ingestible d) (takes' : Ingestible d') :
    ¬NotSwallowed d d' := by
  intro never
  obtain ⟨i, key, carries, text, clean, utc⟩ := takes
  obtain ⟨i', key', carries', text', clean', utc'⟩ := takes'
  obtain ⟨j, at_j, key_eq⟩ := exists_identity d
  obtain ⟨j', at_j', key_eq'⟩ := exists_identity d'
  obtain rfl := Option.some.inj (carries.symm.trans at_j)
  obtain rfl := Option.some.inj (carries'.symm.trans at_j')
  obtain ⟨ne, held⟩ := (cutOnto_iff (key_eq ▸ text) (key_eq' ▸ text')).1 cut
  -- one account without rows: the first delivery is stored, under the second key
  obtain ⟨⟨between, outcome⟩, first⟩ : ∃ r, Ingest.ingestGateway Ingest.Sample.store 1 d.webhook.payload
      key "" Ingest.Sample.draws = .ok r :=
    (@Ingest.ingestGateway_ok_iff Ingest.Sample.store _ _ _ _ _ List.nodup_nil rfl).2
      ⟨utc, clean, key', held, .inr rfl⟩
  have unique : ((between.raw .gateway).map RawRow.indexKey).Nodup :=
    Ingest.nodup_ingestGateway (s := Ingest.Sample.store) List.nodup_nil first
  have ids : ((between.raw .gateway).map RawRow.id).Nodup := by
    obtain ⟨_, _, _, _, _, ⟨old, _⟩ | ⟨_, _, _, rfl⟩⟩ := Ingest.ingestGateway_ok first
    · cases old
    · exact List.nodup_singleton _
  have account : between.hasAccount 1 = true := Ingest.hasAccount_ingestGateway first 1
  -- and the second is counted on that row
  obtain ⟨⟨after, outcome'⟩, second⟩ : ∃ r, Ingest.ingestGateway between 1 d'.webhook.payload key' ""
      Ingest.Sample.draws = .ok r :=
    (Ingest.ingestGateway_ok_iff unique account).2
      ⟨utc', clean', key', varchar_of_fits (length_of_varchar held), .inl rfl⟩
  obtain ⟨column, held1, row, mem, rowId, rowKey⟩ := exists_row first
  obtain rfl := Option.some.inj (held1.symm.trans held)
  have again := duplicate_of_row (length_of_varchar held) mem rowKey second
  obtain ⟨row', mem', rowId', rowKey'⟩ := exists_duplicated second again
  obtain rfl : row' = row := List.inj_on_of_nodup_map unique mem' mem (rowKey'.trans rowKey.symm)
  have same := never _ _ _ _ 1 key column "" "" _ _ _ outcome' (key_eq ▸ text) (key_eq' ▸ text') first
    (fun row mem => ⟨row, mem, rfl, rfl⟩) ids second again (rowId'.symm.trans rowId)
  have identities : i = i' := (samePayment_iff carries carries').1 same
  refine ne ?_
  rw [identities, text'] at text
  exact Option.some.inj text

end AcceptedDelivery

namespace WebhookSample

/-- The body of a custom delivery of one rupee. -/
def customBody (txnId gatewayRef : String) : List (PyStr × Json) :=
  [(.ofString "txn_id", .str (.ofString txnId)), (.ofString "amount", .int 1),
    (.ofString "currency", .str (.ofString "INR")), (.ofString "occurred_at", .int 1704067200),
    (.ofString "gateway_ref", .str (.ofString gatewayRef))]

lemma eq_ok_get {r : Except Raised AdaptedWebhook} (accepts : r.toOption.isSome) :
    r = .ok (r.toOption.get accepts) := by
  cases r with
  | error e => cases accepts
  | ok w => rfl

/-- A custom delivery that `adapt` accepts. -/
def delivery (txnId gatewayRef : String)
    (accepts : (Adapters.adapt runtime .custom (customBody txnId gatewayRef)).toOption.isSome) :
    AcceptedDelivery runtime where
  provider := .custom
  body := customBody txnId gatewayRef
  webhook := (Adapters.adapt runtime .custom (customBody txnId gatewayRef)).toOption.get accepts
  accepted := eq_ok_get accepts

end WebhookSample

end LedgerLoop
