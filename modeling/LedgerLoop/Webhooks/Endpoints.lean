import LedgerLoop.Library.Run
import LedgerLoop.Webhooks.SelfTest
import LedgerLoop.Worker.DemoRetention

/-!
# Endpoints over time

Sources are created by accounts and by `scripts/create_webhook_source.py`, receive deliveries and tests, and
share the database with everything else. The table of sources is then what the log of these calls says
(`Inv`): nothing but its own creation and its own deliveries shows in an endpoint. Deleting an account deletes
its sources, so this rests on the retention deleting demo accounts only and on these having no sources.
-/

set_option autoImplicit false

namespace LedgerLoop
open LedgerLoop.Library

namespace Sweeper
variable {s s' : Store} {accountId : ℕ} {ids : List ℕ} {account : Account}

/-- A transaction of the retention deletes one account at most. -/
lemma deleteDemoAccount_spares (mem : account ∈ s.accounts) (other : account.id ≠ accountId)
    (ok : deleteDemoAccount s accountId = .ok s') : account ∈ s'.accounts := by
  unfold deleteDemoAccount at ok
  -- whatever the statements are, and in whatever order
  generalize statements = list at ok
  induction list generalizing s with
  | nil =>
    cases ok
    exact mem
  | cons statement list ih =>
    cases executed : execute s accountId statement with
    | error e =>
      simp only [List.foldlM_cons, executed, bind, Except.bind] at ok
      cases ok
    | ok next =>
      simp only [List.foldlM_cons, executed, bind, Except.bind] at ok
      refine ih ?_ ok
      cases statement with
      | exceptions | results =>
        cases executed
        exact mem
      | raw side =>
        simp only [execute] at executed
        split_ifs at executed
        cases executed
        rwa [Store.accounts_setRaw]
      | account =>
        simp only [execute] at executed
        split_ifs at executed
        cases executed
        exact mem_deleteWhere.2 ⟨mem, beq_false_of_ne other⟩

/-- The loop deletes none but the accounts it is given. -/
lemma deleteDemoAccounts_spares (mem : account ∈ s.accounts) (outside : account.id ∉ ids) :
    account ∈ (deleteDemoAccounts s ids).store.accounts := by
  induction ids generalizing s with
  | nil => exact mem
  | cons id ids ih =>
    rw [List.mem_cons, not_or] at outside
    cases deleted : deleteDemoAccount s id with
    | error e =>
      simp only [deleteDemoAccounts, deleted]
      exact mem
    | ok next =>
      simp only [deleteDemoAccounts, deleted]
      exact ih (deleteDemoAccount_spares mem outside.1 deleted) outside.2

/-- The retention spares the real accounts, whatever else it does or fails to do. -/
lemma sweepDemoAccounts_spares {limit retentionHours : ℕ} {now : Datetime} {order : List Account → List Account}
    (reorders : ∀ accounts, (order accounts).Perm accounts) (unique : (s.accounts.map (·.id)).Nodup)
    (mem : account ∈ s.accounts) (real : account.kind = .real) :
    account ∈ (sweepDemoAccounts s limit retentionHours now order).store.accounts := by
  unfold sweepDemoAccounts
  cases now.sub (Timedelta.seconds (retentionHours * 3600)) with
  | error e => exact mem
  | ok cutoff =>
    refine deleteDemoAccounts_spares mem fun listed => ?_
    obtain ⟨demo, memDemo, same⟩ := List.mem_map.1 listed
    have stale := List.mem_filter.1 ((earliest_spec (reorders _)).subset demo memDemo)
    -- no demo account has the id of a real one
    obtain rfl := eq_of_key unique stale.1 mem same
    simp [real] at stale

end Sweeper

namespace Endpoints
open SelfTest Sources

/-- The tables, with the columns of `webhook_sources` that only a listing reads. -/
structure Sys where
  db : WebhookDb
  label : ℕ → String
  createdAt : ℕ → Datetime
  account_id : (db.store.accounts.map (·.id)).Nodup

/-- The table of sources. -/
def Sys.table (u : Sys) : SourceTable where
  rows := u.db.webhookSources
  label := u.label
  createdAt := u.createdAt

/-- What happens to the endpoints of an installation. -/
inductive Event where
  /-- By `create_gateway_source`, or by the script. -/
  | created (source : WebhookSource) (label : String) (at_ : Datetime)
  | delivered (request : DeliveryRequest) (answer : Except Raised DeliveryResponse)
  | pressed (tenantId sourceId : ℕ) (press : Press) (answer : Except Raised TestResponse)
  /-- A transaction of other tables. -/
  | elsewhere

section
variable (rt : Runtime) (dumps : Json → List UInt8)

/-- A call, taken whole, or another transaction; a new source has a new id. -/
inductive Step (u : Sys) : Event → Sys → Prop where
  | create {u' : Sys} {tenant : Tenant} {payload : WebhookSourceCreate} {draws : SourceDraws}
      {out : WebhookSourceOut}
      (known : ∃ account ∈ u.db.store.accounts, Tenancy.tenantOf account = tenant)
      (fresh : ∀ row ∈ u.db.webhookSources, row.id ≠ draws.sourceId)
      (stored : u'.db.store = u.db.store)
      (ok : createGatewaySource u.db.store u.table tenant payload draws = .ok (u'.table, out)) :
      Step u (.created (sourceRow tenant.accountId payload.provider none draws) payload.label draws.now) u'
  | register {u' : Sys} {accountName label : String} {provider : WebhookProvider}
      {signingSecret : Option String} {draws : SourceDraws} {source : WebhookSource}
      (fresh : ∀ row ∈ u.db.webhookSources, row.id ≠ draws.sourceId)
      (stored : u'.db.store = u.db.store)
      (ok : registerMain u.db.store u.table accountName provider label signingSecret draws =
        .ok (u'.table, source)) :
      Step u (.created source label draws.now) u'
  | deliver {u' : Sys} {request : DeliveryRequest} {answer : Except Raised DeliveryResponse}
      (run : providerWebhook rt u.db request = (u'.db, answer))
      (columns : u'.label = u.label ∧ u'.createdAt = u.createdAt) :
      Step u (.delivered request answer) u'
  | press {u' : Sys} {tenantId sourceId : ℕ} {press : Press} {answer : Except Raised TestResponse}
      (run : testGatewaySource rt dumps u.db tenantId sourceId press = (u'.db, answer))
      (columns : u'.label = u.label ∧ u'.createdAt = u.createdAt) :
      Step u (.pressed tenantId sourceId press answer) u'
  -- a source goes with its account: `ON DELETE CASCADE`
  | retain {u' : Sys} {limit retentionHours : ℕ} {now : Datetime}
      {order : List Account → List Account} (reorders : ∀ accounts, (order accounts).Perm accounts)
      (swept : u'.db.store = (Sweeper.sweepDemoAccounts u.db.store limit retentionHours now order).store)
      (cascade : u'.db.webhookSources =
        u.db.webhookSources.filter fun row => u'.db.store.hasAccount row.accountId)
      (columns : u'.label = u.label ∧ u'.createdAt = u.createdAt) :
      Step u .elsewhere u'
  -- accounts are added and seen again; none but the retention deletes one
  | elsewhere {u' : Sys} (same : u'.table = u.table)
      (kept : ∀ account ∈ u.db.store.accounts, ∃ account' ∈ u'.db.store.accounts,
        account'.id = account.id ∧ account'.kind = account.kind) :
      Step u .elsewhere u'

end

/-- A creation in the log. -/
structure Creation where
  source : WebhookSource
  label : String
  at_ : Datetime

/-- The creation an event is. -/
def Event.creation : Event → Option Creation
  | .created source label at_ => some ⟨source, label, at_⟩
  | _ => none

/-- The creations of a log. -/
def creations (log : List Event) : List Creation := log.filterMap Event.creation

/-- What the answer to a delivery says of its source. -/
def statusOf : DeliveryResponse → Option WebhookDeliveryStatus
  | .notFound => none
  | .unauthorized => some .invalidSignature
  | .unprocessable _ => some .invalidPayload
  | .accepted .. => some .ok

/-- What the answer to a test says of its source. -/
def testStatusOf : TestResponse → Option WebhookDeliveryStatus
  | .notFound => none
  | .result result =>
    if result.delivered then some .ok
    else if result.httpStatus = 401 then some .invalidSignature
    else some .invalidPayload

/-- What an event records of a source. -/
def Event.recordOf (source : WebhookSource) : Event → Option (WebhookDeliveryStatus × Datetime)
  | .delivered request answer =>
    if request.sourceToken = source.sourceToken then
      (answer.toOption.bind statusOf).map fun status => (status, request.recordedAt)
    else none
  | .pressed tenantId sourceId press answer =>
    if sourceId = source.id ∧ tenantId = source.accountId then
      (answer.toOption.bind testStatusOf).map fun status => (status, press.recordedAt)
    else none
  | _ => none

/-- The last record of a source in a log. -/
def lastRecord (log : List Event) (source : WebhookSource) : Option (WebhookDeliveryStatus × Datetime) :=
  (log.filterMap (Event.recordOf source)).getLast?

/-- The row of a source after a log. -/
def rowOf (log : List Event) (source : WebhookSource) : WebhookSource :=
  { source with
    lastEventAt := (lastRecord log source).map (·.2)
    lastDeliveryStatus := (lastRecord log source).map (·.1) }

/-- What a listing shows of a source after a log. -/
def shown (log : List Event) (c : Creation) : WebhookSourceOut where
  id := c.source.id
  provider := c.source.provider
  sourceToken := c.source.sourceToken
  label := c.label
  lastEventAt := (lastRecord log c.source).map (·.2)
  lastDeliveryStatus := (lastRecord log c.source).map (·.1)
  createdAt := c.at_
  revokedAt := none

/-- A record shows in the row. -/
def stampBy (record : Option (WebhookDeliveryStatus × Datetime)) (row : WebhookSource) : WebhookSource :=
  record.elim row fun record => row.stamp record.1 record.2

section Log
variable {log : List Event} {e : Event} {source : WebhookSource}

lemma creations_concat : creations (log ++ [e]) = creations log ++ e.creation.toList := by
  rw [creations, List.filterMap_append]
  cases event : e.creation with
  | none => simp [creations, event]
  | some c => simp [creations, event]

lemma lastRecord_concat : lastRecord (log ++ [e]) source = (e.recordOf source).or (lastRecord log source) := by
  rw [lastRecord, List.filterMap_append]
  cases record : e.recordOf source with
  | none => simp [lastRecord, record]
  | some r => simp [record]

/-- One more event shows in the row as its record does. -/
lemma rowOf_concat : rowOf (log ++ [e]) source = stampBy (e.recordOf source) (rowOf log source) := by
  rw [rowOf, lastRecord_concat]
  cases e.recordOf source <;> rfl

/-- Records are found by columns that they do not change. -/
lemma recordOf_rowOf : e.recordOf (rowOf log source) = e.recordOf source := by
  cases e <;> rfl

/-- What has no record shows none. -/
lemma rowOf_of_unrecorded (unrecorded : ∀ e ∈ log, e.recordOf source = none)
    (event : source.lastEventAt = none) (status : source.lastDeliveryStatus = none) :
    rowOf log source = source := by
  have none : lastRecord log source = none := by
    rw [lastRecord, List.filterMap_eq_nil_iff.2 unrecorded]
    rfl
  cases source
  cases event
  cases status
  rw [rowOf, none]
  rfl

end Log

section Steps
variable {rt : Runtime} {dumps : Json → List UInt8} {db db' : WebhookDb} {source : ResolvedSource}
  {draws : IngestDraws} {recordedAt : Datetime} {judged : Judged} {rows rows' : List WebhookSource}
  {sourceId tenantId : ℕ} {request : DeliveryRequest} {e : Event}

/-- The database's part of a request leaves the accounts, and its answer tells the record. -/
lemma settleJudged_records {α : Type} {refusal : Rejection → α}
    {receipt : AdaptedWebhook → IngestOutcome → α} {status : α → Option WebhookDeliveryStatus}
    {answer : Except Raised α}
    (refused : ∀ r, status (refusal r) = some r.status) (taken : ∀ d o, status (receipt d o) = some .ok)
    (run : settleJudged rt db source draws recordedAt refusal receipt judged = (db', answer)) :
    db'.store.accounts = db.store.accounts ∧
      db'.webhookSources = (answer.toOption.bind status).elim db.webhookSources fun status =>
        updateWhere (·.id == source.sourceId) (.stamp status recordedAt) db.webhookSources := by
  cases judged with
  | refused rejection =>
    cases run
    refine ⟨rfl, ?_⟩
    rw [Except.toOption, Option.bind_some, refused]
    rfl
  | taken delivery body =>
    cases ingested : ingestDelivery rt db source.tenantId delivery body draws with
    | error e =>
      simp only [settleJudged, ingested] at run
      cases run
      exact ⟨rfl, rfl⟩
    | ok after =>
      simp only [settleJudged, ingested] at run
      cases run
      obtain ⟨key, rawBody, _, _, _, ingest, sources⟩ := ingestDelivery_call rt ingested
      have called : Ingest.run db.store draws (.gateway source.tenantId delivery.payload key rawBody) =
          .ok (after.1.store, [after.2]) := by
        simp only [Ingest.run, ingest, Except.map]
      refine ⟨(Ingest.run_effect called).accounts, ?_⟩
      rw [Except.toOption, Option.bind_some, taken, ← sources]
      rfl

/-- An event that records nothing. -/
lemma map_stampBy_none (none : ∀ row ∈ rows, e.recordOf row = none) :
    (rows.map fun row => stampBy (e.recordOf row) row) = rows := by
  refine (List.map_congr_left fun row mem => ?_).trans (List.map_id rows)
  rw [none row mem]
  rfl

/-- A record that goes by the id of the row goes by what the event names. -/
lemma map_stampBy {status : Option WebhookDeliveryStatus}
    (recorded : rows' = status.elim rows fun status =>
      updateWhere (·.id == sourceId) (.stamp status recordedAt) rows)
    (records : ∀ row ∈ rows, e.recordOf row =
      if row.id = sourceId then status.map fun status => (status, recordedAt) else none) :
    rows' = rows.map fun row => stampBy (e.recordOf row) row := by
  rw [recorded]
  cases status with
  | none =>
    refine (map_stampBy_none fun row mem => ?_).symm
    rw [records row mem, Option.map_none, ite_self]
  | some status =>
    refine List.map_congr_left fun row mem => ?_
    rw [records row mem]
    by_cases own : row.id = sourceId
    · simp [own, stampBy]
    · simp [own, stampBy]

/-- A delivery shows in the source that its token names, and in no other. -/
lemma deliver_rows {answer : Except Raised DeliveryResponse}
    (tokens : (db.webhookSources.map (·.sourceToken)).Nodup)
    (run : providerWebhook rt db request = (db', answer)) :
    db'.store.accounts = db.store.accounts ∧
      (db'.webhookSources = db.webhookSources.map fun row =>
        stampBy ((Event.delivered request answer).recordOf row) row) ∧
      ((answer.toOption.bind statusOf).isSome →
        ∃ row ∈ db.webhookSources, row.sourceToken = request.sourceToken) := by
  rw [providerWebhook_eq] at run
  cases found : resolveSource db request.sourceToken with
  | none =>
    rw [found] at run
    cases run
    refine ⟨rfl, (map_stampBy_none fun row _ => ?_).symm, fun some => by cases some⟩
    exact ite_self none
  | some source =>
    rw [found] at run
    rw [resolveSource_eq] at found
    obtain ⟨row0, mem0, selected, _, _, resolved⟩ := resolveWhere_some found
    have token0 : row0.sourceToken = request.sourceToken := eq_of_beq selected
    have id0 : row0.id = source.sourceId := by rw [resolved]
    -- the two unique columns name the same row
    have named (row : WebhookSource) (mem : row ∈ db.webhookSources) :
        request.sourceToken = row.sourceToken ↔ row.id = source.sourceId := by
      constructor
      · intro same
        rw [eq_of_key tokens mem mem0 (same.symm.trans token0.symm), id0]
      · intro same
        rw [eq_of_key db.source_id mem mem0 (same.trans id0.symm), token0]
    have records (row : WebhookSource) (mem : row ∈ db.webhookSources) :
        (Event.delivered request answer).recordOf row = if row.id = source.sourceId then
          (answer.toOption.bind statusOf).map fun status => (status, request.recordedAt) else none := by
      simp only [Event.recordOf, named row mem]
    have settled : db'.store.accounts = db.store.accounts ∧
        db'.webhookSources = (answer.toOption.bind statusOf).elim db.webhookSources fun status =>
          updateWhere (·.id == source.sourceId) (.stamp status request.recordedAt) db.webhookSources := by
      cases judged : judgeDelivery rt source request.rawBody request.headers request.now with
      | error e =>
        simp only [judged] at run
        cases run
        exact ⟨rfl, rfl⟩
      | ok verdict =>
        simp only [judged] at run
        exact settleJudged_records (fun r => by cases r <;> rfl) (fun _ _ => rfl) run
    exact ⟨settled.1, map_stampBy settled.2 records, fun _ => ⟨row0, mem0, token0⟩⟩

/-- A test shows in the source that its path names, if it is the account's, and in no other. -/
lemma press_rows {press : Press} {answer : Except Raised TestResponse}
    (run : testGatewaySource rt dumps db tenantId sourceId press = (db', answer)) :
    db'.store.accounts = db.store.accounts ∧
      (db'.webhookSources = db.webhookSources.map fun row =>
        stampBy ((Event.pressed tenantId sourceId press answer).recordOf row) row) ∧
      ((answer.toOption.bind testStatusOf).isSome → ∃ row ∈ db.webhookSources, row.id = sourceId) := by
  unfold testGatewaySource at run
  cases found : resolveSourceForTenant db.store db.webhookSources tenantId sourceId with
  | none =>
    rw [found] at run
    cases run
    refine ⟨rfl, (map_stampBy_none fun row _ => ?_).symm, fun some => by cases some⟩
    exact ite_self none
  | some source =>
    rw [found] at run
    obtain ⟨row0, mem0, selected, _, _, resolved⟩ := resolveWhere_some found
    rw [Bool.and_eq_true, beq_iff_eq, beq_iff_eq] at selected
    have id0 : row0.id = source.sourceId := by rw [resolved]
    have named (row : WebhookSource) (mem : row ∈ db.webhookSources) :
        sourceId = row.id ∧ tenantId = row.accountId ↔ row.id = source.sourceId := by
      constructor
      · rintro ⟨same, _⟩
        rw [← same, ← selected.1, id0]
      · intro same
        obtain rfl := eq_of_key db.source_id mem mem0 (same.trans id0.symm)
        exact ⟨selected.1.symm, selected.2.symm⟩
    have records (row : WebhookSource) (mem : row ∈ db.webhookSources) :
        (Event.pressed tenantId sourceId press answer).recordOf row = if row.id = source.sourceId then
          (answer.toOption.bind testStatusOf).map fun status => (status, press.recordedAt) else none := by
      simp only [Event.recordOf, named row mem]
    have settled : db'.store.accounts = db.store.accounts ∧
        db'.webhookSources = (answer.toOption.bind testStatusOf).elim db.webhookSources fun status =>
          updateWhere (·.id == source.sourceId) (.stamp status press.recordedAt) db.webhookSources := by
      cases judged : judgeTest rt dumps source press.signedAt with
      | error e =>
        simp only [judged] at run
        cases run
        exact ⟨rfl, rfl⟩
      | ok verdict =>
        simp only [judged] at run
        exact settleJudged_records (fun r => by cases r <;> rfl) (fun _ _ => rfl) run
    exact ⟨settled.1, map_stampBy settled.2 records, fun _ => ⟨row0, mem0, selected.1⟩⟩

/-- An account creates a source if it is real. -/
lemma createGatewaySource_ok {s : Store} {table table' : SourceTable} {tenant : Tenant}
    {payload : WebhookSourceCreate} {draws : SourceDraws} {out : WebhookSourceOut}
    (ok : createGatewaySource s table tenant payload draws = .ok (table', out)) :
    tenant.kind = .real ∧ createSource s table tenant.accountId payload.provider payload.label none draws =
      .ok (table', sourceRow tenant.accountId payload.provider none draws) := by
  unfold createGatewaySource at ok
  split_ifs at ok with demo
  have real : tenant.kind = .real := by
    cases kind : tenant.kind with
    | real => rfl
    | demo => exact absurd (by rw [Tenant.isDemo, kind]; rfl) demo
  cases made : createSource s table tenant.accountId payload.provider payload.label none draws with
  | error e =>
    rw [made] at ok
    cases ok
  | ok after =>
    rw [made] at ok
    cases ok
    refine ⟨real, ?_⟩
    rw [← (createSource_ok made).1]

/-- The script creates a source for a real account. -/
lemma registerMain_ok {s : Store} {table table' : SourceTable} {accountName label : String}
    {provider : WebhookProvider} {signingSecret : Option String} {draws : SourceDraws}
    {source : WebhookSource}
    (ok : registerMain s table accountName provider label signingSecret draws = .ok (table', source)) :
    ∃ account ∈ s.accounts, account.kind = .real ∧
      createSource s table account.id provider label signingSecret draws = .ok (table', source) := by
  unfold registerMain register at ok
  split_ifs at ok
  cases found : s.accounts.find? (·.name == accountName) with
  | none =>
    rw [found] at ok
    cases ok
  | some account =>
    simp only [found] at ok
    split_ifs at ok with real
    cases made : createSource s table account.id provider label signingSecret draws with
    | error e =>
      rw [made] at ok
      cases ok
    | ok after =>
      rw [made] at ok
      cases ok
      exact ⟨account, List.mem_of_find?_eq_some found, not_not.1 real, made⟩

end Steps

section Runs
variable {rt : Runtime} {dumps : Json → List UInt8} {log : List Event} {e : Event} {u u' : Sys}

/-- The table of sources is what the log says. -/
structure Inv (log : List Event) (u : Sys) : Prop where
  rows : u.db.webhookSources = (creations log).map fun c => rowOf log c.source
  label : ∀ c ∈ creations log, u.label c.source.id = c.label
  createdAt : ∀ c ∈ creations log, u.createdAt c.source.id = c.at_
  live : ∀ c ∈ creations log, c.source.revokedAt = none
  tokens : (u.db.webhookSources.map (·.sourceToken)).Nodup
  recorded : ∀ e ∈ log, ∀ source : WebhookSource, (e.recordOf source).isSome →
    ∃ row ∈ u.db.webhookSources, row.sourceToken = source.sourceToken ∨ row.id = source.id
  real : ∀ c ∈ creations log, ∃ account ∈ u.db.store.accounts,
    account.id = c.source.accountId ∧ account.kind = .real

/-- The columns that name a source, and that no event changes. -/
lemma stampBy_columns {record : Option (WebhookDeliveryStatus × Datetime)} {row : WebhookSource} :
    (stampBy record row).sourceToken = row.sourceToken ∧ (stampBy record row).id = row.id := by
  cases record with
  | none => exact ⟨rfl, rfl⟩
  | some record => exact ⟨rfl, rfl⟩

/-- An event that shows in the rows by its records. -/
lemma Inv.record (inv : Inv log u) (creation : e.creation = none)
    (columns : u'.label = u.label ∧ u'.createdAt = u.createdAt)
    (kept : ∀ account ∈ u.db.store.accounts, account.kind = .real →
      ∃ account' ∈ u'.db.store.accounts, account'.id = account.id ∧ account'.kind = .real)
    (rows : u'.db.webhookSources = u.db.webhookSources.map fun row => stampBy (e.recordOf row) row)
    (known : ∀ source : WebhookSource, (e.recordOf source).isSome →
      ∃ row ∈ u.db.webhookSources, row.sourceToken = source.sourceToken ∨ row.id = source.id) :
    Inv (log ++ [e]) u' := by
  have same : creations (log ++ [e]) = creations log := by
    rw [creations_concat, creation]
    exact List.append_nil _
  have named (source : WebhookSource) (named : ∃ row ∈ u.db.webhookSources,
      row.sourceToken = source.sourceToken ∨ row.id = source.id) :
      ∃ row ∈ u'.db.webhookSources, row.sourceToken = source.sourceToken ∨ row.id = source.id := by
    obtain ⟨row, mem, same⟩ := named
    refine ⟨stampBy (e.recordOf row) row, ?_, ?_⟩
    · rw [rows]
      exact List.mem_map_of_mem mem
    · rw [stampBy_columns.1, stampBy_columns.2]
      exact same
  constructor
  -- the log is one event longer, and so is what each row shows of it
  · rw [rows, inv.rows, same, List.map_map]
    refine List.map_congr_left fun c _ => ?_
    rw [Function.comp_apply, recordOf_rowOf, rowOf_concat]
  · rw [same, columns.1]
    exact inv.label
  · rw [same, columns.2]
    exact inv.createdAt
  · rw [same]
    exact inv.live
  · rw [rows, List.map_map]
    refine (List.map_congr_left fun row _ => ?_) ▸ inv.tokens
    exact stampBy_columns.1.symm
  · intro e' mem source some
    rcases List.mem_append.1 mem with old | new
    · exact named source (inv.recorded e' old source some)
    · obtain rfl := List.mem_singleton.1 new
      exact named source (known source some)
  · intro c mem
    rw [same] at mem
    obtain ⟨account, memAccount, id, real⟩ := inv.real c mem
    obtain ⟨account', memAccount', id', real'⟩ := kept account memAccount real
    exact ⟨account', memAccount', id'.trans id, real'⟩

/-- A transaction that leaves the sources. -/
lemma Inv.elsewhere (inv : Inv log u) (columns : u'.label = u.label ∧ u'.createdAt = u.createdAt)
    (kept : ∀ account ∈ u.db.store.accounts, account.kind = .real →
      ∃ account' ∈ u'.db.store.accounts, account'.id = account.id ∧ account'.kind = .real)
    (rows : u'.db.webhookSources = u.db.webhookSources) : Inv (log ++ [.elsewhere]) u' := by
  refine inv.record rfl columns kept ?_ fun source some => by cases some
  rw [rows]
  exact (map_stampBy_none fun _ _ => rfl).symm

/-- A column that is a function of the id, with one more source. -/
lemma update_creations {β : Type} {column : ℕ → β} {value : Creation → β} {c0 : Creation}
    (old : ∀ c ∈ creations log, column c.source.id = value c)
    (others : ∀ c ∈ creations log, c.source.id ≠ c0.source.id) :
    ∀ c ∈ creations log ++ [c0], Function.update column c0.source.id (value c0) c.source.id = value c := by
  intro c mem
  rcases List.mem_append.1 mem with before | new
  · rw [Function.update_of_ne (others c before)]
    exact old c before
  · obtain rfl := List.mem_singleton.1 new
    exact Function.update_self ..

/-- A source that is created. -/
lemma Inv.create {tenantId : ℕ} {provider : WebhookProvider} {label : String}
    {signingSecret : Option String} {draws : SourceDraws} {source : WebhookSource} (inv : Inv log u)
    (fresh : ∀ row ∈ u.db.webhookSources, row.id ≠ draws.sourceId) (stored : u'.db.store = u.db.store)
    (ok : createSource u.db.store u.table tenantId provider label signingSecret draws =
      .ok (u'.table, source))
    (real : ∃ account ∈ u.db.store.accounts, account.id = tenantId ∧ account.kind = .real) :
    Inv (log ++ [.created source label draws.now]) u' := by
  obtain ⟨rfl, rows, _, tokens, labels, instants⟩ := createSource_ok ok
  generalize made : sourceRow tenantId provider signingSecret draws = source at rows tokens labels instants
  have id : source.id = draws.sourceId := by rw [← made]; rfl
  have rows : u'.db.webhookSources = u.db.webhookSources ++ [source] := rows
  have more : creations (log ++ [.created source label draws.now]) =
      creations log ++ [⟨source, label, draws.now⟩] := creations_concat
  have others (c : Creation) (mem : c ∈ creations log) : c.source.id ≠ source.id := by
    rw [id]
    refine fresh (rowOf log c.source) ?_
    rw [inv.rows]
    exact List.mem_map_of_mem mem
  -- the new source is named by no earlier event
  have unrecorded : ∀ e ∈ log, e.recordOf source = none := by
    intro e mem
    by_contra record
    obtain ⟨row, memRow, token | same⟩ := inv.recorded e mem source (Option.isSome_iff_ne_none.2 record)
    · exact tokens row memRow token
    · exact fresh row memRow (same.trans id)
  constructor
  · rw [rows, inv.rows, more, List.map_append, List.map_singleton]
    congr 1
    · refine List.map_congr_left fun c _ => ?_
      rw [rowOf_concat]
      rfl
    · rw [rowOf_concat, rowOf_of_unrecorded unrecorded (by rw [← made]; rfl) (by rw [← made]; rfl)]
      rfl
  · rw [more]
    change ∀ c ∈ _, u'.table.label _ = _
    rw [labels]
    exact update_creations inv.label others
  · rw [more]
    change ∀ c ∈ _, u'.table.createdAt _ = _
    rw [instants]
    exact update_creations inv.createdAt others
  · intro c mem
    rcases List.mem_append.1 (more ▸ mem) with old | new
    · exact inv.live c old
    · obtain rfl := List.mem_singleton.1 new
      rw [← made]
      rfl
  · rw [rows]
    exact nodup_map_concat inv.tokens tokens
  · intro e mem source' some
    rcases List.mem_append.1 mem with old | new
    · obtain ⟨row, memRow, same⟩ := inv.recorded e old source' some
      exact ⟨row, rows ▸ List.mem_append_left _ memRow, same⟩
    · obtain rfl := List.mem_singleton.1 new
      cases some
  · intro c mem
    rw [stored]
    rcases List.mem_append.1 (more ▸ mem) with old | new
    · exact inv.real c old
    · obtain rfl := List.mem_singleton.1 new
      rw [← made]
      exact real

/-- A step lengthens the log. -/
lemma Step.inv (inv : Inv log u) (st : Step rt dumps u e u') : Inv (log ++ [e]) u' := by
  cases st with
  | create known fresh stored ok =>
    obtain ⟨real, made⟩ := createGatewaySource_ok ok
    obtain ⟨account, mem, rfl⟩ := known
    exact inv.create fresh stored made ⟨account, mem, rfl, real⟩
  | register fresh stored ok =>
    obtain ⟨account, mem, real, made⟩ := registerMain_ok ok
    exact inv.create fresh stored made ⟨account, mem, rfl, real⟩
  | deliver run columns =>
    obtain ⟨accounts, rows, known⟩ := deliver_rows inv.tokens run
    refine inv.record rfl columns (fun account mem real => ⟨account, accounts.symm ▸ mem, rfl, real⟩) rows ?_
    intro source some
    simp only [Event.recordOf] at some
    split_ifs at some with token
    · obtain ⟨row, mem, same⟩ := known (by rwa [Option.isSome_map] at some)
      exact ⟨row, mem, .inl (same.trans token)⟩
    · cases some
  | press run columns =>
    obtain ⟨accounts, rows, known⟩ := press_rows run
    refine inv.record rfl columns (fun account mem real => ⟨account, accounts.symm ▸ mem, rfl, real⟩) rows ?_
    intro source some
    simp only [Event.recordOf] at some
    split_ifs at some with named
    · obtain ⟨row, mem, same⟩ := known (by rwa [Option.isSome_map] at some)
      exact ⟨row, mem, .inr (same.trans named.1)⟩
    · cases some
  | retain reorders swept cascade columns =>
    have kept : ∀ account ∈ u.db.store.accounts, account.kind = .real →
        ∃ account' ∈ u'.db.store.accounts, account'.id = account.id ∧ account'.kind = .real := by
      intro account mem real
      refine ⟨account, ?_, rfl, real⟩
      rw [swept]
      exact Sweeper.sweepDemoAccounts_spares reorders u.account_id mem real
    -- the cascade finds no source, since each is of a real account
    have rows : u'.db.webhookSources = u.db.webhookSources := by
      rw [cascade, List.filter_eq_self]
      intro row mem
      rw [inv.rows] at mem
      obtain ⟨c, memC, rfl⟩ := List.mem_map.1 mem
      obtain ⟨account, memAccount, id, real⟩ := inv.real c memC
      obtain ⟨account', memAccount', id', _⟩ := kept account memAccount real
      exact Store.hasAccount_iff.2 ⟨account', memAccount', id'.trans id⟩
    exact inv.elsewhere columns kept rows
  | elsewhere same kept =>
    refine inv.elsewhere ⟨congrArg SourceTable.label same, congrArg SourceTable.createdAt same⟩ ?_
      (congrArg SourceTable.rows same)
    intro account mem real
    obtain ⟨account', mem', id, kind⟩ := kept account mem
    exact ⟨account', mem', id, kind.trans real⟩

/-- And so in every run. -/
lemma Inv.reached {u0 : Sys} {tr : List (Sys × Event)} (run : Run (Step rt dumps) u0 tr u)
    (empty : u0.db.webhookSources = []) : Inv (tr.map (·.2)) u := by
  induction run with
  | nil =>
    constructor
    · exact empty
    · rintro _ ⟨⟩
    · rintro _ ⟨⟩
    · rintro _ ⟨⟩
    · rw [empty]
      exact List.nodup_nil
    · rintro _ ⟨⟩
    · rintro _ ⟨⟩
  | snoc _ st ih =>
    rw [List.map_append]
    exact st.inv ih

/-- A request is accepted for a source: it is signed with the source's secret, and what it is adapted to is
    ingested for the source's account. -/
def Accepts (rt : Runtime) (u : Sys) (source : WebhookSource) (request : DeliveryRequest) (eventType : PyStr)
    (outcome : IngestOutcome) : Prop :=
  (∃ verdict, Signatures.verify rt source.provider request.rawBody
      (request.headers (Signatures.signatureHeader source.provider)) source.signingSecret request.now
      Signatures.defaultTolerance = .ok verdict ∧ verdict.ok = true) ∧
    ∃ delivery body after, readPayload rt source.provider request.rawBody = .ok (delivery, body) ∧
      delivery.eventType = eventType ∧
      ingestDelivery rt u.db source.accountId delivery body request.draws = .ok (after, outcome)

/-- What is accepted is accepted for the source that is found. -/
lemma accepts_of_run {request : DeliveryRequest} {db : WebhookDb} {eventType : PyStr} {outcome : IngestOutcome}
    (run : providerWebhook rt u.db request = (db, .ok (.accepted eventType outcome))) :
    ∃ row ∈ u.db.webhookSources, row.sourceToken = request.sourceToken ∧
      Accepts rt u row request eventType outcome := by
  rw [providerWebhook_eq] at run
  cases found : resolveSource u.db request.sourceToken with
  | none =>
    rw [found] at run
    cases run
  | some source =>
    rw [found] at run
    rw [resolveSource_eq] at found
    obtain ⟨row, mem, selected, _, _, rfl⟩ := resolveWhere_some found
    refine ⟨row, mem, eq_of_beq selected, ?_⟩
    simp only [judgeDelivery] at run
    cases verified : Signatures.verify rt row.provider request.rawBody
        (request.headers (Signatures.signatureHeader row.provider)) row.signingSecret request.now
        Signatures.defaultTolerance with
    | error e =>
      simp only [verified] at run
      cases run
    | ok verdict =>
      cases genuine : verdict.ok with
      | false =>
        simp only [verified, genuine, if_true] at run
        cases run
      | true =>
        refine ⟨⟨verdict, verified, genuine⟩, ?_⟩
        simp only [verified, genuine, Bool.true_eq_false, if_false] at run
        cases read : readPayload rt row.provider request.rawBody with
        | error e =>
          simp only [read] at run
          cases caught : e.caught? with
          | none =>
            simp only [caught] at run
            cases run
          | some detail =>
            simp only [caught, settleJudged] at run
            cases run
        | ok pair =>
          obtain ⟨delivery, body⟩ := pair
          simp only [read, settleJudged] at run
          cases ingested : ingestDelivery rt u.db row.accountId delivery body request.draws with
          | error e =>
            simp only [ingested] at run
            cases run
          | ok after =>
            simp only [ingested] at run
            cases run
            exact ⟨delivery, body, after.1, rfl, rfl, ingested⟩

/-- The row that is selected alone is resolved, if it is live. -/
lemma resolveWhere_of_mem {s : Store} {rows : List WebhookSource} {p : WebhookSource → Bool}
    {row : WebhookSource} (mem : row ∈ rows) (selected : p row = true)
    (alone : ∀ row' ∈ rows, p row' = true → row' = row) (account : s.hasAccount row.accountId = true)
    (live : row.revokedAt = none) : resolveWhere s rows p = some
      { sourceId := row.id, provider := row.provider, signingSecret := row.signingSecret
        tenantId := row.accountId } := by
  have found : rows.find? (fun source => p source && s.hasAccount source.accountId) = some row := by
    cases found : rows.find? fun source => p source && s.hasAccount source.accountId with
    | none => exact absurd (by rw [selected, account]; rfl) (List.find?_eq_none.1 found row mem)
    | some row' =>
      have sound := List.find?_some found
      rw [Bool.and_eq_true] at sound
      rw [alone row' (List.mem_of_find?_eq_some found) sound.1]
  rw [resolveWhere, found]
  simp only [live]
  rfl

/-- In every run from an installation without sources, the endpoints are what the log of the run says. The
    list of an account shows the sources that were created for it, by their ids and each with the time and
    the status of the last delivery or test that it had. The token of each stays with it, with its provider,
    its secret and its account, which is a real one and stays. And each delivery that was accepted was signed
    with the secret of a source that was created, and is ingested for the account of that source. -/
theorem endpoints_shown {u0 : Sys} {tr : List (Sys × Event)} (run : Run (Step rt dumps) u0 tr u)
    (empty : u0.db.webhookSources = []) :
    (∀ tenant, listGatewaySources u.table tenant =
      (((creations (tr.map (·.2))).filter (·.source.accountId == tenant.accountId)).mergeSort
        fun a b => decide (a.source.id ≤ b.source.id)).map (shown (tr.map (·.2)))) ∧
    (∀ c ∈ creations (tr.map (·.2)),
      resolveToken u.db.store u.db.webhookSources c.source.sourceToken = some
        { sourceId := c.source.id, provider := c.source.provider, signingSecret := c.source.signingSecret
          tenantId := c.source.accountId } ∧
      ∃ account ∈ u.db.store.accounts, account.id = c.source.accountId ∧ account.kind = .real) ∧
    ∀ t request eventType outcome, (t, .delivered request (.ok (.accepted eventType outcome))) ∈ tr →
      ∃ c ∈ creations (tr.map (·.2)), c.source.sourceToken = request.sourceToken ∧
        Accepts rt t c.source request eventType outcome := by
  have inv := Inv.reached run empty
  refine ⟨fun tenant => ?_, fun c mem => ⟨?_, inv.real c mem⟩, fun t request eventType outcome mem => ?_⟩
  · have rows : (u.table.rows.filter (·.accountId == tenant.accountId)) =
        ((creations (tr.map (·.2))).filter (·.source.accountId == tenant.accountId)).map
          fun c => rowOf (tr.map (·.2)) c.source := by
      change u.db.webhookSources.filter _ = _
      rw [inv.rows, List.filter_map]
      rfl
    rw [listGatewaySources, listSources, rows]
    rw [← List.map_mergeSort (r := fun a b => decide (a.source.id ≤ b.source.id)) fun _ _ _ _ => rfl,
      List.map_map]
    refine List.map_congr_left fun c mem => ?_
    have memLog : c ∈ creations (tr.map (·.2)) := (List.mem_filter.1 (List.mem_mergeSort.1 mem)).1
    -- the columns beside the row are those of its creation
    rw [Function.comp_apply, sourceOut, shown]
    congr 1
    · exact inv.label c memLog
    · exact inv.createdAt c memLog
    · exact inv.live c memLog
  · have memRow : rowOf (tr.map (·.2)) c.source ∈ u.db.webhookSources := by
      rw [inv.rows]
      exact List.mem_map_of_mem mem
    have only : ∀ row ∈ u.db.webhookSources, (row.sourceToken == c.source.sourceToken) = true →
        row = rowOf (tr.map (·.2)) c.source :=
      fun row memRow' same => eq_of_key inv.tokens memRow' memRow (eq_of_beq same)
    have resolved := resolveWhere_of_mem (p := fun row => row.sourceToken == c.source.sourceToken) memRow
      (beq_self_eq_true _) only (u.db.source_account _ memRow) (inv.live c mem)
    exact resolved
  · obtain ⟨tr0, tr1, v, eq, before, st, _⟩ := run.split mem
    have inv0 := Inv.reached before empty
    cases st with
    | deliver ran =>
      obtain ⟨row, memRow, token, accepts⟩ := accepts_of_run ran
      rw [inv0.rows] at memRow
      obtain ⟨c, memC, rfl⟩ := List.mem_map.1 memRow
      refine ⟨c, ?_, token, accepts⟩
      rw [eq, List.map_append, creations, List.filterMap_append]
      exact List.mem_append_left _ memC

end Runs

/-! An account creates an endpoint. A delivery without a signature is refused and a payment accepted, and
retention deletes a visitor. -/

namespace Sample
open WebhookSample

def visitor : Account :=
  { id := 2, name := "demo:visitor", kind := .demo, createdAt := .newYear 0, lastSeenAt := .newYear 0 }

/-- The account of the endpoint, and the visitor's. -/
def store : Store := { accounts := WebhookSample.webhookDb.store.accounts ++ [visitor] }

def before : Sys where
  db :=
    { store := store
      webhookSources := []
      source_id := List.nodup_nil
      source_account := by rintro _ ⟨⟩
      gateway_key := List.nodup_nil }
  label _ := ""
  createdAt _ := .newYear 0
  account_id := by decide

def after : Sys where
  db :=
    { WebhookSample.webhookDb with
      store := store
      source_account := by decide
      gateway_key := List.nodup_nil }
  label := Function.update (fun _ => "") 1 "live"
  createdAt := Function.update (fun _ => .newYear 0) 1 (.newYear 0)
  account_id := by decide

def tenant : Tenant where
  accountId := 1
  name := "acme"
  kind := .real

def payload : WebhookSourceCreate where
  provider := .custom
  label := "live"
  label_length := by decide

def draws : SourceDraws where
  sourceId := 1
  sourceToken := "whk_acme"
  signingSecret := "whsec_test"
  now := .newYear 0

/-- A delivery to an endpoint. -/
def deliver (u : Sys) (request : DeliveryRequest) (tokens : (u.db.webhookSources.map (·.sourceToken)).Nodup) :
    Sys :=
  { u with
    db := (providerWebhook paidRuntime u.db request).1
    account_id := (deliver_rows tokens (Prod.mk.eta (p := providerWebhook paidRuntime u.db request)).symm).1 ▸
      u.account_id }

def refused : Sys := deliver after (deliveryRequest none) (by decide)

def accepted : Sys := deliver refused paidRequest (by decide +kernel)

/-- The payment is stored, and stays when the visitor is deleted. -/
lemma accepted_rows :
    accepted.db.webhookSources.map (·.accountId) = [1] ∧
      (Sweeper.deleteDemoAccounts accepted.db.store [2]).store.accounts.map (·.id) = [1] ∧
      (Sweeper.deleteDemoAccounts accepted.db.store [2]).store.gatewayTransactions.map RawRow.indexKey =
        [(1, "custom:t-1:r-1")] := by decide +kernel

lemma hasAccount_retained : ∀ source ∈ accepted.db.webhookSources,
    (Sweeper.deleteDemoAccounts accepted.db.store [2]).store.hasAccount source.accountId = true := by
  obtain ⟨owners, accounts, _⟩ := accepted_rows
  intro source mem
  have own : source.accountId = 1 :=
    List.mem_singleton.1 (owners ▸ List.mem_map_of_mem (f := fun row : WebhookSource => row.accountId) mem)
  obtain ⟨account, memA, id⟩ := List.mem_map.1
    (accounts.symm ▸ List.mem_singleton_self 1 : 1 ∈ List.map (fun a : Account => a.id) _)
  rw [Store.hasAccount, List.any_eq_true]
  exact ⟨account, memA, by simp [id, own]⟩

def retained : Sys where
  db :=
    { accepted.db with
      store := (Sweeper.deleteDemoAccounts accepted.db.store [2]).store
      source_account := hasAccount_retained
      gateway_key := by
        rw [Store.raw, accepted_rows.2.2]
        exact List.nodup_singleton _ }
  label := accepted.label
  createdAt := accepted.createdAt
  account_id := by
    rw [accepted_rows.2.1]
    exact List.nodup_singleton _

lemma step_create : Step paidRuntime (fun _ => []) before
    (.created (sourceRow 1 .custom none draws) "live" (.newYear 0)) after := by
  refine @Step.create _ _ before after tenant payload draws _ ⟨_, List.mem_cons_self, rfl⟩ ?_ rfl rfl
  rintro _ ⟨⟩

lemma step_refused : Step paidRuntime (fun _ => []) after
    (.delivered (deliveryRequest none) (.ok .unauthorized)) refused := by
  have answer : (providerWebhook paidRuntime after.db (deliveryRequest none)).2 = .ok .unauthorized := by
    decide +kernel
  exact .deliver (Prod.ext_iff.2 ⟨rfl, answer⟩) ⟨rfl, rfl⟩

lemma step_accepted : Step paidRuntime (fun _ => []) refused
    (.delivered paidRequest (.ok (.accepted (.ofString "custom") ⟨1, "t-1", false, 1⟩))) accepted := by
  have answer : (providerWebhook paidRuntime refused.db paidRequest).2 =
      .ok (.accepted (.ofString "custom") ⟨1, "t-1", false, 1⟩) := by decide +kernel
  exact .deliver (Prod.ext_iff.2 ⟨rfl, answer⟩) ⟨rfl, rfl⟩

lemma accounts_retained : retained.db.store.accounts.map (·.id) = [1] := by
  simp only [retained]
  exact accepted_rows.2.1

lemma step_retain : Step paidRuntime (fun _ => []) accepted .elsewhere retained := by
  have cut : System.Live.Sample.nextDay.sub (Timedelta.seconds ((24 : ℕ) * 3600)) = .ok (.newYear 1) := rfl
  have stale : Tenancy.staleDemoAccounts accepted.db.store (.newYear 1) = [visitor] := by decide +kernel
  refine @Step.retain _ _ accepted retained 500 24 System.Live.Sample.nextDay id (fun _ => .refl _) ?_ ?_
    ⟨rfl, rfl⟩
  · simp only [Sweeper.sweepDemoAccounts, cut, Sweeper.selectDemoAccounts, id, stale]
    rw [earliest_of_sorted (List.pairwise_singleton ..), List.take_of_length_le (by decide),
      List.map_singleton]
    simp only [retained, visitor]
  · exact (List.filter_eq_self.2 hasAccount_retained).symm

end Sample

/-- The list shows the endpoint with its last delivery, which the endpoint has accepted. -/
theorem endpoints_shown_sample : ∃ u, Run (Step WebhookSample.paidRuntime fun _ => []) Sample.before
      [(Sample.before, .created (sourceRow 1 .custom none Sample.draws) "live" (.newYear 0)),
        (Sample.after, .delivered (WebhookSample.deliveryRequest none) (.ok .unauthorized)),
        (Sample.refused, .delivered WebhookSample.paidRequest
          (.ok (.accepted (.ofString "custom") ⟨1, "t-1", false, 1⟩))),
        (Sample.accepted, .elsewhere)] u ∧
    u.db.store.accounts.map (·.id) = [1] ∧
    listGatewaySources u.table Sample.tenant =
      [{ id := 1, provider := .custom, sourceToken := "whk_acme", label := "live"
         lastEventAt := some (.newYear 0), lastDeliveryStatus := some .ok
         createdAt := .newYear 0, revokedAt := none }] := by
  have run := (((Run.nil.snoc Sample.step_create).snoc Sample.step_refused).snoc Sample.step_accepted).snoc
    Sample.step_retain
  refine ⟨_, run, Sample.accounts_retained, ?_⟩
  rw [(endpoints_shown run rfl).1]
  decide +kernel

end Endpoints
end LedgerLoop
