import LedgerLoop.Db.Models
import LedgerLoop.Library.Dict
import LedgerLoop.Library.Traverse

/-!
# Ingestion

Port of `services/ingest.py`: the raw row and its outbox event in one transaction. A call returns the
store its commit would leave, or the error that rolls it back.

The identity columns hand a value to every tuple of a multi-row insert, refused ones included, so
`IngestDraws.rowId i` is the value of the `i`-th tuple. A tenant is its `account_id`, the only field
of it that ingestion reads. The driver counts the arguments of a statement and converts an instant to
`timestamptz` before it sends them; PostgreSQL refuses a text with U+0000 in it when they arrive.
-/

set_option autoImplicit false

namespace LedgerLoop
open LedgerLoop.Library

/-- `IngestOutcome`. -/
structure IngestOutcome where
  rowId : ℕ
  txnId : String
  duplicate : Bool
  submissions : ℕ
deriving DecidableEq, Repr

/-- What an ingestion transaction draws from outside the store. -/
structure IngestDraws where
  rowId : ℕ → ℕ
  eventId : ℕ → ℕ
  /-- `now()` of the transaction. -/
  now : Datetime

namespace Ingest

/-- The row of an idempotency key. -/
def holdsKey (tenantId : ℕ) (key : String) (row : RawRow) : Bool :=
  row.tenantId == tenantId && row.idempotencyKey == key

/-- Whether `(tenant_id, idempotency_key)` is in the unique index of a side. -/
def stored (s : Store) (side : IngestSource) (tenantId : ℕ) (key : String) : Bool :=
  (s.raw side).any (holdsKey tenantId key)

/-- The row `ingest_gateway` inserts. -/
def gatewayRow (tenantId : ℕ) (payload : GatewayWebhookIn) (idempotencyKey rawBody : String)
    (occurredAt : Datetime) (draws : IngestDraws) : RawRow where
  id := draws.rowId 0
  tenantId := tenantId
  txnId := payload.txnId
  amount := payload.amount
  currency := payload.currency
  occurredAt := occurredAt
  ref := payload.gatewayRef
  rawPayload := .body rawBody
  idempotencyKey := idempotencyKey
  receivedAt := draws.now

/-- The row `ingest_ledger_batch` inserts for its `i`-th key. -/
def ledgerRow (tenantId : ℕ) (entry : LedgerEntryIn) (occurredAt : Datetime) (i : ℕ)
    (draws : IngestDraws) : RawRow where
  id := draws.rowId i
  tenantId := tenantId
  txnId := entry.txnId
  amount := entry.amount
  currency := entry.currency
  occurredAt := occurredAt
  ref := entry.entryId
  rawPayload := .modelDump entry
  idempotencyKey := entry.idempotencyKey
  receivedAt := draws.now

/-- The message `_enqueue` builds from an outcome. -/
def message (source : IngestSource) (outcome : IngestOutcome) : IngestMessage where
  source := source
  rowId := outcome.rowId
  txnId := outcome.txnId
  isDuplicate := outcome.duplicate
  submissions := outcome.submissions

/-- The outbox row of an outcome. -/
def outboxRow (source : IngestSource) (draws : IngestDraws) (outcome : IngestOutcome) (i : ℕ) :
    OutboxEvent where
  id := draws.eventId i
  source := source
  rowId := outcome.rowId
  payload := message source outcome
  createdAt := draws.now

/-- `_enqueue`. -/
def enqueue (s : Store) (source : IngestSource) (outcomes : List IngestOutcome)
    (draws : IngestDraws) : Store :=
  { s with outboxEvents := s.outboxEvents ++
      outcomes.zipIdx.map fun (outcome, i) => outboxRow source draws outcome i }

/-- `UPDATE .. SET duplicate_count = duplicate_count + :delta WHERE tenant_id = .. AND
    idempotency_key = ..`. -/
def bump (tenantId : ℕ) (key : String) (delta : ℕ) (rows : List RawRow) : List RawRow :=
  updateWhere (holdsKey tenantId key)
    (fun row => { row with duplicateCount := row.duplicateCount + delta }) rows

/-- The outcome of a first receipt. -/
def firstReceipt (row : RawRow) : IngestOutcome where
  rowId := row.id
  txnId := row.txnId
  duplicate := false
  submissions := 1

/-- The outcome of a retry: the original row, and the tally with this submission. -/
def retry (existing : RawRow) (txnId : String) : IngestOutcome where
  rowId := existing.id
  txnId := txnId
  duplicate := true
  submissions := existing.duplicateCount + 1

/-- A key as its column holds it, if it does: itself, up to 255 characters (`varchar_of_fits`). -/
def columnOf (idempotencyKey : String) : String := (varchar 255 idempotencyKey).getD idempotencyKey

/-- `ingest_gateway`. The key is stored as its column holds it (`column`). -/
def ingestGateway (s : Store) (tenantId : ℕ) (payload : GatewayWebhookIn)
    (idempotencyKey rawBody : String) (draws : IngestDraws) :
    Except PyError (Store × IngestOutcome) := do
  let occurredAt ← payload.occurredAt.toUtc
  if [idempotencyKey, payload.txnId, payload.gatewayRef].any hasNul then .error (.dataError "text")
  else
    match varchar 255 idempotencyKey with
    | none => .error (.dataError "idempotency_key")
    | some column =>
      if stored s .gateway tenantId column then
        -- the update asks for the key as it was sent, and no row has a key that its column cut
        if column ≠ idempotencyKey then .error .noResultFound
        else
          let rows := bump tenantId column 1 (s.raw .gateway)
          match rows.filter (holdsKey tenantId column) with
          | [existing] =>
            let outcome := retry existing payload.txnId
            .ok (enqueue (s.setRaw .gateway rows) .gateway [outcome] draws, outcome)
          | _ => .error .noResultFound
      else if s.hasAccount tenantId = false then .error (.foreignKeyViolation "tenant_id")
      else
        let row := gatewayRow tenantId payload column rawBody occurredAt draws
        let outcome := firstReceipt row
        .ok (enqueue (s.setRaw .gateway (s.raw .gateway ++ [row])) .gateway [outcome] draws, outcome)

/-- The rows of the batch insert, one for each key. -/
def ledgerRows (tenantId : ℕ) (firstByKey : List (String × LedgerEntryIn)) (draws : IngestDraws) :
    Except PyError (List RawRow) :=
  firstByKey.zipIdx.mapM fun ((_, entry), i) => do
    let occurredAt ← entry.occurredAt.toUtc
    return ledgerRow tenantId entry occurredAt i draws

/-- The rows the insert stores: `ON CONFLICT (tenant_id, idempotency_key) DO NOTHING`. -/
def newRows (s : Store) (tenantId : ℕ) (tuples : List RawRow) : List RawRow :=
  tuples.filter fun row => !stored s .ledger tenantId row.idempotencyKey

/-- `inserted`, as `RETURNING` fills it. -/
def insertedOf (new : List RawRow) : List (String × ℕ) :=
  new.map fun row => (row.idempotencyKey, row.id)

/-- `increments`: by how much each key's counter moves. -/
def incrementsOf (entries : List LedgerEntryIn) (new : List RawRow) : List (String × ℕ) :=
  (Dict.counter (entries.map (·.idempotencyKey))).filterMap fun (key, count) =>
    let delta := count - if ((insertedOf new).lookup key).isSome then 1 else 0
    if 0 < delta then some (key, delta) else none

/-- The table after the batch: the insert, then one update for each incremented key. -/
def tableOf (s : Store) (tenantId : ℕ) (entries : List LedgerEntryIn) (new : List RawRow) :
    List RawRow :=
  (incrementsOf entries new).foldl (fun rows (key, delta) => bump tenantId key delta rows)
    (s.raw .ledger ++ new)

/-- The rows the batch reads back: those of an incremented key. -/
def readBack (s : Store) (tenantId : ℕ) (entries : List LedgerEntryIn) (new : List RawRow) :
    List RawRow :=
  (tableOf s tenantId entries new).filter fun row =>
    row.tenantId == tenantId && ((incrementsOf entries new).lookup row.idempotencyKey).isSome

/-- `inserted`, once the rows read back are in it: the row id under each key of the batch. -/
def rowIdsOf (s : Store) (tenantId : ℕ) (entries : List LedgerEntryIn) (new : List RawRow) :
    List (String × ℕ) :=
  (readBack s tenantId entries new).foldl
    (fun d row => Dict.setdefault d row.idempotencyKey row.id) (insertedOf new)

/-- `counts_by_key`. -/
def countsOf (s : Store) (tenantId : ℕ) (entries : List LedgerEntryIn) (new : List RawRow) :
    List (String × ℕ) :=
  (readBack s tenantId entries new).map fun row => (row.idempotencyKey, row.duplicateCount)

/-- `outcomes`: one for each key, in the order of first appearance. -/
def outcomesOf (s : Store) (tenantId : ℕ) (entries : List LedgerEntryIn) (new : List RawRow) :
    Except PyError (List IngestOutcome) :=
  (Dict.firstBy (·.idempotencyKey) entries).mapM fun (key, entry) =>
    match (rowIdsOf s tenantId entries new).lookup key with
    | none => .error (.keyError key)
    | some rowId =>
      .ok { rowId := rowId, txnId := entry.txnId
            duplicate := ((incrementsOf entries new).lookup key).isSome
            submissions := ((countsOf s tenantId entries new).lookup key).getD 0 + 1 }

/-- The answers in request order: each entry's key leads to its row, the row to its outcome. -/
def answers (entries : List LedgerEntryIn) (rowIds : List (String × ℕ))
    (outcomes : List IngestOutcome) : Except PyError (List IngestOutcome) :=
  entries.mapM fun entry =>
    match rowIds.lookup entry.idempotencyKey with
    | none => .error (.keyError entry.idempotencyKey)
    | some rowId =>
      match outcomes.reverse.find? (·.rowId == rowId) with
      | none => .error (.keyError (toString rowId))
      | some outcome => .ok outcome

/-- The texts of an entry that the batch insert sends. -/
def entryTexts (entry : LedgerEntryIn) : List String :=
  [entry.entryId, entry.txnId, entry.idempotencyKey]

/-- The most arguments asyncpg sends with a statement. -/
def maxArguments : ℕ := 32767

/-- The columns the batch insert names for each row. -/
def ledgerColumns : List String :=
  ["tenant_id", "entry_id", "txn_id", "amount", "currency", "occurred_at", "raw_payload",
    "idempotency_key"]

/-- `ingest_ledger_batch`. -/
def ingestLedgerBatch (s : Store) (tenantId : ℕ) (entries : List LedgerEntryIn)
    (draws : IngestDraws) : Except PyError (Store × List IngestOutcome) :=
  if entries = [] then .ok (s, [])
  else if maxArguments < ledgerColumns.length * (Dict.firstBy (·.idempotencyKey) entries).length then
    .error .interfaceError
  else do
    let tuples ← ledgerRows tenantId (Dict.firstBy (·.idempotencyKey) entries) draws
    let new := newRows s tenantId tuples
    if (Dict.firstBy (·.idempotencyKey) entries).any fun p => (entryTexts p.2).any hasNul then
      .error (.dataError "text")
    else if new ≠ [] ∧ s.hasAccount tenantId = false then .error (.foreignKeyViolation "tenant_id")
    else do
      let outcomes ← outcomesOf s tenantId entries new
      let results ← answers entries (rowIdsOf s tenantId entries new) outcomes
      let table := tableOf s tenantId entries new
      .ok (enqueue (s.setRaw .ledger table) .ledger outcomes draws, results)

section Frame
variable (s : Store) (source side : IngestSource) (outcomes : List IngestOutcome)
  (draws : IngestDraws)

@[simp] lemma raw_enqueue : (enqueue s source outcomes draws).raw side = s.raw side := by
  cases side <;> rfl

@[simp] lemma accounts_enqueue : (enqueue s source outcomes draws).accounts = s.accounts := rfl

@[simp] lemma results_enqueue :
    (enqueue s source outcomes draws).reconciliationResults = s.reconciliationResults := rfl

@[simp] lemma exceptions_enqueue :
    (enqueue s source outcomes draws).exceptions = s.exceptions := rfl

@[simp] lemma outboxEvents_enqueue :
    (enqueue s source outcomes draws).outboxEvents = s.outboxEvents ++
      outcomes.zipIdx.map fun (outcome, i) => outboxRow source draws outcome i := rfl

end Frame

section Table
variable {s : Store} {tenantId delta : ℕ} {key : String} {rows new : List RawRow} {row : RawRow}
  {entries : List LedgerEntryIn}

/-- A row after a bump is a row before it, up to `duplicate_count`. -/
lemma of_mem_bump (mem : row ∈ bump tenantId key delta rows) :
    ∃ r0 ∈ rows, row = { r0 with duplicateCount := row.duplicateCount } := by
  rcases mem_updateWhere.1 mem with ⟨r0, mem0, _, rfl⟩ | ⟨mem0, _⟩
  · exact ⟨r0, mem0, rfl⟩
  · exact ⟨row, mem0, rfl⟩

/-- A column other than `duplicate_count` is unchanged by a bump. -/
lemma map_bump {β : Type*} {g : RawRow → β}
    (keep : ∀ (r : RawRow) n, g { r with duplicateCount := n } = g r) :
    (bump tenantId key delta rows).map g = rows.map g :=
  map_updateWhere rows fun r => keep r _

/-- A column other than `duplicate_count` of the table after a batch: the old rows, then the new. -/
lemma map_tableOf {β : Type*} {g : RawRow → β}
    (keep : ∀ (r : RawRow) n, g { r with duplicateCount := n } = g r) :
    (tableOf s tenantId entries new).map g = (s.raw .ledger ++ new).map g := by
  have fold (incs : List (String × ℕ)) (rows : List RawRow) :
      (incs.foldl (fun rows (key, delta) => bump tenantId key delta rows) rows).map g =
        rows.map g := by
    induction incs generalizing rows with
    | nil => rfl
    | cons inc incs ih =>
      rw [List.foldl_cons, ih]
      exact map_bump keep
  exact fold _ _

/-- A row after a batch is an old or a new row, up to `duplicate_count`. -/
lemma of_mem_tableOf (mem : row ∈ tableOf s tenantId entries new) :
    ∃ r0 ∈ s.raw .ledger ++ new, row = { r0 with duplicateCount := row.duplicateCount } := by
  let erase (r : RawRow) : RawRow := { r with duplicateCount := 0 }
  have same : (tableOf s tenantId entries new).map erase = (s.raw .ledger ++ new).map erase :=
    map_tableOf fun _ _ => rfl
  obtain ⟨r0, mem0, eq⟩ := List.mem_map.1 (same ▸ List.mem_map_of_mem mem)
  refine ⟨r0, mem0, ?_⟩
  cases r0
  cases row
  simp_all [erase]

end Table

section Ok
variable {s s' : Store} {tenantId : ℕ} {entries : List LedgerEntryIn} {draws : IngestDraws}
  {outcome : IngestOutcome} {outcomes : List IngestOutcome} {payload : GatewayWebhookIn}
  {idempotencyKey rawBody : String}

/-- What a successful gateway call did: bumped the one row of the key, or inserted a row. -/
lemma ingestGateway_ok
    (h : ingestGateway s tenantId payload idempotencyKey rawBody draws = .ok (s', outcome)) :
    ∃ column occurredAt, varchar 255 idempotencyKey = some column ∧
      (stored s .gateway tenantId column = true → column = idempotencyKey) ∧
      payload.occurredAt.toUtc = .ok occurredAt ∧
      ((stored s .gateway tenantId column = true ∧ ∃ existing,
          (bump tenantId column 1 (s.raw .gateway)).filter (holdsKey tenantId column) = [existing] ∧
          outcome = retry existing payload.txnId ∧
          s' = enqueue (s.setRaw .gateway (bump tenantId column 1 (s.raw .gateway))) .gateway
            [outcome] draws) ∨
        (stored s .gateway tenantId column = false ∧ s.hasAccount tenantId = true ∧
          outcome = firstReceipt (gatewayRow tenantId payload column rawBody occurredAt draws) ∧
          s' = enqueue (s.setRaw .gateway (s.raw .gateway ++
            [gatewayRow tenantId payload column rawBody occurredAt draws])) .gateway [outcome] draws)) := by
  simp only [ingestGateway, bind, Except.bind] at h
  split at h
  · cases h
  rename_i occurredAt utc
  by_cases nul : [idempotencyKey, payload.txnId, payload.gatewayRef].any hasNul = true
  · rw [if_pos nul] at h
    cases h
  rw [if_neg nul] at h
  split at h
  · cases h
  rename_i column fits
  refine ⟨column, occurredAt, fits, ?_⟩
  split_ifs at h with held cut account
  · split at h
    · rename_i existing one
      obtain ⟨rfl, rfl⟩ := Prod.mk.inj (Except.ok.inj h)
      exact ⟨fun _ => not_not.1 cut, utc, .inl ⟨held, existing, one, rfl, rfl⟩⟩
    · cases h
  · obtain ⟨rfl, rfl⟩ := Prod.mk.inj (Except.ok.inj h)
    exact ⟨fun held' => absurd held' held, utc,
      .inr ⟨by simpa using held, by simpa using account, rfl, rfl⟩⟩

/-- The texts of a successful gateway call have no NUL. -/
lemma clean_of_ingestGateway
    (h : ingestGateway s tenantId payload idempotencyKey rawBody draws = .ok (s', outcome)) :
    [idempotencyKey, payload.txnId, payload.gatewayRef].any hasNul = false := by
  simp only [ingestGateway, bind, Except.bind] at h
  split at h
  · cases h
  by_contra nul
  rw [if_pos (Bool.not_eq_false _ ▸ nul)] at h
  cases h

/-- A key that fits its column is stored as it is. -/
lemma column_of_fits {column : String} (fits : idempotencyKey.length ≤ 255)
    (held : varchar 255 idempotencyKey = some column) : column = idempotencyKey :=
  (varchar_eq_iff held).2 fits

lemma columnOf_eq {column : String} (held : varchar 255 idempotencyKey = some column) :
    columnOf idempotencyKey = column := by
  rw [columnOf, held, Option.getD_some]

/-- What a successful ledger batch did. -/
lemma ingestLedgerBatch_ok (ne : entries ≠ [])
    (h : ingestLedgerBatch s tenantId entries draws = .ok (s', outcomes)) :
    ∃ tuples announced,
      ledgerRows tenantId (Dict.firstBy (·.idempotencyKey) entries) draws = .ok tuples ∧
      (newRows s tenantId tuples ≠ [] → s.hasAccount tenantId = true) ∧
      outcomesOf s tenantId entries (newRows s tenantId tuples) = .ok announced ∧
      answers entries (rowIdsOf s tenantId entries (newRows s tenantId tuples)) announced =
        .ok outcomes ∧
      s' = enqueue (s.setRaw .ledger (tableOf s tenantId entries (newRows s tenantId tuples)))
        .ledger announced draws := by
  simp only [ingestLedgerBatch, if_neg ne, bind, Except.bind] at h
  split_ifs at h with many nul
  · split at h <;> cases h
  split at h
  · cases h
  rename_i tuples tuplesEq
  split_ifs at h with account
  split at h
  · cases h
  rename_i announced announcedEq
  split at h
  · cases h
  rename_i results resultsEq
  obtain ⟨rfl, rfl⟩ := Prod.mk.inj (Except.ok.inj h)
  refine ⟨tuples, announced, tuplesEq, ?_, announcedEq, resultsEq, rfl⟩
  intro some_new
  by_contra missing
  exact account ⟨some_new, by simpa using missing⟩

/-- The insert of a batch can be sent, and PostgreSQL takes its texts. -/
def Sendable (entries : List LedgerEntryIn) : Prop :=
  ¬maxArguments < ledgerColumns.length * (Dict.firstBy (·.idempotencyKey) entries).length ∧
    ((Dict.firstBy (·.idempotencyKey) entries).any fun p => (entryTexts p.2).any hasNul) = false

/-- The insert of a successful batch was sent. -/
lemma sendable_of_ok (ne : entries ≠ [])
    (h : ingestLedgerBatch s tenantId entries draws = .ok (s', outcomes)) : Sendable entries := by
  simp only [ingestLedgerBatch, if_neg ne, bind, Except.bind] at h
  split_ifs at h with many nul
  · split at h <;> cases h
  · exact ⟨many, Bool.not_eq_true _ ▸ nul⟩

/-- What makes a batch succeed. -/
lemma ingestLedgerBatch_eq {tuples : List RawRow} {announced : List IngestOutcome} (ne : entries ≠ [])
    (sendable : Sendable entries)
    (rowsOk : ledgerRows tenantId (Dict.firstBy (·.idempotencyKey) entries) draws = .ok tuples)
    (account : newRows s tenantId tuples ≠ [] → s.hasAccount tenantId = true)
    (outcomesOk : outcomesOf s tenantId entries (newRows s tenantId tuples) = .ok announced)
    (answersOk : answers entries (rowIdsOf s tenantId entries (newRows s tenantId tuples)) announced =
      .ok outcomes) :
    ingestLedgerBatch s tenantId entries draws = .ok
      (enqueue (s.setRaw .ledger (tableOf s tenantId entries (newRows s tenantId tuples))) .ledger announced
        draws, outcomes) := by
  have known : ¬(newRows s tenantId tuples ≠ [] ∧ s.hasAccount tenantId = false) := by
    rintro ⟨some_new, missing⟩
    rw [account some_new] at missing
    cases missing
  simp only [ingestLedgerBatch, if_neg ne, if_neg sendable.1, sendable.2, rowsOk, if_neg known, outcomesOk,
    answersOk, bind, Except.bind, Bool.false_eq_true, if_false]

/-- The tuples of the insert correspond to the keys, in order. -/
lemma ledgerRows_ok {keys : List (String × LedgerEntryIn)} {tuples : List RawRow}
    (h : ledgerRows tenantId keys draws = .ok tuples) :
    List.Forall₂ (fun x row => ∃ occurredAt, x.1.2.occurredAt.toUtc = .ok occurredAt ∧
      row = ledgerRow tenantId x.1.2 occurredAt x.2 draws) keys.zipIdx tuples := by
  refine (mapM_eq_ok.1 h).imp fun x row eq => ?_
  simp only [bind, Except.bind, pure, Except.pure] at eq
  split at eq
  · cases eq
  rename_i occurredAt utc
  exact ⟨occurredAt, utc, (Except.ok.inj eq).symm⟩

/-- The outcomes correspond to the keys, in order. -/
lemma outcomesOf_ok {new : List RawRow}
    (h : outcomesOf s tenantId entries new = .ok outcomes) :
    List.Forall₂ (fun x outcome => (rowIdsOf s tenantId entries new).lookup x.1 = some outcome.rowId ∧
      outcome.txnId = x.2.txnId ∧
      outcome.duplicate = ((incrementsOf entries new).lookup x.1).isSome)
      (Dict.firstBy (·.idempotencyKey) entries) outcomes := by
  refine (mapM_eq_ok.1 h).imp fun x outcome eq => ?_
  simp only at eq
  split at eq
  · cases eq
  rename_i rowId found
  obtain rfl := Except.ok.inj eq
  exact ⟨found, rfl, rfl⟩

end Ok

end Ingest
end LedgerLoop
