import LedgerLoop.Db.Models
import LedgerLoop.Library.Ddl

/-!
# Schema migrations

Port of `alembic/versions/0001_initial_schema.py`, `alembic/versions/0002_multi_tenancy.py` and `_do_run` of
`alembic/env.py`, as statements of `Ddl` over the part of PostgreSQL they use. `schema0001` and
`schema0002` are the catalogs they lead to.

Identity columns and server defaults only matter where a migration inserts: the default account is the
first of a new sequence. An index predicate or a check is a `Condition`, with the three truth values of SQL.
-/

set_option autoImplicit false

namespace LedgerLoop
open LedgerLoop.Library Ddl

/-- A value of a column. -/
inductive Cell where
  | int (n : ℤ)
  | text (s : String)
  | numeric (amount : Money)
  | timestamp (t : Datetime)
  /-- A label of an enumeration. -/
  | label (s : String)
  | rawPayload (payload : RawPayload)
  | message (message : IngestMessage)
deriving DecidableEq

inductive ColumnType where
  | bigInteger
  | integer
  | string (length : ℕ)
  | text
  | numeric (precision scale : ℕ)
  | dateTime
  | jsonb
  | enum (name : String) (labels : List String)
deriving DecidableEq

namespace ColumnType

/-- The values of a type; every `Money` is a `numeric(18,2)`. -/
def admits : ColumnType → Cell → Bool
  | .bigInteger, .int n => -2 ^ 63 ≤ n && n < 2 ^ 63
  | .integer, .int n => -2 ^ 31 ≤ n && n < 2 ^ 31
  | .string length, .text s => s.length ≤ length
  | .text, .text _ => true
  | .numeric precision scale, .numeric _ => precision == 18 && scale == 2
  | .dateTime, .timestamp _ => true
  | .jsonb, .rawPayload _ => true
  | .jsonb, .message _ => true
  | .enum _ labels, .label s => labels.contains s
  | _, _ => false

def named : ColumnType → Option String
  | .enum name _ => some name
  | _ => none

end ColumnType

/-- The conditions of the checks and of the partial indexes. -/
inductive Condition where
  /-- `c IS NULL`. -/
  | isNull (c : String)
  /-- `c IS NOT NULL`. -/
  | isNotNull (c : String)
  /-- `c = 'label'`. -/
  | equals (c label : String)
  /-- `c <> 'label'`. -/
  | differs (c label : String)
  /-- `c >= 0`. -/
  | nonNegative (c : String)
  /-- `c >= c'`, of instants. -/
  | notBefore (c c' : String)
  /-- `c ~ '^[A-Z]{3}$'`. -/
  | currency (c : String)
  | and (a b : Condition)
  | or (a b : Condition)
deriving DecidableEq

namespace Condition

def mentions : Condition → List String
  | .isNull c | .isNotNull c | .equals c _ | .differs c _ | .nonNegative c | .currency c => [c]
  | .notBefore c c' => [c, c']
  | .and a b | .or a b => a.mentions ++ b.mentions

/-- The truth of a condition in a row. -/
def eval (r : String → Option Cell) : Condition → Option Bool
  | .isNull c => some (r c).isNone
  | .isNotNull c => some (r c).isSome
  | .equals c label => (r c).map (· == .label label)
  | .differs c label => (r c).map (· != .label label)
  | .nonNegative c => (r c).map fun
    | .int n => 0 ≤ n
    | _ => false
  | .notBefore c c' => (r c).bind fun x => (r c').map fun y =>
    match x, y with
    | .timestamp t, .timestamp t' => t'.us ≤ t.us
    | _, _ => false
  | .currency c => (r c).map fun
    | .text s => decide (IsCurrency s)
    | _ => false
  | .and a b =>
    if a.eval r = some false ∨ b.eval r = some false then some false
    else if a.eval r = some true ∧ b.eval r = some true then some true else none
  | .or a b =>
    if a.eval r = some true ∨ b.eval r = some true then some true
    else if a.eval r = some false ∧ b.eval r = some false then some false else none

/-- A condition reads the columns it mentions. -/
lemma eval_congr {e : Condition} {r r' : String → Option Cell} (same : ∀ c ∈ e.mentions, r c = r' c) :
    e.eval r = e.eval r' := by
  induction e with
  | isNull c | isNotNull c | equals c | differs c | nonNegative c | currency c =>
    simp only [eval, same c List.mem_cons_self]
  | notBefore c c' => simp only [eval, same c List.mem_cons_self, same c' (by simp [mentions])]
  | and a b iha ihb | or a b iha ihb =>
    simp only [eval, iha fun c mem => same c (List.mem_append_left _ mem),
      ihb fun c mem => same c (List.mem_append_right _ mem)]

end Condition

/-- What the migrations use of PostgreSQL. -/
abbrev postgres : Dialect where
  Value := Cell
  ColumnType := ColumnType
  Condition := Condition
  decValue := inferInstance
  decColumnType := inferInstance
  decCondition := inferInstance
  admits := ColumnType.admits
  named := ColumnType.named
  eval e r := e.eval r
  mentions := Condition.mentions
  eval_congr := Condition.eval_congr

/-- `op.create_index`. -/
def createIndex (name table : String) (keys : List IndexKey) (unique : Bool := false)
    (where_ : Option Condition := none) : Statement postgres :=
  .create ⟨name, table, .index unique keys where_⟩

/-- `op.drop_index`. -/
def dropIndex (name table : String) : Statement postgres := .drop table name

/-- A column in ascending order. -/
instance : Coe String IndexKey := ⟨fun column => { column := column }⟩

/-- `id DESC`. -/
def idDesc : IndexKey := { column := "id", desc := true }

namespace InitialSchema

def ingestSource : ColumnType := .enum "ingest_source" ["gateway", "ledger"]

def reconStatus : ColumnType := .enum "recon_status"
  ["matched", "unmatched_gateway_only", "unmatched_ledger_only", "duplicate", "amount_drift", "time_drift"]

def matchLayer : ColumnType := .enum "match_layer"
  ["exact", "time_drift", "amount_drift", "duplicate", "unmatched_sweep"]

def gatewayTransactions : Table postgres where
  name := "gateway_transactions"
  columns := [⟨"id", .bigInteger, false⟩, ⟨"txn_id", .string 128, false⟩, ⟨"amount", .numeric 18 2, false⟩,
    ⟨"currency", .string 3, false⟩, ⟨"occurred_at", .dateTime, false⟩, ⟨"gateway_ref", .string 128, false⟩,
    ⟨"raw_payload", .jsonb, false⟩, ⟨"idempotency_key", .string 255, false⟩,
    ⟨"duplicate_count", .integer, false⟩, ⟨"received_at", .dateTime, false⟩, ⟨"reconciled_at", .dateTime, true⟩]

def ledgerEntries : Table postgres where
  name := "ledger_entries"
  columns := [⟨"id", .bigInteger, false⟩, ⟨"entry_id", .string 128, false⟩, ⟨"txn_id", .string 128, false⟩,
    ⟨"amount", .numeric 18 2, false⟩, ⟨"currency", .string 3, false⟩, ⟨"occurred_at", .dateTime, false⟩,
    ⟨"raw_payload", .jsonb, false⟩, ⟨"idempotency_key", .string 255, false⟩,
    ⟨"duplicate_count", .integer, false⟩, ⟨"received_at", .dateTime, false⟩, ⟨"reconciled_at", .dateTime, true⟩]

def outboxEvents : Table postgres where
  name := "outbox_events"
  columns := [⟨"id", .bigInteger, false⟩, ⟨"source", ingestSource, false⟩, ⟨"row_id", .bigInteger, false⟩,
    ⟨"payload", .jsonb, false⟩, ⟨"created_at", .dateTime, false⟩, ⟨"published_at", .dateTime, true⟩,
    ⟨"attempts", .integer, false⟩]

def reconciliationResults : Table postgres where
  name := "reconciliation_results"
  columns := [⟨"id", .bigInteger, false⟩, ⟨"gateway_txn_id", .bigInteger, true⟩,
    ⟨"ledger_entry_id", .bigInteger, true⟩, ⟨"status", reconStatus, false⟩, ⟨"match_layer", matchLayer, false⟩,
    ⟨"resolved_at", .dateTime, false⟩, ⟨"notes", .text, true⟩, ⟨"match_latency_ms", .integer, true⟩,
    ⟨"source_message_id", .string 64, true⟩]

def exceptions : Table postgres where
  name := "exceptions"
  columns := [⟨"id", .bigInteger, false⟩, ⟨"reconciliation_result_id", .bigInteger, false⟩,
    ⟨"opened_at", .dateTime, false⟩, ⟨"closed_at", .dateTime, true⟩, ⟨"resolution_notes", .text, true⟩]

/-- `upgrade` of 0001. -/
def upgrade : List (Statement postgres) :=
  [.createType "ingest_source", .createType "recon_status", .createType "match_layer",
    .createTable gatewayTransactions
      [⟨"ck_gateway_transactions_currency_iso4217", "gateway_transactions", .check (.currency "currency")⟩,
        ⟨"ck_gateway_transactions_duplicate_count_non_negative", "gateway_transactions",
          .check (.nonNegative "duplicate_count")⟩,
        ⟨"pk_gateway_transactions", "gateway_transactions", .primaryKey "id"⟩],
    createIndex "uq_gateway_transactions_idempotency_key" "gateway_transactions" ["idempotency_key"] true,
    createIndex "ix_gateway_transactions_txn_id_occurred_at" "gateway_transactions" ["txn_id", "occurred_at"],
    createIndex "ix_gateway_transactions_pending_received_at" "gateway_transactions" ["received_at"] false
      (some (.isNull "reconciled_at")),
    .createTable ledgerEntries
      [⟨"ck_ledger_entries_currency_iso4217", "ledger_entries", .check (.currency "currency")⟩,
        ⟨"ck_ledger_entries_duplicate_count_non_negative", "ledger_entries", .check (.nonNegative "duplicate_count")⟩,
        ⟨"pk_ledger_entries", "ledger_entries", .primaryKey "id"⟩],
    createIndex "uq_ledger_entries_idempotency_key" "ledger_entries" ["idempotency_key"] true,
    createIndex "ix_ledger_entries_txn_id_occurred_at" "ledger_entries" ["txn_id", "occurred_at"],
    createIndex "ix_ledger_entries_pending_received_at" "ledger_entries" ["received_at"] false
      (some (.isNull "reconciled_at")),
    .createTable outboxEvents [⟨"pk_outbox_events", "outbox_events", .primaryKey "id"⟩],
    createIndex "ix_outbox_events_unpublished" "outbox_events" ["id"] false (some (.isNull "published_at")),
    .createTable reconciliationResults
      [⟨"ck_reconciliation_results_at_least_one_side", "reconciliation_results",
          .check (.or (.isNotNull "gateway_txn_id") (.isNotNull "ledger_entry_id"))⟩,
        ⟨"ck_reconciliation_results_latency_non_negative", "reconciliation_results",
          .check (.or (.isNull "match_latency_ms") (.nonNegative "match_latency_ms"))⟩,
        ⟨"fk_reconciliation_results_gateway_txn_id_gateway_transactions", "reconciliation_results",
          .foreignKey "gateway_txn_id" "gateway_transactions" "id"⟩,
        ⟨"fk_reconciliation_results_ledger_entry_id_ledger_entries", "reconciliation_results",
          .foreignKey "ledger_entry_id" "ledger_entries" "id"⟩,
        ⟨"pk_reconciliation_results", "reconciliation_results", .primaryKey "id"⟩],
    createIndex "uq_reconciliation_results_gateway_active" "reconciliation_results" ["gateway_txn_id"] true
      (some (.and (.isNotNull "gateway_txn_id") (.differs "status" "duplicate"))),
    createIndex "uq_reconciliation_results_ledger_active" "reconciliation_results" ["ledger_entry_id"] true
      (some (.and (.isNotNull "ledger_entry_id") (.differs "status" "duplicate"))),
    createIndex "uq_reconciliation_results_gateway_duplicate" "reconciliation_results" ["gateway_txn_id"] true
      (some (.and (.isNotNull "gateway_txn_id") (.equals "status" "duplicate"))),
    createIndex "uq_reconciliation_results_ledger_duplicate" "reconciliation_results" ["ledger_entry_id"] true
      (some (.and (.isNotNull "ledger_entry_id") (.equals "status" "duplicate"))),
    createIndex "ix_reconciliation_results_status_id" "reconciliation_results" ["status", idDesc],
    createIndex "ix_reconciliation_results_resolved_at" "reconciliation_results" ["resolved_at"],
    .createTable exceptions
      [⟨"ck_exceptions_closed_after_opened", "exceptions",
          .check (.or (.isNull "closed_at") (.notBefore "closed_at" "opened_at"))⟩,
        ⟨"fk_exceptions_reconciliation_result_id_reconciliation_results", "exceptions",
          .foreignKey "reconciliation_result_id" "reconciliation_results" "id"⟩,
        ⟨"pk_exceptions", "exceptions", .primaryKey "id"⟩],
    createIndex "uq_exceptions_reconciliation_result_id" "exceptions" ["reconciliation_result_id"] true,
    createIndex "ix_exceptions_open_id" "exceptions" [idDesc] false (some (.isNull "closed_at")),
    createIndex "ix_exceptions_closed_id" "exceptions" [idDesc] false (some (.isNotNull "closed_at"))]

end InitialSchema

/-- The catalog of 0001. -/
def schema0001 : Catalog postgres := (defineAll InitialSchema.upgrade {}).getD {}

/-- A row by its columns. -/
def cells (columns : List (String × Option Cell)) : Row postgres := fun c => (columns.lookup c).join

namespace MultiTenancy

def accountKind : ColumnType := .enum "account_kind" ["real", "demo"]

def tenantedTables : List String := ["gateway_transactions", "ledger_entries", "reconciliation_results", "exceptions"]

/-- `RESULT_UNIQUE_INDEXES`: suffix, column and predicate. -/
def resultUniqueIndexes : List (String × String × Condition) :=
  [("gateway_active", "gateway_txn_id", .and (.isNotNull "gateway_txn_id") (.differs "status" "duplicate")),
    ("ledger_active", "ledger_entry_id", .and (.isNotNull "ledger_entry_id") (.differs "status" "duplicate")),
    ("gateway_duplicate", "gateway_txn_id", .and (.isNotNull "gateway_txn_id") (.equals "status" "duplicate")),
    ("ledger_duplicate", "ledger_entry_id", .and (.isNotNull "ledger_entry_id") (.equals "status" "duplicate"))]

def accounts : Table postgres where
  name := "accounts"
  columns := [⟨"id", .bigInteger, false⟩, ⟨"name", .string 255, false⟩, ⟨"kind", accountKind, false⟩,
    ⟨"created_at", .dateTime, false⟩, ⟨"last_seen_at", .dateTime, false⟩]

def apiKeys : Table postgres where
  name := "api_keys"
  columns := [⟨"id", .bigInteger, false⟩, ⟨"account_id", .bigInteger, false⟩, ⟨"key_hash", .string 64, false⟩,
    ⟨"prefix", .string 16, false⟩, ⟨"label", .string 255, false⟩, ⟨"created_at", .dateTime, false⟩,
    ⟨"revoked_at", .dateTime, true⟩]

/-- The new tables. -/
def createTables : List (Statement postgres) :=
  [.createType "account_kind",
    .createTable accounts [⟨"pk_accounts", "accounts", .primaryKey "id"⟩],
    createIndex "uq_accounts_name" "accounts" ["name"] true,
    createIndex "ix_accounts_demo_last_seen_at" "accounts" ["last_seen_at"] false (some (.equals "kind" "demo")),
    .createTable apiKeys
      [⟨"fk_api_keys_account_id_accounts", "api_keys", .foreignKey "account_id" "accounts" "id"⟩,
        ⟨"pk_api_keys", "api_keys", .primaryKey "id"⟩],
    createIndex "uq_api_keys_key_hash" "api_keys" ["key_hash"] true,
    createIndex "ix_api_keys_account_id" "api_keys" ["account_id"]]

/-- The first identity value of a table. -/
def firstId : Cell := .int 1

/-- `INSERT INTO accounts (name, kind) VALUES ('default', 'demo')` at an instant. -/
def defaultAccount (now : Datetime) : Row postgres :=
  cells [("id", some firstId), ("name", some (.text "default")), ("kind", some (.label "demo")),
    ("created_at", some (.timestamp now)), ("last_seen_at", some (.timestamp now))]

/-- The foreign key of a tenant column. -/
def tenantKey (table : String) : Rule postgres :=
  ⟨"fk_" ++ table ++ "_tenant_id_accounts", table, .foreignKey "tenant_id" "accounts" "id"⟩

/-- `tenant_id`, in three steps, and its foreign key. -/
def addTenant (table : String) : List (Statement postgres) :=
  [.addColumn table ⟨"tenant_id", .bigInteger, true⟩,
    .update table "tenant_id" "accounts" "id" "name" (.text "default"),
    .setNotNull table "tenant_id",
    .create (tenantKey table)]

/-- Rebuild the uniqueness. -/
def rebuildUniqueness : List (Statement postgres) :=
  [dropIndex "uq_gateway_transactions_idempotency_key" "gateway_transactions",
    createIndex "uq_gateway_transactions_tenant_idempotency_key" "gateway_transactions"
      ["tenant_id", "idempotency_key"] true,
    dropIndex "uq_ledger_entries_idempotency_key" "ledger_entries",
    createIndex "uq_ledger_entries_tenant_idempotency_key" "ledger_entries" ["tenant_id", "idempotency_key"] true] ++
  resultUniqueIndexes.flatMap fun index =>
    [dropIndex ("uq_reconciliation_results_" ++ index.1) "reconciliation_results",
      createIndex ("uq_reconciliation_results_tenant_" ++ index.1) "reconciliation_results"
        ["tenant_id", index.2.1] true (some index.2.2)]

/-- Rebuild the read path. -/
def rebuildReadPath : List (Statement postgres) :=
  [dropIndex "ix_gateway_transactions_txn_id_occurred_at" "gateway_transactions",
    createIndex "ix_gateway_transactions_tenant_txn_id_occurred_at" "gateway_transactions"
      ["tenant_id", "txn_id", "occurred_at"],
    dropIndex "ix_ledger_entries_txn_id_occurred_at" "ledger_entries",
    createIndex "ix_ledger_entries_tenant_txn_id_occurred_at" "ledger_entries" ["tenant_id", "txn_id", "occurred_at"],
    createIndex "ix_gateway_transactions_tenant_id" "gateway_transactions" ["tenant_id"],
    createIndex "ix_ledger_entries_tenant_id" "ledger_entries" ["tenant_id"],
    dropIndex "ix_reconciliation_results_status_id" "reconciliation_results",
    createIndex "ix_reconciliation_results_tenant_status_id" "reconciliation_results" ["tenant_id", "status", idDesc],
    dropIndex "ix_reconciliation_results_resolved_at" "reconciliation_results",
    createIndex "ix_reconciliation_results_tenant_resolved_at" "reconciliation_results" ["tenant_id", "resolved_at"],
    createIndex "ix_reconciliation_results_tenant_id_id" "reconciliation_results" ["tenant_id", idDesc],
    dropIndex "ix_exceptions_open_id" "exceptions",
    createIndex "ix_exceptions_tenant_open_id" "exceptions" ["tenant_id", idDesc] false (some (.isNull "closed_at")),
    dropIndex "ix_exceptions_closed_id" "exceptions",
    createIndex "ix_exceptions_tenant_closed_id" "exceptions" ["tenant_id", idDesc] false
      (some (.isNotNull "closed_at")),
    createIndex "ix_exceptions_tenant_id_id" "exceptions" ["tenant_id", idDesc]]

/-- `upgrade` of 0002. -/
def upgrade (now : Datetime) : List (Statement postgres) :=
  createTables ++ .insert "accounts" "name" (defaultAccount now) :: tenantedTables.flatMap addTenant ++
    (rebuildUniqueness ++ rebuildReadPath)

/-- The read path of 0001. -/
def restoreReadPath : List (Statement postgres) :=
  [dropIndex "ix_exceptions_tenant_id_id" "exceptions",
    dropIndex "ix_exceptions_tenant_closed_id" "exceptions",
    createIndex "ix_exceptions_closed_id" "exceptions" [idDesc] false (some (.isNotNull "closed_at")),
    dropIndex "ix_exceptions_tenant_open_id" "exceptions",
    createIndex "ix_exceptions_open_id" "exceptions" [idDesc] false (some (.isNull "closed_at")),
    dropIndex "ix_reconciliation_results_tenant_id_id" "reconciliation_results",
    dropIndex "ix_reconciliation_results_tenant_resolved_at" "reconciliation_results",
    createIndex "ix_reconciliation_results_resolved_at" "reconciliation_results" ["resolved_at"],
    dropIndex "ix_reconciliation_results_tenant_status_id" "reconciliation_results",
    createIndex "ix_reconciliation_results_status_id" "reconciliation_results" ["status", idDesc],
    dropIndex "ix_ledger_entries_tenant_id" "ledger_entries",
    dropIndex "ix_gateway_transactions_tenant_id" "gateway_transactions",
    dropIndex "ix_ledger_entries_tenant_txn_id_occurred_at" "ledger_entries",
    createIndex "ix_ledger_entries_txn_id_occurred_at" "ledger_entries" ["txn_id", "occurred_at"],
    dropIndex "ix_gateway_transactions_tenant_txn_id_occurred_at" "gateway_transactions",
    createIndex "ix_gateway_transactions_txn_id_occurred_at" "gateway_transactions" ["txn_id", "occurred_at"]]

/-- The uniqueness of 0001. -/
def restoreUniqueness : List (Statement postgres) :=
  (resultUniqueIndexes.flatMap fun index =>
    [dropIndex ("uq_reconciliation_results_tenant_" ++ index.1) "reconciliation_results",
      createIndex ("uq_reconciliation_results_" ++ index.1) "reconciliation_results" [index.2.1] true
        (some index.2.2)]) ++
  [dropIndex "uq_ledger_entries_tenant_idempotency_key" "ledger_entries",
    createIndex "uq_ledger_entries_idempotency_key" "ledger_entries" ["idempotency_key"] true,
    dropIndex "uq_gateway_transactions_tenant_idempotency_key" "gateway_transactions",
    createIndex "uq_gateway_transactions_idempotency_key" "gateway_transactions" ["idempotency_key"] true]

/-- A tenant column and its foreign key are dropped. -/
def dropTenant (table : String) : List (Statement postgres) :=
  [.drop table (tenantKey table).name, .dropColumn table "tenant_id"]

/-- `downgrade` of 0002. -/
def downgrade : List (Statement postgres) :=
  (restoreReadPath ++ restoreUniqueness) ++ (tenantedTables.reverse.flatMap dropTenant ++
    [.dropTable "api_keys", .dropTable "accounts", .dropType "account_kind"])

end MultiTenancy

/-- The catalog after `createTables`. -/
def schemaWithAccounts : Catalog postgres := (defineAll MultiTenancy.createTables schema0001).getD {}

/-- The catalog after the tenant columns. -/
def schemaWithTenants : Catalog postgres :=
  (defineAll (MultiTenancy.tenantedTables.flatMap MultiTenancy.addTenant) schemaWithAccounts).getD {}

/-- The catalog of 0002. -/
def schema0002 : Catalog postgres :=
  (defineAll (MultiTenancy.rebuildUniqueness ++ MultiTenancy.rebuildReadPath) schemaWithTenants).getD {}

section Catalogs
open MultiTenancy

/-- What the proofs read off the catalogs. -/
lemma catalogs :
    ((defineAll InitialSchema.upgrade {}).isSome = true ∧ (defineAll createTables schema0001).isSome = true ∧
      (defineAll (tenantedTables.flatMap addTenant) schemaWithAccounts).isSome = true ∧
      (defineAll (rebuildUniqueness ++ rebuildReadPath) schemaWithTenants).isSome = true ∧
      defineAll downgrade schema0002 = some schema0001) ∧
    ((∀ T ∈ schemaWithAccounts.tables, T.name = "accounts" → T = accounts) ∧
      (∀ rule ∈ schemaWithAccounts.rules, rule.table = "accounts" → rule.kind.heldAlone ["id"] = true) ∧
      schemaWithAccounts.hasColumn "accounts" "name" = true ∧
      ∀ t ∈ tenantedTables, ∀ rule ∈ schemaWithAccounts.rules, rule.reads t "tenant_id" = false) ∧
    ((∀ T ∈ schema0001.tables, T.name ≠ "accounts" ∧ T.name ≠ "api_keys" ∧ T.columns.all (·.name != "tenant_id")) ∧
      (∀ rule ∈ schema0001.rules, rule.table ≠ "accounts" ∧ rule.kind.refersTo.any (·.1 == "accounts") = false ∧
        ∀ t ∈ tenantedTables, rule.reads t "tenant_id" = false)) ∧
    (∀ rule ∈ (rebuildUniqueness ++ rebuildReadPath).flatMap Statement.created, rule.kind.plain = true ∨
      ∃ finer ∈ schema0001.rules, finer.table = rule.table ∧ finer.kind.refines rule.kind = true) ∧
    (∀ rule ∈ (restoreReadPath ++ restoreUniqueness).flatMap Statement.created, rule ∈ schema0001.rules) ∧
    (schema0002.tables.map (fun T => (T.name, T.columns.map Column.name)) =
      [("gateway_transactions", ["id", "txn_id", "amount", "currency", "occurred_at", "gateway_ref", "raw_payload",
          "idempotency_key", "duplicate_count", "received_at", "reconciled_at", "tenant_id"]),
        ("ledger_entries", ["id", "entry_id", "txn_id", "amount", "currency", "occurred_at", "raw_payload",
          "idempotency_key", "duplicate_count", "received_at", "reconciled_at", "tenant_id"]),
        ("outbox_events", ["id", "source", "row_id", "payload", "created_at", "published_at", "attempts"]),
        ("reconciliation_results", ["id", "gateway_txn_id", "ledger_entry_id", "status", "match_layer", "resolved_at",
          "notes", "match_latency_ms", "source_message_id", "tenant_id"]),
        ("exceptions", ["id", "reconciliation_result_id", "opened_at", "closed_at", "resolution_notes", "tenant_id"]),
        ("accounts", ["id", "name", "kind", "created_at", "last_seen_at"]),
        ("api_keys", ["id", "account_id", "key_hash", "prefix", "label", "created_at", "revoked_at"])]) ∧
    ∀ t ∈ ["gateway_transactions", "ledger_entries"],
      (⟨"uq_" ++ t ++ "_tenant_idempotency_key", t, .index true ["tenant_id", "idempotency_key"] none⟩ :
        Rule postgres) ∈ schema0002.rules := by
  decide +kernel

/-- A catalog that is defined. -/
lemma eq_some_getD {C : Option (Catalog postgres)} (defined : C.isSome = true) : C = some (C.getD {}) := by
  obtain ⟨C, rfl⟩ := Option.isSome_iff_exists.1 defined
  rfl

lemma defineAll_initial : defineAll InitialSchema.upgrade {} = some schema0001 := by
  rw [schema0001]
  exact eq_some_getD catalogs.1.1

lemma defineAll_accounts : defineAll createTables schema0001 = some schemaWithAccounts := by
  rw [schemaWithAccounts]
  exact eq_some_getD catalogs.1.2.1

lemma defineAll_tenants : defineAll (tenantedTables.flatMap addTenant) schemaWithAccounts = some schemaWithTenants := by
  rw [schemaWithTenants]
  exact eq_some_getD catalogs.1.2.2.1

lemma defineAll_indexes :
    defineAll (rebuildUniqueness ++ rebuildReadPath) schemaWithTenants = some schema0002 := by
  rw [schema0002]
  exact eq_some_getD catalogs.1.2.2.2.1

end Catalogs

end LedgerLoop
