import LedgerLoop.Db.Schema
import LedgerLoop.Worker.Invariant

/-!
# The tenancy migration

`upgrade` of 0002 succeeds on every content of the 0001 schema, and `downgrade` is its inverse. On the
content the system has reached, `downgrade` succeeds exactly if no idempotency key occurs under two
tenants on one side: the four indexes on `reconciliation_results` never stand in its way, because a
result has the tenant of its rows (`Consistent`).
-/

set_option autoImplicit false

namespace LedgerLoop
open LedgerLoop.Library Ddl MultiTenancy

/-- The rows after `upgrade`: the default account, and it is the tenant of every row. -/
def migrated (now : Datetime) (d : Data postgres) : Data postgres := fun t =>
  if t = "accounts" then [defaultAccount now]
  else if t ∈ tenantedTables then (d t).map fun r => Function.update r "tenant_id" (some firstId)
  else d t

/-- The rows after `downgrade`: no accounts, no keys and no tenants. -/
def withoutTenants (d : Data postgres) : Data postgres := fun t =>
  if t = "accounts" ∨ t = "api_keys" then []
  else if t ∈ tenantedTables then (d t).map fun r => Function.update r "tenant_id" none
  else d t

/-- From nothing to the 0001 schema. -/
lemma migrate_initial : migrate InitialSchema.upgrade {} = (⟨schema0001, fun _ => []⟩, true) := by
  refine migrate_some ?_
  have created : ∀ rule ∈ InitialSchema.upgrade.flatMap Statement.created, rule.Holds fun _ => [] :=
    fun rule _ => Rule.holds_of_empty rfl
  rw [run_structural _ ⟨by rintro T ⟨⟩, by rintro rule ⟨⟩⟩ defineAll_initial, if_pos created]
  simp [InitialSchema.upgrade, createIndex, Statement.Structural]

section Upgrade
variable {C C' : Catalog postgres} {d : Data postgres} {t : String} {ts : List String} {now : Datetime}

/-- The default account becomes the tenant of every row of a table. -/
lemma run_addTenant (holds : C.Holds d) (stored : d "accounts" = [defaultAccount now]) (other : "accounts" ≠ t)
    (free : ∀ rule ∈ C.rules, rule.reads t "tenant_id" = false) (defined : defineAll (addTenant t) C = some C') :
    run (addTenant t) ⟨C, d⟩ = some ⟨C', d.write t "tenant_id" (some firstId)⟩ ∧
      ∀ rule ∈ C'.rules, rule = tenantKey t ∨ rule ∈ C.rules := by
  simp only [addTenant, defineAll, List.foldlM_cons, List.foldlM_nil] at defined
  obtain ⟨C1, added, defined⟩ := Option.bind_eq_some_iff.1 defined
  obtain ⟨C2, updated, defined⟩ := Option.bind_eq_some_iff.1 defined
  obtain ⟨C3, required, defined⟩ := Option.bind_eq_some_iff.1 defined
  obtain ⟨C4, keyed, defined⟩ := Option.bind_eq_some_iff.1 defined
  obtain rfl := Option.some.inj defined
  obtain ⟨rules1, column1⟩ := define_addColumn added
  obtain rfl := define_update updated
  have add := exec_addColumn holds rfl free added
  have null : C2.Holds (d.write t "tenant_id" none) := holds_of_exec add
  have single : d.write t "tenant_id" none "accounts" = [defaultAccount now] := by rw [write_of_ne other, stored]
  have fill := exec_update null (rules1 ▸ free)
    (fun T mem table column here name => column1 T mem table column here name ▸ ⟨by rintro ⟨⟩, by rintro _ ⟨⟩; rfl⟩)
    single rfl updated
  rw [write_write] at fill
  have backfilled : C2.Holds (d.write t "tenant_id" (some firstId)) := holds_of_exec fill
  have filled : ∀ r ∈ d.write t "tenant_id" (some firstId) t, r "tenant_id" = some firstId := by
    rw [write_self, List.forall_mem_map]
    exact fun r _ => Function.update_self ..
  have require := exec_setNotNull backfilled (fun r mem => by rw [filled r mem]; rintro ⟨⟩) required
  have notNull : C3.Holds (d.write t "tenant_id" (some firstId)) := holds_of_exec require
  have key := exec_structural (s := .create (tenantKey t)) trivial notNull keyed
  rw [if_pos] at key
  · obtain ⟨_, rules⟩ := addRule_some keyed
    refine ⟨?_, fun rule mem => ?_⟩
    · exact (run_cons add).trans ((run_cons fill).trans ((run_cons require).trans (run_cons key)))
    · rwa [rules, define_setNotNull required, rules1] at mem
  · intro rule mem
    obtain rfl := List.mem_singleton.1 mem
    refine fun r row => .inr ⟨defaultAccount now, ?_, (filled r row).symm⟩
    rw [write_of_ne other, stored]
    exact List.mem_singleton_self _

/-- The same for several tables. -/
lemma run_addTenants (holds : C.Holds d) (stored : d "accounts" = [defaultAccount now]) (nodup : ts.Nodup)
    (other : "accounts" ∉ ts) (free : ∀ t ∈ ts, ∀ rule ∈ C.rules, rule.reads t "tenant_id" = false)
    (defined : defineAll (ts.flatMap addTenant) C = some C') :
    run (ts.flatMap addTenant) ⟨C, d⟩ = some ⟨C', d.writeAll ts "tenant_id" (some firstId)⟩ := by
  induction ts generalizing C d with
  | nil =>
    obtain rfl := Option.some.inj defined
    rw [writeAll_nil]
    rfl
  | cons t ts ih =>
    obtain ⟨new, nodup⟩ := List.nodup_cons.1 nodup
    have apart : "accounts" ≠ t := fun eq => other (eq ▸ List.mem_cons_self)
    rw [List.flatMap_cons, defineAll_append] at defined
    obtain ⟨C1, first, rest⟩ := Option.bind_eq_some_iff.1 defined
    obtain ⟨one, rules⟩ := run_addTenant holds stored apart (free t List.mem_cons_self) first
    have holds1 : C1.Holds (d.write t "tenant_id" (some firstId)) := holds_of_run holds one
    rw [List.flatMap_cons, run_append, one, Option.bind_some, writeAll_cons]
    refine ih holds1 (by rw [write_of_ne apart, stored]) nodup (fun mem => other (List.mem_cons_of_mem _ mem))
      (fun t' mem rule here => ?_) rest
    rcases rules rule here with rfl | was
    · have ne : t ≠ t' := fun eq => new (eq ▸ mem)
      have ne' : "accounts" ≠ t' := fun eq => other (List.mem_cons_of_mem _ (eq ▸ mem))
      simp [Rule.reads, tenantKey, Kind.refersTo, ne, ne']
    · exact free t' (List.mem_cons_of_mem _ mem) rule was

/-- The tables that are written. -/
lemma migrated_eq :
    migrated now d = Data.writeAll (Function.update d "accounts" [defaultAccount now]) tenantedTables "tenant_id"
      (some firstId) := by
  funext t
  by_cases account : t = "accounts"
  · subst account
    have other : "accounts" ∉ tenantedTables := by decide
    simp [migrated, Data.writeAll, other]
  · simp [migrated, Data.writeAll, account, Function.update_of_ne]

/-- The rules of 0001 do not see the migration. -/
lemma holds_migrated {rule : Rule postgres} (mem : rule ∈ schema0001.rules) :
    rule.Holds (migrated now d) ↔ rule.Holds d := by
  obtain ⟨own, apart, free⟩ := catalogs.2.2.1.2 rule mem
  rw [migrated_eq, Rule.holds_writeAll free, Rule.holds_update own apart]

/-- The default account fits its table. -/
lemma takes_defaultAccount : ∀ column ∈ accounts.columns, column.Takes (defaultAccount now column.name) := by
  simp only [accounts, List.forall_mem_cons]
  refine ⟨?_, ?_, ?_, ?_, ?_, by simp⟩ <;> exact ⟨by rintro ⟨⟩, by rintro _ ⟨⟩; rfl⟩

/-- Every content of 0001 is migrated. -/
lemma run_upgrade (content : Content schema0001) :
    run (upgrade now) ⟨schema0001, content.data⟩ = some ⟨schema0002, migrated now content.data⟩ := by
  obtain ⟨_, ⟨accountsTable, alone, named, free⟩, ⟨names, _⟩, rebuilt, _⟩ := catalogs
  have noAccounts : content.data "accounts" = [] := content.tidy.tables _ fun T mem => (names T mem).1
  have noKeys : content.data "api_keys" = [] := content.tidy.tables _ fun T mem => (names T mem).2.1
  have tables : run createTables ⟨schema0001, content.data⟩ = some ⟨schemaWithAccounts, content.data⟩ := by
    rw [run_structural _ content.holds defineAll_accounts, if_pos]
    · intro rule mem
      have table : rule.table = "accounts" ∨ rule.table = "api_keys" := by
        revert rule
        decide
      exact Rule.holds_of_empty (by rcases table with eq | eq <;> rw [eq] <;> assumption)
    · simp [createTables, createIndex, Statement.Structural, accounts, apiKeys, noAccounts, noKeys]
  have holds : schemaWithAccounts.Holds content.data := holds_of_run content.holds tables
  have defined : (Statement.insert "accounts" "name" (defaultAccount now)).define schemaWithAccounts =
      some schemaWithAccounts := by simp only [Statement.define, named, if_true]
  have insert := exec_insert holds noAccounts (fun T mem table => accountsTable T mem table ▸ takes_defaultAccount)
    (by simp [defaultAccount, cells]) alone defined
  have stored : schemaWithAccounts.Holds (Function.update content.data "accounts" [defaultAccount now]) :=
    holds_of_exec insert
  have kept : Function.update content.data "accounts" [defaultAccount now] "accounts" = [defaultAccount now] :=
    Function.update_self ..
  have tenants := run_addTenants stored kept (by decide) (by decide) free defineAll_tenants
  rw [← migrated_eq] at tenants
  have tenanted : schemaWithTenants.Holds (migrated now content.data) :=
    holds_of_run stored tenants
  have onRules : ∀ s ∈ rebuildUniqueness ++ rebuildReadPath, s.onRule = true := by decide
  have indexes : run (rebuildUniqueness ++ rebuildReadPath) ⟨schemaWithTenants, migrated now content.data⟩ =
      some ⟨schema0002, migrated now content.data⟩ := by
    rw [run_structural _ tenanted defineAll_indexes, if_pos]
    · intro rule mem
      rcases rebuilt rule mem with plain | ⟨finer, original, table, refines⟩
      · exact Rule.holds_of_plain plain
      · exact Rule.holds_of_refines table refines ((holds_migrated original).2 (content.holds.rules finer original))
    · exact fun s mem => structural_of_onRule (onRules s mem)
  rw [upgrade, run_append, run_append, tables, Option.bind_some, run_cons insert, tenants,
    Option.bind_some, indexes]

end Upgrade

section Downgrade
variable {C C' : Catalog postgres} {d : Data postgres} {t : String} {ts : List String}

/-- The tenant column goes with its values. -/
lemma run_dropTenants (holds : C.Holds d) (defined : defineAll (ts.flatMap dropTenant) C = some C') :
    run (ts.flatMap dropTenant) ⟨C, d⟩ = some ⟨C', d.writeAll ts "tenant_id" none⟩ := by
  induction ts generalizing C d with
  | nil =>
    obtain rfl := Option.some.inj defined
    rw [writeAll_nil]
    rfl
  | cons t ts ih =>
    rw [List.flatMap_cons, defineAll_append] at defined
    obtain ⟨C2, first, rest⟩ := Option.bind_eq_some_iff.1 defined
    simp only [dropTenant, defineAll, List.foldlM_cons, List.foldlM_nil] at first
    obtain ⟨C1, unkeyed, first⟩ := Option.bind_eq_some_iff.1 first
    obtain ⟨C2', dropped, first⟩ := Option.bind_eq_some_iff.1 first
    obtain rfl := Option.some.inj first
    have key := exec_structural (s := .drop t (tenantKey t).name) trivial holds unkeyed
    rw [if_pos (by rintro rule ⟨⟩)] at key
    have column := exec_dropColumn (holds_of_exec key : C1.Holds d) dropped
    have both : run (dropTenant t) ⟨C, d⟩ = some ⟨C2', d.write t "tenant_id" none⟩ :=
      (run_cons key).trans (run_cons column)
    rw [List.flatMap_cons, run_append, both, Option.bind_some, writeAll_cons]
    exact ih (holds_of_exec column : C2'.Holds _) rest

/-- The tables that are written and dropped. -/
lemma withoutTenants_eq : withoutTenants d = Function.update (Function.update
    (d.writeAll tenantedTables.reverse "tenant_id" none) "api_keys" []) "accounts" [] := by
  funext t
  by_cases account : t = "accounts"
  · simp [withoutTenants, account]
  · by_cases key : t = "api_keys"
    · simp [withoutTenants, key]
    · simp [withoutTenants, Data.writeAll, account, key]

/-- The downgrade goes through exactly if the rules of 0001 that it restores hold. -/
lemma run_downgrade (holds : schema0002.Holds d) : run downgrade ⟨schema0002, d⟩ =
    if ∀ rule ∈ (restoreReadPath ++ restoreUniqueness).flatMap Statement.created, rule.Holds d then
      some ⟨schema0001, withoutTenants d⟩ else none := by
  have defined := catalogs.1.2.2.2.2
  rw [downgrade, defineAll_append] at defined
  obtain ⟨C1, restored, defined⟩ := Option.bind_eq_some_iff.1 defined
  rw [defineAll_append] at defined
  obtain ⟨C2, cleared, defined⟩ := Option.bind_eq_some_iff.1 defined
  simp only [defineAll, List.foldlM_cons, List.foldlM_nil] at defined
  obtain ⟨C3, noKeys, defined⟩ := Option.bind_eq_some_iff.1 defined
  obtain ⟨C4, noAccounts, defined⟩ := Option.bind_eq_some_iff.1 defined
  obtain ⟨C5, noType, defined⟩ := Option.bind_eq_some_iff.1 defined
  rw [← Option.some.inj defined]
  have onRules : ∀ s ∈ restoreReadPath ++ restoreUniqueness, s.onRule = true := by decide
  have restore := run_structural (fun s mem => structural_of_onRule (onRules s mem)) holds restored
  rw [downgrade, run_append, restore]
  by_cases admitted : ∀ rule ∈ (restoreReadPath ++ restoreUniqueness).flatMap Statement.created, rule.Holds d
  · rw [if_pos admitted, if_pos admitted, Option.bind_some, run_append]
    rw [if_pos admitted] at restore
    have holds1 : C1.Holds d := holds_of_run holds restore
    have tenants := run_dropTenants holds1 cleared
    have keys := exec_dropTable (holds_of_run holds1 tenants) noKeys
    have accounts := exec_dropTable (holds_of_exec keys) noAccounts
    have type := exec_structural (s := .dropType "account_kind") trivial (holds_of_exec accounts) noType
    rw [if_pos (by rintro rule ⟨⟩)] at type
    rw [tenants, Option.bind_some, withoutTenants_eq]
    exact (run_cons keys).trans ((run_cons accounts).trans (run_cons type))
  · rw [if_neg admitted, if_neg admitted]
    rfl

/-- The migration leaves nothing that `downgrade` does not undo. -/
lemma withoutTenants_migrated {now : Datetime} (content : Content schema0001) :
    withoutTenants (migrated now content.data) = content.data := by
  have names := catalogs.2.2.1.1
  funext t
  by_cases account : t = "accounts" ∨ t = "api_keys"
  · have empty : content.data t = [] := content.tidy.tables t fun T mem eq => by
      rcases account with rfl | rfl
      · exact (names T mem).1 eq
      · exact (names T mem).2.1 eq
    simp [withoutTenants, account, empty]
  · have account' := (not_or.1 account).1
    by_cases tenanted : t ∈ tenantedTables
    · have null : ∀ r ∈ content.data t, r "tenant_id" = none := by
        by_cases listed : ∃ T ∈ schema0001.tables, T.name = t
        · obtain ⟨T, mem, rfl⟩ := listed
          refine fun r row => content.tidy.columns T mem r row _ fun column here => ?_
          simpa using List.all_eq_true.1 (names T mem).2.2 column here
        · push Not at listed
          rw [content.tidy.tables t listed]
          rintro r ⟨⟩
      have undone : ∀ r ∈ content.data t, Function.update r "tenant_id" none = r := fun r row =>
        Function.update_eq_self_iff.2 (null r row).symm
      rw [withoutTenants, if_neg account, if_pos tenanted, migrated, if_neg account', if_pos tenanted, List.map_map]
      simp only [Function.comp_def, Function.update_idem]
      exact (List.map_congr_left undone).trans (List.map_id _)
    · rw [withoutTenants, if_neg account, if_neg tenanted, migrated, if_neg account', if_neg tenanted]

/-- No row and no value of 0001 is lost. -/
lemma map_withoutTenants {T : Table postgres} {column : Column postgres} (mem : T ∈ schema0001.tables)
    (here : column ∈ T.columns) :
    (withoutTenants d T.name).map (fun r => r column.name) = (d T.name).map fun r => r column.name := by
  obtain ⟨account, key, columns⟩ := catalogs.2.2.1.1 T mem
  have other : column.name ≠ "tenant_id" := by simpa using List.all_eq_true.1 columns column here
  rw [withoutTenants, if_neg (not_or.2 ⟨account, key⟩)]
  split_ifs
  · simp only [List.map_map, Function.comp_def, Function.update_of_ne other]
  · rfl

end Downgrade

/-! The rows of a store. -/

/-- The table of a side. -/
def IngestSource.table : IngestSource → String
  | .gateway => "gateway_transactions"
  | .ledger => "ledger_entries"

/-- The column a result refers to a raw row with. -/
def IngestSource.rawColumn : IngestSource → String
  | .gateway => "gateway_txn_id"
  | .ledger => "ledger_entry_id"

/-- The label of a status. -/
def ReconStatus.label : ReconStatus → String
  | .matched => "matched"
  | .unmatchedGatewayOnly => "unmatched_gateway_only"
  | .unmatchedLedgerOnly => "unmatched_ledger_only"
  | .duplicate => "duplicate"
  | .amountDrift => "amount_drift"
  | .timeDrift => "time_drift"

/-- The label of a layer. -/
def MatchLayer.label : MatchLayer → String
  | .exact => "exact"
  | .timeDrift => "time_drift"
  | .amountDrift => "amount_drift"
  | .duplicate => "duplicate"
  | .unmatchedSweep => "unmatched_sweep"

/-- The label of a kind of account. -/
def AccountKind.label : AccountKind → String
  | .real => "real"
  | .demo => "demo"

/-- The label of a side. -/
def IngestSource.label : IngestSource → String
  | .gateway => "gateway"
  | .ledger => "ledger"

/-- The columns of a raw row. -/
def RawRow.cells (side : IngestSource) (row : RawRow) : Row postgres :=
  let shared := [("occurred_at", some (.timestamp row.occurredAt))]
  let rest := [("raw_payload", some (.rawPayload row.rawPayload)), ("idempotency_key", some (.text row.idempotencyKey)),
    ("duplicate_count", some (.int row.duplicateCount)), ("received_at", some (.timestamp row.receivedAt)),
    ("reconciled_at", row.reconciledAt.map .timestamp), ("tenant_id", some (.int row.tenantId))]
  let money := [("txn_id", some (.text row.txnId)), ("amount", some (.numeric row.amount)),
    ("currency", some (.text row.currency))]
  LedgerLoop.cells (("id", some (.int row.id)) ::
    match side with
    | .gateway => money ++ shared ++ ("gateway_ref", some (.text row.ref)) :: rest
    | .ledger => ("entry_id", some (.text row.ref)) :: money ++ shared ++ rest)

/-- The columns of an outbox event. -/
def OutboxEvent.cells (e : OutboxEvent) : Row postgres :=
  LedgerLoop.cells [("id", some (.int e.id)), ("source", some (.label e.source.label)),
    ("row_id", some (.int e.rowId)), ("payload", some (.message e.payload)),
    ("created_at", some (.timestamp e.createdAt)), ("published_at", e.publishedAt.map .timestamp),
    ("attempts", some (.int e.attempts))]

/-- The columns of a result. -/
def ReconciliationResult.cells (r : ReconciliationResult) : Row postgres :=
  LedgerLoop.cells [("id", some (.int r.id)), ("gateway_txn_id", r.gatewayTxnId.map fun id : ℕ => .int id),
    ("ledger_entry_id", r.ledgerEntryId.map fun id : ℕ => .int id), ("status", some (.label r.status.label)),
    ("match_layer", some (.label r.matchLayer.label)), ("resolved_at", some (.timestamp r.resolvedAt)),
    ("notes", r.notes.map .text), ("match_latency_ms", r.matchLatencyMs.map .int),
    ("source_message_id", r.sourceMessageId.map .text), ("tenant_id", some (.int r.tenantId))]

/-- The columns of an exception. -/
def Exception_.cells (e : Exception_) : Row postgres :=
  LedgerLoop.cells [("id", some (.int e.id)), ("reconciliation_result_id", some (.int e.reconciliationResultId)),
    ("opened_at", some (.timestamp e.openedAt)), ("closed_at", e.closedAt.map .timestamp),
    ("resolution_notes", e.resolutionNotes.map .text), ("tenant_id", some (.int e.tenantId))]

/-- The columns of an account. -/
def Account.cells (a : Account) : Row postgres :=
  LedgerLoop.cells [("id", some (.int a.id)), ("name", some (.text a.name)), ("kind", some (.label a.kind.label)),
    ("created_at", some (.timestamp a.createdAt)), ("last_seen_at", some (.timestamp a.lastSeenAt))]

/-- The columns of an API key. -/
def ApiKey.cells (k : ApiKey) : Row postgres :=
  LedgerLoop.cells [("id", some (.int k.id)), ("account_id", some (.int k.accountId)),
    ("key_hash", some (.text k.keyHash)), ("prefix", some (.text k.displayPrefix)), ("label", some (.text k.label)),
    ("created_at", some (.timestamp k.createdAt)), ("revoked_at", k.revokedAt.map .timestamp)]

/-- The rows of a store, table by table. -/
def Store.rows (s : Store) : Data postgres := fun t =>
  if t = "gateway_transactions" then s.gatewayTransactions.map (RawRow.cells .gateway)
  else if t = "ledger_entries" then s.ledgerEntries.map (RawRow.cells .ledger)
  else if t = "outbox_events" then s.outboxEvents.map OutboxEvent.cells
  else if t = "reconciliation_results" then s.reconciliationResults.map ReconciliationResult.cells
  else if t = "exceptions" then s.exceptions.map Exception_.cells
  else if t = "accounts" then s.accounts.map Account.cells
  else if t = "api_keys" then s.apiKeys.map ApiKey.cells
  else []

/-- The tables with a tenant are those of a store. -/
structure Stores (d : Data postgres) (s : Store) : Prop where
  raw : ∀ side, d side.table = (s.raw side).map (RawRow.cells side)
  results : d "reconciliation_results" = s.reconciliationResults.map ReconciliationResult.cells
  exceptions : d "exceptions" = s.exceptions.map Exception_.cells

lemma Store.stores_rows (s : Store) : Stores s.rows s where
  raw side := by cases side <;> rfl
  results := rfl
  exceptions := rfl

lemma cells_eq_none {columns : List (String × Option Cell)} {c : String} (absent : c ∉ columns.map Prod.fst) :
    cells columns c = none := by
  have none_ : columns.lookup c = none := by
    rw [List.lookup_eq_none_iff]
    rintro p mem
    rw [bne_iff_ne]
    rintro rfl
    exact absent (List.mem_map_of_mem mem)
  rw [cells, none_]
  rfl

/-- The rows of a store have the columns of 0002. -/
lemma Store.tidy_rows (s : Store) : schema0002.Tidy s.rows := by
  have listed := catalogs.2.2.2.2.2.1
  constructor
  · intro t other
    have apart : t ∉ (schema0002.tables.map fun T => (T.name, T.columns.map Column.name)).map Prod.fst := by
      rw [List.map_map, List.mem_map]
      rintro ⟨T, mem, eq⟩
      exact other T mem eq
    rw [listed] at apart
    simp only [List.map_cons, List.map_nil, List.mem_cons, List.not_mem_nil, or_false, not_or] at apart
    simp [Store.rows, apart]
  · intro T mem r row c lacks
    have here := List.mem_map_of_mem (f := fun T : Table postgres => (T.name, T.columns.map Column.name)) mem
    have absent : c ∉ T.columns.map Column.name := by
      rw [List.mem_map]
      rintro ⟨column, mem, eq⟩
      exact lacks column mem eq
    rw [listed] at here
    simp only [List.mem_cons, List.not_mem_nil, or_false, Prod.mk.injEq] at here
    rcases here with ⟨name, columns⟩ | ⟨name, columns⟩ | ⟨name, columns⟩ | ⟨name, columns⟩ | ⟨name, columns⟩ |
      ⟨name, columns⟩ | ⟨name, columns⟩ <;>
    · rw [name] at row
      rw [columns] at absent
      obtain ⟨x, _, rfl⟩ := List.mem_map.1 row
      exact cells_eq_none absent

/-- On a side, an idempotency key belongs to one tenant. -/
def KeysApart (s : Store) : Prop :=
  ∀ side, ∀ a ∈ s.raw side, ∀ b ∈ s.raw side, a.idempotencyKey = b.idempotencyKey → a.tenantId = b.tenantId

section Reached
variable {s : Store} {d : Data postgres} {side : IngestSource}

/-- The unique index of 0001 for the results of one kind on one side. -/
def resultKind (active : Bool) (side : IngestSource) : Kind postgres :=
  .index true [side.rawColumn] (some (.and (.isNotNull side.rawColumn)
    (if active then .differs "status" "duplicate" else .equals "status" "duplicate")))

/-- The unique index of 0001 for the idempotency keys of a side. -/
def keyIndex (side : IngestSource) : Rule postgres :=
  ⟨"uq_" ++ side.table ++ "_idempotency_key", side.table, .index true ["idempotency_key"] none⟩

lemma cells_rawColumn {r : ReconciliationResult} :
    r.cells side.rawColumn = (r.rawId side).map fun id : ℕ => Cell.int id := by
  cases side <;> rfl

/-- Both conditions are true. -/
lemma eval_and {r : Row postgres} {a b : Condition} (true_ : (a.and b).eval r = some true) : b.eval r = some true := by
  rw [Condition.eval] at true_
  by_cases no : a.eval r = some false ∨ b.eval r = some false
  · rw [if_pos no] at true_
    cases true_
  · rw [if_neg no] at true_
    by_cases both : a.eval r = some true ∧ b.eval r = some true
    · exact both.2
    · rw [if_neg both] at true_
      cases true_

/-- The predicates of the result indexes. -/
lemma eval_status {r : ReconciliationResult} {active : Bool}
    (selected :
      Condition.eval r.cells (if active then .differs "status" "duplicate" else .equals "status" "duplicate") =
      some true) : r.active = active := by
  have status : r.cells "status" = some (.label r.status.label) := rfl
  cases active with
  | true =>
    have differs : (Cell.label r.status.label != .label "duplicate") = true :=
      Option.some.inj ((congrArg (Option.map _) status).symm.trans selected)
    revert differs
    unfold ReconciliationResult.active
    cases r.status <;> decide
  | false =>
    have equals : (Cell.label r.status.label == .label "duplicate") = true :=
      Option.some.inj ((congrArg (Option.map _) status).symm.trans selected)
    revert equals
    unfold ReconciliationResult.active
    cases r.status <;> decide

/-- The result indexes of 0001 hold of a consistent store, whatever the tenants. -/
lemma resultKind_holds (consistent : Consistent s) (stores : Stores d s) (active : Bool) :
    (resultKind active side).Holds d (d "reconciliation_results") := by
  intro _
  rw [stores.results, List.pairwise_map]
  refine (List.pairwise_map.1 consistent.resultIds).imp_of_mem fun {r r'} mem mem' other collide => ?_
  obtain ⟨selected, selected'⟩ := collide.1 _ rfl
  obtain ⟨some_, same⟩ := collide.2 side.rawColumn List.mem_cons_self
  change r.cells side.rawColumn ≠ none at some_
  change r.cells side.rawColumn = r'.cells side.rawColumn at same
  rw [cells_rawColumn] at some_
  rw [cells_rawColumn, cells_rawColumn] at same
  obtain ⟨id, ref⟩ := Option.ne_none_iff_exists'.1 (mt (congrArg (Option.map _)) some_)
  rw [ref, Option.map_some, eq_comm, Option.map_eq_some_iff] at same
  obtain ⟨id', ref', eq⟩ := same
  obtain rfl : id' = id := Int.ofNat.inj (Cell.int.inj eq)
  exact other (congrArg _ (consistent.unique active side r mem r' mem' (eval_status (eval_and selected))
    (eval_status (eval_and selected')) id' ref ref'))

lemma collide_key {a b : RawRow} :
    Collide (D := postgres) ["idempotency_key"] none (RawRow.cells side a) (RawRow.cells side b) ↔
      a.idempotencyKey = b.idempotencyKey := by
  have key (row : RawRow) : RawRow.cells side row "idempotency_key" = some (.text row.idempotencyKey) := by
    cases side <;> rfl
  simp [Collide, key]

lemma collide_tenantKey {a b : RawRow} :
    Collide (D := postgres) ["tenant_id", "idempotency_key"] none (RawRow.cells side a) (RawRow.cells side b) ↔
      a.tenantId = b.tenantId ∧ a.idempotencyKey = b.idempotencyKey := by
  have key (row : RawRow) : RawRow.cells side row "idempotency_key" = some (.text row.idempotencyKey) := by
    cases side <;> rfl
  have tenant (row : RawRow) : RawRow.cells side row "tenant_id" = some (.int row.tenantId) := by
    cases side <;> rfl
  simp [Collide, key, tenant]

/-- The key index of 0001 holds exactly if no two tenants share a key. -/
lemma keyIndex_holds_iff (holds : schema0002.Holds d) (stores : Stores d s) :
    (keyIndex side).Holds d ↔
      ∀ a ∈ s.raw side, ∀ b ∈ s.raw side, a.idempotencyKey = b.idempotencyKey → a.tenantId = b.tenantId := by
  have unique : (s.raw side).Pairwise fun a b => ¬(a.tenantId = b.tenantId ∧ a.idempotencyKey = b.idempotencyKey) := by
    have rule := holds.rules _ (catalogs.2.2.2.2.2.2 side.table (by cases side <;> decide)) rfl
    change (d side.table).Pairwise _ at rule
    rw [stores.raw side, List.pairwise_map] at rule
    exact rule.imp fun apart same => apart (collide_tenantKey.2 same)
  have index : (keyIndex side).Holds d ↔ (s.raw side).Pairwise fun a b => a.idempotencyKey ≠ b.idempotencyKey := by
    have rows : (keyIndex side).Holds d ↔ (d side.table).Pairwise fun r r' => ¬Collide ["idempotency_key"] none r r' :=
      ⟨fun held => held rfl, fun held _ => held⟩
    rw [rows, stores.raw side, List.pairwise_map]
    exact List.Pairwise.iff fun a b => not_congr collide_key
  rw [index]
  constructor
  · intro apart a memA b memB same
    by_contra tenants
    have : Std.Symm fun a b : RawRow => a.idempotencyKey ≠ b.idempotencyKey := ⟨fun _ _ => Ne.symm⟩
    exact apart.forall memA memB (fun eq => tenants (congrArg _ eq)) same
  · intro shared
    exact unique.imp_of_mem fun memA memB apart same => apart ⟨shared _ memA _ memB same, same⟩

/-- What `downgrade` restores: the result indexes hold anyway. -/
lemma restored_iff (consistent : Consistent s) (holds : schema0002.Holds d) (stores : Stores d s) :
    (∀ rule ∈ (restoreReadPath ++ restoreUniqueness).flatMap Statement.created, rule.Holds d) ↔ KeysApart s := by
  have kinds : ∀ rule ∈ (restoreReadPath ++ restoreUniqueness).flatMap Statement.created, rule.kind.plain = true ∨
      (rule.table = "reconciliation_results" ∧ rule.kind ∈ [resultKind true .gateway, resultKind true .ledger,
        resultKind false .gateway, resultKind false .ledger]) ∨ rule ∈ [keyIndex .gateway, keyIndex .ledger] := by
    decide +kernel
  have listed : ∀ rule ∈ [keyIndex .gateway, keyIndex .ledger],
      rule ∈ (restoreReadPath ++ restoreUniqueness).flatMap Statement.created := by decide +kernel
  constructor
  · intro held side
    exact (keyIndex_holds_iff holds stores).1 (held _ (listed _ (by cases side <;> simp)))
  · intro apart rule mem
    rcases kinds rule mem with plain | ⟨table, kind⟩ | key
    · exact Rule.holds_of_plain plain
    · unfold Rule.Holds
      rw [table]
      simp only [List.mem_cons, List.not_mem_nil, or_false] at kind
      rcases kind with kind | kind | kind | kind <;> rw [kind] <;> exact resultKind_holds consistent stores _
    · simp only [List.mem_cons, List.not_mem_nil, or_false] at key
      rcases key with rfl | rfl <;> exact (keyIndex_holds_iff holds stores).2 (apart _)

end Reached

/-- A database of consistent tables, such as the empty one, that nobody is working on. -/
structure System.Sys.Quiet (s : System.Sys) : Prop where
  consistent : Consistent s.store
  drawn : ∀ side, ∀ row ∈ s.store.raw side, row.id ∈ s.drawn side
  idle : ∀ w, s.workers w = .idle

lemma System.Sys.Quiet.initial : System.Sys.initial.Quiet where
  consistent := .empty
  drawn := by rintro (_ | _) row ⟨⟩
  idle _ := rfl

lemma System.Sys.Quiet.inv {s : System.Sys} (quiet : s.Quiet) (config : MatchConfig) : s.Inv config where
  consistent := quiet.consistent
  drawn := quiet.drawn
  workers w := by rw [quiet.idle w]; trivial

/-- `upgrade` gives every row of a 0001 database the default account and is undone by `downgrade`. On a 0002
database the system has reached, `downgrade` commits exactly if no idempotency key occurs under two tenants,
and then drops no row and no original column; otherwise it changes nothing. -/
theorem tenancy_migration {config : MatchConfig} {now : Datetime} :
    (∀ content : Content schema0001,
      migrate (upgrade now) ⟨schema0001, content.data⟩ = (⟨schema0002, migrated now content.data⟩, true) ∧
        migrate downgrade (migrate (upgrade now) ⟨schema0001, content.data⟩).1 =
          (⟨schema0001, content.data⟩, true)) ∧
    ∀ (start u : System.Sys) (tr : List (System.Sys × System.Event)), start.Quiet →
      Run (System.Step config) start tr u →
      ∀ content : Content schema0002, Stores content.data u.store →
        ((migrate downgrade ⟨schema0002, content.data⟩).2 = true ↔ KeysApart u.store) ∧
        ((migrate downgrade ⟨schema0002, content.data⟩).2 = true →
          (migrate downgrade ⟨schema0002, content.data⟩).1 = ⟨schema0001, withoutTenants content.data⟩ ∧
          ∀ T ∈ schema0001.tables, ∀ column ∈ T.columns,
            (withoutTenants content.data T.name).map (fun r => r column.name) =
              (content.data T.name).map fun r => r column.name) ∧
        ((migrate downgrade ⟨schema0002, content.data⟩).2 = false →
          (migrate downgrade ⟨schema0002, content.data⟩).1 = ⟨schema0002, content.data⟩) := by
  constructor
  · intro content
    have up : run (upgrade now) ⟨schema0001, content.data⟩ = some ⟨schema0002, migrated now content.data⟩ :=
      run_upgrade content
    have restored : ∀ rule ∈ (restoreReadPath ++ restoreUniqueness).flatMap Statement.created,
        rule.Holds (migrated now content.data) := fun rule mem =>
      (holds_migrated (catalogs.2.2.2.2.1 rule mem)).2 (content.holds.rules rule (catalogs.2.2.2.2.1 rule mem))
    have down := run_downgrade (holds_of_run content.holds up)
    rw [if_pos restored, withoutTenants_migrated] at down
    rw [migrate_some up]
    exact ⟨rfl, migrate_some down⟩
  · intro start u tr quiet run content stores
    have inv : u.Inv config := run.invariant (quiet.inv config) fun inv st => st.inv inv
    have restored := restored_iff inv.consistent content.holds stores
    have down := run_downgrade content.holds
    by_cases apart : KeysApart u.store
    · rw [if_pos (restored.2 apart)] at down
      rw [migrate_some down]
      refine ⟨iff_of_true rfl apart, fun _ => ⟨rfl, fun T mem column here => ?_⟩, by rintro ⟨⟩⟩
      exact map_withoutTenants mem here
    · rw [if_neg fun held => apart (restored.1 held)] at down
      rw [migrate_none down]
      exact ⟨iff_of_false Bool.false_ne_true apart, by rintro ⟨⟩, fun _ => rfl⟩

/-! Two tenants, of which the first one's rows are matched. The second posts under a key of its own, or under the
first one's. -/

namespace Downgraded
open LedgerLoop.System

/-- Draws that give the row the id `rowId` and its event the id `eventId`. -/
def draws (rowId eventId : ℕ) : IngestDraws :=
  { Ingest.Sample.draws with rowId := fun i => rowId + i, eventId := fun i => eventId + i }

def events (key : String) : List Event :=
  [.openAccount Ingest.Sample.account,
    .ingest (.gateway 1 Ingest.Sample.payload "key-1" "null") (draws 1 1),
    .ingest (.ledger 1 [Ingest.Sample.entry]) (draws 1 2),
    .load 0 (Sample.messageOf .gateway (Sample.gatewayRow 0 "key-1")) none,
    .find 0 [facts (Sample.ledgerRow 0 Ingest.Sample.entry) .ledger] (.newYear 5),
    .apply 0 (.newYear 5) (Sample.drawsAt 1),
    .openAccount { Ingest.Sample.account with id := 2, name := "globex" },
    .ingest (.gateway 2 Ingest.Sample.payload key "null") (draws 2 3)]

def end_ (key : String) : Sys := ((replay (step .shipped) Sys.initial (events key)).map Prod.snd).getD {}

lemma replayed {key : String} (runs : (replay (step .shipped) Sys.initial (events key)).isSome = true) :
    ∃ tr, replay (step .shipped) Sys.initial (events key) = some (tr, end_ key) := by
  obtain ⟨⟨tr, u⟩, eq⟩ := Option.isSome_iff_exists.1 runs
  exact ⟨tr, by rw [end_, eq]; rfl⟩

def shared : Content schema0002 where
  data := (end_ "key-1").store.rows
  tidy := (end_ "key-1").store.tidy_rows
  holds := by decide +kernel

def apart : Content schema0002 where
  data := (end_ "key-2").store.rows
  tidy := (end_ "key-2").store.tidy_rows
  holds := by decide +kernel

end Downgraded

open Downgraded in
/-- The downgrade of two reached databases: with a key under two tenants, and with each key under one. -/
theorem tenancy_migration_sample :
    (migrate downgrade ⟨schema0002, shared.data⟩).2 = false ∧
      (end_ "key-1").store.reconciliationResults.length = 1 ∧ (end_ "key-1").store.gatewayTransactions.length = 2 ∧
      migrate downgrade ⟨schema0002, apart.data⟩ = (⟨schema0001, withoutTenants apart.data⟩, true) ∧
      (apart.data "accounts").length = 2 ∧
      (withoutTenants apart.data "gateway_transactions").map (fun r => r "tenant_id") = [none, none] ∧
      (withoutTenants apart.data "reconciliation_results").length = 1 := by
  obtain ⟨tr, refused⟩ := @replayed "key-1" (by decide +kernel)
  obtain ⟨tr', committed⟩ := @replayed "key-2" (by decide +kernel)
  have reached := (@tenancy_migration .shipped (.newYear 0)).2 System.Sys.initial (end_ "key-1") tr
    .initial (.of_replay System.step_iff.1 refused) shared (end_ "key-1").store.stores_rows
  have reached' := (@tenancy_migration .shipped (.newYear 0)).2 System.Sys.initial (end_ "key-2") tr'
    .initial (.of_replay System.step_iff.1 committed) apart (end_ "key-2").store.stores_rows
  have one : ¬∀ a ∈ (end_ "key-1").store.raw .gateway, ∀ b ∈ (end_ "key-1").store.raw .gateway,
      a.idempotencyKey = b.idempotencyKey → a.tenantId = b.tenantId := by decide +kernel
  have each : KeysApart (end_ "key-2").store := by
    rintro (_ | _)
    · decide +kernel
    · decide +kernel
  have commits := reached'.1.2 each
  exact ⟨Bool.eq_false_iff.2 fun commits => one (reached.1.1 commits .gateway), by decide +kernel, by decide +kernel,
    Prod.ext (reached'.2.1 commits).1 commits, by decide +kernel, by decide +kernel, by decide +kernel⟩

end LedgerLoop
