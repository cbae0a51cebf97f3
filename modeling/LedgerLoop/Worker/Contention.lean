import LedgerLoop.Worker.DemoRetention

/-!
# Demo retention amid other transactions

A pass of `sweep_demo_accounts` whose statements run one by one under READ COMMITTED while matchers,
sweeps, ingestion and requests commit between them. A transaction sees what is committed less what it
has deleted itself; rows it has deleted are locked, and an account whose row it has deleted cannot be
referenced, until it ends.

Whatever commits meanwhile, a transaction that gets to its end leaves `deleteAccount` of the committed
store, since its last statement finds no row of the account left (`Inv.commit_eq`), and one that does not
leaves nothing. But nothing in the loop catches what a transaction raises, so that the accounts behind
the one it was about are not reached (`demo_deletion_iff`).
-/

set_option autoImplicit false

namespace LedgerLoop
open LedgerLoop.Library

namespace Contention
open Sweeper LedgerLoop.System

/-- A row of a table. -/
inductive Row where
  | account (a : Account)
  | apiKey (key : ApiKey)
  | raw (side : IngestSource) (row : RawRow)
  | result (r : ReconciliationResult)
  | exception_ (e : Exception_)

/-- The account a row belongs to. -/
def Row.owner : Row → ℕ
  | .account a => a.id
  | .apiKey key => key.accountId
  | .raw _ row => row.tenantId
  | .result r => r.tenantId
  | .exception_ e => e.tenantId

/-- A store has a row. -/
def Holds (s : Store) : Row → Prop
  | .account a => a ∈ s.accounts
  | .apiKey key => key ∈ s.apiKeys
  | .raw side row => row ∈ s.raw side
  | .result r => r ∈ s.reconciliationResults
  | .exception_ e => e ∈ s.exceptions

/-- A store without some rows. -/
def hide (gone s : Store) : Store where
  accounts := deleteWhere (fun a => decide (a ∈ gone.accounts)) s.accounts
  apiKeys := deleteWhere (fun key => decide (key ∈ gone.apiKeys)) s.apiKeys
  gatewayTransactions :=
    deleteWhere (fun row => decide (row ∈ gone.gatewayTransactions)) s.gatewayTransactions
  ledgerEntries := deleteWhere (fun row => decide (row ∈ gone.ledgerEntries)) s.ledgerEntries
  outboxEvents := s.outboxEvents
  reconciliationResults :=
    deleteWhere (fun r => decide (r ∈ gone.reconciliationResults)) s.reconciliationResults
  exceptions := deleteWhere (fun e => decide (e ∈ gone.exceptions)) s.exceptions

/-- The rows of `gone`, and those a statement took from `view` to leave `left`. -/
def grow (gone view left : Store) : Store where
  accounts := gone.accounts ++ deleteWhere (fun a => decide (a ∈ left.accounts)) view.accounts
  apiKeys := gone.apiKeys ++ deleteWhere (fun key => decide (key ∈ left.apiKeys)) view.apiKeys
  gatewayTransactions := gone.gatewayTransactions ++
    deleteWhere (fun row => decide (row ∈ left.gatewayTransactions)) view.gatewayTransactions
  ledgerEntries := gone.ledgerEntries ++
    deleteWhere (fun row => decide (row ∈ left.ledgerEntries)) view.ledgerEntries
  reconciliationResults := gone.reconciliationResults ++
    deleteWhere (fun r => decide (r ∈ left.reconciliationResults)) view.reconciliationResults
  exceptions := gone.exceptions ++
    deleteWhere (fun e => decide (e ∈ left.exceptions)) view.exceptions

section Rows
variable {s gone view left : Store} {row : Row} {accountId : ℕ} {statement : Statement}

lemma holds_hide : Holds (hide gone s) row ↔ Holds s row ∧ ¬Holds gone row := by
  rcases row with a | key | ⟨_ | _, row⟩ | r | e <;>
    simp [Holds, hide, Store.raw, mem_deleteWhere]

lemma hide_empty : hide {} s = s := by
  simp [hide, deleteWhere]

lemma grow_self : grow {} view view = {} := by
  simp [grow, deleteWhere]

lemma holds_grow :
    Holds (grow gone view left) row ↔ Holds gone row ∨ (Holds view row ∧ ¬Holds left row) := by
  rcases row with a | key | ⟨_ | _, row⟩ | r | e <;>
    simp [Holds, grow, Store.raw, mem_deleteWhere]

lemma holds_deleteAccount :
    Holds (deleteAccount s accountId) row ↔ Holds s row ∧ row.owner ≠ accountId := by
  rcases row with a | key | ⟨_ | _, row⟩ | r | e <;>
    simp [Holds, Row.owner, deleteAccount, Store.raw, mem_deleteWhere]

/-- Hiding exactly the rows of an account deletes it. -/
lemma hide_eq (own : ∀ row, Holds s row → (Holds gone row ↔ row.owner = accountId)) :
    hide gone s = deleteAccount s accountId := by
  have table {α : Type} [DecidableEq α] {rows gone : List α} {owner : α → ℕ}
      (own : ∀ a ∈ rows, a ∈ gone ↔ owner a = accountId) :
      deleteWhere (fun a => decide (a ∈ gone)) rows = deleteWhere (owner · == accountId) rows :=
    List.filter_congr fun a mem => by rw [Bool.eq_iff_iff]; simp [own a mem]
  simp only [hide, deleteAccount]
  congr 1
  · exact table fun a mem => own (.account a) mem
  · exact table fun key mem => own (.apiKey key) mem
  · exact table fun row mem => own (.raw .gateway row) mem
  · exact table fun row mem => own (.raw .ledger row) mem
  · exact table fun r mem => own (.result r) mem
  · exact table fun e mem => own (.exception_ e) mem

/-- A row that a deletion took met its condition. -/
lemma of_taken {α : Type} {p : α → Bool} {rows : List α} {a : α} (held : a ∈ rows)
    (taken : a ∉ deleteWhere p rows) : p a = true := by
  by_contra other
  exact taken (mem_deleteWhere.2 ⟨held, by simpa using other⟩)

/-- A statement takes rows of its account only. -/
lemma owner_of_executed (c : Consistent s)
    (ok : execute (hide gone s) accountId statement = .ok left) (held : Holds (hide gone s) row)
    (taken : ¬Holds left row) : row.owner = accountId := by
  cases statement with
  | exceptions =>
    obtain rfl := Except.ok.inj ok
    rcases row with a | key | ⟨_ | _, row⟩ | r | e
    case exception_ => simpa [Row.owner] using of_taken held taken
    all_goals exact absurd held taken
  | results =>
    obtain rfl := Except.ok.inj ok
    rcases row with a | key | ⟨_ | _, row⟩ | r | e
    case result => simpa [Row.owner] using of_taken held taken
    case exception_ =>
      -- the exception of a result that came after the first statement
      have cascade := of_taken held taken
      have stored := (holds_hide.1 held).1
      have refers : cascades s accountId e = true := by
        simp only [cascades, List.any_eq_true] at cascade ⊢
        obtain ⟨r, memR, both⟩ := cascade
        exact ⟨r, (mem_deleteWhere.1 memR).1, both⟩
      rw [cascades_eq c stored] at refers
      simpa [Row.owner] using refers
    all_goals exact absurd held taken
  | raw side =>
    simp only [execute] at ok
    split_ifs at ok
    obtain rfl := Except.ok.inj ok
    rcases row with a | key | ⟨side', row⟩ | r | e
    case raw =>
      by_cases here : side' = side
      · subst here
        simp only [Holds, Store.raw_setRaw] at taken
        simpa [Row.owner] using of_taken held taken
      · simp only [Holds, Store.raw_setRaw_ne _ _ _ _ (Ne.symm here)] at taken
        exact absurd held taken
    all_goals
      refine absurd held fun _ => taken ?_
      cases side <;> exact held
  | account =>
    simp only [execute] at ok
    split_ifs at ok
    obtain rfl := Except.ok.inj ok
    rcases row with a | key | ⟨_ | _, row⟩ | r | e
    case account => simpa [Row.owner] using of_taken held taken
    case apiKey => simpa [Row.owner] using of_taken held taken
    all_goals exact absurd held taken

/-- The last statement leaves no row of its account. -/
lemma bare_of_executed (ok : execute view accountId .account = .ok left) (held : Holds left row) :
    row.owner ≠ accountId := by
  simp only [execute] at ok
  split_ifs at ok with bare
  obtain rfl := Except.ok.inj ok
  simp only [owns, Bool.not_eq_true, Bool.or_eq_false_iff, List.any_eq_false, beq_iff_eq] at bare
  rcases row with a | key | ⟨_ | _, row⟩ | r | e
  · simpa [Row.owner] using (mem_deleteWhere.1 held).2
  · simpa [Row.owner] using (mem_deleteWhere.1 held).2
  · exact bare.1.2 row held
  · exact bare.2 row held
  · exact bare.1.1.2 r held
  · exact bare.1.1.1 e held

lemma hasAccount_deleteAccount {id : ℕ} (absent : s.hasAccount id = false ∨ id = accountId) :
    (deleteAccount s accountId).hasAccount id = false := by
  simp only [Store.hasAccount, List.any_eq_false, beq_iff_eq] at absent ⊢
  intro a mem idEq
  obtain ⟨stored, other⟩ := mem_deleteWhere.1 mem
  rcases absent with absent | rfl
  · exact absent a stored idEq
  · simp [idEq] at other

/-- The foreign keys to `accounts`: every row belongs to an account that is there. -/
def Owned (s : Store) : Prop := ∀ row, Holds s row → s.hasAccount row.owner = true

lemma Owned.deleteAccount (owned : Owned s) : Owned (deleteAccount s accountId) := by
  intro row held
  obtain ⟨stored, other⟩ := holds_deleteAccount.1 held
  obtain ⟨a, mem, idEq⟩ := Store.hasAccount_iff.1 (owned row stored)
  refine Store.hasAccount_iff.2 ⟨a, mem_deleteWhere.2 ⟨mem, ?_⟩, idEq⟩
  simpa [idEq] using other

end Rows

section Owned
variable {config : MatchConfig} {hashKey : String → String} {refreshAfterS : ℤ} {s u : Sys}
  {e : Live.Event}

/-- Ingestion stores rows of tenants that have an account. -/
lemma ingest_owners {s s' : Store} {call : IngestCall} {draws : IngestDraws}
    {outcomes : List IngestOutcome} (ok : Ingest.run s draws call = .ok (s', outcomes))
    (side : IngestSource) : ∃ new, (s'.raw side).map RawRow.tenantId =
      (s.raw side).map RawRow.tenantId ++ new ∧ ∀ id ∈ new, s.hasAccount id = true := by
  have other (ne : side ≠ call.side) : ∃ new, (s'.raw side).map RawRow.tenantId =
      (s.raw side).map RawRow.tenantId ++ new ∧ ∀ id ∈ new, s.hasAccount id = true := by
    obtain rfl := IngestSource.eq_other_of_ne (Ne.symm ne)
    exact ⟨[], by rw [(Ingest.run_effect ok).other, List.append_nil], by rintro _ ⟨⟩⟩
  by_cases own : side = call.side
  · subst own
    cases call with
    | gateway tenantId payload idempotencyKey rawBody =>
      simp only [Ingest.run, Except.map] at ok
      split at ok
      · cases ok
      rename_i result eq
      obtain ⟨s1, outcome⟩ := result
      obtain ⟨rfl, _⟩ := Prod.mk.inj (Except.ok.inj ok)
      obtain ⟨_, _, _, _, _, ⟨_, _, _, _, rfl⟩ | ⟨_, account, rfl, rfl⟩⟩ := Ingest.ingestGateway_ok eq
      · refine ⟨[], ?_, by rintro _ ⟨⟩⟩
        simp only [IngestCall.side, Ingest.raw_enqueue, Store.raw_setRaw, List.append_nil]
        exact Ingest.map_bump fun _ _ => rfl
      · refine ⟨[tenantId], ?_, by simpa using account⟩
        simp [IngestCall.side, Ingest.gatewayRow]
    | ledger tenantId entries =>
      by_cases ne : entries = []
      · subst ne
        obtain ⟨rfl, rfl⟩ := Prod.mk.inj (Except.ok.inj ok)
        exact ⟨[], by simp, by rintro _ ⟨⟩⟩
      obtain ⟨tuples, announced, rowsOk, account, _, _, rfl⟩ := Ingest.ingestLedgerBatch_ok ne ok
      refine ⟨(Ingest.newRows s tenantId tuples).map RawRow.tenantId, ?_, fun id mem => ?_⟩
      · simp only [IngestCall.side, Ingest.raw_enqueue, Store.raw_setRaw]
        rw [← List.map_append]
        exact Ingest.map_tableOf fun _ _ => rfl
      · obtain ⟨row, memRow, rfl⟩ := List.mem_map.1 mem
        obtain ⟨_, _, _, _, rfl⟩ :=
          exists_of_mem_forall₂ (Ingest.ledgerRows_ok rowsOk) (List.mem_of_mem_filter memRow)
        exact account (List.ne_nil_of_mem memRow)
  · exact other own

lemma ingest_apiKeys {s s' : Store} {call : IngestCall} {draws : IngestDraws}
    {outcomes : List IngestOutcome} (ok : Ingest.run s draws call = .ok (s', outcomes)) :
    s'.apiKeys = s.apiKeys := by
  cases call with
  | gateway tenantId payload idempotencyKey rawBody =>
    simp only [Ingest.run, Except.map] at ok
    split at ok
    · cases ok
    rename_i result eq
    obtain ⟨s1, outcome⟩ := result
    obtain ⟨rfl, _⟩ := Prod.mk.inj (Except.ok.inj ok)
    obtain ⟨_, _, _, _, _, ⟨_, _, _, _, rfl⟩ | ⟨_, _, _, rfl⟩⟩ := Ingest.ingestGateway_ok eq <;> rfl
  | ledger tenantId entries =>
    by_cases ne : entries = []
    · subst ne
      obtain ⟨rfl, rfl⟩ := Prod.mk.inj (Except.ok.inj ok)
      rfl
    obtain ⟨_, _, _, _, _, _, rfl⟩ := Ingest.ingestLedgerBatch_ok ne ok
    rfl

/-- The accounts stay, and what is added belongs to one of them. -/
lemma Owned.grown {s u : Store} (owned : Owned s) (c : Consistent u)
    (accounts : ∀ id, s.hasAccount id = true → u.hasAccount id = true)
    (keys : ∀ key ∈ u.apiKeys, key ∈ s.apiKeys ∨ u.hasAccount key.accountId = true)
    (raw : ∀ side, ∃ new, (u.raw side).map RawRow.tenantId = (s.raw side).map RawRow.tenantId ++ new ∧
      ∀ id ∈ new, s.hasAccount id = true)
    (results : ∀ r ∈ u.reconciliationResults, r ∈ s.reconciliationResults ∨
      s.hasAccount r.tenantId = true) : Owned u := by
  have ofResult (r) (mem : r ∈ u.reconciliationResults) : u.hasAccount r.tenantId = true := by
    rcases results r mem with old | new
    · exact accounts _ (owned (.result r) old)
    · exact accounts _ new
  rintro (a | key | ⟨side, row⟩ | r | e) held
  · exact Store.hasAccount_iff.2 ⟨a, held, rfl⟩
  · rcases keys key held with old | new
    · exact accounts _ (owned (.apiKey key) old)
    · exact new
  · obtain ⟨new, same, known⟩ := raw side
    have listed : row.tenantId ∈ (u.raw side).map RawRow.tenantId := List.mem_map_of_mem held
    rw [same] at listed
    refine accounts _ ?_
    rcases List.mem_append.1 listed with old | new
    · obtain ⟨row₀, mem, tenant⟩ := List.mem_map.1 old
      have held₀ := owned (.raw side row₀) mem
      rwa [Row.owner, tenant] at held₀
    · exact known _ new
  · exact ofResult r held
  · obtain ⟨r, mem, _, tenant⟩ := c.exceptionOf e held
    have known := ofResult r mem
    rwa [tenant] at known

/-- A table whose rows keep their tenants. -/
lemma same_owners {s u : Store} (raw : ∀ side, (u.raw side).map RawRow.tenantId =
    (s.raw side).map RawRow.tenantId) (side : IngestSource) : ∃ new,
      (u.raw side).map RawRow.tenantId = (s.raw side).map RawRow.tenantId ++ new ∧
        ∀ id ∈ new, s.hasAccount id = true :=
  ⟨[], by rw [raw, List.append_nil], by rintro _ ⟨⟩⟩

lemma Owned.ingest {s u : Store} {call : IngestCall} {draws : IngestDraws}
    {outcomes : List IngestOutcome} (owned : Owned s) (c : Consistent u)
    (ok : Ingest.run s draws call = .ok (u, outcomes)) : Owned u := by
  have effect := Ingest.run_effect ok
  have accounts (id : ℕ) (known : s.hasAccount id = true) : u.hasAccount id = true := by
    rwa [Store.hasAccount, ← effect.accounts] at known
  exact owned.grown c accounts (fun key mem => .inl (ingest_apiKeys ok ▸ mem)) (ingest_owners ok)
    fun r mem => .inl (effect.results ▸ mem)

lemma Owned.persist {s u : Store} {d : Decision} {tenantId : ℕ} {latencyMs : Option ℤ}
    {messageId : Option String} {draws : Draws} {res : PersistResult} (owned : Owned s)
    (c : Consistent u)
    (ok : Persist.applyDecision s d tenantId latencyMs messageId draws = .ok (u, res)) : Owned u := by
  rcases Persist.applyDecision_ok ok with ⟨_, rfl, _⟩ | ⟨_, keys, _, rfl, _⟩
  · exact owned
  · obtain ⟨account, _⟩ := Persist.foreignKeyError_eq_none.1 keys
    refine owned.grown c (fun id known => ?_) (fun key mem => .inl ?_) (same_owners fun side => ?_)
      fun r mem => ?_
    · rwa [Store.hasAccount, Persist.settle_accounts]
    · rwa [Persist.settle_apiKeys] at mem
    · rw [Persist.settle_raw]
      split
      · rfl
      · exact Persist.map_markRows fun _ => rfl
    · rw [Persist.settle_results] at mem
      rcases List.mem_append.1 mem with old | new
      · exact .inl old
      · exact .inr (List.mem_singleton.1 new ▸ account)

lemma hasAccount_of_tenants {s u : Store} {draws : TenancyDraws} {id : ℕ}
    (adds : Tenancy.AddsAtMost draws s u) (known : s.hasAccount id = true) : u.hasAccount id = true := by
  obtain ⟨a, mem, rfl⟩ := Store.hasAccount_iff.1 known
  have kept : Tenancy.tenantOf a ∈ Tenancy.tenants u := adds.kept (List.mem_map_of_mem mem)
  obtain ⟨b, memB, same⟩ := List.mem_map.1 kept
  exact Store.hasAccount_iff.2 ⟨b, memB, congrArg Tenant.accountId same⟩

/-- The foreign keys hold after every step. -/
lemma Owned.step (inv : Live.Inv config s) (owned : Owned s.store)
    (st : Live.Step config hashKey refreshAfterS s e u) : Owned u.store := by
  have c := (st.inv inv).system.consistent
  cases st with
  | work st =>
    cases st with
    | openAccount new =>
      refine owned.grown c (fun id known => ?_) (fun key mem => .inl mem)
        (same_owners fun side => by cases side <;> rfl) fun r mem => .inl mem
      obtain ⟨a, mem, idEq⟩ := Store.hasAccount_iff.1 known
      exact Store.hasAccount_iff.2 ⟨a, List.mem_append_left _ mem, idEq⟩
    | ingest _ ok => exact owned.ingest c ok
    | apply _ _ ok => exact owned.persist c ok
    | deleteAccount => exact owned.deleteAccount
    | closeException ok =>
      simp only [Queries.closeException] at ok
      split_ifs at ok
      obtain ⟨rfl, _⟩ := Prod.mk.inj (Except.ok.inj ok)
      exact owned.grown c (fun id known => known) (fun key mem => .inl mem)
        (same_owners fun side => by cases side <;> rfl) fun r mem => .inl mem
    | load | find | ack | scan | beginRow | abandon => exact owned
  | resolve new ok =>
    obtain ⟨adds, keys⟩ := Tenancy.resolveTenant_adds ok
    obtain ⟨accounts, apiKeys, rfl⟩ := Live.resolveTenant_only ok
    exact owned.grown c (fun id => hasAccount_of_tenants adds) (fun key mem => .inl (keys ▸ mem))
      (same_owners fun side => by cases side <;> rfl) fun r mem => .inl mem
  | issue new ok =>
    obtain ⟨adds, mem, _, _, key, keys, owner, _⟩ := Tenancy.issueApiKey_adds ok
    obtain ⟨accounts, apiKeys, rfl⟩ := Live.issueApiKey_only ok
    refine owned.grown c (fun id => hasAccount_of_tenants adds) (fun key' mem' => ?_)
      (same_owners fun side => by cases side <;> rfl) fun r mem => .inl mem
    have listed : key' ∈ s.store.apiKeys ++ [key] := keys ▸ mem'
    rcases List.mem_append.1 listed with old | issued
    · exact .inl old
    · obtain ⟨a, memA, same⟩ := List.mem_map.1 mem
      refine .inr (Store.hasAccount_iff.2 ⟨a, memA, ?_⟩)
      rw [List.mem_singleton.1 issued, owner, ← same]
      rfl

end Owned

/-- Where a pass is. -/
inductive Phase where
  | idle
  /-- Between two transactions. -/
  | looping
  /-- In the transaction of an account: the statements to come, and the rows deleted so far. -/
  | deleting (account : Account) (left : List Statement) (gone : Store)
  | ended

/-- The rows the open transaction has deleted. -/
def Phase.gone : Phase → Store
  | .deleting _ _ gone => gone
  | _ => {}

/-- The account whose row the open transaction has deleted. -/
def Phase.closed : Phase → Option ℕ
  | .deleting account left _ => if Statement.account ∈ left then none else some account.id
  | _ => none

/-- The system, and a pass of `sweep_demo_accounts` in it. -/
structure Pass where
  sys : Sys := .initial
  phase : Phase := .idle
  selected : List Account := []
  /-- The accounts the loop has not come to. -/
  rest : List Account := []
  /-- The accounts whose transaction has committed. -/
  deleted : List ℕ := []
  /-- The account whose transaction raised, and what. -/
  raised : Option (ℕ × PyError) := none

/-- What the locks of the open transaction leave to a transaction of others: rows it has deleted stay
    as they are and are not referenced, and no row of an account whose row it has deleted is added. -/
structure Unlocked (gone : Store) (closed : Option ℕ) (s u : Store) : Prop where
  stay : ∀ row, Holds gone row → Holds u row
  closed : ∀ row, closed = some row.owner → Holds u row → Holds s row
  references : ∀ r ∈ u.reconciliationResults, ∀ side, ∀ row ∈ gone.raw side,
    r.rawId side = some row.id → r ∈ s.reconciliationResults
  exceptions : ∀ e ∈ u.exceptions, ∀ r ∈ gone.reconciliationResults,
    e.reconciliationResultId = r.id → e ∈ s.exceptions

inductive Event where
  | other (event : Live.Event)
  | select (now : Datetime)
  | open_
  | statement
  /-- A statement violates a foreign key. -/
  | violate
  /-- The database fails the transaction otherwise. -/
  | fault (e : PyError)
  | commit
  | finish

/-- An event of the pass. -/
def Event.ofPass : Event → Bool
  | .other _ => false
  | _ => true

/-- The transaction of an account raises. -/
def Event.raises : Event → Bool
  | .violate | .fault _ => true
  | _ => false

/-- The settings of a pass. -/
structure PassSettings where
  config : MatchConfig
  hashKey : String → String
  /-- `last_seen_refresh_s`. -/
  refreshAfterS : ℤ
  batchLimit : ℕ
  demoRetentionHours : ℕ

/-- One step of the pass, or of others: an account id that was drawn is not drawn again. -/
inductive Step (settings : PassSettings) : Pass → Event → Pass → Prop where
  | other {d : Pass} {event sys} :
    Live.Step settings.config settings.hashKey settings.refreshAfterS d.sys event sys →
    Unlocked d.phase.gone d.phase.closed d.sys.store sys.store →
    (∀ id ∈ d.deleted, sys.store.hasAccount id = false) →
    Step settings d (.other event) { d with sys := sys }
  | select {d : Pass} {now cutoff order} :
    d.phase = .idle →
    now.sub (Timedelta.seconds (settings.demoRetentionHours * 3600)) = .ok cutoff →
    (∀ accounts : List Account, (order accounts).Perm accounts) →
    Step settings d (.select now)
      { d with
        phase := .looping
        selected := selectDemoAccounts d.sys.store cutoff settings.batchLimit order
        rest := selectDemoAccounts d.sys.store cutoff settings.batchLimit order }
  | open_ {d : Pass} {account rest} :
    d.phase = .looping →
    d.rest = account :: rest →
    Step settings d .open_ { d with phase := .deleting account statements {}, rest := rest }
  | statement {d : Pass} {account statement left gone view} :
    d.phase = .deleting account (statement :: left) gone →
    execute (hide gone d.sys.store) account.id statement = .ok view →
    Step settings d .statement
      { d with phase := .deleting account left (grow gone (hide gone d.sys.store) view) }
  | violate {d : Pass} {account statement left gone e} :
    d.phase = .deleting account (statement :: left) gone →
    execute (hide gone d.sys.store) account.id statement = .error e →
    Step settings d .violate { d with phase := .ended, raised := some (account.id, e) }
  | fault {d : Pass} {account left gone e} :
    d.phase = .deleting account left gone →
    Step settings d (.fault e) { d with phase := .ended, raised := some (account.id, e) }
  | commit {d : Pass} {account gone} :
    d.phase = .deleting account [] gone →
    Step settings d .commit
      { d with
        sys := d.sys.commit (hide gone d.sys.store)
        phase := .looping
        deleted := d.deleted ++ [account.id] }
  | finish {d : Pass} :
    d.phase = .looping →
    d.rest = [] →
    Step settings d .finish { d with phase := .ended }

/-- How far the pass has come. -/
def Pass.Progress (d : Pass) : Prop :=
  match d.phase with
  | .idle => d.selected = [] ∧ d.deleted = [] ∧ d.raised = none
  | .looping => d.selected.map (·.id) = d.deleted ++ d.rest.map (·.id) ∧ d.raised = none
  | .deleting account _ _ =>
    d.selected.map (·.id) = d.deleted ++ account.id :: d.rest.map (·.id) ∧ d.raised = none
  | .ended =>
    (d.selected.map (·.id) = d.deleted ∧ d.raised = none ∧ d.rest = []) ∨
      ∃ id e, d.raised = some (id, e) ∧
        d.selected.map (·.id) = d.deleted ++ id :: d.rest.map (·.id)

/-- What the open transaction holds is of its account, and all of it once it has closed the account. -/
def Pass.Sound (d : Pass) : Prop :=
  match d.phase with
  | .deleting account left gone =>
    (∀ row, Holds gone row → row.owner = account.id) ∧
      (Statement.account ∉ left →
        ∀ row, Holds d.sys.store row → row.owner = account.id → Holds gone row)
  | _ => True

/-- The invariant of a pass amid other transactions. -/
structure Inv (settings : PassSettings) (d : Pass) : Prop where
  live : Live.Inv settings.config d.sys
  owned : Owned d.sys.store
  deleted : ∀ id ∈ d.deleted, d.sys.store.hasAccount id = false
  nodup : (d.selected.map (·.id)).Nodup
  progress : d.Progress
  sound : d.Sound

section Steps
variable {settings : PassSettings} {d d' : Pass} {e : Event}

lemma Inv.initial : Inv settings {} where
  live := ⟨.initial settings.config, List.nodup_nil⟩
  owned := by rintro (_ | _ | ⟨_ | _, _⟩ | _ | _) held <;> cases held
  deleted := by rintro _ ⟨⟩
  nodup := List.nodup_nil
  progress := ⟨rfl, rfl, rfl⟩
  sound := trivial

/-- A transaction that gets to its end deletes its account, and nothing else. -/
lemma Inv.commit_eq (inv : Inv settings d) {account : Account} {gone : Store}
    (phase : d.phase = .deleting account [] gone) :
    hide gone d.sys.store = deleteAccount d.sys.store account.id := by
  have sound := inv.sound
  simp only [Pass.Sound, phase] at sound
  exact hide_eq fun row held => ⟨sound.1 row, sound.2 List.not_mem_nil row held⟩

lemma not_holds_empty {row : Row} : ¬Holds {} row := by
  rcases row with _ | _ | ⟨_ | _, _⟩ | _ | _ <;> exact List.not_mem_nil

/-- Accounts are selected once. -/
lemma nodup_selected {s : Store} {cutoff : Datetime} {limit : ℕ} {order : List Account → List Account}
    (ids : (s.accounts.map Account.id).Nodup) (reorders : ∀ accounts, (order accounts).Perm accounts) :
    ((selectDemoAccounts s cutoff limit order).map (·.id)).Nodup := by
  have chosen : Earliest Account.lastSeenAt limit (Tenancy.staleDemoAccounts s cutoff)
      (selectDemoAccounts s cutoff limit order) := earliest_spec (reorders _)
  exact chosen.nodup ((List.filter_sublist.map Account.id).nodup ids)

/-- What a statement does to the open transaction. -/
lemma Inv.statement (inv : Inv settings d) {account : Account} {statement : Statement}
    {left : List Statement} {gone view : Store}
    (phase : d.phase = .deleting account (statement :: left) gone)
    (ok : execute (hide gone d.sys.store) account.id statement = .ok view) :
    Pass.Sound { d with phase := .deleting account left (grow gone (hide gone d.sys.store) view) } := by
  have sound := inv.sound
  simp only [Pass.Sound, phase] at sound
  refine ⟨fun row held => ?_, fun last row held own => ?_⟩
  · rcases holds_grow.1 held with old | ⟨seen, taken⟩
    · exact sound.1 row old
    · exact owner_of_executed inv.live.system.consistent ok seen taken
  · rw [holds_grow]
    by_cases before : Holds gone row
    · exact .inl before
    · refine .inr ⟨holds_hide.2 ⟨held, before⟩, fun kept => ?_⟩
      by_cases here : statement = .account
      · subst here
        exact bare_of_executed ok kept own
      · refine before (sound.2 (fun mem => ?_) row held own)
        rcases List.mem_cons.1 mem with same | mem
        · exact here same.symm
        · exact last mem

/-- Every step keeps the invariant. -/
lemma Step.inv (inv : Inv settings d) (st : Step settings d e d') : Inv settings d' := by
  have progress := inv.progress
  have sound := inv.sound
  cases st with
  | other st unlocked fresh =>
    refine ⟨st.inv inv.live, inv.owned.step inv.live st, fresh, inv.nodup, progress, ?_⟩
    simp only [Pass.Sound] at sound ⊢
    split at sound
    · rename_i account left gone phase
      refine ⟨sound.1, fun last row held own => sound.2 last row (unlocked.closed row ?_ held) own⟩
      simp only [phase, Phase.closed, if_neg last, own]
    · trivial
  | select phase cut reorders =>
    simp only [Pass.Progress, phase] at progress
    obtain ⟨_, none_, quiet⟩ := progress
    refine ⟨inv.live, inv.owned, inv.deleted, nodup_selected inv.live.accountIds reorders, ?_, trivial⟩
    exact ⟨by simp [none_], quiet⟩
  | open_ phase next =>
    simp only [Pass.Progress, phase, next, List.map_cons] at progress
    refine ⟨inv.live, inv.owned, inv.deleted, inv.nodup, progress, ?_⟩
    exact ⟨fun row held => absurd held not_holds_empty,
      fun last => absurd (by decide : Statement.account ∈ statements) last⟩
  | statement phase ok =>
    simp only [Pass.Progress, phase] at progress
    exact ⟨inv.live, inv.owned, inv.deleted, inv.nodup, progress, inv.statement phase ok⟩
  | violate phase | fault phase =>
    simp only [Pass.Progress, phase] at progress
    exact ⟨inv.live, inv.owned, inv.deleted, inv.nodup, .inr ⟨_, _, rfl, progress.1⟩, trivial⟩
  | commit phase =>
    rename_i account gone
    simp only [Pass.Progress, phase] at progress
    have step : Live.Step settings.config settings.hashKey settings.refreshAfterS d.sys
        (.work (.deleteAccount account.id)) (d.sys.commit (hide gone d.sys.store)) := by
      rw [inv.commit_eq phase]
      exact .work .deleteAccount
    refine ⟨step.inv inv.live, inv.owned.step inv.live step, fun id mem => ?_, inv.nodup, ?_, trivial⟩
    · rw [inv.commit_eq phase]
      rcases List.mem_append.1 mem with old | new
      · exact hasAccount_deleteAccount (.inl (inv.deleted id old))
      · exact hasAccount_deleteAccount (.inr (List.mem_singleton.1 new))
    · exact ⟨by simp [progress.1], progress.2⟩
  | finish phase done =>
    simp only [Pass.Progress, phase, done, List.map_nil, List.append_nil] at progress
    exact ⟨inv.live, inv.owned, inv.deleted, inv.nodup, .inl ⟨progress.1, progress.2, done⟩, trivial⟩

/-- The invariant holds in every state of a run. -/
lemma Inv.reached {tr} (run : Run (Step settings) {} tr d) : Inv settings d :=
  run.invariant .initial fun inv st => st.inv inv

/-- A step of the pass changes rows of an account only by deleting it. -/
lemma Step.untouched (inv : Inv settings d) (st : Step settings d e d') (own : e.ofPass = true) {row : Row}
    (other : row.owner ∉ d'.deleted) : Holds d'.sys.store row ↔ Holds d.sys.store row := by
  cases st with
  | other => cases own
  | commit phase =>
    rw [Sys.commit, inv.commit_eq phase, holds_deleteAccount]
    refine and_iff_left fun same => other ?_
    exact same ▸ List.mem_append_right _ (List.mem_singleton_self _)
  | select | open_ | statement | violate | fault | finish => exact Iff.rfl

/-- Two steps by one event of the pass delete the same. -/
lemma Step.deleted_eq {d'' : Pass} (st : Step settings d e d') (st' : Step settings d e d'') :
    d'.deleted = d''.deleted := by
  cases st with
  | commit phase =>
    cases st' with
    | commit phase' =>
      obtain ⟨rfl, _, rfl⟩ := Phase.deleting.inj (phase.symm.trans phase')
      rfl
  | other | select | open_ | statement | violate | fault | finish => cases st'; rfl

/-- Deletions that have committed stay. -/
lemma Step.deleted_subset (st : Step settings d e d') : d.deleted ⊆ d'.deleted := by
  cases st with
  | commit => exact List.subset_append_left _ _
  | other | select | open_ | statement | violate | fault | finish => exact List.Subset.refl _

/-- A step that does not raise keeps what was raised, and the accounts behind it. -/
lemma Step.quiet (inv : Inv settings d) (st : Step settings d e d') (quiet : e.raises = false) :
    d'.raised = d.raised ∧ (d'.rest = d.rest ∨ d.raised = none) := by
  have progress := inv.progress
  cases st with
  | select phase | open_ phase =>
    simp only [Pass.Progress, phase] at progress
    exact ⟨rfl, .inr (by tauto)⟩
  | other | statement | commit | finish => exact ⟨rfl, .inl rfl⟩
  | violate | fault => cases quiet

/-- Whether only the last account of a pass raises shows in what is left at its end. -/
lemma raises_last_iff {tr} (run : Run (Step settings) {} tr d) :
    (∀ p ∈ tr, p.2.raises = true → p.1.rest = []) ↔ d.raised = none ∨ d.rest = [] := by
  induction run with
  | nil => exact iff_of_true (by rintro _ ⟨⟩) (.inl rfl)
  | @snoc tr t e u run st ih =>
    have inv := Inv.reached run
    have last : (∀ p ∈ tr ++ [(t, e)], p.2.raises = true → p.1.rest = []) ↔
        (t.raised = none ∨ t.rest = []) ∧ (e.raises = true → t.rest = []) := by
      rw [← ih]
      simp only [List.mem_append, List.mem_singleton, or_imp, forall_and, forall_eq]
    rw [last]
    cases raises : e.raises with
    | false =>
      obtain ⟨same, rest⟩ := st.quiet inv raises
      rw [same]
      rcases rest with rest | none_
      · simp [rest]
      · simp [none_]
    | true =>
      have progress := inv.progress
      cases st with
      | violate phase | fault phase =>
        simp only [Pass.Progress, phase] at progress
        simp [progress.2]
      | other | select | open_ | statement | commit | finish => cases raises

end Steps

/-- Nothing is left of an account. -/
def WhollyDeleted (d : Pass) (id : ℕ) : Prop :=
  id ∈ d.deleted ∧ ∀ row, Holds d.sys.store row → row.owner ≠ id

/-- No step of the pass has changed rows of an account. -/
def WhollyUntouched (settings : PassSettings) (tr : List (Pass × Event)) (id : ℕ) : Prop :=
  ∀ p ∈ tr, p.2.ofPass = true → ∀ d', Step settings p.1 p.2 d' → ∀ row : Row, row.owner = id →
    (Holds d'.sys.store row ↔ Holds p.1.sys.store row)

/-- An account whose own deletion has not raised in the pass, and goes through by itself. -/
def OwnDeletionSucceeds (d : Pass) (a : Account) : Prop :=
  (∀ e, d.raised ≠ some (a.id, e)) ∧ ∃ s, deleteDemoAccount d.sys.store a.id = .ok s

/-- Every selected account is deleted with all that is its, or left alone. -/
def AllOrNothing (settings : PassSettings) (tr : List (Pass × Event)) (d : Pass) : Prop :=
  ∀ a ∈ d.selected, WhollyDeleted d a.id ∨ WhollyUntouched settings tr a.id

/-- Every selected account whose own deletion succeeds is deleted. -/
def Isolated (d : Pass) : Prop :=
  ∀ a ∈ d.selected, OwnDeletionSucceeds d a → WhollyDeleted d a.id

section Ended
variable {settings : PassSettings} {d : Pass} {tr : List (Pass × Event)}

lemma Inv.wholly_deleted (inv : Inv settings d) {id : ℕ} (mem : id ∈ d.deleted) :
    WhollyDeleted d id := by
  refine ⟨mem, fun row held same => ?_⟩
  have known := inv.owned row held
  rw [same, inv.deleted id mem] at known
  cases known

/-- Deletion is all or nothing in every run. -/
lemma all_or_nothing (run : Run (Step settings) {} tr d) : AllOrNothing settings tr d := by
  intro a _
  by_cases deleted : a.id ∈ d.deleted
  · exact .inl ((Inv.reached run).wholly_deleted deleted)
  · refine .inr ?_
    rintro ⟨t, e⟩ mem own d' st row owner
    obtain ⟨_, _, v, _, run0, st0, run1⟩ := run.split mem
    refine st.untouched (Inv.reached run0) own fun listed => deleted ?_
    rw [owner, st.deleted_eq st0] at listed
    exact run1.grows (R := fun d d' => d.deleted ⊆ d'.deleted) (fun _ => List.Subset.refl _)
      List.Subset.trans Step.deleted_subset listed

/-- At the end of a pass, accounts are isolated iff none is left behind one that raised. -/
lemma Inv.isolated_iff (inv : Inv settings d) (ended : d.phase = .ended) :
    Isolated d ↔ d.raised = none ∨ d.rest = [] := by
  have progress := inv.progress
  simp only [Pass.Progress, ended] at progress
  rcases progress with ⟨all, quiet, _⟩ | ⟨id, e, raised, split⟩
  · refine iff_of_true (fun a mem _ => inv.wholly_deleted ?_) (.inl quiet)
    exact all ▸ List.mem_map_of_mem mem
  · have nodup := inv.nodup
    rw [split, List.nodup_append] at nodup
    constructor
    · intro isolated
      refine .inr (List.eq_nil_iff_forall_not_mem.2 fun b memB => ?_)
      have behind : b.id ∈ d.selected.map (·.id) := by
        rw [split]
        exact List.mem_append_right _ (List.mem_cons_of_mem _ (List.mem_map_of_mem memB))
      obtain ⟨a, mem, idEq⟩ := List.mem_map.1 behind
      have succeeds : OwnDeletionSucceeds d a := by
        refine ⟨fun e' same => ?_, _, deleteDemoAccount_runs inv.live.system.consistent⟩
        rw [raised] at same
        obtain ⟨rfl, _⟩ := Prod.mk.inj (Option.some.inj same)
        exact (List.nodup_cons.1 nodup.2.1).1 (idEq ▸ List.mem_map_of_mem memB)
      exact nodup.2.2 a.id (isolated a mem succeeds).1 a.id
        (idEq ▸ List.mem_cons_of_mem _ (List.mem_map_of_mem memB)) rfl
    · intro last a mem succeeds
      obtain none_ := last.resolve_left (by simp [raised])
      have listed : a.id ∈ d.selected.map (·.id) := List.mem_map_of_mem mem
      rw [split, none_, List.map_nil] at listed
      rcases List.mem_append.1 listed with done | here
      · exact inv.wholly_deleted done
      · exact absurd (List.mem_singleton.1 here ▸ raised) (succeeds.1 e)

/-- In every interleaving with other transactions, demo deletion is all or nothing for each account, and
    it is isolated between accounts iff no transaction of an account raises before the last. -/
theorem demo_deletion_iff (run : Run (Step settings) {} tr d) (ended : d.phase = .ended) :
    (AllOrNothing settings tr d ∧ Isolated d) ↔ ∀ p ∈ tr, p.2.raises = true → p.1.rest = [] := by
  rw [and_iff_right (all_or_nothing run), (Inv.reached run).isolated_iff ended, raises_last_iff run]

end Ended

/-! Two visitors of the first of January, and a payment of the first one's that is ingested while its
account is being deleted. -/

namespace Sample

def settings : PassSettings where
  config := .shipped
  hashKey := id
  refreshAfterS := 300
  batchLimit := 500
  demoRetentionHours := 24

def visitor : Account := Live.Sample.visitor

def second : Account :=
  { visitor with id := 3, name := "demo:second" }

def visited : Sys := System.Sys.initial.commit { accounts := [visitor] }

def both : Sys := visited.commit { accounts := [visitor, second] }

def returned : Sys :=
  (both.commit (Ingest.enqueue { both.store with gatewayTransactions :=
    [Ingest.gatewayRow 2 Ingest.Sample.payload "key-1" "null" (.newYear 0) Ingest.Sample.draws] }
      .gateway [Ingest.firstReceipt (Ingest.gatewayRow 2 Ingest.Sample.payload "key-1" "null"
        (.newYear 0) Ingest.Sample.draws)] Ingest.Sample.draws)).draw .gateway [1]

/-- The pass, in the transaction of the first visitor. -/
def amid (sys : Sys) (left : List Statement) : Pass where
  sys := sys
  phase := .deleting visitor left {}
  selected := [visitor, second]
  rest := [second]

lemma unlocked {s u : Store} : Unlocked {} none s u where
  stay _ held := absurd held not_holds_empty
  closed := by rintro _ ⟨⟩
  references := by rintro _ _ (_ | _) _ ⟨⟩
  exceptions := by rintro _ _ _ ⟨⟩

/-- A statement that finds nothing. -/
lemma passes {statement : Statement} {left : List Statement}
    (ok : execute both.store 2 statement = .ok both.store) :
    Step settings (amid both (statement :: left)) .statement (amid both left) := by
  have sees : execute (hide {} both.store) visitor.id statement = .ok both.store := hide_empty ▸ ok
  have st : Step settings (amid both (statement :: left)) .statement
      { amid both left with
        phase := .deleting visitor left (grow {} (hide {} both.store) both.store) } :=
    .statement rfl sees
  rw [hide_empty, grow_self] at st
  exact st

lemma selects : selectDemoAccounts both.store (.newYear 1) 500 id = [visitor, second] := by
  have stale : Tenancy.staleDemoAccounts both.store (.newYear 1) = [visitor, second] := by
    decide +kernel
  rw [selectDemoAccounts, id, stale, earliest_of_sorted (by decide)]
  rfl

def ended : Pass :=
  { amid returned [.account] with
    phase := .ended, raised := some (2, .foreignKeyViolation "tenant_id") }

lemma run : ∃ tr, Run (Step settings) {} tr ended ∧ ∃ p ∈ tr, p.2.raises = true ∧ p.1.rest ≠ [] := by
  have first : Step settings {} (.other (.work (.openAccount visitor))) { sys := visited } :=
    .other (.work (.openAccount rfl)) unlocked (by rintro _ ⟨⟩)
  have next : Step settings { sys := visited } (.other (.work (.openAccount second))) { sys := both } :=
    .other (.work (.openAccount rfl)) unlocked (by rintro _ ⟨⟩)
  have select : Step settings { sys := both } (.select Live.Sample.nextDay)
      { sys := both, phase := .looping, selected := [visitor, second], rest := [visitor, second] } := by
    have cut : Live.Sample.nextDay.sub (Timedelta.seconds (24 * 3600)) = .ok (.newYear 1) := rfl
    have st : Step settings { sys := both } (.select Live.Sample.nextDay)
        { sys := both, phase := .looping
          selected := selectDemoAccounts both.store (.newYear 1) 500 id
          rest := selectDemoAccounts both.store (.newYear 1) 500 id } :=
      .select rfl cut fun _ => .refl _
    rwa [selects] at st
  have open_ : Step settings
      { sys := both, phase := .looping, selected := [visitor, second], rest := [visitor, second] }
      .open_ (amid both statements) := .open_ rfl rfl
  have ingest : Step settings (amid both [.account]) (.other (.work (.ingest
      (.gateway 2 Ingest.Sample.payload "key-1" "null") Ingest.Sample.draws)))
      (amid returned [.account]) := .other (.work (.ingest (by decide) rfl)) unlocked (by rintro _ ⟨⟩)
  have refused : execute (hide {} returned.store) 2 .account =
      .error (.foreignKeyViolation "tenant_id") := hide_empty ▸ rfl
  have violate : Step settings (amid returned [.account]) .violate ended :=
    @Step.violate settings (amid returned [.account]) visitor .account [] {} _ rfl refused
  refine ⟨_, ((((((((((Run.nil.snoc first).snoc next).snoc select).snoc open_).snoc
    (passes (by rfl))).snoc (passes (by rfl))).snoc (passes (by rfl))).snoc (passes (by rfl))).snoc
    ingest).snoc violate), (amid returned [.account], .violate), by simp, rfl, by simp [amid]⟩

end Sample

/-- The last statement of the first visitor violates a foreign key, and the second visitor, whose
    deletion goes through, is left. -/
theorem demo_deletion_stalls : ∃ tr d, Run (Step Sample.settings) {} tr d ∧ d.phase = .ended ∧
    ¬(AllOrNothing Sample.settings tr d ∧ Isolated d) := by
  obtain ⟨tr, run, _⟩ := Sample.run
  refine ⟨tr, Sample.ended, run, rfl, fun both => ?_⟩
  rcases ((Inv.reached run).isolated_iff rfl).1 both.2 with quiet | last
  · cases quiet
  · cases last

theorem demo_deletion_iff_sample : ∃ tr, Run (Step Sample.settings) {} tr Sample.ended ∧
    ¬(AllOrNothing Sample.settings tr Sample.ended ∧ Isolated Sample.ended) := by
  obtain ⟨tr, run, p, mem, raises, behind⟩ := Sample.run
  exact ⟨tr, run, fun both => behind ((demo_deletion_iff run rfl).1 both p mem raises)⟩

end Contention
end LedgerLoop
