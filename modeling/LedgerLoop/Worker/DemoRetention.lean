import LedgerLoop.Library.Earliest
import LedgerLoop.Services.Credentials
import LedgerLoop.Worker.Invariant

/-!
# Demo retention

`sweep_demo_accounts` of `worker/sweeper.py`, statement by statement: the selection of the stale demo
accounts, and for each a transaction of four deletions by `tenant_id` and one by `id`, every one of
which checks the foreign keys that point at what it deletes.

The tables reference each other by row id and not by tenant, so whether the statements go through
depends on results and exceptions carrying the tenant of what they reference, which is part of
`Consistent`. `deleteDemoAccount_runs` shows that the transaction then leaves `deleteAccount`, and
`sweep_demo_accounts_exact` what a pass leaves of any store the system reaches.
-/

set_option autoImplicit false

namespace LedgerLoop
open LedgerLoop.Library

/-- The foreign key of a result to the raw table of a side. -/
def IngestSource.foreignKey : IngestSource → String
  | .gateway => "gateway_txn_id"
  | .ledger => "ledger_entry_id"

namespace Sweeper

/-- What a deletion names, in the order of `sweep_demo_accounts`. -/
inductive Statement where
  | exceptions
  | results
  | raw (side : IngestSource)
  | account
deriving DecidableEq, Repr

/-- `for model in (..)`, and the account. -/
def statements : List Statement :=
  [.exceptions, .results, .raw .gateway, .raw .ledger, .account]

/-- A result references a row of the tenant: `ON DELETE RESTRICT`. -/
def referenced (s : Store) (side : IngestSource) (accountId : ℕ) : Bool :=
  s.reconciliationResults.any fun r =>
    (s.raw side).any fun row => row.tenantId == accountId && r.rawId side == some row.id

/-- Some table has a row of the tenant: `ON DELETE RESTRICT`. -/
def owns (s : Store) (accountId : ℕ) : Bool :=
  s.exceptions.any (·.tenantId == accountId) || s.reconciliationResults.any (·.tenantId == accountId) ||
    s.gatewayTransactions.any (·.tenantId == accountId) || s.ledgerEntries.any (·.tenantId == accountId)

/-- The result of an exception is one of the tenant: `ON DELETE CASCADE`. -/
def cascades (s : Store) (accountId : ℕ) (e : Exception_) : Bool :=
  s.reconciliationResults.any fun r => r.tenantId == accountId && r.id == e.reconciliationResultId

/-- One statement, on what it sees of the store. -/
def execute (s : Store) (accountId : ℕ) : Statement → Except PyError Store
  | .exceptions => .ok { s with exceptions := deleteWhere (·.tenantId == accountId) s.exceptions }
  | .results =>
    .ok { s with reconciliationResults := deleteWhere (·.tenantId == accountId) s.reconciliationResults
                 exceptions := deleteWhere (cascades s accountId) s.exceptions }
  | .raw side =>
    if referenced s side accountId then .error (.foreignKeyViolation side.foreignKey)
    else .ok (s.setRaw side (deleteWhere (·.tenantId == accountId) (s.raw side)))
  | .account =>
    if owns s accountId then .error (.foreignKeyViolation "tenant_id")
    else .ok { s with accounts := deleteWhere (·.id == accountId) s.accounts
                      apiKeys := deleteWhere (·.accountId == accountId) s.apiKeys }

/-- The transaction of one account. -/
def deleteDemoAccount (s : Store) (accountId : ℕ) : Except PyError Store :=
  statements.foldlM (fun s statement => execute s accountId statement) s

/-- How far a loop of transactions came: the store, how many it counted, and what it raised. -/
structure Swept where
  store : Store
  count : ℕ
  raised : Option PyError := none

/-- The loop over the selected accounts. -/
def deleteDemoAccounts (s : Store) : List ℕ → Swept
  | [] => { store := s, count := 0 }
  | accountId :: rest =>
    match deleteDemoAccount s accountId with
    | .error e => { store := s, count := 0, raised := some e }
    | .ok s' =>
      let swept := deleteDemoAccounts s' rest
      { swept with count := swept.count + 1 }

/-- The accounts a pass selects; `order` is the one in which the query meets them. -/
def selectDemoAccounts (s : Store) (cutoff : Datetime) (limit : ℕ)
    (order : List Account → List Account) : List Account :=
  earliest Account.lastSeenAt limit (order (Tenancy.staleDemoAccounts s cutoff))

/-- `sweep_demo_accounts`. -/
def sweepDemoAccounts (s : Store) (limit retentionHours : ℕ) (now : Datetime)
    (order : List Account → List Account) : Swept :=
  match now.sub (Timedelta.seconds (retentionHours * 3600)) with
  | .error e => { store := s, count := 0, raised := some e }
  | .ok cutoff => deleteDemoAccounts s ((selectDemoAccounts s cutoff limit order).map (·.id))

/-- A store without some accounts and all that is theirs. -/
def without (s : Store) (ids : List ℕ) : Store where
  exceptions := deleteWhere (fun e => decide (e.tenantId ∈ ids)) s.exceptions
  reconciliationResults := deleteWhere (fun r => decide (r.tenantId ∈ ids)) s.reconciliationResults
  gatewayTransactions := deleteWhere (fun row => decide (row.tenantId ∈ ids)) s.gatewayTransactions
  ledgerEntries := deleteWhere (fun row => decide (row.tenantId ∈ ids)) s.ledgerEntries
  accounts := deleteWhere (fun a => decide (a.id ∈ ids)) s.accounts
  apiKeys := deleteWhere (fun key => decide (key.accountId ∈ ids)) s.apiKeys
  outboxEvents := s.outboxEvents

section Runs
variable {s : Store} {accountId : ℕ} {ids : List ℕ}

lemma without_nil : without s [] = s := by
  simp [without, deleteWhere]

/-- Deleting an account and then others. -/
lemma without_cons : without (deleteAccount s accountId) ids = without s (accountId :: ids) := by
  have two {α : Type} (owner : α → ℕ) (rows : List α) :
      deleteWhere (fun a => decide (owner a ∈ ids)) (deleteWhere (owner · == accountId) rows) =
        deleteWhere (fun a => decide (owner a ∈ accountId :: ids)) rows := by
    rw [deleteWhere, deleteWhere, deleteWhere, List.filter_filter]
    refine List.filter_congr fun a _ => ?_
    by_cases here : owner a = accountId <;> simp [here]
  simp only [without, deleteAccount, two]

/-- An exception the cascade takes has the tenant, and is gone already. -/
lemma cascades_eq (c : Consistent s) {e : Exception_} (mem : e ∈ s.exceptions) :
    cascades s accountId e = (e.tenantId == accountId) := by
  obtain ⟨r, memR, refers, tenant⟩ := c.exceptionOf e mem
  rw [Bool.eq_iff_iff, beq_iff_eq]
  simp only [cascades, List.any_eq_true, Bool.and_eq_true, beq_iff_eq]
  constructor
  · rintro ⟨r', memR', own, idEq⟩
    obtain rfl := eq_of_key c.resultIds memR memR' (refers.trans idEq.symm)
    exact tenant.symm.trans own
  · intro own
    exact ⟨r, memR, tenant.trans own, refers⟩

/-- In a consistent store the five statements of an account go through, and leave the store without
    it. -/
lemma deleteDemoAccount_runs (c : Consistent s) :
    deleteDemoAccount s accountId = .ok (deleteAccount s accountId) := by
  let exceptions := deleteWhere (·.tenantId == accountId) s.exceptions
  let results := deleteWhere (·.tenantId == accountId) s.reconciliationResults
  let s1 : Store := { s with exceptions := exceptions }
  let s2 : Store := { s with exceptions := exceptions, reconciliationResults := results }
  let s3 := s2.setRaw .gateway (deleteWhere (·.tenantId == accountId) s.gatewayTransactions)
  let s4 := s3.setRaw .ledger (deleteWhere (·.tenantId == accountId) s.ledgerEntries)
  have gone {α : Type} (owner : α → ℕ) (rows : List α) :
      (deleteWhere (owner · == accountId) rows).any (owner · == accountId) = false := by
    simp [deleteWhere]
  -- a result that references a row of the account carries its tenant, and is gone
  have unreferenced (t : Store) (side : IngestSource) (raw : t.raw side = s.raw side)
      (left : t.reconciliationResults = results) : referenced t side accountId = false := by
    rw [referenced, List.any_eq_false]
    intro r memR found
    rw [left] at memR
    obtain ⟨stored, other⟩ := mem_deleteWhere.1 memR
    rw [raw] at found
    obtain ⟨row, mem, both⟩ := List.any_eq_true.1 found
    rw [Bool.and_eq_true, beq_iff_eq, beq_iff_eq] at both
    obtain ⟨row', mem', idEq, tenant⟩ := c.references r stored side row.id both.2
    obtain rfl := eq_of_key (c.rawIds side) mem' mem idEq
    rw [← tenant, both.1, beq_self_eq_true] at other
    cases other
  have step1 : execute s accountId .exceptions = .ok s1 := rfl
  have step2 : execute s1 accountId .results = .ok s2 := by
    -- the cascade finds nothing: the exceptions it would take are gone
    have cascade : deleteWhere (cascades s1 accountId) exceptions = exceptions := by
      refine List.filter_eq_self.2 fun e mem => ?_
      obtain ⟨stored, other⟩ := mem_deleteWhere.1 mem
      have same : cascades s1 accountId e = cascades s accountId e := rfl
      rw [same, cascades_eq c stored, other, Bool.not_false]
    exact congrArg (fun left => Except.ok { s2 with exceptions := left }) cascade
  have step3 : execute s2 accountId (.raw .gateway) = .ok s3 :=
    if_neg (by simp [unreferenced s2 .gateway rfl rfl])
  have step4 : execute s3 accountId (.raw .ledger) = .ok s4 :=
    if_neg (by simp [unreferenced s3 .ledger rfl rfl])
  have step5 : execute s4 accountId .account = .ok (deleteAccount s accountId) := by
    have bare : owns s4 accountId = false := by
      simp only [owns, Bool.or_eq_false_iff]
      exact ⟨⟨⟨gone Exception_.tenantId _, gone ReconciliationResult.tenantId _⟩,
        gone RawRow.tenantId _⟩, gone RawRow.tenantId _⟩
    exact if_neg (by simp [bare])
  simp only [deleteDemoAccount, statements, List.foldlM_cons, List.foldlM_nil, step1, step2, step3,
    step4, step5, bind, Except.bind, pure, Except.pure]

/-- The loop deletes every account it is given. -/
lemma deleteDemoAccounts_runs (c : Consistent s) :
    deleteDemoAccounts s ids = { store := without s ids, count := ids.length } := by
  induction ids generalizing s with
  | nil => rw [without_nil]; rfl
  | cons id ids ih =>
    rw [deleteDemoAccounts, deleteDemoAccount_runs c]
    simp only [ih (c.deleteAccount id), without_cons, List.length_cons]

end Runs

end Sweeper

/-! Requests and key issuing change `accounts` and `api_keys` beside what `System.Step` covers. -/

namespace System.Live
open Tenancy hiding Sys Event Step

inductive Event where
  | work (event : System.Event)
  | resolve (authorization xDemoSession : Option String) (draws : TenancyDraws)
  | issue (accountName label : String) (draws : TenancyDraws)

/-- A step of the interleaved system, or a call of the tenancy service; a new account has a new id. -/
inductive Step (config : MatchConfig) (hashKey : String → String) (refreshAfterS : ℤ) :
    Sys → Event → Sys → Prop where
  | work {s u : Sys} {event} :
    System.Step config s event u →
    Step config hashKey refreshAfterS s (.work event) u
  | resolve {s : Sys} {authorization xDemoSession draws store tenant} :
    s.store.hasAccount draws.accountId = false →
    resolveTenant hashKey s.store refreshAfterS authorization xDemoSession draws =
      .ok (store, tenant) →
    Step config hashKey refreshAfterS s (.resolve authorization xDemoSession draws) (s.commit store)
  | issue {s : Sys} {accountName label draws store rawKey tenant} :
    s.store.hasAccount draws.accountId = false →
    issueApiKey hashKey s.store accountName label draws = .ok (store, rawKey, tenant) →
    Step config hashKey refreshAfterS s (.issue accountName label draws) (s.commit store)

/-- The accounts have a primary key, and the rest is as the workers keep it. -/
structure Inv (config : MatchConfig) (s : Sys) : Prop where
  system : s.Inv config
  accountIds : (s.store.accounts.map Account.id).Nodup

section Calls
variable {hashKey : String → String} {refreshAfterS : ℤ} {s s' : Store} {tenant : Tenant}
  {draws : TenancyDraws} {name label rawKey : String} {kind : AccountKind}
  {authorization xDemoSession : Option String}

/-- A store with other accounts and keys. -/
def OnlyAccounts (s s' : Store) : Prop :=
  ∃ accounts apiKeys, s' = { s with accounts := accounts, apiKeys := apiKeys }

lemma OnlyAccounts.refl (s : Store) : OnlyAccounts s s := ⟨s.accounts, s.apiKeys, rfl⟩

lemma upsertAccount_only (ok : upsertAccount s name kind draws = .ok (s', tenant)) :
    OnlyAccounts s s' := by
  rcases upsertAccount_ok ok with ⟨_, _, _, _, rfl⟩ | ⟨_, created, _, _, _, rfl⟩
  · exact .refl _
  · exact ⟨s.accounts ++ [created], s.apiKeys, rfl⟩

lemma resolveTenant_only
    (ok : resolveTenant hashKey s refreshAfterS authorization xDemoSession draws =
      .ok (s', tenant)) : OnlyAccounts s s' := by
  obtain ⟨s₁, identified, touched⟩ := resolveTenant_ok ok
  have first : OnlyAccounts s s₁ := by
    cases authorization with
    | none =>
      obtain ⟨name, _, resolved⟩ := identify_anonymous identified
      exact upsertAccount_only resolved
    | some header =>
      simp only [identify] at identified
      split at identified
      · obtain ⟨rfl, _⟩ := Prod.mk.inj (Except.ok.inj identified)
        exact .refl _
      · cases identified
  obtain ⟨accounts, apiKeys, rfl⟩ := first
  simp only [touchAccount, bind, Except.bind, pure, Except.pure] at touched
  split at touched
  · cases touched
  · exact ⟨_, apiKeys, (Except.ok.inj touched).symm⟩

lemma issueApiKey_only (ok : issueApiKey hashKey s name label draws = .ok (s', rawKey, tenant)) :
    OnlyAccounts s s' := by
  simp only [issueApiKey, bind, Except.bind] at ok
  split at ok
  · cases ok
  rename_i upserted eq
  obtain ⟨accounts, apiKeys, same⟩ : OnlyAccounts s upserted.1 := upsertAccount_only eq
  split_ifs at ok
  obtain ⟨rfl, _⟩ := Prod.mk.inj (Except.ok.inj ok)
  exact ⟨accounts, _, by rw [same]⟩

end Calls

section Steps
variable {config : MatchConfig} {hashKey : String → String} {refreshAfterS : ℤ} {s u : Sys}
  {e : Event} {store : Store} {draws : TenancyDraws}

/-- The workers' invariant does not involve accounts and keys. -/
lemma system_commit (inv : s.Inv config) (only : OnlyAccounts s.store store) :
    (s.commit store).Inv config := by
  obtain ⟨accounts, apiKeys, rfl⟩ := only
  have ext : s.Extends (s.commit { s.store with accounts := accounts, apiKeys := apiKeys }) :=
    .of_raw rfl fun side => by cases side <;> rfl
  refine ⟨inv.consistent.congr (fun side => by cases side <;> rfl) rfl rfl, ?_,
    fun w => (inv.workers w).mono fun f => Sys.Knows.mono ext⟩
  rintro (_ | _) row mem
  · exact inv.drawn .gateway row mem
  · exact inv.drawn .ledger row mem

/-- A call that adds at most an account of a new id keeps the primary key. -/
lemma nodup_of_adds (ids : (s.store.accounts.map Account.id).Nodup)
    (new : s.store.hasAccount draws.accountId = false) (adds : AddsAtMost draws s.store store) :
    (store.accounts.map Account.id).Nodup := by
  have listed (t : Store) : (tenants t).map Tenant.accountId = t.accounts.map Account.id := by
    rw [tenants, List.map_map]
    rfl
  rw [← listed] at ids ⊢
  rcases adds with same | ⟨t, id, eq⟩
  · rwa [same]
  · rw [eq]
    refine nodup_map_concat ids fun t' mem sameId => ?_
    obtain ⟨a, memA, rfl⟩ := List.mem_map.1 mem
    have held : s.store.hasAccount draws.accountId = true :=
      Store.hasAccount_iff.2 ⟨a, memA, sameId.trans id⟩
    simp [held] at new

/-- A step of the interleaved system keeps the primary key of the accounts. -/
lemma nodup_of_step {event : System.Event} (ids : (s.store.accounts.map Account.id).Nodup)
    (st : System.Step config s event u) : (u.store.accounts.map Account.id).Nodup := by
  cases st with
  | openAccount new =>
    refine nodup_map_concat ids fun a mem same => ?_
    simp [Store.hasAccount_iff.2 ⟨a, mem, same⟩] at new
  | ingest _ ok =>
    have same := (Ingest.run_effect ok).accounts
    rwa [← same] at ids
  | apply _ _ ok =>
    obtain ⟨r, _, ⟨_, rfl⟩ | ⟨_, _, rfl⟩⟩ := persist_ok ok
    · exact ids
    · exact (Persist.settle_accounts ..).symm ▸ ids
  | deleteAccount => exact nodup_map_deleteWhere ids
  | closeException ok =>
    simp only [Queries.closeException] at ok
    split_ifs at ok
    obtain ⟨rfl, _⟩ := Prod.mk.inj (Except.ok.inj ok)
    exact ids
  | load | find | ack | scan | beginRow | abandon => exact ids

lemma Step.inv (inv : Inv config s) (st : Step config hashKey refreshAfterS s e u) : Inv config u := by
  cases st with
  | work st => exact ⟨st.inv inv.system, nodup_of_step inv.accountIds st⟩
  | resolve new ok =>
    exact ⟨system_commit inv.system (resolveTenant_only ok),
      nodup_of_adds inv.accountIds new (resolveTenant_adds ok).1⟩
  | issue new ok =>
    exact ⟨system_commit inv.system (issueApiKey_only ok),
      nodup_of_adds inv.accountIds new (issueApiKey_adds ok).1⟩

/-- The invariant holds in every reachable state. -/
lemma Inv.reached {tr} (run : Run (Step config hashKey refreshAfterS) Sys.initial tr u) :
    Inv config u :=
  run.invariant ⟨.initial config, List.nodup_nil⟩ fun inv st => st.inv inv

/-- The idle demo accounts of a store that a pass takes: seen before the cutoff, at most `limit` of them, and
    if not all then those that were seen least recently. -/
structure Idlest (s : Store) (cutoff : Datetime) (limit : ℕ) (selected : List Account) : Prop where
  stored : ∀ a ∈ selected, a ∈ s.accounts
  demo : ∀ a ∈ selected, a.kind = .demo
  idle : ∀ a ∈ selected, a.lastSeenAt < cutoff
  once : (selected.map Account.id).Nodup
  atMost : selected.length ≤ limit
  least : ∀ a ∈ selected, ∀ b ∈ s.accounts, b ∉ selected → b.kind = .demo → b.lastSeenAt < cutoff →
    a.lastSeenAt ≤ b.lastSeenAt
  all : selected.length < limit → ∀ b ∈ s.accounts, b.kind = .demo → b.lastSeenAt < cutoff → b ∈ selected

lemma mem_staleDemoAccounts {s : Store} {cutoff : Datetime} {a : Account} :
    a ∈ staleDemoAccounts s cutoff ↔ a ∈ s.accounts ∧ a.kind = .demo ∧ a.lastSeenAt < cutoff := by
  rw [staleDemoAccounts, List.mem_filter, Bool.and_eq_true, beq_iff_eq, decide_eq_true_eq]

/-- The query selects the idlest demo accounts. -/
lemma selectDemoAccounts_idlest {s : Store} {cutoff : Datetime} {limit : ℕ}
    {order : List Account → List Account} (ids : (s.accounts.map Account.id).Nodup)
    (reorders : ∀ accounts, (order accounts).Perm accounts) :
    Idlest s cutoff limit (Sweeper.selectDemoAccounts s cutoff limit order) := by
  have chosen : Earliest Account.lastSeenAt limit (staleDemoAccounts s cutoff)
      (Sweeper.selectDemoAccounts s cutoff limit order) := earliest_spec (reorders _)
  have stale := fun a mem => mem_staleDemoAccounts.1 (chosen.subset a mem)
  constructor
  · exact fun a mem => (stale a mem).1
  · exact fun a mem => (stale a mem).2.1
  · exact fun a mem => (stale a mem).2.2
  · exact chosen.nodup ((List.filter_sublist.map Account.id).nodup ids)
  · exact chosen.length_le
  · exact fun a memA b memB out demo idle =>
      chosen.le_of_not_mem memA (mem_staleDemoAccounts.2 ⟨memB, demo, idle⟩) out
  · exact fun short b memB demo idle =>
      chosen.mem_of_lt short (mem_staleDemoAccounts.2 ⟨memB, demo, idle⟩)

/-- In every reachable store, `sweep_demo_accounts` without concurrent transactions deletes the least
    recently seen of the demo accounts last seen before the cutoff, as many as its limit admits, with
    all that is theirs; no statement violates a foreign key, and every other account and all that is
    its stays as it is. -/
theorem sweep_demo_accounts_exact {tr} (run : Run (Step config hashKey refreshAfterS) Sys.initial tr u)
    {limit retentionHours : ℕ} {now cutoff : Datetime} {order : List Account → List Account}
    (cut : now.sub (Timedelta.seconds (retentionHours * 3600)) = .ok cutoff)
    (reorders : ∀ accounts, (order accounts).Perm accounts) :
    ∃ selected : List Account, Idlest u.store cutoff limit selected ∧
      Sweeper.sweepDemoAccounts u.store limit retentionHours now order =
        { store := Sweeper.without u.store (selected.map (·.id)), count := selected.length } ∧
      (∀ a ∈ u.store.accounts,
        a ∈ (Sweeper.without u.store (selected.map (·.id))).accounts ↔ a ∉ selected) := by
  have inv := Inv.reached run
  have idlest : Idlest u.store cutoff limit (Sweeper.selectDemoAccounts u.store cutoff limit order) :=
    selectDemoAccounts_idlest inv.accountIds reorders
  refine ⟨_, idlest, ?_, fun a mem => ?_⟩
  · rw [Sweeper.sweepDemoAccounts, cut]
    simp only [Sweeper.deleteDemoAccounts_runs inv.system.consistent, List.length_map]
  · rw [Sweeper.without, mem_deleteWhere, decide_eq_false_iff_not]
    refine (and_iff_right mem).trans (not_congr ⟨fun listed => ?_, List.mem_map_of_mem⟩)
    obtain ⟨a', memA', same⟩ := List.mem_map.1 listed
    obtain rfl := eq_of_key inv.accountIds (idlest.stored a' memA') mem same
    exact memA'

/-- A run of the workers and the ingestion. -/
lemma of_work {tr : List (Sys × System.Event)} (run : Run (System.Step config) s tr u) :
    Run (Step config hashKey refreshAfterS) s (tr.map fun p => (p.1, .work p.2)) u := by
  induction run with
  | nil => exact .nil
  | snoc _ st ih =>
    rw [List.map_append]
    exact ih.snoc (.work st)

end Steps

/-! A visitor of the first of January whose payment the sweeper has found unmatched, a merchant with a
payment under the same key, and a pass on the second. -/

namespace Sample

def visitor : Account :=
  { id := 2, name := "demo:visitor", kind := .demo, createdAt := .newYear 0, lastSeenAt := .newYear 0 }

/-- A day and a second later. -/
def nextDay : Datetime where
  us := 63839750401 * 1000000
  nonneg := by decide
  bounded := by decide

/-- The visitor's payment. -/
def payment : RawRow :=
  Ingest.gatewayRow 2 Ingest.Sample.payload "key-1" "null" (.newYear 0) Ingest.Sample.draws

def events : List System.Event :=
  [.openAccount Ingest.Sample.account, .openAccount visitor,
    .ingest (.gateway 2 Ingest.Sample.payload "key-1" "null") Ingest.Sample.draws,
    .ingest (.gateway 1 Ingest.Sample.payload "key-1" "null") (Ingest.Sample.drawsAfter 1),
    .scan 0 [facts payment .gateway], .beginRow 0, .find 0 [] (.newYear 5),
    .apply 0 (.newYear 5) (System.Sample.drawsAt 1)]

/-- The owners of what a store holds: the accounts, and the tenants of the rows, results and exceptions. -/
def owners (s : Store) : List (List ℕ) :=
  [s.accounts.map (·.id), s.gatewayTransactions.map (·.tenantId), s.reconciliationResults.map (·.tenantId),
    s.exceptions.map (·.tenantId)]

end Sample

theorem sweep_demo_accounts_exact_sample : ∃ u : Sys,
    u.store.accounts = [Ingest.Sample.account, Sample.visitor] ∧
    Sample.owners u.store = [[1, 2], [2, 1], [2], [2]] ∧
    ∃ after, Sweeper.sweepDemoAccounts u.store 500 24 Sample.nextDay id = { store := after, count := 1 } ∧
      Sample.owners after = [[1], [1], [], []] := by
  have runs : ((replay (System.step .shipped) Sys.initial Sample.events).map fun p =>
      (p.2.store.accounts, Sample.owners p.2.store, Sample.owners (Sweeper.without p.2.store [2]))) =
        some ([Ingest.Sample.account, Sample.visitor], [[1, 2], [2, 1], [2], [2]], [[1], [1], [], []]) := by
    decide +kernel
  obtain ⟨⟨tr, u⟩, eq, tables⟩ := Option.map_eq_some_iff.1 runs
  simp only [Prod.mk.injEq] at tables
  obtain ⟨accounts, before, after⟩ := tables
  have run : Run (Step .shipped id 60) Sys.initial _ u := of_work (.of_replay System.step_iff.1 eq)
  obtain ⟨selected, idlest, swept, _⟩ :=
    @sweep_demo_accounts_exact _ _ _ _ _ run 500 24 Sample.nextDay (.newYear 1) id rfl fun _ => .refl _
  -- the merchant's account is no demo account
  have only : ∀ a ∈ selected, a = Sample.visitor := by
    intro a mem
    have stored := idlest.stored a mem
    rw [accounts, List.mem_pair] at stored
    rcases stored with rfl | rfl
    · exact absurd (idlest.demo _ mem) (by decide)
    · rfl
  have one : selected = [Sample.visitor] := by
    cases selected with
    | nil =>
      have mem := idlest.all (by decide) Sample.visitor (by simp [accounts]) rfl (by decide)
      cases mem
    | cons a rest =>
      obtain rfl := only a List.mem_cons_self
      cases rest with
      | nil => rfl
      | cons b rest =>
        obtain rfl := only b (by simp)
        have once := idlest.once
        simp at once
  rw [one] at swept
  exact ⟨u, accounts, before, _, swept, after⟩

end System.Live
end LedgerLoop
