import LedgerLoop.Services.Credentials
import LedgerLoop.Worker.Evidence

/-!
# Retention and live tenants

Requests, ingestion, the issue of API keys and the separate steps of `sweep_demo_accounts` in any
interleaving: the selection of stale accounts, then one deletion transaction for each. Staleness is decided
once for the batch. A request that resolves to an account between its selection and its deletion refreshes
`last_seen_at`, and the account is deleted all the same.

`Undisturbed` excludes that request. Then whatever is deleted is stale at that moment, and a tenant keeps
its rows for the retention time, less the refresh interval, after each of its requests
(`retention_spares`).
-/

set_option autoImplicit false

namespace LedgerLoop
open LedgerLoop.Library

namespace Retention
open Tenancy

/-- The accounts and their rows, the cutoff of the latest selection, and the time. -/
structure Sys where
  base : Tenancy.Sys
  cutoff : Datetime
  clock : Datetime

/-- The migrated schema. -/
def Sys.migrated (at_ : Datetime) : Sys where
  base := .migrated at_
  cutoff := at_
  clock := at_

inductive Action where
  | request (authorization xDemoSession : Option String) (draws : TenancyDraws)
  | ingest (call : IngestCall) (draws : IngestDraws)
  | issue (accountName label : String) (draws : TenancyDraws)
  | select (cutoff : Datetime) (ids : List ℕ)
  | delete
  | abandonPass

structure Event where
  at_ : Datetime
  action : Action

/-- One request's resolution, one ingestion, one key, or one step of a pass. What a step reads of the clock lies
    between the end of the step before it and its own end. -/
inductive Step (hashKey : String → String) (refreshAfterS retentionHours : ℕ) :
    Sys → Event → Sys → Prop where
  | request {s : Sys} {at_ authorization xDemoSession draws base} :
    s.clock ≤ draws.now → draws.now ≤ draws.utcNow → draws.utcNow ≤ at_ →
    Tenancy.Step hashKey refreshAfterS s.base (.resolve authorization xDemoSession draws) base →
    Step hashKey refreshAfterS retentionHours s ⟨at_, .request authorization xDemoSession draws⟩
      { s with base := base, clock := at_ }
  | ingest {s : Sys} {at_ call draws store outcomes} :
    s.clock ≤ at_ →
    Ingest.run s.base.store draws call = .ok (store, outcomes) →
    Step hashKey refreshAfterS retentionHours s ⟨at_, .ingest call draws⟩
      { s with base := { s.base with store := store }, clock := at_ }
  | issue {s : Sys} {at_ accountName label draws base} :
    s.clock ≤ draws.now → draws.now ≤ at_ →
    Tenancy.Step hashKey refreshAfterS s.base (.issue accountName label draws) base →
    Step hashKey refreshAfterS retentionHours s ⟨at_, .issue accountName label draws⟩
      { s with base := base, clock := at_ }
  | select {s : Sys} {at_ now cutoff ids base} :
    s.clock ≤ now → now ≤ at_ →
    now.sub (Timedelta.seconds (retentionHours * 3600)) = .ok cutoff →
    Tenancy.Step hashKey refreshAfterS s.base (.selectStale cutoff ids) base →
    Step hashKey refreshAfterS retentionHours s ⟨at_, .select cutoff ids⟩
      { base := base, cutoff := cutoff, clock := at_ }
  | delete {s : Sys} {at_ base} :
    s.clock ≤ at_ →
    Tenancy.Step hashKey refreshAfterS s.base .deleteStale base →
    Step hashKey refreshAfterS retentionHours s ⟨at_, .delete⟩ { s with base := base, clock := at_ }
  | abandonPass {s : Sys} {at_ base} :
    s.clock ≤ at_ →
    Tenancy.Step hashKey refreshAfterS s.base .abandonPass base →
    Step hashKey refreshAfterS retentionHours s ⟨at_, .abandonPass⟩
      { s with base := base, clock := at_ }

/-- A request does not resolve to an account that the running pass has selected and not deleted yet. -/
def Undisturbed (hashKey : String → String) (refreshAfterS : ℕ) (s : Sys) (e : Event) : Prop :=
  match e.action with
  | .request authorization xDemoSession draws => ∀ store tenant,
      resolveTenant hashKey s.base.store refreshAfterS authorization xDemoSession draws =
        .ok (store, tenant) → tenant.accountId ∉ s.base.stale
  | _ => True

/-- The account the next deletion is for is a demo account, last seen before the cutoff. -/
def DeletesStale (s : Sys) (e : Event) : Prop :=
  e.action = .delete → ∀ id rest, s.base.stale = id :: rest →
    ∀ a ∈ s.base.store.accounts, a.id = id → a.kind = .demo ∧ a.lastSeenAt < s.cutoff

/-- Every row of a tenant in one store is followed by one in the other. -/
def KeepsRows (tenantId : ℕ) (s u : Sys) : Prop :=
  ∀ side, ∀ row ∈ s.base.store.raw side, row.tenantId = tenantId →
    ∃ later ∈ u.base.store.raw side, row.Follows later

/-- What a pass has selected was last seen before its cutoff, which is the retention time ago. -/
structure Inv (retentionHours : ℕ) (s : Sys) : Prop where
  accounts : AccountInvariant s.base
  seen : ∀ id ∈ s.base.stale, ∀ a ∈ s.base.store.accounts, a.id = id → a.lastSeenAt < s.cutoff
  cutoff : s.base.stale ≠ [] →
    s.cutoff.us + Timedelta.seconds (retentionHours * 3600) ≤ s.clock.us

/-- An account exists and was last seen no earlier than `bound`, as will be whatever touches it. -/
structure Seen (id : ℕ) (bound : ℤ) (s : Sys) : Prop where
  exists_ : ∃ a ∈ s.base.store.accounts, a.id = id
  recent : ∀ a ∈ s.base.store.accounts, a.id = id → bound ≤ a.lastSeenAt.us
  clock : bound ≤ s.clock.us

section Calls
variable {hashKey : String → String} {refreshAfterS : ℕ} {s s' : Store} {tenant : Tenant}
  {draws : TenancyDraws} {name label rawKey : String} {kind : AccountKind}
  {authorization xDemoSession : Option String} {a : Account}

/-- The accounts are as they were, or there is one more, of the id the call drew, seen now. -/
def AddsSeen (draws : TenancyDraws) (s s' : Store) : Prop :=
  s'.accounts = s.accounts ∨ ∃ created : Account, created.id = draws.accountId ∧
    created.lastSeenAt = draws.now ∧ s'.accounts = s.accounts ++ [created]

lemma AddsSeen.cases (adds : AddsSeen draws s s') (mem : a ∈ s'.accounts) :
    (a.id = draws.accountId ∧ a.lastSeenAt = draws.now) ∨ a ∈ s.accounts := by
  rcases adds with same | ⟨created, id, seen, eq⟩
  · exact .inr (same ▸ mem)
  · rcases List.mem_append.1 (eq ▸ mem) with old | new
    · exact .inr old
    · obtain rfl := List.mem_singleton.1 new
      exact .inl ⟨id, seen⟩

lemma AddsSeen.kept (adds : AddsSeen draws s s') (mem : a ∈ s.accounts) : a ∈ s'.accounts := by
  rcases adds with same | ⟨created, _, _, eq⟩
  · exact same ▸ mem
  · exact eq ▸ List.mem_append_left _ mem

/-- Who a name resolves to has an account: one that was there, or a new one seen now. -/
lemma upsertAccount_seen (ok : upsertAccount s name kind draws = .ok (s', tenant)) :
    (∀ side, s'.raw side = s.raw side) ∧ (∃ a ∈ s'.accounts, a.id = tenant.accountId) ∧
      (s'.accounts = s.accounts ∨ ∃ created : Account, created.id = draws.accountId ∧
        created.id = tenant.accountId ∧ created.lastSeenAt = draws.now ∧
        s'.accounts = s.accounts ++ [created]) := by
  simp only [upsertAccount] at ok
  split_ifs at ok with long taken
  · split at ok
    · rename_i existing one
      obtain ⟨rfl, rfl⟩ := Prod.mk.inj (Except.ok.inj ok)
      have mem : existing ∈ s.accounts.filter (·.name == name) := by simp [one]
      exact ⟨fun _ => rfl, ⟨existing, (List.mem_filter.1 mem).1, rfl⟩, .inl rfl⟩
    · cases ok
  · obtain ⟨rfl, rfl⟩ := Prod.mk.inj (Except.ok.inj ok)
    refine ⟨fun side => by cases side <;> rfl, ?_, .inr ⟨_, rfl, rfl, rfl, rfl⟩⟩
    exact ⟨_, List.mem_append_right _ (List.mem_singleton_self _), rfl⟩

/-- Issuing a key leaves the raw tables, and adds at most the key's account. -/
lemma issueApiKey_seen (ok : issueApiKey hashKey s name label draws = .ok (s', rawKey, tenant)) :
    (∀ side, s'.raw side = s.raw side) ∧ AddsSeen draws s s' := by
  simp only [issueApiKey, bind, Except.bind] at ok
  split at ok
  · cases ok
  rename_i upserted eq
  split_ifs at ok with real long taken
  obtain ⟨rfl, _⟩ := Prod.mk.inj (Except.ok.inj ok)
  obtain ⟨raw, _, accounts⟩ := upsertAccount_seen eq
  constructor
  · intro side
    rw [← raw side]
    cases side <;> rfl
  · rcases accounts with same | ⟨created, id, _, rest⟩
    · exact .inl same
    · exact .inr ⟨created, id, rest⟩

lemma identify_accounts
    (ok : identify hashKey s authorization xDemoSession draws = .ok (s', tenant)) :
    (∀ side, s'.raw side = s.raw side) ∧ (∃ a ∈ s'.accounts, a.id = tenant.accountId) ∧
      (s'.accounts = s.accounts ∨ ∃ created : Account, created.id = draws.accountId ∧
        created.id = tenant.accountId ∧ created.lastSeenAt = draws.now ∧
        s'.accounts = s.accounts ++ [created]) := by
  cases authorization with
  | some header =>
    rcases identify_some hashKey s header xDemoSession draws with ⟨rawKey, tenant', _, found, eq⟩ | rejected
    · obtain ⟨rfl, rfl⟩ := Prod.mk.inj (Except.ok.inj (eq.symm.trans ok))
      obtain ⟨_, _, account, mem, _, _, _, rfl⟩ := resolveApiKey_eq_some found
      exact ⟨fun _ => rfl, ⟨account, mem, rfl⟩, .inl rfl⟩
    · rw [rejected] at ok
      cases ok
  | none =>
    obtain ⟨name, _, resolved⟩ := identify_anonymous ok
    exact upsertAccount_seen resolved

/-- What resolving a request leaves of the accounts: the request's own was seen now, or recently
    enough not to be touched, and every other is as it was. -/
lemma resolveTenant_seen
    (ok : resolveTenant hashKey s refreshAfterS authorization xDemoSession draws =
      .ok (s', tenant)) :
    (∀ side, s'.raw side = s.raw side) ∧ (∃ a ∈ s'.accounts, a.id = tenant.accountId) ∧
      (∀ a ∈ s'.accounts, a.id = tenant.accountId → a.lastSeenAt = draws.now ∨
        draws.utcNow.us - Timedelta.seconds refreshAfterS ≤ a.lastSeenAt.us) ∧
      (∀ a ∈ s'.accounts, (a.id = tenant.accountId ∧ a.lastSeenAt = draws.now) ∨
        ∃ a₀ ∈ s.accounts, a₀.id = a.id ∧ a₀.lastSeenAt = a.lastSeenAt) := by
  obtain ⟨s₁, identified, touched⟩ := resolveTenant_ok ok
  obtain ⟨raw, ⟨own, memOwn, ownId⟩, accounts⟩ := identify_accounts identified
  simp only [touchAccount, bind, Except.bind, pure, Except.pure] at touched
  split at touched
  · cases touched
  rename_i stale staleEq
  obtain rfl := Except.ok.inj touched
  rw [Datetime.sub, Datetime.ofUs_eq_ok] at staleEq
  have before {a₀ : Account} (mem : a₀ ∈ s₁.accounts) :
      (a₀.id = tenant.accountId ∧ a₀.lastSeenAt = draws.now) ∨ a₀ ∈ s.accounts := by
    rcases accounts with same | ⟨created, _, id, seen, eq⟩
    · exact .inr (same ▸ mem)
    · rcases List.mem_append.1 (eq ▸ mem) with old | new
      · exact .inr old
      · obtain rfl := List.mem_singleton.1 new
        exact .inl ⟨id, seen⟩
  have ids : (touch tenant.accountId stale draws.now s₁.accounts).map Account.id =
      s₁.accounts.map Account.id := map_updateWhere _ fun _ => rfl
  refine ⟨fun side => ?_, ?_, fun a mem id => ?_, fun a mem => ?_⟩
  · rw [← raw side]
    cases side <;> rfl
  · obtain ⟨a, mem, id⟩ := List.mem_map.1 (ids.symm ▸ List.mem_map_of_mem memOwn)
    exact ⟨a, mem, id.trans ownId⟩
  · rcases mem_updateWhere.1 mem with ⟨a₀, _, _, rfl⟩ | ⟨_, skipped⟩
    · exact .inl rfl
    · right
      simp only [id, beq_self_eq_true, Bool.true_and, decide_eq_false_iff_not, Datetime.lt_iff,
        not_lt] at skipped
      rwa [staleEq] at skipped
  · rcases mem_updateWhere.1 mem with ⟨a₀, mem₀, selected, rfl⟩ | ⟨mem₀, _⟩
    · rw [Bool.and_eq_true, beq_iff_eq] at selected
      exact .inl ⟨selected.1, rfl⟩
    · rcases before mem₀ with new | old
      · exact .inl new
      · exact .inr ⟨a, old, rfl, rfl⟩

end Calls

section Steps
variable {hashKey : String → String} {refreshAfterS retentionHours : ℕ} {s u : Sys} {e : Event}
  {id tenantId : ℕ} {bound : ℤ}

/-- Time does not go back. -/
lemma Step.clock_le (st : Step hashKey refreshAfterS retentionHours s e u) : s.clock ≤ u.clock := by
  cases st with
  | request start order finish _ => exact (start.trans order).trans finish
  | select start finish _ _ | issue start finish _ => exact start.trans finish
  | ingest le _ | delete le _ | abandonPass le _ => exact le

/-- An undisturbed step keeps the invariant. -/
lemma Step.inv (inv : Inv retentionHours s) (undisturbed : Undisturbed hashKey refreshAfterS s e)
    (st : Step hashKey refreshAfterS retentionHours s e u) : Inv retentionHours u := by
  have later := Datetime.le_iff.1 st.clock_le
  cases st with
  | @request at_ authorization xDemoSession draws base start order finish st =>
    have accounts := st.accountInvariant inv.accounts
    cases st with
    | resolve new ok =>
      refine ⟨accounts, fun id mem a memA same => ?_, fun some_ => (inv.cutoff some_).trans later⟩
      obtain ⟨_, _, _, each⟩ := resolveTenant_seen ok
      rcases each a memA with ⟨own, _⟩ | ⟨a₀, mem₀, id₀, seen₀⟩
      · exact absurd (own ▸ same ▸ mem) (undisturbed _ _ ok)
      · exact seen₀ ▸ inv.seen id mem a₀ mem₀ (id₀.trans same)
  | ingest _ ok =>
    have accounts := (Ingest.run_effect ok).accounts
    refine ⟨⟨?_, ?_, inv.accounts.staleDrawn, ?_⟩, ?_, fun some_ => (inv.cutoff some_).trans later⟩
    · simpa only [tenants, accounts] using inv.accounts.ids
    · simpa only [tenants, accounts] using inv.accounts.drawn
    · simpa only [tenants, accounts] using inv.accounts.staleDemo
    · simpa only [accounts] using inv.seen
  | @issue at_ accountName label draws base _ _ st =>
    have accounts := st.accountInvariant inv.accounts
    cases st with
    | issue new ok =>
      refine ⟨accounts, fun id mem a memA same => ?_, fun some_ => (inv.cutoff some_).trans later⟩
      rcases (issueApiKey_seen ok).2.cases memA with ⟨drawn, _⟩ | old
      · exact absurd (inv.accounts.staleDrawn id mem) (same ▸ drawn ▸ new)
      · exact inv.seen id mem a old same
  | @select at_ now cutoff ids base start finish back st =>
    have accounts := st.accountInvariant inv.accounts
    cases st with
    | selectStale selected =>
      refine ⟨accounts, fun id mem a memA same => ?_, fun _ => ?_⟩
      · obtain ⟨a₀, mem₀, rfl⟩ := List.mem_map.1 (selected.subset mem)
        obtain ⟨stored, both⟩ := List.mem_filter.1 mem₀
        rw [Bool.and_eq_true, decide_eq_true_eq] at both
        have ids : (s.base.store.accounts.map Account.id).Nodup := by
          simpa [tenants, tenantOf, Function.comp_def] using inv.accounts.ids
        exact eq_of_key ids memA stored same ▸ both.2
      · rw [Datetime.sub, Datetime.ofUs_eq_ok] at back
        rw [Datetime.le_iff] at finish
        rw [back]
        exact (sub_add_cancel now.us _).le.trans finish
  | delete _ st =>
    have accounts := st.accountInvariant inv.accounts
    cases st with
    | @deleteStale id rest stale =>
      have sub : ∀ id' ∈ rest, id' ∈ s.base.stale :=
        fun id' mem => stale ▸ List.mem_cons_of_mem _ mem
      refine ⟨accounts, fun id' mem a memA => ?_, fun _ => (inv.cutoff ?_).trans later⟩
      · exact inv.seen id' (sub id' mem) a (mem_deleteWhere.1 memA).1
      · simp [stale]
  | abandonPass _ st =>
    have accounts := st.accountInvariant inv.accounts
    cases st with
    | abandonPass => exact ⟨accounts, by rintro _ ⟨⟩, fun some_ => absurd rfl some_⟩

/-- What the invariant says of the next deletion. -/
lemma Inv.deletesStale (inv : Inv retentionHours s) : DeletesStale s e := by
  intro _ id rest stale a memA same
  have selected : id ∈ s.base.stale := stale ▸ List.mem_cons_self
  have demo := inv.accounts.staleDemo id selected (tenantOf a) (List.mem_map_of_mem memA) same
  exact ⟨demo, inv.seen id selected a memA same⟩

/-- An account seen since is not the next to be deleted, before its retention time is over. -/
lemma Inv.not_next {rest : List ℕ} (inv : Inv retentionHours s) (seen : Seen id bound s)
    (early : s.clock.us < bound + Timedelta.seconds (retentionHours * 3600)) :
    s.base.stale ≠ id :: rest := by
  intro stale
  obtain ⟨a, memA, same⟩ := seen.exists_
  have old := Datetime.lt_iff.1 (inv.seen id (stale ▸ List.mem_cons_self) a memA same)
  have recent := seen.recent a memA same
  have far := inv.cutoff (by simp [stale])
  change s.clock.us < bound + (Timedelta.seconds (retentionHours * 3600) : ℤ) at early
  change s.cutoff.us + (Timedelta.seconds (retentionHours * 3600) : ℤ) ≤ s.clock.us at far
  omega

/-- Who a request resolves to has been seen, up to the refresh interval. -/
lemma Seen.of_resolve {authorization xDemoSession : Option String} {draws : TenancyDraws}
    {store : Store} {tenant : Tenant} {base : Tenancy.Sys} {cutoff clock : Datetime}
    (ok : resolveTenant hashKey s.base.store refreshAfterS authorization xDemoSession draws =
      .ok (store, tenant))
    (order : draws.now ≤ draws.utcNow) (finish : draws.utcNow ≤ clock) (eq : base.store = store) :
    Seen tenant.accountId (draws.now.us - Timedelta.seconds refreshAfterS)
      { base := base, cutoff := cutoff, clock := clock } := by
  subst eq
  have refresh : 0 ≤ (refreshAfterS : ℤ) * 1000000 := by positivity
  have order := Datetime.le_iff.1 order
  have finish := Datetime.le_iff.1 finish
  obtain ⟨_, own, recent, _⟩ := resolveTenant_seen ok
  refine ⟨own, fun a memA same => ?_, ?_⟩
  · rcases recent a memA same with now | enough
    · rw [now]
      exact sub_le_self _ refresh
    · exact (sub_le_sub_right order _).trans enough
  · exact (sub_le_self _ refresh).trans (order.trans finish)

/-- A step that does not delete the account keeps it seen. -/
lemma Step.seen (seen : Seen id bound s) (st : Step hashKey refreshAfterS retentionHours s e u)
    (spared : ∀ rest, s.base.stale ≠ id :: rest) : Seen id bound u := by
  have later := seen.clock.trans (Datetime.le_iff.1 st.clock_le)
  cases st with
  | request start _ _ st =>
    cases st with
    | resolve new ok =>
      obtain ⟨_, own, _, each⟩ := resolveTenant_seen ok
      refine ⟨?_, fun a memA same => ?_, later⟩
      · obtain ⟨a₀, mem₀, id₀⟩ := seen.exists_
        have kept : tenantOf a₀ ∈ tenants _ :=
          (resolveTenant_adds ok).1.kept (List.mem_map_of_mem mem₀)
        obtain ⟨a, memA, eq⟩ := List.mem_map.1 kept
        exact ⟨a, memA, (congrArg Tenant.accountId eq).trans id₀⟩
      · rcases each a memA with ⟨_, now⟩ | ⟨a₀, mem₀, id₀, seen₀⟩
        · rw [now]
          exact seen.clock.trans (Datetime.le_iff.1 start)
        · exact seen₀ ▸ seen.recent a₀ mem₀ (id₀.trans same)
  | ingest _ ok =>
    have accounts := (Ingest.run_effect ok).accounts
    refine ⟨?_, ?_, later⟩
    · simpa only [accounts] using seen.exists_
    · simpa only [accounts] using seen.recent
  | issue start _ st =>
    cases st with
    | issue new ok =>
      have adds := (issueApiKey_seen ok).2
      refine ⟨?_, fun a memA same => ?_, later⟩
      · obtain ⟨a₀, mem₀, id₀⟩ := seen.exists_
        exact ⟨a₀, adds.kept mem₀, id₀⟩
      · rcases adds.cases memA with ⟨_, now⟩ | old
        · rw [now]
          exact seen.clock.trans (Datetime.le_iff.1 start)
        · exact seen.recent a old same
  | select _ _ _ st =>
    cases st with
    | selectStale _ => exact ⟨seen.exists_, seen.recent, later⟩
  | delete _ st =>
    cases st with
    | @deleteStale id' rest stale =>
      have ne : id ≠ id' := fun eq => spared rest (eq ▸ stale)
      obtain ⟨a, memA, same⟩ := seen.exists_
      refine ⟨⟨a, mem_deleteWhere.2 ⟨memA, by simp [same, ne]⟩, same⟩, fun a memA => ?_, later⟩
      exact seen.recent a (mem_deleteWhere.1 memA).1
  | abandonPass _ st =>
    cases st with
    | abandonPass => exact ⟨seen.exists_, seen.recent, later⟩

/-- A step that does not delete a tenant keeps its rows. -/
lemma Step.keepsRows (st : Step hashKey refreshAfterS retentionHours s e u)
    (spared : ∀ rest, s.base.stale ≠ tenantId :: rest) : KeepsRows tenantId s u := by
  intro side row mem tenant
  cases st with
  | request _ _ _ st =>
    cases st with
    | resolve new ok => exact ⟨row, ((resolveTenant_seen ok).1 side).symm ▸ mem, .refl row⟩
  | ingest _ ok => exact Ingest.run_kept ok row mem
  | issue _ _ st =>
    cases st with
    | issue new ok => exact ⟨row, ((issueApiKey_seen ok).1 side).symm ▸ mem, .refl row⟩
  | select _ _ _ st =>
    cases st with
    | selectStale _ => exact ⟨row, mem, .refl row⟩
  | delete _ st =>
    cases st with
    | @deleteStale id rest stale =>
      refine ⟨row, ?_, .refl row⟩
      change row ∈ (Sweeper.deleteAccount s.base.store id).raw side
      have ne : tenantId ≠ id := fun eq => spared rest (eq ▸ stale)
      rw [Sweeper.raw_deleteAccount, mem_deleteWhere]
      exact ⟨mem, by simp [tenant, ne]⟩
  | abandonPass _ st =>
    cases st with
    | abandonPass => exact ⟨row, mem, .refl row⟩

lemma KeepsRows.refl (s : Sys) : KeepsRows tenantId s s := fun _ row mem _ => ⟨row, mem, .refl row⟩

lemma KeepsRows.trans {s t u : Sys} (st : KeepsRows tenantId s t) (tu : KeepsRows tenantId t u) :
    KeepsRows tenantId s u := by
  intro side row mem tenant
  obtain ⟨mid, memMid, follows⟩ := st side row mem tenant
  have same : mid.tenantId = row.tenantId := congrArg Evidence.tenantId follows.evidence
  obtain ⟨later, memLater, follows'⟩ := tu side mid memMid (same.trans tenant)
  exact ⟨later, memLater, follows.trans follows'⟩

end Steps

section Runs
variable {hashKey : String → String} {refreshAfterS retentionHours : ℕ} {at_ : Datetime}
  {tr : List (Sys × Event)} {s u : Sys}

lemma Inv.migrated (at_ : Datetime) : Inv retentionHours (.migrated at_) where
  accounts := .migrated at_
  seen := by rintro _ ⟨⟩
  cutoff some_ := absurd rfl some_

/-- The invariant holds along a run whose steps are all undisturbed. -/
lemma Inv.along (run : Run (Step hashKey refreshAfterS retentionHours) s tr u)
    (inv : Inv retentionHours s) (undisturbed : ∀ p ∈ tr, Undisturbed hashKey refreshAfterS p.1 p.2) :
    Inv retentionHours u :=
  (run.restrict undisturbed).invariant inv fun inv st => st.1.inv inv st.2

/-- A tenant that has been seen keeps its rows as long as its retention time is not over. -/
lemma keepsRows_along {tenantId : ℕ} {bound : ℤ}
    (run : Run (Step hashKey refreshAfterS retentionHours) s tr u) (inv : Inv retentionHours s)
    (undisturbed : ∀ p ∈ tr, Undisturbed hashKey refreshAfterS p.1 p.2) (seen : Seen tenantId bound s)
    (early : u.clock.us < bound + Timedelta.seconds (retentionHours * 3600)) :
    ∀ p ∈ tr, KeepsRows tenantId p.1 u := by
  have before : ∀ p ∈ tr, p.1.clock ≤ u.clock := fun p mem =>
    Run.grows_from (R := fun a b : Sys => a.clock ≤ b.clock) run (fun _ => le_rfl) le_trans
      Step.clock_le p mem
  have early' : ∀ p ∈ tr, p.1.clock.us < bound + Timedelta.seconds (retentionHours * 3600) :=
    fun p mem => (Datetime.le_iff.1 (before p mem)).trans_lt early
  have spared : ∀ p ∈ tr, ∀ rest, p.1.base.stale ≠ tenantId :: rest := by
    rintro ⟨t, e⟩ mem rest
    obtain ⟨tr0, tr1, v, eq, run0, _, _⟩ := run.split mem
    have part : ∀ p ∈ tr0, p ∈ tr := fun p memP => eq ▸ List.mem_append_left _ memP
    obtain ⟨invT, seenT⟩ := run0.invariant_within
      (I := fun s => Inv retentionHours s ∧ Seen tenantId bound s)
      (Q := fun s => s.clock.us < bound + Timedelta.seconds (retentionHours * 3600))
      ⟨inv, seen⟩ (fun p memP => undisturbed p (part p memP)) (fun p memP => early' p (part p memP))
      (early' _ mem) fun both calm earlyT _ st =>
        ⟨st.inv both.1 calm, st.seen both.2 fun _ => both.1.not_next both.2 earlyT⟩
    exact invT.not_next seenT (early' _ mem)
  exact (run.restrict spared).grows_from KeepsRows.refl KeepsRows.trans fun st => st.1.keepsRows st.2

/-- In every run in which no request resolves to an account between its selection and its deletion:
    whatever is deleted is a demo account, last seen before the cutoff at the moment of its deletion;
    and a tenant whose request began less than the retention time, less the refresh interval, ago has
    kept every row it had since. -/
theorem retention_spares (run : Run (Step hashKey refreshAfterS retentionHours) (.migrated at_) tr u)
    (undisturbed : ∀ p ∈ tr, Undisturbed hashKey refreshAfterS p.1 p.2) :
    (∀ p ∈ tr, DeletesStale p.1 p.2) ∧
    ∀ tr0 t end_ authorization xDemoSession draws tr1 store tenant,
      tr = tr0 ++ (t, ⟨end_, .request authorization xDemoSession draws⟩) :: tr1 →
      resolveTenant hashKey t.base.store refreshAfterS authorization xDemoSession draws =
        .ok (store, tenant) →
      u.clock.us - draws.now.us <
        Timedelta.seconds (retentionHours * 3600) - Timedelta.seconds refreshAfterS →
      ∀ p ∈ tr1, KeepsRows tenant.accountId p.1 u := by
  constructor
  · rintro ⟨t, e⟩ mem
    obtain ⟨tr0, tr1, v, eq, run0, _, _⟩ := run.split mem
    have part : ∀ p ∈ tr0, Undisturbed hashKey refreshAfterS p.1 p.2 :=
      fun p memP => undisturbed p (eq ▸ List.mem_append_left _ memP)
    exact (Inv.along run0 (.migrated at_) part).deletesStale
  · rintro tr0 t end_ authorization xDemoSession draws tr1 store tenant rfl resolved early
    obtain ⟨v, run0, st, run1⟩ := run.split_append
    have part0 : ∀ p ∈ tr0, Undisturbed hashKey refreshAfterS p.1 p.2 :=
      fun p memP => undisturbed p (List.mem_append_left _ memP)
    have part1 : ∀ p ∈ tr1, Undisturbed hashKey refreshAfterS p.1 p.2 :=
      fun p memP => undisturbed p (List.mem_append_right _ (List.mem_cons_of_mem _ memP))
    have invT := Inv.along run0 (.migrated at_) part0
    have here : Undisturbed hashKey refreshAfterS t ⟨end_, .request authorization xDemoSession draws⟩ :=
      undisturbed (t, ⟨end_, .request authorization xDemoSession draws⟩)
        (List.mem_append_right _ List.mem_cons_self)
    have invV := st.inv invT here
    have seen : Seen tenant.accountId (draws.now.us - Timedelta.seconds refreshAfterS) v := by
      cases st with
      | request start order finish st =>
        cases st with
        | resolve new ok =>
          obtain ⟨rfl, rfl⟩ := Prod.mk.inj (Except.ok.inj (ok.symm.trans resolved))
          exact .of_resolve ok order finish rfl
    have within : u.clock.us < draws.now.us - Timedelta.seconds refreshAfterS +
        Timedelta.seconds (retentionHours * 3600) := by
      rw [sub_lt_iff_lt_add'] at early
      rwa [sub_add_eq_add_sub, add_sub_assoc]
    exact keepsRows_along run1 invV part1 seen within

end Runs

/-! A day passes. The session does not come back, nor does the merchant that was issued a key. The `default`
account does, before or after a pass selects what is stale. -/

namespace Sample
open Tenancy.Sample (sessionId sessionName hashKey rawKey)

/-- 2024-01-02T00:00:00Z and `n` seconds. -/
def nextDay (n : ℕ) : Datetime where
  us := (63839750400 + n % 86400) * 1000000
  nonneg := by omega
  bounded := by unfold Datetime.horizon; omega

def draws (n : ℕ) (at_ : Datetime) : TenancyDraws where
  accountId := n
  keyId := n
  rawKey := rawKey
  now := at_
  utcNow := at_

def issues : Event where
  at_ := .newYear 1
  action := .issue "acme" "label" (draws 2 (.newYear 1))

def sessionStart : Event where
  at_ := .newYear 2
  action := .request none (some sessionId) (draws 3 (.newYear 2))

/-- A request of the merchant, within the refresh interval. -/
def authenticates : Event where
  at_ := .newYear 3
  action := .request (some ("Bearer " ++ rawKey)) none (draws 4 (.newYear 3))

def comesBack : Event where
  at_ := nextDay 50
  action := .request none none (draws 5 (nextDay 50))

def pays : Event where
  at_ := nextDay 55
  action := .ingest (.gateway 1 Ingest.Sample.payload "key-1" "body") Ingest.Sample.draws

/-- The selection of a pass, under 24 hours of retention. -/
def selects (n : ℕ) (ids : List ℕ) : Event where
  at_ := nextDay n
  action := .select (.newYear n) ids

lemma cutoff_eq (n : ℕ) :
    (nextDay n).sub (Timedelta.seconds ((24 : ℕ) * 3600)) = .ok (.newYear n) := by
  rw [Datetime.sub, Datetime.ofUs_eq_ok]
  simp only [Datetime.newYear, nextDay, Timedelta.seconds]
  omega

def deletes : Event where
  at_ := nextDay 70
  action := .delete

/-- Accounts, of which a pass has selected some, and keys. -/
def sys (accounts : List Account) (apiKeys : List ApiKey) (drawn stale : List ℕ)
    (cutoff clock : Datetime) : Sys where
  base := { store := { accounts := accounts, apiKeys := apiKeys }, drawn := drawn, stale := stale }
  cutoff := cutoff
  clock := clock

def demo (n : ℕ) (name : String) (created seen : Datetime) : Account where
  id := n
  name := name
  kind := .demo
  createdAt := created
  lastSeenAt := seen

def acme : Account where
  id := 2
  name := "acme"
  kind := .real
  createdAt := .newYear 1
  lastSeenAt := .newYear 1

def key : ApiKey where
  id := 2
  accountId := 2
  keyHash := hashKey rawKey
  displayPrefix := "llk_AAAAAAAA"
  label := "label"
  createdAt := .newYear 1

def session : Account := demo 3 sessionName (.newYear 2) (.newYear 2)

/-- After the key is issued. -/
def keyed : Sys :=
  sys [demo 1 "default" (.newYear 0) (.newYear 0), acme] [key] [1, 2] [] (.newYear 0) (.newYear 1)

/-- After the session begins. -/
def begun (clock : Datetime) (drawn : List ℕ) : Sys :=
  sys [demo 1 "default" (.newYear 0) (.newYear 0), acme, session] [key] drawn [] (.newYear 0) clock

/-- After the `default` account comes back. -/
def returned : Sys :=
  sys [demo 1 "default" (.newYear 0) (nextDay 50), acme, session] [key] [1, 2, 3, 4, 5] [] (.newYear 0)
    (nextDay 50)

/-- The `default` account, before and after it comes back, when it was selected. -/
def selected : Sys :=
  sys [demo 1 "default" (.newYear 0) (.newYear 0)] [] [1] [1] (.newYear 40) (nextDay 40)

def disturbed : Sys :=
  sys [demo 1 "default" (.newYear 0) (nextDay 50)] [] [1, 5] [1] (.newYear 40) (nextDay 50)

end Sample

open Sample in
theorem retention_spares_sample :
    ∃ paid u, Run (Step Tenancy.Sample.hashKey 300 24) (.migrated (.newYear 0))
        [(.migrated (.newYear 0), issues), (keyed, sessionStart),
          (begun (.newYear 2) [1, 2, 3], authenticates), (begun (.newYear 3) [1, 2, 3, 4], comesBack),
          (returned, pays), (paid, selects 60 [3]),
          ({ paid with base := { paid.base with stale := [3] }, cutoff := .newYear 60
                       clock := nextDay 60 }, deletes)] u ∧
      u.base.store.accounts.map (fun a => (a.id, a.kind)) = [(1, .demo), (2, .real)] ∧
      (paid.base.store.raw .gateway).map RawRow.tenantId = [1] ∧ KeepsRows 1 paid u := by
  have run : Run (Step Tenancy.Sample.hashKey 300 24) (.migrated (.newYear 0))
      [(_, issues), (keyed, sessionStart), (begun (.newYear 2) [1, 2, 3], authenticates),
        (begun (.newYear 3) [1, 2, 3, 4], comesBack), (returned, pays), (_, selects 60 [3]),
        (_, deletes)] _ :=
    .cons (.issue (by decide) (by decide) (.issue (by decide) rfl)) <|
    .cons (.request (by decide) (by decide) (by decide) (.resolve (by decide) rfl)) <|
    .cons (.request (by decide) (by decide) (by decide) (.resolve (by decide) rfl)) <|
    .cons (.request (by decide) (by decide) (by decide) (.resolve (by decide) rfl)) <|
    .cons (.ingest (by decide) rfl) <|
    .cons (.select (by decide) (by decide) (cutoff_eq 60) (.selectStale (by decide))) <|
    .cons (.delete (by decide) (.deleteStale rfl)) .nil
  refine ⟨_, _, run, by decide, by decide, ?_⟩
  refine (retention_spares run ?_).2 [_, _, _] (begun (.newYear 3) [1, 2, 3, 4]) (nextDay 50) none none
    (draws 5 (nextDay 50)) _ _ _ rfl rfl (by decide) (_, selects 60 [3]) (by simp)
  simp only [List.mem_cons, List.not_mem_nil, or_false]
  rintro p (rfl | rfl | rfl | rfl | rfl | rfl | rfl)
  · trivial
  · exact fun _ _ _ mem => by cases mem
  · exact fun _ _ _ mem => by cases mem
  · exact fun _ _ _ mem => by cases mem
  · trivial
  · trivial
  · trivial

open Sample in
/-- A tenant that has come back since it was selected is deleted. -/
theorem active_tenant_deleted :
    ∃ u, Run (Step Tenancy.Sample.hashKey 300 24) (.migrated (.newYear 0))
        [(.migrated (.newYear 0), selects 40 [1]), (selected, comesBack), (disturbed, deletes)] u ∧
      ¬DeletesStale disturbed deletes := by
  have run : Run (Step Tenancy.Sample.hashKey 300 24) (.migrated (.newYear 0))
      [(_, selects 40 [1]), (selected, comesBack), (disturbed, deletes)] _ :=
    .cons (.select (by decide) (by decide) (cutoff_eq 40) (.selectStale (by decide))) <|
    .cons (.request (by decide) (by decide) (by decide) (.resolve (by decide) rfl)) <|
    .cons (.delete (by decide) (.deleteStale rfl)) .nil
  refine ⟨_, run, fun stale => ?_⟩
  have old := (stale rfl 1 [] rfl _ List.mem_cons_self rfl).2
  revert old
  decide

end Retention
end LedgerLoop
