import LedgerLoop.Services.Anonymous

/-!
# Accounts

What the calls of tenant resolution and a retention pass do to the accounts: a call adds at most the
tenant of the id it drew (`AddsAtMost`), a pass deletes accounts it has selected. Ids are never handed
out twice and no account changes its kind, so what a pass has selected is and stays demo
(`AccountInvariant`).
-/

set_option autoImplicit false

namespace LedgerLoop
open LedgerLoop.Library

namespace Tenancy

/-- The tenants there are. -/
def tenants (s : Store) : List Tenant := s.accounts.map tenantOf

/-- Accounts have distinct drawn ids, and what retention has selected is demo. -/
structure AccountInvariant (s : Sys) : Prop where
  ids : ((tenants s.store).map Tenant.accountId).Nodup
  drawn : ∀ t ∈ tenants s.store, t.accountId ∈ s.drawn
  staleDrawn : ∀ id ∈ s.stale, id ∈ s.drawn
  staleDemo : ∀ id ∈ s.stale, ∀ t ∈ tenants s.store, t.accountId = id → t.kind = .demo

section Calls
variable {hashKey : String → String} {refreshAfterS : ℤ} {s s' : Store} {tenant : Tenant}
  {draws : TenancyDraws} {name label rawKey : String} {kind : AccountKind}
  {authorization xDemoSession : Option String}

/-- What a call may do to the accounts: nothing, or add the tenant of the id it drew. -/
def AddsAtMost (draws : TenancyDraws) (s s' : Store) : Prop :=
  tenants s' = tenants s ∨
    ∃ t, t.accountId = draws.accountId ∧ tenants s' = tenants s ++ [t]

lemma upsertAccount_adds (ok : upsertAccount s name kind draws = .ok (s', tenant)) :
    AddsAtMost draws s s' ∧ s'.apiKeys = s.apiKeys ∧ tenant ∈ tenants s' := by
  simp only [upsertAccount] at ok
  split_ifs at ok with long taken
  · split at ok
    · rename_i existing one
      obtain ⟨rfl, rfl⟩ := Prod.mk.inj (Except.ok.inj ok)
      have mem : existing ∈ s.accounts.filter (·.name == name) := by simp [one]
      exact ⟨.inl rfl, rfl, List.mem_map_of_mem (List.mem_filter.1 mem).1⟩
    · cases ok
  · obtain ⟨rfl, eq⟩ := Prod.mk.inj (Except.ok.inj ok)
    exact ⟨.inr ⟨tenant, by rw [← eq]; rfl, by simp [tenants, eq]⟩, rfl, by simp [tenants, eq]⟩

/-- Touching an account changes no tenant and no key. -/
lemma touchAccount_tenants (ok : touchAccount s tenant refreshAfterS draws = .ok s') :
    tenants s' = tenants s ∧ s'.apiKeys = s.apiKeys := by
  simp only [touchAccount, bind, Except.bind, pure, Except.pure] at ok
  split at ok
  · cases ok
  · obtain rfl := Except.ok.inj ok
    exact ⟨map_updateWhere _ fun _ => rfl, rfl⟩

lemma identify_adds (ok : identify hashKey s authorization xDemoSession draws = .ok (s', tenant)) :
    AddsAtMost draws s s' ∧ s'.apiKeys = s.apiKeys := by
  cases authorization with
  | none =>
    obtain ⟨name, _, resolved⟩ := identify_anonymous ok
    obtain ⟨adds, keys, _⟩ := upsertAccount_adds resolved
    exact ⟨adds, keys⟩
  | some header =>
    simp only [identify] at ok
    split at ok
    · obtain ⟨rfl, _⟩ := Prod.mk.inj (Except.ok.inj ok)
      exact ⟨.inl rfl, rfl⟩
    · cases ok

lemma resolveTenant_adds
    (ok : resolveTenant hashKey s refreshAfterS authorization xDemoSession draws =
      .ok (s', tenant)) : AddsAtMost draws s s' ∧ s'.apiKeys = s.apiKeys := by
  obtain ⟨s₁, identified, touched⟩ := resolveTenant_ok ok
  obtain ⟨adds, keys⟩ := identify_adds identified
  obtain ⟨same, keys'⟩ := touchAccount_tenants touched
  refine ⟨?_, keys'.trans keys⟩
  rw [AddsAtMost, same]
  exact adds

/-- A key is issued with a new hash, for a real account that is there afterwards. -/
lemma issueApiKey_adds (ok : issueApiKey hashKey s name label draws = .ok (s', rawKey, tenant)) :
    AddsAtMost draws s s' ∧ tenant ∈ tenants s' ∧ tenant.kind = .real ∧
      rawKey = draws.rawKey ∧ ∃ key : ApiKey, s'.apiKeys = s.apiKeys ++ [key] ∧
        key.accountId = tenant.accountId ∧ key.keyHash = hashKey rawKey ∧
        ∀ old ∈ s.apiKeys, old.keyHash ≠ key.keyHash := by
  simp only [issueApiKey, bind, Except.bind] at ok
  split at ok
  · cases ok
  rename_i upserted eq
  split_ifs at ok with real long taken
  obtain ⟨rfl, pair⟩ := Prod.mk.inj (Except.ok.inj ok)
  obtain ⟨rfl, rfl⟩ := Prod.mk.inj pair
  obtain ⟨adds, keys, mem⟩ := upsertAccount_adds eq
  refine ⟨adds, mem, not_not.1 real, rfl, _, by rw [keys], rfl, rfl, ?_⟩
  rw [keys] at taken
  simpa using taken

end Calls

section Steps
variable {hashKey : String → String} {refreshAfterS : ℤ} {s u : Sys} {e : Event} {t : Tenant}
  {draws : TenancyDraws}

/-- Tenants that were there stay when a call adds one. -/
lemma AddsAtMost.kept {s s' : Store} (adds : AddsAtMost draws s s') (mem : t ∈ tenants s) :
    t ∈ tenants s' := by
  rcases adds with same | ⟨_, _, eq⟩
  · exact same.symm ▸ mem
  · exact eq.symm ▸ List.mem_append_left _ mem

/-- A tenant that is there after a call was there before it, or has the id the call drew. -/
lemma AddsAtMost.old {s s' : Store} (adds : AddsAtMost draws s s') (mem : t ∈ tenants s') :
    t ∈ tenants s ∨ t.accountId = draws.accountId := by
  rcases adds with same | ⟨t', id, eq⟩
  · exact .inl (same ▸ mem)
  · rcases List.mem_append.1 (eq ▸ mem) with old | new
    · exact .inl old
    · obtain rfl := List.mem_singleton.1 new
      exact .inr id

/-- A call that adds at most the tenant of a new id keeps the invariant. -/
lemma AccountInvariant.adds {store : Store} (inv : AccountInvariant s)
    (new : draws.accountId ∉ s.drawn) (adds : AddsAtMost draws s.store store) :
    AccountInvariant { s with store := store, drawn := s.drawn ++ [draws.accountId] } where
  ids := by
    rcases adds with same | ⟨t, id, eq⟩
    · exact same.symm ▸ inv.ids
    · change ((tenants store).map Tenant.accountId).Nodup
      rw [eq]
      refine nodup_map_concat inv.ids fun t' mem same => ?_
      exact new (id ▸ same ▸ inv.drawn t' mem)
  drawn t mem := by
    rcases adds.old mem with old | id
    · exact List.mem_append_left _ (inv.drawn t old)
    · exact List.mem_append_right _ (by simp [id])
  staleDrawn id mem := List.mem_append_left _ (inv.staleDrawn id mem)
  staleDemo id mem t memT same := by
    rcases adds.old memT with old | drawn
    · exact inv.staleDemo id mem t old same
    · exact absurd (drawn ▸ same ▸ inv.staleDrawn id mem) new

/-- The tenants a deletion leaves. -/
lemma mem_tenants_deleteAccount {store : Store} {id : ℕ} :
    t ∈ tenants (Sweeper.deleteAccount store id) ↔ t ∈ tenants store ∧ t.accountId ≠ id := by
  simp only [tenants, Sweeper.deleteAccount, List.mem_map, mem_deleteWhere, beq_eq_false_iff_ne]
  constructor
  · rintro ⟨a, ⟨mem, other⟩, rfl⟩
    exact ⟨⟨a, mem, rfl⟩, other⟩
  · rintro ⟨⟨a, mem, rfl⟩, other⟩
    exact ⟨a, ⟨mem, other⟩, rfl⟩

/-- Every step keeps the invariant. -/
lemma Step.accountInvariant (inv : AccountInvariant s) (st : Step hashKey refreshAfterS s e u) :
    AccountInvariant u := by
  cases st with
  | resolve new ok => exact inv.adds new (resolveTenant_adds ok).1
  | issue new ok => exact inv.adds new (issueApiKey_adds ok).1
  | @selectStale cutoff ids selected =>
    have demo : ∀ id ∈ ids, ∃ a ∈ s.store.accounts, a.id = id ∧ a.kind = .demo := by
      intro id mem
      obtain ⟨a, memA, rfl⟩ := List.mem_map.1 (selected.subset mem)
      obtain ⟨stored, both⟩ := List.mem_filter.1 memA
      rw [Bool.and_eq_true, beq_iff_eq] at both
      exact ⟨a, stored, rfl, both.1⟩
    refine ⟨inv.ids, inv.drawn, fun id mem => ?_, fun id mem t memT same => ?_⟩
    · obtain ⟨a, stored, rfl, _⟩ := demo id mem
      exact inv.drawn _ (List.mem_map_of_mem stored)
    · obtain ⟨a, stored, rfl, kind⟩ := demo id mem
      obtain rfl := eq_of_key inv.ids memT (List.mem_map_of_mem stored) same
      exact kind
  | @deleteStale id rest stale =>
    have sub : (tenants (Sweeper.deleteAccount s.store id)).Sublist (tenants s.store) :=
      List.filter_sublist.map _
    have later : ∀ id' ∈ rest, id' ∈ s.stale := fun id' mem => stale ▸ List.mem_cons_of_mem _ mem
    exact
      { ids := (sub.map _).nodup inv.ids
        drawn := fun t mem => inv.drawn t (sub.subset mem)
        staleDrawn := fun id' mem => inv.staleDrawn id' (later id' mem)
        staleDemo := fun id' mem t memT => inv.staleDemo id' (later id' mem) t (sub.subset memT) }
  | abandonPass => exact ⟨inv.ids, inv.drawn, by rintro _ ⟨⟩, by rintro _ ⟨⟩⟩

/-- The migrated schema has one account. -/
lemma AccountInvariant.migrated (at_ : Datetime) : AccountInvariant (.migrated at_) where
  ids := List.nodup_singleton _
  drawn t mem := by
    obtain rfl := List.mem_singleton.1 mem
    exact List.mem_singleton_self _
  staleDrawn := by rintro _ ⟨⟩
  staleDemo := by rintro _ ⟨⟩

end Steps

end Tenancy
end LedgerLoop
