import LedgerLoop.Services.Accounts

/-!
# Credentials

A request with an `Authorization` header acts on the account its key was issued for or is answered 401,
whatever its other header says.

Keys are issued to real accounts only and retention deletes demo accounts only, so in every reachable
state a key belongs to the real account it was issued for (`KeyInvariant`). A `KeyStep` is a call or a
transaction of a retention pass, or the revocation of a key, which the operator does in the database.
-/

set_option autoImplicit false

namespace LedgerLoop
open LedgerLoop.Library

namespace Tenancy

inductive KeyEvent where
  | tenancy (e : Event)
  | revoke (keyHash : String) (at_ : Datetime)

/-- `UPDATE api_keys SET revoked_at = .. WHERE key_hash = ..`. -/
def revokeKey (keyHash : String) (at_ : Datetime) (keys : List ApiKey) : List ApiKey :=
  updateWhere (·.keyHash == keyHash) (fun key => { key with revokedAt := some at_ }) keys

/-- One call, one transaction of a retention pass, or a revocation. -/
inductive KeyStep (hashKey : String → String) (refreshAfterS : ℤ) : Sys → KeyEvent → Sys → Prop where
  | tenancy {s u : Sys} {e} :
    Step hashKey refreshAfterS s e u →
    KeyStep hashKey refreshAfterS s (.tenancy e) u
  | revoke {s : Sys} {keyHash at_} :
    KeyStep hashKey refreshAfterS s (.revoke keyHash at_)
      { s with store := { s.store with apiKeys := revokeKey keyHash at_ s.store.apiKeys } }

/-- A call of a trace issued `rawKey` for `tenant`. -/
def IssuedFor (hashKey : String → String) (tr : List (Sys × KeyEvent)) (rawKey : String)
    (tenant : Tenant) : Prop :=
  ∃ t accountName label draws store, (t, .tenancy (.issue accountName label draws)) ∈ tr ∧
    issueApiKey hashKey t.store accountName label draws = .ok (store, rawKey, tenant)

/-- The raw keys the calls of a trace drew. -/
def issuedKeys (tr : List (Sys × KeyEvent)) : Set String :=
  {rawKey | ∃ t accountName label draws, (t, .tenancy (.issue accountName label draws)) ∈ tr ∧
    draws.rawKey = rawKey}

/-- A header is a bearer credential whose digest is the hash of an unrevoked key. -/
def BearsKey (hashKey : String → String) (s : Store) (header rawKey : String) (key : ApiKey) : Prop :=
  parseBearer header = some rawKey ∧ key ∈ s.apiKeys ∧ key.keyHash = hashKey rawKey ∧
    key.revokedAt = none

/-- Every key has its own hash and belongs to the real account it was issued for. -/
structure KeyInvariant (hashKey : String → String) (tr : List (Sys × KeyEvent)) (s : Sys) : Prop where
  accounts : AccountInvariant s
  hashes : (s.store.apiKeys.map ApiKey.keyHash).Nodup
  issued : ∀ key ∈ s.store.apiKeys, ∃ rawKey, ∃ t ∈ tenants s.store, t.kind = .real ∧
    key.accountId = t.accountId ∧ key.keyHash = hashKey rawKey ∧ IssuedFor hashKey tr rawKey t

section Calls
variable {hashKey : String → String} {s : Store} {tenant : Tenant} {rawKey : String}

/-- `resolve_api_key` answers with the account of an unrevoked key of that hash. -/
lemma resolveApiKey_eq_some (found : resolveApiKey hashKey s rawKey = some tenant) :
    ∃ key ∈ s.apiKeys, ∃ account ∈ s.accounts, key.keyHash = hashKey rawKey ∧ key.revokedAt = none ∧
      account.id = key.accountId ∧ tenant = tenantOf account := by
  simp only [resolveApiKey] at found
  split_ifs at found
  split at found
  · cases found
  rename_i key account first
  split_ifs at found with revoked
  have mem := List.mem_of_head? first
  simp only [List.mem_filterMap, List.mem_filter, Option.map_eq_some_iff, Prod.mk.injEq,
    beq_iff_eq] at mem
  obtain ⟨key', ⟨stored, hash⟩, account', joined, rfl, rfl⟩ := mem
  refine ⟨key', stored, account', List.mem_of_find?_eq_some joined, hash, ?_, ?_, ?_⟩
  · simpa using revoked
  · simpa using List.find?_some joined
  · exact (Option.some.inj found).symm

/-- An `Authorization` header resolves to what its key resolves to, or to a 401; the demo header plays
    no part. -/
lemma identify_some (hashKey : String → String) (s : Store) (header : String)
    (xDemoSession : Option String) (draws : TenancyDraws) :
    (∃ rawKey tenant, parseBearer header = some rawKey ∧
        resolveApiKey hashKey s rawKey = some tenant ∧
        identify hashKey s (some header) xDemoSession draws = .ok (s, tenant)) ∨
      identify hashKey s (some header) xDemoSession draws =
        .error (.httpException 401 "invalid or revoked API key") := by
  cases resolved : (parseBearer header).bind (resolveApiKey hashKey s) with
  | none => exact .inr (by simp [identify, resolved])
  | some tenant =>
    obtain ⟨rawKey, parsed, found⟩ := Option.bind_eq_some_iff.1 resolved
    exact .inl ⟨rawKey, tenant, parsed, found, by simp [identify, resolved]⟩

end Calls

section Steps
variable {hashKey : String → String} {refreshAfterS : ℤ} {tr : List (Sys × KeyEvent)} {s u : Sys}
  {e : KeyEvent} {t : Tenant} {rawKey : String} {draws : TenancyDraws}

lemma IssuedFor.snoc {p : Sys × KeyEvent} (issued : IssuedFor hashKey tr rawKey t) :
    IssuedFor hashKey (tr ++ [p]) rawKey t := by
  obtain ⟨t', accountName, label, draws, store, mem, ok⟩ := issued
  exact ⟨t', accountName, label, draws, store, List.mem_append_left _ mem, ok⟩

/-- The invariant does not depend on later events. -/
lemma KeyInvariant.snoc {p : Sys × KeyEvent} (inv : KeyInvariant hashKey tr s) :
    KeyInvariant hashKey (tr ++ [p]) s := by
  refine ⟨inv.accounts, inv.hashes, fun key mem => ?_⟩
  obtain ⟨rawKey, t, memT, real, owner, hash, issued⟩ := inv.issued key mem
  exact ⟨rawKey, t, memT, real, owner, hash, issued.snoc⟩

/-- Every step keeps the invariant. -/
lemma KeyStep.inv (inv : KeyInvariant hashKey tr s) (st : KeyStep hashKey refreshAfterS s e u) :
    KeyInvariant hashKey (tr ++ [(s, e)]) u := by
  cases st with
  | tenancy st =>
    have accounts := st.accountInvariant inv.accounts
    cases st with
    | resolve new ok =>
      obtain ⟨adds, keys⟩ := resolveTenant_adds ok
      refine ⟨accounts, keys ▸ inv.hashes, fun key mem => ?_⟩
      obtain ⟨rawKey, t, memT, rest⟩ := inv.snoc.issued key (keys ▸ mem)
      exact ⟨rawKey, t, adds.kept memT, rest⟩
    | issue new ok =>
      obtain ⟨adds, memT, real, _, added, keys, owner, hash, fresh⟩ := issueApiKey_adds ok
      refine ⟨accounts, ?_, fun key mem => ?_⟩
      · rw [keys]
        exact nodup_map_concat inv.hashes fresh
      · rcases List.mem_append.1 (keys ▸ mem) with old | added'
        · obtain ⟨rawKey, t, memT, rest⟩ := inv.snoc.issued key old
          exact ⟨rawKey, t, adds.kept memT, rest⟩
        · obtain rfl := List.mem_singleton.1 added'
          exact ⟨_, _, memT, real, owner, hash, _, _, _, _, _, by simp, ok⟩
    | selectStale | abandonPass => exact ⟨accounts, inv.hashes, inv.snoc.issued⟩
    | deleteStale stale =>
      -- the deleted account is a demo account, and its keys would go with it
      refine ⟨accounts, nodup_map_deleteWhere inv.hashes, fun key mem => ?_⟩
      obtain ⟨memKey, other⟩ := mem_deleteWhere.1 mem
      obtain ⟨rawKey, t, memT, rest⟩ := inv.snoc.issued key memKey
      refine ⟨rawKey, t, mem_tenants_deleteAccount.2 ⟨memT, ?_⟩, rest⟩
      rw [← rest.2.1]
      simpa using other
  | @revoke keyHash at_ =>
    have links : (revokeKey keyHash at_ s.store.apiKeys).map (fun k => (k.accountId, k.keyHash)) =
        s.store.apiKeys.map fun k => (k.accountId, k.keyHash) := map_updateWhere _ fun _ => rfl
    have hashes : (revokeKey keyHash at_ s.store.apiKeys).map ApiKey.keyHash =
        s.store.apiKeys.map ApiKey.keyHash := map_updateWhere _ fun _ => rfl
    refine ⟨⟨inv.accounts.ids, inv.accounts.drawn, inv.accounts.staleDrawn, inv.accounts.staleDemo⟩,
      hashes.symm ▸ inv.hashes, fun key mem => ?_⟩
    obtain ⟨key₀, mem₀, eq⟩ := List.mem_map.1 (links ▸ List.mem_map_of_mem mem :
      (key.accountId, key.keyHash) ∈ s.store.apiKeys.map fun key => (key.accountId, key.keyHash))
    obtain ⟨owner, hash⟩ := Prod.mk.inj eq
    rw [← owner, ← hash]
    exact inv.snoc.issued key₀ mem₀

end Steps

section Runs
variable {hashKey : String → String} {refreshAfterS : ℤ} {at_ : Datetime}
  {tr : List (Sys × KeyEvent)} {u : Sys}

/-- The invariant holds in every state that is reached. -/
lemma KeyInvariant.reached (run : Run (KeyStep hashKey refreshAfterS) (.migrated at_) tr u) :
    KeyInvariant hashKey tr u := by
  induction run with
  | nil => exact ⟨.migrated at_, List.nodup_nil, by rintro _ ⟨⟩⟩
  | snoc _ st ih => exact st.inv ih

/-- In every reachable state, a request with an `Authorization` header resolves only if the header is a
    bearer credential whose digest is the hash of an unrevoked key, and then to the real account that
    credential was issued for; with any other header it is answered 401. -/
theorem credential_never_demoted
    (run : Run (KeyStep hashKey refreshAfterS) (.migrated at_) tr u) {header : String}
    (injective : Set.InjOn hashKey ({rawKey | parseBearer header = some rawKey} ∪ issuedKeys tr))
    (xDemoSession : Option String) (draws : TenancyDraws) :
    (∀ store tenant,
      resolveTenant hashKey u.store refreshAfterS (some header) xDemoSession draws =
          .ok (store, tenant) →
        tenant.kind = .real ∧ tenant ∈ tenants u.store ∧ ∃ rawKey key,
          BearsKey hashKey u.store header rawKey key ∧ key.accountId = tenant.accountId ∧
          IssuedFor hashKey tr rawKey tenant) ∧
    ((¬∃ rawKey key, BearsKey hashKey u.store header rawKey key) →
      resolveTenant hashKey u.store refreshAfterS (some header) xDemoSession draws =
        .error (.httpException 401 "invalid or revoked API key")) := by
  have inv := KeyInvariant.reached run
  constructor
  · intro store tenant ok
    obtain ⟨s₁, identified, _⟩ := resolveTenant_ok ok
    rcases identify_some hashKey u.store header xDemoSession draws with
      ⟨rawKey, tenant', parsed, found, eq⟩ | rejected
    · obtain ⟨_, rfl⟩ := Prod.mk.inj (Except.ok.inj (eq.symm.trans identified))
      obtain ⟨key, stored, account, memA, hash, unrevoked, joined, rfl⟩ := resolveApiKey_eq_some found
      obtain ⟨rawKey', t, memT, real, owner, hash', issued⟩ := inv.issued key stored
      have memA' : tenantOf account ∈ tenants u.store := List.mem_map_of_mem memA
      obtain rfl := eq_of_key inv.accounts.ids memA' memT (joined.trans owner)
      -- the two raw keys have one hash
      have same : rawKey = rawKey' := by
        refine injective (.inl parsed) (.inr ?_) (hash.symm.trans hash')
        obtain ⟨t, accountName, label, draws', store', mem, ok'⟩ := issued
        exact ⟨t, accountName, label, draws', mem, (issueApiKey_adds ok').2.2.2.1.symm⟩
      exact ⟨real, memT, rawKey, key, ⟨parsed, stored, hash, unrevoked⟩, joined.symm, same ▸ issued⟩
    · rw [rejected] at identified
      cases identified
  · intro unknown
    rcases identify_some hashKey u.store header xDemoSession draws with
      ⟨rawKey, tenant, parsed, found, _⟩ | rejected
    · obtain ⟨key, stored, _, _, hash, unrevoked, _⟩ := resolveApiKey_eq_some found
      exact absurd ⟨rawKey, key, parsed, stored, hash, unrevoked⟩ unknown
    · simp [resolveTenant, rejected, bind, Except.bind]

end Runs

/-! A key is issued and revoked; the header that carries it is answered 401. -/

namespace Sample

def acme : Account := account 2 "acme" .real

def key : ApiKey where
  id := 2
  accountId := 2
  keyHash := hashKey rawKey
  displayPrefix := "llk_AAAAAAAA"
  label := "label"
  createdAt := .newYear 2

/-- After the key is issued. -/
def keyed : Sys where
  store := { accounts := [{ account 1 "default" .demo with createdAt := .newYear 0
                                                           lastSeenAt := .newYear 0 }, acme]
             apiKeys := [key] }
  drawn := [1, 2]

def keyEvents : List (Sys × KeyEvent) :=
  [(.migrated (.newYear 0), .tenancy (.issue "acme" "label" (draws 2))),
    (keyed, .revoke (hashKey rawKey) (.newYear 9))]

lemma issuedKeys_keyEvents {raw : String} (mem : raw ∈ issuedKeys keyEvents) : raw = rawKey := by
  obtain ⟨t, accountName, label, drawn, mem, rfl⟩ := mem
  simp only [keyEvents, List.mem_cons, Prod.mk.injEq, KeyEvent.tenancy.injEq, Event.issue.injEq,
    reduceCtorEq, and_false, List.not_mem_nil, or_self, or_false] at mem
  rw [mem.2.2.2]
  rfl

end Sample

theorem credential_never_demoted_sample :
    ∃ u, Run (KeyStep Sample.hashKey 60) (.migrated (.newYear 0)) Sample.keyEvents u ∧
      resolveTenant Sample.hashKey Sample.keyed.store 60 (some ("Bearer " ++ Sample.rawKey))
        none (Sample.draws 3) = .ok (Sample.keyed.store, tenantOf Sample.acme) ∧
      resolveTenant Sample.hashKey u.store 60 (some ("Bearer " ++ Sample.rawKey))
          (some Sample.sessionId) (Sample.draws 3) =
        .error (.httpException 401 "invalid or revoked API key") := by
  have issued : Step Sample.hashKey 60 (.migrated (.newYear 0)) (.issue "acme" "label" (Sample.draws 2))
      Sample.keyed := .issue (by decide) rfl
  have run : Run (KeyStep Sample.hashKey 60) (.migrated (.newYear 0)) Sample.keyEvents _ :=
    .cons (.tenancy issued) (.cons .revoke .nil)
  have parsed : parseBearer ("Bearer " ++ Sample.rawKey) = some Sample.rawKey := by decide
  refine ⟨_, run, rfl, (credential_never_demoted run ?_ _ _).2 ?_⟩
  · have only {raw : String} (mem : raw ∈ {raw | parseBearer ("Bearer " ++ Sample.rawKey) = some raw} ∪
        issuedKeys Sample.keyEvents) : raw = Sample.rawKey := by
      rcases mem with bearer | issued
      · exact (Option.some.inj (parsed.symm.trans bearer)).symm
      · exact Sample.issuedKeys_keyEvents issued
    exact fun a memA b memB _ => (only memA).trans (only memB).symm
  · rintro ⟨raw, key, _, stored, _, unrevoked⟩
    obtain rfl := List.mem_singleton.1 stored
    cases unrevoked

end Tenancy
end LedgerLoop
