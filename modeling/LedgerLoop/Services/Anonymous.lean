import LedgerLoop.Services.Tenancy
import LedgerLoop.Library.Run

/-!
# Anonymous requests

Demo and real accounts share the name column. `resolve_demo_account` gets or creates the account of a
name and does not look at the kind of one it finds, so an anonymous request acts on whatever account has
the name `default` or the name of its session. Those are demo accounts as long as `issue_api_key` is
never given such a name while no account has it; given one, it creates a real account under it.
-/

set_option autoImplicit false

namespace LedgerLoop
open LedgerLoop.Library

namespace Tenancy

/-- The store, the account ids handed out, and what retention has selected and not deleted yet. -/
structure Sys where
  store : Store
  drawn : List ℕ
  stale : List ℕ := []

/-- The migrated schema: the demo account `default`. -/
def Sys.migrated (at_ : Datetime) : Sys where
  store := { accounts := [{ id := 1, name := defaultAccountName, kind := .demo, createdAt := at_
                            lastSeenAt := at_ }] }
  drawn := [1]

inductive Event where
  | resolve (authorization xDemoSession : Option String) (draws : TenancyDraws)
  | issue (accountName label : String) (draws : TenancyDraws)
  | selectStale (cutoff : Datetime) (ids : List ℕ)
  | deleteStale
  | abandonPass

/-- One call, or one transaction of a retention pass. A call that raises leaves no trace. -/
inductive Step (hashKey : String → String) (refreshAfterS : ℤ) : Sys → Event → Sys → Prop where
  | resolve {s : Sys} {authorization xDemoSession draws store tenant} :
    draws.accountId ∉ s.drawn →
    resolveTenant hashKey s.store refreshAfterS authorization xDemoSession draws =
      .ok (store, tenant) →
    Step hashKey refreshAfterS s (.resolve authorization xDemoSession draws)
      { s with store := store, drawn := s.drawn ++ [draws.accountId] }
  | issue {s : Sys} {accountName label draws store rawKey tenant} :
    draws.accountId ∉ s.drawn →
    issueApiKey hashKey s.store accountName label draws = .ok (store, rawKey, tenant) →
    Step hashKey refreshAfterS s (.issue accountName label draws)
      { s with store := store, drawn := s.drawn ++ [draws.accountId] }
  | selectStale {s : Sys} {cutoff ids} :
    ids.Sublist ((staleDemoAccounts s.store cutoff).map (·.id)) →
    Step hashKey refreshAfterS s (.selectStale cutoff ids) { s with stale := ids }
  | deleteStale {s : Sys} {id rest} :
    s.stale = id :: rest →
    Step hashKey refreshAfterS s .deleteStale
      { s with store := Sweeper.deleteAccount s.store id, stale := rest }
  | abandonPass {s : Sys} :
    Step hashKey refreshAfterS s .abandonPass { s with stale := [] }

/-- The names anonymous requests resolve to. -/
def IsDemoName (name : String) : Prop :=
  name = defaultAccountName ∨ ∃ sessionId, demoAccountName sessionId = some name

/-- `issue_api_key` is not given a demo name that no account has. -/
def Reserved (s : Sys) : Event → Prop
  | .issue accountName .. => IsDemoName accountName → ∃ a ∈ s.store.accounts, a.name = accountName
  | _ => True

/-- An anonymous request is rejected or resolves to a demo tenant. -/
def AnonymousIsDemo (hashKey : String → String) (refreshAfterS : ℤ) (s : Sys) : Prop :=
  ∀ xDemoSession draws store tenant,
    resolveTenant hashKey s.store refreshAfterS none xDemoSession draws = .ok (store, tenant) →
      tenant.kind = .demo

/-- A demo name is `default` or starts with `demo:`. -/
lemma IsDemoName.starts {name : String} (demo : IsDemoName name) :
    name = defaultAccountName ∨ name.toList.take 5 = "demo:".toList := by
  rcases demo with rfl | ⟨sessionId, parsed⟩
  · exact .inl rfl
  · obtain ⟨n, _, rfl⟩ := Option.map_eq_some_iff.1 parsed
    exact .inr (by simp)

/-- Accounts with a demo name are demo accounts. -/
def DemoNamesDemo (s : Store) : Prop := ∀ a ∈ s.accounts, IsDemoName a.name → a.kind = .demo

section
variable {hashKey : String → String} {refreshAfterS : ℤ} {s u : Sys} {e : Event} {store store' : Store}
  {tenant : Tenant} {draws : TenancyDraws} {name : String}

/-- Get-or-create under a demo name, as the demo path asks for it. -/
lemma DemoNamesDemo.resolveDemo (inv : DemoNamesDemo store) (demo : IsDemoName name)
    (ok : resolveDemoAccount store name draws = .ok (store', tenant)) :
    DemoNamesDemo store' ∧ tenant.kind = .demo := by
  rcases upsertAccount_ok ok with ⟨account, mem, named, rfl, rfl⟩ |
    ⟨_, created, _, kind, rfl, rfl⟩
  · exact ⟨inv, inv account mem (named ▸ demo)⟩
  · refine ⟨fun a mem named => ?_, kind⟩
    rcases List.mem_append.1 mem with old | new
    · exact inv a old named
    · obtain rfl := List.mem_singleton.1 new
      exact kind

/-- Touching an account keeps names and kinds. -/
lemma DemoNamesDemo.touch (inv : DemoNamesDemo store)
    (ok : touchAccount store tenant refreshAfterS draws = .ok store') : DemoNamesDemo store' := by
  intro a mem named
  have listed : (a.id, a.name, a.kind) ∈ store'.accounts.map fun a => (a.id, a.name, a.kind) :=
    List.mem_map_of_mem mem
  rw [touchAccount_ok ok] at listed
  obtain ⟨a₀, mem₀, eq⟩ := List.mem_map.1 listed
  simp only [Prod.mk.injEq] at eq
  obtain ⟨_, nameEq, kindEq⟩ := eq
  rw [← kindEq]
  exact inv a₀ mem₀ (nameEq ▸ named)

/-- Resolution without `Authorization` goes to a demo name. -/
lemma identify_anonymous {xDemoSession : Option String}
    (ok : identify hashKey store none xDemoSession draws = .ok (store', tenant)) :
    ∃ name, IsDemoName name ∧ resolveDemoAccount store name draws = .ok (store', tenant) := by
  cases xDemoSession with
  | none => exact ⟨defaultAccountName, .inl rfl, ok⟩
  | some sessionId =>
    simp only [identify] at ok
    split at ok
    · rename_i name parsed
      exact ⟨name, .inr ⟨sessionId, parsed⟩, ok⟩
    · cases ok

/-- Whatever a request's headers are, resolving it keeps demo names demo. -/
lemma DemoNamesDemo.identify (inv : DemoNamesDemo store) {authorization xDemoSession : Option String}
    (ok : identify hashKey store authorization xDemoSession draws = .ok (store', tenant)) :
    DemoNamesDemo store' := by
  cases authorization with
  | none =>
    obtain ⟨name, demo, resolved⟩ := identify_anonymous ok
    exact (inv.resolveDemo demo resolved).1
  | some header =>
    simp only [Tenancy.identify] at ok
    split at ok
    · obtain ⟨rfl, _⟩ := Prod.mk.inj (Except.ok.inj ok)
      exact inv
    · cases ok

/-- `resolve_tenant` identifies the tenant, then touches it. -/
lemma resolveTenant_ok {authorization xDemoSession : Option String}
    (ok : resolveTenant hashKey store refreshAfterS authorization xDemoSession draws =
      .ok (store', tenant)) :
    ∃ s₁, identify hashKey store authorization xDemoSession draws = .ok (s₁, tenant) ∧
      touchAccount s₁ tenant refreshAfterS draws = .ok store' := by
  simp only [resolveTenant, bind, Except.bind, pure, Except.pure] at ok
  split at ok
  · cases ok
  rename_i identified eq
  split at ok
  · cases ok
  rename_i touched eq'
  obtain ⟨rfl, rfl⟩ := Prod.mk.inj (Except.ok.inj ok)
  exact ⟨identified.1, eq, eq'⟩

/-- A key is issued for an account that was there, or for a new one of the name. -/
lemma issueApiKey_ok {label rawKey : String}
    (ok : issueApiKey hashKey store name label draws = .ok (store', rawKey, tenant)) :
    ∃ s₁, upsertAccount store name .real draws = .ok (s₁, tenant) ∧
      store'.accounts = s₁.accounts ∧ tenant.kind = .real := by
  simp only [issueApiKey, bind, Except.bind] at ok
  split at ok
  · cases ok
  rename_i upserted eq
  split_ifs at ok with kind long taken
  obtain ⟨rfl, eq'⟩ := Prod.mk.inj (Except.ok.inj ok)
  obtain ⟨_, rfl⟩ := Prod.mk.inj eq'
  exact ⟨upserted.1, eq, rfl, not_not.1 kind⟩

/-- A step within the condition keeps demo names demo. -/
lemma Step.demoNames (inv : DemoNamesDemo s.store) (reserved : Reserved s e)
    (st : Step hashKey refreshAfterS s e u) : DemoNamesDemo u.store := by
  cases st with
  | resolve _ ok =>
    obtain ⟨s₁, identified, touched⟩ := resolveTenant_ok ok
    exact (inv.identify identified).touch touched
  | issue _ ok =>
    obtain ⟨s₁, upserted, accounts, _⟩ := issueApiKey_ok ok
    intro a mem demo
    rw [accounts] at mem
    rcases upsertAccount_ok upserted with ⟨_, _, _, _, rfl⟩ | ⟨free, created, named, _, _, rfl⟩
    · exact inv a mem demo
    · rcases List.mem_append.1 mem with old | new
      · exact inv a old demo
      · -- a new account under a demo name is what the condition excludes
        obtain rfl := List.mem_singleton.1 new
        obtain ⟨a₀, mem₀, named₀⟩ := reserved (named ▸ demo)
        exact absurd named₀ (free a₀ mem₀)
  | selectStale | abandonPass => exact inv
  | deleteStale =>
    intro a mem demo
    exact inv a (mem_deleteWhere.1 mem).1 demo

end

section Runs
variable {hashKey : String → String} {refreshAfterS : ℤ} {at_ : Datetime}
  {tr : List (Sys × Event)} {u : Sys}

/-- As long as no key is issued for a demo name that no account has, anonymous requests resolve to demo
    tenants. -/
theorem anonymous_is_demo (run : Run (Step hashKey refreshAfterS) (.migrated at_) tr u)
    (reserved : ∀ p ∈ tr, Reserved p.1 p.2) : AnonymousIsDemo hashKey refreshAfterS u := by
  have inv : DemoNamesDemo u.store := by
    refine (run.restrict reserved).invariant (I := fun s => DemoNamesDemo s.store) ?_
      fun inv st => st.1.demoNames inv st.2
    intro a mem _
    obtain rfl := List.mem_singleton.1 mem
    rfl
  intro xDemoSession draws store tenant ok
  obtain ⟨s₁, identified, _⟩ := resolveTenant_ok ok
  obtain ⟨name, demo, resolved⟩ := identify_anonymous identified
  exact (inv.resolveDemo demo resolved).2

end Runs

/-! A key is issued for the account name of a demo session before the session's first request. -/

namespace Sample

def rawKey : String := "llk_AAAAAAAAAAAAAAAAAAAAAAAAAAAAAAAAAAAAAAAAAAA"

/-- SHA-256 of the one key the samples hash. -/
def hashKey (_ : String) : String :=
  "360f5f5cab8ae9ea9bbc5d19e63d2a158d7342d740fe39118e9b25c2d1201542"

def draws (n : ℕ) : TenancyDraws where
  accountId := n
  keyId := n
  rawKey := rawKey
  now := .newYear n
  utcNow := .newYear n

def sessionId : String := "00000000-0000-0000-0000-000000000001"

def sessionName : String := "demo:00000000-0000-0000-0000-000000000001"

def account (n : ℕ) (name : String) (kind : AccountKind) : Account where
  id := n
  name := name
  kind := kind
  createdAt := .newYear n
  lastSeenAt := .newYear n

/-- After the first request of the session. -/
def visited : Sys where
  store := { accounts := [{ account 1 "default" .demo with createdAt := .newYear 0
                                                           lastSeenAt := .newYear 0 },
                          account 2 sessionName .demo] }
  drawn := [1, 2]

end Sample

theorem anonymous_is_demo_sample :
    ∃ tr u, Run (Step Sample.hashKey 60) (.migrated (.newYear 0)) tr u ∧
      u.store.accounts.map (fun a => (a.name, a.kind)) =
        [("default", .demo), (Sample.sessionName, .demo), ("acme", .real)] ∧
      AnonymousIsDemo Sample.hashKey 60 u := by
  have first : Step Sample.hashKey 60 (.migrated (.newYear 0))
      (.resolve none (some Sample.sessionId) (Sample.draws 2)) Sample.visited :=
    .resolve (by decide) rfl
  have second : Step Sample.hashKey 60 Sample.visited (.issue "acme" "label" (Sample.draws 3)) _ :=
    .issue (by decide) rfl
  refine ⟨_, _, .cons first (.cons second .nil), by decide, ?_⟩
  refine anonymous_is_demo (.cons first (.cons second .nil)) ?_
  intro p mem
  simp only [List.mem_cons, List.not_mem_nil, or_false] at mem
  rcases mem with rfl | rfl
  · trivial
  · intro demo
    exact absurd demo.starts (by decide)

/-- An anonymous request acts on a real account. -/
theorem anonymous_reaches_real_account :
    ∃ tr u, Run (Step Sample.hashKey 60) (.migrated (.newYear 0)) tr u ∧
      ¬AnonymousIsDemo Sample.hashKey 60 u := by
  have issued : Step Sample.hashKey 60 (.migrated (.newYear 0))
      (.issue Sample.sessionName "label" (Sample.draws 2)) _ := .issue (by decide) rfl
  refine ⟨_, _, .cons issued .nil, fun demo => ?_⟩
  have real := demo (some Sample.sessionId) (Sample.draws 3) _ _ rfl
  revert real
  decide

end Tenancy
end LedgerLoop
