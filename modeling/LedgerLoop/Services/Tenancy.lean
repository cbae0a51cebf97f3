import LedgerLoop.Library.PyText
import LedgerLoop.Worker.Sweeper

/-!
# Tenant resolution

Port of `services/tenancy.py`, of `resolve_tenant` in `api/deps.py` and of the selection of
`sweep_demo_accounts` in `worker/sweeper.py`. A function returns the store its commit leaves, or the
error that rolls it back.

The digest of a key is a parameter; `TenancyDraws` are the identity values, clock readings and random
key a call draws.
-/

set_option autoImplicit false

namespace LedgerLoop
open LedgerLoop.Library

/-- The resolved owner of a request. -/
structure Tenant where
  accountId : ℕ
  name : String
  kind : AccountKind
deriving DecidableEq, Repr

/-- What a call of this module draws from outside the store. -/
structure TenancyDraws where
  accountId : ℕ
  keyId : ℕ
  /-- `generate_key()`. -/
  rawKey : String
  /-- `now()` of the transaction. -/
  now : Datetime
  /-- `datetime.now(UTC)`. -/
  utcNow : Datetime
deriving DecidableEq, Repr

namespace Tenancy

def defaultAccountName : String := "default"

def keyPrefix : String := "llk_"

/-- `key_prefix`: the first 12 characters. -/
def displayPrefix (raw : String) : String := String.ofList (raw.toList.take 12)

/-- `parse_bearer`. -/
def parseBearer (header : String) : Option String :=
  match PyText.partition ' ' header.toList with
  | (scheme, some credential) =>
    if scheme.map Char.toLower = "bearer".toList then
      let credential := PyText.strip PyText.isSpace credential
      if credential = [] then none else some (String.ofList credential)
    else none
  | (_, none) => none

/-- `resolve_api_key`. -/
def resolveApiKey (hashKey : String → String) (s : Store) (rawKey : String) : Option Tenant :=
  if keyPrefix.toList.isPrefixOf rawKey.toList then
    let matching := (s.apiKeys.filter (·.keyHash == hashKey rawKey)).filterMap fun key =>
      (s.accounts.find? (·.id == key.accountId)).map fun account => (key, account)
    match matching.head? with
    | none => none
    | some (key, account) =>
      if key.revokedAt.isSome then none
      else some { accountId := account.id, name := account.name, kind := account.kind }
  else none

/-- `demo_account_name`. -/
def demoAccountName (sessionId : String) : Option String :=
  (PyText.uuid sessionId.toList).map fun n => "demo:" ++ String.ofList (PyText.uuidStr n)

/-- The tenant of an account. -/
def tenantOf (account : Account) : Tenant :=
  { accountId := account.id, name := account.name, kind := account.kind }

/-- `_upsert_account`. -/
def upsertAccount (s : Store) (name : String) (kind : AccountKind) (draws : TenancyDraws) :
    Except PyError (Store × Tenant) :=
  if 255 < name.length then .error (.dataError "name")
  else if s.accounts.any (·.name == name) then
    match s.accounts.filter (·.name == name) with
    | [existing] => .ok (s, tenantOf existing)
    | _ => .error .noResultFound
  else
    let created : Account :=
      { id := draws.accountId, name := name, kind := kind, createdAt := draws.now
        lastSeenAt := draws.now }
    .ok ({ s with accounts := s.accounts ++ [created] }, tenantOf created)

/-- `issue_api_key`: the store, and the raw key with its account. -/
def issueApiKey (hashKey : String → String) (s : Store) (accountName label : String)
    (draws : TenancyDraws) : Except PyError (Store × String × Tenant) := do
  let (s', account) ← upsertAccount s accountName .real draws
  if account.kind ≠ .real then .error (.demoNameTaken accountName)
  else if 255 < label.length then .error (.dataError "label")
  else if s'.apiKeys.any (·.keyHash == hashKey draws.rawKey) then
    .error (.uniqueViolation "uq_api_keys_key_hash")
  else
    let key : ApiKey :=
      { id := draws.keyId, accountId := account.accountId, keyHash := hashKey draws.rawKey
        displayPrefix := displayPrefix draws.rawKey, label := label, createdAt := draws.now }
    .ok ({ s' with apiKeys := s'.apiKeys ++ [key] }, draws.rawKey, account)

/-- `resolve_demo_account`. -/
def resolveDemoAccount (s : Store) (name : String) (draws : TenancyDraws) :
    Except PyError (Store × Tenant) :=
  upsertAccount s name .demo draws

/-- `UPDATE accounts SET last_seen_at = now() WHERE id = .. AND last_seen_at < ..`. -/
def touch (accountId : ℕ) (stale now : Datetime) (accounts : List Account) : List Account :=
  updateWhere (fun a => a.id == accountId && decide (a.lastSeenAt < stale))
    (fun a => { a with lastSeenAt := now }) accounts

/-- `touch_account`. -/
def touchAccount (s : Store) (tenant : Tenant) (refreshAfterS : ℤ) (draws : TenancyDraws) :
    Except PyError Store := do
  let stale ← draws.utcNow.sub (Timedelta.seconds refreshAfterS)
  return { s with accounts := touch tenant.accountId stale draws.now s.accounts }

/-- The account a request's headers name: the first half of `resolve_tenant`. -/
def identify (hashKey : String → String) (s : Store) (authorization xDemoSession : Option String)
    (draws : TenancyDraws) : Except PyError (Store × Tenant) :=
  match authorization, xDemoSession with
  | some header, _ =>
    match (parseBearer header).bind (resolveApiKey hashKey s) with
    | some tenant => .ok (s, tenant)
    | none => .error (.httpException 401 "invalid or revoked API key")
  | none, some sessionId =>
    match demoAccountName sessionId with
    | some name => resolveDemoAccount s name draws
    | none => .error (.httpException 400 "X-Demo-Session must be a UUID")
  | none, none => resolveDemoAccount s defaultAccountName draws

/-- `resolve_tenant`. -/
def resolveTenant (hashKey : String → String) (s : Store) (refreshAfterS : ℤ)
    (authorization xDemoSession : Option String) (draws : TenancyDraws) :
    Except PyError (Store × Tenant) := do
  let (s', tenant) ← identify hashKey s authorization xDemoSession draws
  let touched ← touchAccount s' tenant refreshAfterS draws
  return (touched, tenant)

/-- The selection of `sweep_demo_accounts`. -/
def staleDemoAccounts (s : Store) (cutoff : Datetime) : List Account :=
  s.accounts.filter fun a => a.kind == .demo && decide (a.lastSeenAt < cutoff)

section Specs
variable {s s' : Store} {name : String} {kind : AccountKind} {draws : TenancyDraws} {tenant : Tenant}

/-- What a get-or-create did: found the account of the name, or created it with the kind asked for. -/
lemma upsertAccount_ok (ok : upsertAccount s name kind draws = .ok (s', tenant)) :
    (∃ account ∈ s.accounts, account.name = name ∧ tenant = tenantOf account ∧ s' = s) ∨
      ((∀ account ∈ s.accounts, account.name ≠ name) ∧ ∃ created : Account,
        created.name = name ∧ created.kind = kind ∧ tenant = tenantOf created ∧
        s' = { s with accounts := s.accounts ++ [created] }) := by
  simp only [upsertAccount] at ok
  split_ifs at ok with long taken
  · split at ok
    · rename_i existing one
      obtain ⟨rfl, rfl⟩ := Prod.mk.inj (Except.ok.inj ok)
      have mem : existing ∈ s.accounts.filter (·.name == name) := by simp [one]
      obtain ⟨stored, named⟩ := List.mem_filter.1 mem
      exact .inl ⟨existing, stored, by simpa using named, rfl, rfl⟩
    · cases ok
  · obtain ⟨rfl, rfl⟩ := Prod.mk.inj (Except.ok.inj ok)
    exact .inr ⟨by simpa using taken, _, rfl, rfl, rfl, rfl⟩

/-- Touching an account changes `last_seen_at` only. -/
lemma touchAccount_ok {refreshAfterS : ℤ} (ok : touchAccount s tenant refreshAfterS draws = .ok s') :
    s'.accounts.map (fun a => (a.id, a.name, a.kind)) =
      s.accounts.map fun a => (a.id, a.name, a.kind) := by
  simp only [touchAccount, bind, Except.bind, pure, Except.pure] at ok
  split at ok
  · cases ok
  · obtain rfl := Except.ok.inj ok
    exact map_updateWhere _ fun _ => rfl

end Specs

end Tenancy
end LedgerLoop
