import LedgerLoop.Library.Expiring
import LedgerLoop.Services.Anonymous

/-!
# The write limit

Port of `api/ratelimit.py` and of `enforce_write_limit` in `api/deps.py`, behind a proxy that appends the
address it saw to the right of the client's `X-Forwarded-For`. The writes are those of the routes that depend on
the limit, which are the ingestion's; `resolve_exception` does not.

`_client_ip` takes the first entry of that header, which is the client's own as soon as it sends one, so
each entry it makes up has a budget of its own. Where the requests of a peer carry one first entry, at
most the limit of them are admitted in a window (`anonymous_writes_bounded`).
-/

set_option autoImplicit false

namespace LedgerLoop
open LedgerLoop.Library

namespace RateLimit
open Expiring

/-- `_WINDOW_S`. -/
def windowS : ℕ := 60

structure RateLimitVerdict where
  allowed : Bool
  retryAfterS : ℕ
  limit : ℤ
  remaining : ℤ
deriving DecidableEq, Repr

/-- The start of the window of a time in seconds. -/
def windowStart (now : ℕ) : ℕ := now - now % windowS

def key (bucket : String) (start : ℕ) : String :=
  "ledgerloop:ratelimit:" ++ bucket ++ ":" ++ toString start

/-- `check` with Redis available: `now` is the replica's `int(time.time())`, `countedAt` the time at which
    Redis executes the pipeline. -/
def check (redis : Keyspace String) (now countedAt : ℕ) (bucket : String) (limit : ℤ) :
    Keyspace String × RateLimitVerdict :=
  let (redis', count) := hit redis countedAt (key bucket (windowStart now)) windowS
  (redis', { allowed := (count : ℤ) ≤ limit, retryAfterS := windowStart now + windowS - now
             limit := limit, remaining := max (limit - count) 0 })

/-- The settings the limiter reads. -/
structure Limits where
  rateLimitAnonWritesPerMin : ℤ
  rateLimitKeyedWritesPerMin : ℤ

def Limits.shipped : Limits where
  rateLimitAnonWritesPerMin := 60000
  rateLimitKeyedWritesPerMin := 120000

/-- `_client_ip`, of the `X-Forwarded-For` header and the address of the connection. -/
def clientIp (forwarded client : Option String) : String :=
  match forwarded with
  | some entries =>
    if entries = "" then client.getD "unknown"
    else String.ofList (PyText.strip PyText.isSpace (PyText.partition ',' entries.toList).1)
  | none => client.getD "unknown"

/-- The headers of an admitted write. -/
structure RateLimitHeaders where
  limit : ℤ
  remaining : ℤ
deriving DecidableEq, Repr

/-- The bucket and the limit of `enforce_write_limit`. -/
def budget (limits : Limits) (forwarded client : Option String) (tenant : Tenant) : String × ℤ :=
  if tenant.kind = .demo then ("ip:" ++ clientIp forwarded client, limits.rateLimitAnonWritesPerMin)
  else ("account:" ++ toString tenant.accountId, limits.rateLimitKeyedWritesPerMin)

/-- `enforce_write_limit`. -/
def enforceWriteLimit (limits : Limits) (redis : Keyspace String) (now countedAt : ℕ)
    (forwarded client : Option String) (tenant : Tenant) :
    Keyspace String × Except PyError RateLimitHeaders :=
  let (bucket, limit) := budget limits forwarded client tenant
  let (redis', verdict) := check redis now countedAt bucket limit
  (redis', if verdict.allowed then .ok { limit := verdict.limit, remaining := verdict.remaining }
    else .error (.httpException 429 "write rate limit exceeded"))

/-- A write as its sender sends it, from the address `peer`. -/
structure WriteRequest where
  peer : String
  authorization : Option String
  xDemoSession : Option String
  xForwardedFor : Option String
deriving DecidableEq, Repr

/-- The `X-Forwarded-For` the proxy passes on. -/
def WriteRequest.forwarded (r : WriteRequest) : String :=
  match r.xForwardedFor with
  | none => r.peer
  | some chosen => chosen ++ ", " ++ r.peer

/-- A resolved write reaching the limiter on some replica. -/
structure Event where
  request : WriteRequest
  tenant : Tenant
  /-- `int(time.time())` of the replica, in seconds. -/
  now : ℕ
  /-- The time of Redis at the pipeline, in milliseconds. -/
  countedAt : ℕ
deriving DecidableEq, Repr

/-- The keys of Redis and its time. -/
structure Sys where
  redis : Keyspace String
  clock : ℕ

/-- Redis before the first request. -/
def Sys.initial : Sys where
  redis := fun _ => none
  clock := 0

/-- A write is counted, after `resolve_tenant` answered it in some state of the tables. `client` is the
    proxy as `request.client` has it. -/
inductive Step (hashKey : String → String) (refreshAfterS : ℤ) (limits : Limits)
    (client : Option String) : Sys → Event → Sys → Prop where
  | write {s : Sys} {e : Event} {store store' : Store} {draws : TenancyDraws} :
    s.clock ≤ e.countedAt →
    Tenancy.resolveTenant hashKey store refreshAfterS e.request.authorization e.request.xDemoSession
      draws = .ok (store', e.tenant) →
    Step hashKey refreshAfterS limits client s e
      { redis := (enforceWriteLimit limits s.redis e.now e.countedAt e.request.forwarded client
          e.tenant).1
        clock := e.countedAt }

/-- Whether the limiter lets a write through. -/
def admitted (limits : Limits) (client : Option String) (s : Sys) (e : Event) : Bool :=
  (enforceWriteLimit limits s.redis e.now e.countedAt e.request.forwarded client e.tenant).2.isOk

/-- An unauthenticated write of a peer in the window that starts at `start`. -/
def fromPeer (peer : String) (start : ℕ) (e : Event) : Bool :=
  e.request.peer == peer && e.request.authorization.isNone && windowStart e.now == start

/-- The unauthenticated writes of a peer that were admitted in a window. -/
def admissions (limits : Limits) (client : Option String) (peer : String) (start : ℕ)
    (tr : List (Sys × Event)) : ℕ :=
  tr.countP fun p => fromPeer peer start p.2 && admitted limits client p.1 p.2

/-- The key a write is counted under. -/
def Event.key (limits : Limits) (client : Option String) (e : Event) : String :=
  RateLimit.key (budget limits e.request.forwarded client e.tenant).1 (windowStart e.now)

/-- A write is not counted under a key that is there and has expired. -/
def NotLate (limits : Limits) (client : Option String) (s : Sys) (e : Event) : Prop :=
  ¬Expired s.redis e.countedAt (e.key limits client)

/-- An unauthenticated write of the peer resolves to a demo tenant, and the first entry of what the proxy
    passes on is `ip`. -/
def OneEntry (client : Option String) (peer : String) (start : ℕ) (ip : String) (e : Event) : Prop :=
  fromPeer peer start e → e.tenant.kind = .demo ∧ clientIp e.request.forwarded client = ip

section Steps
variable {hashKey : String → String} {refreshAfterS : ℤ} {limits : Limits} {client : Option String}
  {peer ip : String} {start : ℕ} {s u : Sys} {e : Event} {tr : List (Sys × Event)}

lemma budget_demo {forwarded : Option String} {tenant : Tenant} (demo : tenant.kind = .demo) :
    budget limits forwarded client tenant =
      ("ip:" ++ clientIp forwarded client, limits.rateLimitAnonWritesPerMin) := if_pos demo

/-- What a step does to the keys: one hit. -/
lemma Step.redis (st : Step hashKey refreshAfterS limits client s e u) :
    u.redis = (hit s.redis e.countedAt (e.key limits client) windowS).1 := by
  cases st
  rfl

/-- A write is admitted as long as its count is within its limit. -/
lemma admitted_iff : admitted limits client s e ↔
    ((hit s.redis e.countedAt (e.key limits client) windowS).2 : ℤ) ≤
      (budget limits e.request.forwarded client e.tenant).2 := by
  simp only [admitted, enforceWriteLimit, check, decide_eq_true_eq]
  split_ifs with within
  · exact iff_of_true rfl within
  · exact iff_of_false (by simp [Except.isOk, Except.toBool]) within

/-- The count of a key goes up with every write counted under it, and not otherwise. -/
lemma Step.stored (notLate : NotLate limits client s e)
    (st : Step hashKey refreshAfterS limits client s e u) (k : String) :
    stored u.redis k = stored s.redis k + if e.key limits client = k then 1 else 0 := by
  rw [st.redis]
  split_ifs with same
  · rw [← same, stored_hit_self, hit_count notLate]
  · exact stored_hit_of_ne (Ne.symm same)

/-- The admitted writes of the peer are among those counted under its key, and within the limit. -/
lemma admissions_le (run : Run (Step hashKey refreshAfterS limits client) s tr u)
    (notLate : ∀ p ∈ tr, NotLate limits client p.1 p.2)
    (oneEntry : ∀ p ∈ tr, OneEntry client peer start ip p.2) :
    admissions limits client peer start tr ≤ stored u.redis (key ("ip:" ++ ip) start) ∧
      admissions limits client peer start tr ≤ limits.rateLimitAnonWritesPerMin.toNat := by
  induction run with
  | nil => exact ⟨Nat.zero_le _, Nat.zero_le _⟩
  | @snoc tr t e u _ st ih =>
    obtain ⟨counted, within⟩ := ih (fun p mem => notLate p (List.mem_append_left _ mem))
      fun p mem => oneEntry p (List.mem_append_left _ mem)
    have here : (t, e) ∈ tr ++ [(t, e)] := by simp
    have onTime : NotLate limits client t e := notLate _ here
    have next := st.stored onTime (key ("ip:" ++ ip) start)
    rw [admissions, List.countP_append, List.countP_singleton]
    change admissions limits client peer start tr + _ ≤ _ ∧
      admissions limits client peer start tr + _ ≤ _
    split_ifs with both
    · rw [Bool.and_eq_true] at both
      obtain ⟨mine, pass⟩ := both
      obtain ⟨demo, entry⟩ : e.tenant.kind = .demo ∧ clientIp e.request.forwarded client = ip :=
        oneEntry _ here mine
      have first : windowStart e.now = start := by
        simp only [fromPeer, Bool.and_eq_true, beq_iff_eq] at mine
        exact mine.2
      have same : e.key limits client = key ("ip:" ++ ip) start := by
        rw [Event.key, budget_demo demo, entry, first]
      rw [admitted_iff, hit_count onTime, same, budget_demo demo] at pass
      rw [same, if_pos rfl] at next
      omega
    · exact ⟨by omega, within⟩

/-- Where no write is counted under an expired key, the unauthenticated writes of a peer in a window
    resolve to demo tenants and the `X-Forwarded-For` headers that reach the application carry one first
    entry, at most the limit of these writes are admitted. -/
theorem anonymous_writes_bounded (run : Run (Step hashKey refreshAfterS limits client) s tr u)
    (notLate : ∀ p ∈ tr, NotLate limits client p.1 p.2)
    (oneEntry : ∀ p ∈ tr, OneEntry client peer start ip p.2) :
    admissions limits client peer start tr ≤ limits.rateLimitAnonWritesPerMin.toNat :=
  (admissions_le run notLate oneEntry).2

end Steps

section Time
variable {hashKey : String → String} {refreshAfterS : ℤ} {limits : Limits} {client : Option String}
  {bucket bucket' : String} {start start' : ℕ} {s u : Sys} {e : Event} {tr : List (Sys × Event)}

lemma key_toList : (key bucket start).toList =
    ("ledgerloop:ratelimit:" ++ bucket).toList ++ ':' :: (Nat.repr start).toList := by
  have colon : (":" ++ toString start).toList = ':' :: (Nat.repr start).toList := by
    rw [String.toList_append, Nat.toString_eq_repr]
    rfl
  unfold key
  rw [String.append_assoc, String.toList_append, colon]

/-- A key belongs to one window. -/
lemma key_start (same : key bucket start = key bucket' start') : start = start' := by
  have chars := congrArg String.toList same
  rw [key_toList, key_toList] at chars
  exact PyText.repr_injective (PyText.append_sep_inj chars (PyText.notMem_repr rfl start)
    (PyText.notMem_repr rfl start')).2

/-- A write is counted before its window is over, by the time of Redis. -/
def Prompt (e : Event) : Prop :=
  windowStart e.now * 1000 ≤ e.countedAt ∧ e.countedAt < (windowStart e.now + windowS) * 1000

instance : DecidablePred Prompt := fun _ => inferInstanceAs (Decidable (_ ∧ _))

/-- A key outlives its window. -/
def OutliveWindows (s : Sys) : Prop :=
  ∀ k entry, s.redis k = some entry → ∃ bucket start expireAt, k = key bucket start ∧
    entry.expireAt = some expireAt ∧ (start + windowS) * 1000 ≤ expireAt

lemma Step.outlive (inv : OutliveWindows s) (prompt : Prompt e)
    (st : Step hashKey refreshAfterS limits client s e u) : OutliveWindows u := by
  intro k entry found
  rw [st.redis] at found
  by_cases same : k = e.key limits client
  · subst same
    rw [hit_self] at found
    obtain rfl := Option.some.inj found
    have within := prompt.1
    refine ⟨(budget limits e.request.forwarded client e.tenant).1, windowStart e.now, _, rfl, rfl, ?_⟩
    rw [add_mul]
    exact Nat.add_le_add_right within _
  · rw [hit_of_ne same] at found
    exact inv k entry found

/-- Writes that are counted before their window is over are not counted under an expired key. -/
lemma notLate_of_prompt (run : Run (Step hashKey refreshAfterS limits client) .initial tr u)
    (prompt : ∀ p ∈ tr, Prompt p.2) : ∀ p ∈ tr, NotLate limits client p.1 p.2 := by
  rintro ⟨t, e⟩ mem
  obtain ⟨tr0, tr1, v, rfl, run0, _, _⟩ := run.split mem
  have before : ∀ p ∈ tr0, Prompt p.2 := fun p memP => prompt p (List.mem_append_left _ memP)
  have inv : OutliveWindows t := by
    refine (run0.restrict before).invariant ?_ fun inv st => st.1.outlive inv st.2
    rintro k entry ⟨⟩
  rintro ⟨entry, found, dead⟩
  obtain ⟨bucket, start, expireAt, eq, expires, late⟩ := inv _ entry found
  have := key_start eq
  have := (prompt _ mem).2
  simp only [Entry.live, expires, Option.all_some, decide_eq_false_iff_not, not_lt] at dead
  dsimp only at *
  omega

end Time

/-! A limit of two writes, and three writes of one peer in one window. -/

namespace Sample

def limits : Limits where
  rateLimitAnonWritesPerMin := 2
  rateLimitKeyedWritesPerMin := 120000

/-- The proxy, as the application sees it. -/
def proxy : Option String := some "10.0.0.1"

def peer : String := "203.0.113.7"

/-- The start of the window. -/
def start : ℕ := 1704067200

/-- A write of the peer in the `n`-th second, to the shared demo tenant. -/
def write (n : ℕ) (xForwardedFor : Option String) : Event where
  request := { peer := peer, authorization := none, xDemoSession := none, xForwardedFor := xForwardedFor }
  tenant := { accountId := 1, name := "default", kind := .demo }
  now := start + n
  countedAt := (start + n) * 1000

/-- The state after a write. -/
def after (s : Sys) (e : Event) : Sys where
  redis := (enforceWriteLimit limits s.redis e.now e.countedAt e.request.forwarded proxy e.tenant).1
  clock := e.countedAt

lemma step {s : Sys} {n : ℕ} {xForwardedFor : Option String} (later : s.clock ≤ (start + n) * 1000) :
    Step Tenancy.Sample.hashKey 60 limits proxy s (write n xForwardedFor)
      (after s (write n xForwardedFor)) :=
  have resolved : Tenancy.resolveTenant Tenancy.Sample.hashKey (Tenancy.Sys.migrated (.newYear 0)).store
      60 none none (Tenancy.Sample.draws 2) = .ok (_, (write n xForwardedFor).tenant) := rfl
  .write later resolved

/-- Three writes, one after another. -/
def trace (a b c : Option String) : List (Sys × Event) :=
  [(.initial, write 1 a), (after .initial (write 1 a), write 2 b),
    (after (after .initial (write 1 a)) (write 2 b), write 3 c)]

lemma run (a b c : Option String) :
    ∃ u, Run (Step Tenancy.Sample.hashKey 60 limits proxy) .initial (trace a b c) u := by
  have le {m n : ℕ} (le : m ≤ n) : (start + m) * 1000 ≤ (start + n) * 1000 := by omega
  exact ⟨_, .cons (step (Nat.zero_le _)) (.cons (step (le (by decide)))
    (.cons (step (le (by decide))) .nil))⟩

end Sample

theorem anonymous_writes_bounded_sample :
    admissions Sample.limits Sample.proxy Sample.peer Sample.start (Sample.trace none none none) ≤ 2 := by
  obtain ⟨u, run⟩ := Sample.run none none none
  have prompt : ∀ p ∈ Sample.trace none none none, Prompt p.2 := by decide
  have oneEntry : ∀ p ∈ Sample.trace none none none,
      OneEntry Sample.proxy Sample.peer Sample.start Sample.peer p.2 := by
    intro p mem _
    simp only [Sample.trace, List.mem_cons, List.not_mem_nil, or_false] at mem
    rcases mem with rfl | rfl | rfl <;> exact ⟨rfl, by decide⟩
  exact anonymous_writes_bounded run (notLate_of_prompt run prompt) oneEntry

/-- Three writes whose sender makes up a first entry for each are all admitted. -/
theorem forwarded_for_mints_budgets :
    ∃ tr u, Run (Step Tenancy.Sample.hashKey 60 Sample.limits Sample.proxy) .initial tr u ∧
      ¬admissions Sample.limits Sample.proxy Sample.peer Sample.start tr ≤
        Sample.limits.rateLimitAnonWritesPerMin.toNat := by
  obtain ⟨u, run⟩ := Sample.run "1.1.1.1" "2.2.2.2" "3.3.3.3"
  exact ⟨_, u, run, by decide +kernel⟩

end RateLimit
end LedgerLoop
