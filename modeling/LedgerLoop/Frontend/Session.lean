import Mathlib.Tactic

/-!
# The tab's tenant

Port of `api/session.ts` and of the control flow of `request` in `api/client.ts`. A call sends up to
`attempts` times; each attempt reads the tenant headers anew, and a 401 drops a stored key unless the
call is exempt.

Blocked web storage is `none`. `minted` is what `crypto.randomUUID()` would return.
-/

set_option autoImplicit false

namespace LedgerLoop.Frontend

/-- The module variables and the two storage items. -/
structure Session where
  apiKey : Option String := none
  apiKeyLoaded : Bool := false
  demoSession : Option String := none
  keyStorage : Option (Option String) := some none
  demoStorage : Option (Option String) := some none
deriving DecidableEq, Repr

/-- What `tenantHeaders` returns. -/
inductive TenantHeaders where
  | xDemoSession (id : String)
  | authorization (value : String)
deriving DecidableEq, Repr

/-- `/^[0-9a-f-]{36}$/i`. -/
def isDemoSessionId (s : String) : Bool :=
  s.length == 36 && s.toList.all fun c =>
    c == '-' || ('0' ≤ c && c ≤ '9') || ('a' ≤ c.toLower && c.toLower ≤ 'f')

namespace Session

/-- `demoSessionId`. -/
def demoSessionId (s : Session) (minted : String) : Session × String :=
  match s.demoSession with
  | some id => (s, id)
  | none =>
    match s.demoStorage.join.filter isDemoSessionId with
    | some stored => ({ s with demoSession := some stored }, stored)
    | none =>
      ({ s with demoSession := some minted, demoStorage := s.demoStorage.map fun _ => some minted },
        minted)

/-- `getApiKey`. -/
def getApiKey (s : Session) : Session × Option String :=
  let s' := if s.apiKeyLoaded then s else { s with apiKey := s.keyStorage.join, apiKeyLoaded := true }
  (s', s'.apiKey)

/-- `setApiKey`. -/
def setApiKey (s : Session) (key : String) : Session :=
  { s with apiKey := some key, apiKeyLoaded := true, keyStorage := s.keyStorage.map fun _ => some key }

/-- `clearApiKey`. -/
def clearApiKey (s : Session) : Session :=
  { s with apiKey := none, apiKeyLoaded := true, keyStorage := s.keyStorage.map fun _ => none }

/-- `tenantHeaders`. -/
def tenantHeaders (s : Session) (minted : String) : Session × TenantHeaders :=
  match s.getApiKey with
  | (s', none) => ((s'.demoSessionId minted).1, .xDemoSession (s'.demoSessionId minted).2)
  | (s', some key) => (s', .authorization ("Bearer " ++ key))

/-- The stored key: what `getApiKey` answers. -/
def key (s : Session) : Option String := s.getApiKey.2

section Specs
variable {s : Session} {minted : String}

lemma key_eq : s.key = if s.apiKeyLoaded then s.apiKey else s.keyStorage.join := by
  cases loaded : s.apiKeyLoaded <;> simp [key, getApiKey, loaded]

@[simp] lemma getApiKey_snd : s.getApiKey.2 = s.key := rfl

@[simp] lemma key_getApiKey : s.getApiKey.1.key = s.key := by
  cases loaded : s.apiKeyLoaded <;> simp [key, getApiKey, loaded]

@[simp] lemma demoSession_getApiKey : s.getApiKey.1.demoSession = s.demoSession := by
  cases loaded : s.apiKeyLoaded <;> simp [getApiKey, loaded]

@[simp] lemma key_setApiKey {k : String} : (s.setApiKey k).key = some k := by
  simp [key, getApiKey, setApiKey]

@[simp] lemma demoSession_setApiKey {k : String} : (s.setApiKey k).demoSession = s.demoSession := rfl

@[simp] lemma key_clearApiKey : s.clearApiKey.key = none := by simp [key, getApiKey, clearApiKey]

@[simp] lemma demoSession_clearApiKey : s.clearApiKey.demoSession = s.demoSession := rfl

/-- The id is cached, and the one that was cached stays. -/
lemma demoSessionId_spec : (s.demoSessionId minted).1.demoSession = some (s.demoSessionId minted).2 ∧
    (∀ id, s.demoSession = some id → (s.demoSessionId minted).2 = id) ∧
      (s.demoSessionId minted).1.key = s.key := by
  unfold demoSessionId
  cases cached : s.demoSession with
  | some id => exact ⟨cached, by rintro _ ⟨⟩; rfl, rfl⟩
  | none =>
    cases s.demoStorage.join.filter isDemoSessionId with
    | some stored => exact ⟨rfl, by rintro _ ⟨⟩, by simp [key_eq]⟩
    | none => exact ⟨rfl, by rintro _ ⟨⟩, by simp [key_eq]⟩

/-- The headers with a key stored. -/
lemma tenantHeaders_of_key {k : String} (stored : s.key = some k) :
    (s.tenantHeaders minted).2 = .authorization ("Bearer " ++ k) ∧
      (s.tenantHeaders minted).1.key = some k ∧
      (s.tenantHeaders minted).1.demoSession = s.demoSession := by
  have pair : s.getApiKey = (s.getApiKey.1, some k) := Prod.ext rfl stored
  rw [tenantHeaders, pair]
  exact ⟨rfl, key_getApiKey.trans stored, demoSession_getApiKey⟩

/-- The headers with no key stored. -/
lemma tenantHeaders_of_none (none_ : s.key = none) :
    ∃ id, (s.tenantHeaders minted).2 = .xDemoSession id ∧ (s.tenantHeaders minted).1.key = none ∧
      (s.tenantHeaders minted).1.demoSession = some id ∧
      ∀ id', s.demoSession = some id' → id = id' := by
  have pair : s.getApiKey = (s.getApiKey.1, none) := Prod.ext rfl none_
  obtain ⟨cached, stays, kept⟩ := @demoSessionId_spec s.getApiKey.1 minted
  rw [tenantHeaders, pair]
  refine ⟨_, rfl, kept.trans (key_getApiKey.trans none_), cached, fun id' was => ?_⟩
  exact stays id' (demoSession_getApiKey.trans was)

/-- Reading the headers changes no key, and no sandbox id that is cached. -/
@[simp] lemma key_tenantHeaders : (s.tenantHeaders minted).1.key = s.key := by
  cases stored : s.key with
  | some k => exact (tenantHeaders_of_key stored).2.1
  | none => exact (tenantHeaders_of_none stored).choose_spec.2.1

lemma demoSession_tenantHeaders {id : String} (cached : s.demoSession = some id) :
    (s.tenantHeaders minted).1.demoSession = some id := by
  cases stored : s.key with
  | some k => exact (tenantHeaders_of_key stored).2.2.trans cached
  | none =>
    obtain ⟨id', _, _, now, same⟩ := @tenantHeaders_of_none s minted stored
    exact now.trans (congrArg some (same id cached))

/-- The headers tell which key is stored. -/
lemma key_eq_of_tenantHeaders {s' : Session} {minted' : String}
    (same : (s.tenantHeaders minted).2 = (s'.tenantHeaders minted').2) : s.key = s'.key := by
  cases stored : s.key with
  | some k =>
    rw [(tenantHeaders_of_key stored).1] at same
    cases stored' : s'.key with
    | some k' =>
      rw [(tenantHeaders_of_key stored').1] at same
      exact congrArg some ((String.append_right_inj _).1 (TenantHeaders.authorization.inj same))
    | none =>
      obtain ⟨id, header, _⟩ := @tenantHeaders_of_none s' minted' stored'
      cases same.trans header
  | none =>
    obtain ⟨id, header, _⟩ := @tenantHeaders_of_none s minted stored
    rw [header] at same
    cases stored' : s'.key with
    | some k' => cases same.trans (tenantHeaders_of_key stored').1
    | none => rfl

end Specs

end Session

/-- What comes of a `fetch`: a response, read or not, no response, or the caller's abort. -/
inductive Answer where
  | response (status : ℕ) (readable : Bool)
  | networkError
  | abortError
deriving DecidableEq, Repr

/-- The options of a call of `request` that its control flow reads. -/
structure RequestOptions where
  attempts : ℕ := 3
  skipAuthReset : Bool := false
deriving DecidableEq, Repr

/-- A call of `request` in its `attempt`-th turn of the loop, before or after its `fetch`. -/
inductive Progress where
  | ready (attempt : ℕ)
  | inFlight (attempt : ℕ)
deriving DecidableEq, Repr

/-- How a call of `request` ends. -/
inductive Settled where
  | resolved
  | rejected
  | aborted
deriving DecidableEq, Repr

/-- The end of a turn of the loop that neither returns nor throws. -/
def RequestOptions.retry (options : RequestOptions) (attempt : ℕ) : Progress ⊕ Settled :=
  if attempt < options.attempts then .inl (.ready (attempt + 1)) else .inr .rejected

/-- What the loop of `request` does with an answer. -/
def RequestOptions.answered (options : RequestOptions) (attempt : ℕ) :
    Answer → Progress ⊕ Settled
  | .response status readable =>
    if 200 ≤ status ∧ status ≤ 299 then
      if readable then .inr .resolved else options.retry attempt
    else if 400 ≤ status ∧ status < 500 then .inr .rejected
    else options.retry attempt
  | .networkError => options.retry attempt
  | .abortError => .inr .aborted

/-- Whether an answer drops the stored key. -/
def RequestOptions.resets (options : RequestOptions) (s : Session) : Answer → Bool
  | .response status _ => status == 401 && !options.skipAuthReset && s.key.isSome
  | _ => false

/-- The session after an answer. -/
def RequestOptions.received (options : RequestOptions) (s : Session) (answer : Answer) : Session :=
  match answer with
  | .response status _ =>
    if status = 401 ∧ options.skipAuthReset = false then
      let (s', key) := s.getApiKey
      if key.isSome then s'.clearApiKey else s'
    else s
  | _ => s

section Specs
variable {options : RequestOptions} {s : Session} {answer : Answer}

/-- An answer drops the key or leaves it. -/
lemma key_received : (options.received s answer).key =
    if options.resets s answer then none else s.key := by
  cases answer with
  | networkError | abortError => rfl
  | response status readable =>
    simp only [RequestOptions.received, RequestOptions.resets, Session.getApiKey_snd]
    by_cases refused : status = 401 ∧ options.skipAuthReset = false
    · by_cases stored : s.key.isSome <;> simp [refused, stored]
    · have kept : (status == 401 && !options.skipAuthReset && s.key.isSome) = false := by
        refine Bool.eq_false_iff.2 fun all => refused ?_
        simp only [Bool.and_eq_true, beq_iff_eq, Bool.not_eq_true'] at all
        exact all.1
      simp [refused, kept]

/-- An answer that settles a call well does not drop the key. -/
lemma resets_of_resolved {attempt : ℕ} (well : options.answered attempt answer = .inr .resolved) :
    options.resets s answer = false := by
  cases answer with
  | networkError | abortError => rfl
  | response status readable =>
    rw [RequestOptions.resets, Bool.eq_false_iff]
    intro refused
    obtain rfl : status = 401 := by simp_all
    simp [RequestOptions.answered] at well

@[simp] lemma demoSession_received : (options.received s answer).demoSession = s.demoSession := by
  cases answer with
  | networkError | abortError => rfl
  | response status readable =>
    simp only [RequestOptions.received]
    split_ifs <;> simp

end Specs

end LedgerLoop.Frontend
