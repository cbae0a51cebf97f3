import LedgerLoop.Frontend.Session
import LedgerLoop.Library.Run

/-!
# Uploads

Port of `ingestRows` in `api/ingest.ts` on a page that does other things meanwhile: the ledger batches one
after another, then the runners of the gateway pool; other calls of `request`; and the operator, who signs
in by the key modal (`submit` in `components/KeyEntry.tsx`) and out.

A turn of the event loop ends with nothing left to send: what a step has to send is `due`, and no other
step comes before it is sent. So the runners of the pool post their first rows in one turn, and a row is
followed by the next in the turn that settles it. Turns come in any order and with any answers; a call that
is repeated waits for its timer.

Each attempt reads the tenant anew, and a 401 of any request drops the stored key, so what is left of the
upload goes to the sandbox. By `upload_stays_iff` an upload stays in one tenant just when each of its requests
finds the key of the start stored.
-/

set_option autoImplicit false

namespace LedgerLoop.Frontend
open Library

/-- `LEDGER_BATCH_MAX`. -/
def ledgerBatchMax : ℕ := 1000

/-- `DEFAULT_CONCURRENCY`. -/
def defaultConcurrency : ℕ := 12

/-- The ledger loop of the upload, a runner of its pool, or another call of the page. -/
inductive Task where
  | ledger
  | runner (i : ℕ)
  | other (i : ℕ)
deriving DecidableEq, Repr

/-- Whether a task is the upload's. -/
def Task.uploads : Task → Bool
  | .other _ => false
  | _ => true

/-- A call of `request` under way: with the rows it posts, or the key that the key modal tests by it. -/
structure Pending (ρ : Type) where
  rows : List ρ := []
  options : RequestOptions := {}
  candidate : Option String := none
  progress : Progress := .ready 1

/-- The session, the upload, the page's other calls, and what the current turn has yet to send. -/
structure Page (ρ : Type) where
  session : Session
  batches : List (List ρ)
  gateway : List ρ
  concurrency : ℕ
  aborted : Bool
  next : ℕ := 0
  current : Option (Pending ρ) := none
  runners : List (Option (Pending ρ)) := []
  others : List (Option (Pending ρ))
  due : List Task := []

/-- `abort` is the signal of the upload's caller; `submit` is given the trimmed key. -/
inductive Event where
  | begin (options : RequestOptions)
  | submit (candidate : String)
  | signOut
  | abort
  | send (task : Task) (minted : String)
  | answer (task : Task) (answer : Answer)
deriving DecidableEq, Repr

variable {ρ : Type}

/-- `chunk`. -/
def chunk (items : List ρ) (size : ℕ) : List (List ρ) :=
  (List.range ((items.length + size - 1) / size)).map fun i => (items.drop (i * size)).take size

section Chunk
variable {items batch : List ρ} {size : ℕ}

/-- The first `k` batches are the first `k * size` items. -/
lemma flatten_chunks (items : List ρ) (size k : ℕ) :
    ((List.range k).map fun i => (items.drop (i * size)).take size).flatten = items.take (k * size) := by
  induction k with
  | zero => simp
  | succ k ih =>
    rw [List.range_succ, List.map_append, List.flatten_append, ih, Nat.succ_mul, List.take_add]
    simp

/-- The batches are the items, in their order. -/
lemma flatten_chunk (some_ : 0 < size) : (chunk items size).flatten = items := by
  rw [chunk, flatten_chunks]
  refine List.take_of_length_le ?_
  have up : items.length + size - 1 < ((items.length + size - 1) / size + 1) * size :=
    Nat.lt_mul_of_div_lt (Nat.lt_succ_self _) some_
  rw [Nat.succ_mul] at up
  omega

lemma length_of_mem_chunk (mem : batch ∈ chunk items size) : batch.length ≤ size := by
  obtain ⟨i, _, rfl⟩ := List.mem_map.1 mem
  exact List.length_take_le _ _

end Chunk

/-- The key modal stores the key it has tested. -/
def Pending.signIn (call : Pending ρ) (settled : Settled) (s : Session) : Session :=
  match settled, call.candidate with
  | .resolved, some key => s.setApiKey key
  | _, _ => s

namespace Page

/-- What a runner does with an index: post the row, or return, or throw. -/
def take (p : Page ρ) (index : ℕ) : Option (Pending ρ) :=
  if p.aborted then none else p.gateway[index]?.map fun row => { rows := [row] }

/-- The start of the pool; each runner takes an index. -/
def startRunners (p : Page ρ) : Page ρ :=
  let indices := List.range (min p.concurrency (max p.gateway.length 1))
  { p with
    current := none
    next := indices.length
    runners := indices.map p.take
    due := (indices.filter fun i => (p.take i).isSome).map .runner }

/-- One turn of the ledger loop: the next batch, or the pool. -/
def nextBatch (p : Page ρ) : Page ρ :=
  match p.batches with
  | batch :: rest =>
    if p.aborted then { p with batches := [], current := none }
    else { p with batches := rest, current := some { rows := batch }, due := [.ledger] }
  | [] => p.startRunners

/-- The call a task waits for. -/
def pending (p : Page ρ) : Task → Option (Pending ρ)
  | .ledger => p.current
  | .runner i => p.runners[i]?.join
  | .other i => p.others[i]?.join

def setPending (p : Page ρ) (call : Option (Pending ρ)) : Task → Page ρ
  | .ledger => { p with current := call }
  | .runner i => { p with runners := p.runners.set i call }
  | .other i => { p with others := p.others.set i call }

/-- What follows a call: nothing after an abort, else the next batch or the next row. -/
def finish (p : Page ρ) : Settled → Task → Page ρ
  | .aborted, .ledger => { p with batches := [], current := none }
  | _, .ledger => p.nextBatch
  | .aborted, .runner i => p.setPending none (.runner i)
  | _, .runner i =>
    { p with
      next := p.next + 1
      runners := p.runners.set i (p.take p.next)
      due := if (p.take p.next).isSome then [.runner i] else [] }
  | _, .other i => p.setPending none (.other i)

/-- Another part of the page calls `request`. -/
def call (p : Page ρ) (call : Pending ρ) : Page ρ :=
  { p with others := p.others ++ [some call], due := [.other p.others.length] }

/-- The next `fetch` of a task, with the tenant headers of the moment. -/
def send (p : Page ρ) (task : Task) (minted : String) : Option (Page ρ) :=
  match p.pending task with
  | some { rows, options, candidate, progress := .ready attempt } =>
    some ({ p with
            session := (p.session.tenantHeaders minted).1
            due := p.due.tail }.setPending
      (some { rows := rows, options := options, candidate := candidate
              progress := .inFlight attempt }) task)
  | _ => none

/-- A task's `fetch` is answered. Only the caller's signal aborts a call of the upload. -/
def receive (p : Page ρ) (task : Task) (answer : Answer) : Option (Page ρ) :=
  if answer = .abortError ∧ task.uploads ∧ !p.aborted then none
  else
    match p.pending task with
    | some { rows, options, candidate, progress := .inFlight attempt } =>
      let call := { rows := rows, options := options, candidate := candidate : Pending ρ }
      let session := options.received p.session answer
      match options.answered attempt answer with
      | .inl progress =>
        some ({ p with session := session }.setPending (some { call with progress := progress }) task)
      | .inr settled => some ({ p with session := call.signIn settled session }.finish settled task)
    | _ => none

end Page

/-- The start of `ingestRows`, with the calls the page has under way. -/
def ingestRows (session : Session) (gateway ledger : List ρ) (concurrency : ℕ) (aborted : Bool)
    (others : List (Option (Pending ρ))) : Page ρ :=
  { session := session, batches := chunk ledger ledgerBatchMax, gateway := gateway
    concurrency := concurrency, aborted := aborted, others := others : Page ρ }.nextBatch

/-- One step of the page. What is due comes first; a task that is not has waited for its timer. -/
def step (p : Page ρ) : Event → Option (Page ρ)
  | .send task minted => if p.due.head?.all (· = task) then p.send task minted else none
  | .begin options => if p.due = [] then some (p.call { options := options }) else none
  | .submit candidate =>
    if p.due = [] ∧ candidate ≠ "" then
      some (p.call { options := { attempts := 1, skipAuthReset := true }, candidate := some candidate })
    else none
  | .signOut => if p.due = [] then some { p with session := p.session.clearApiKey } else none
  | .abort => if p.due = [] then some { p with aborted := true } else none
  | .answer task answer => if p.due = [] then p.receive task answer else none

/-- What an answer to a call does to the stored key, if anything: a 401 drops it, and the key modal
    stores the key that was accepted. -/
def Pending.keyChange (call : Pending ρ) (s : Session) (answer : Answer) : Option (Option String) :=
  match call.progress with
  | .ready _ => none
  | .inFlight attempt =>
    if call.options.resets s answer then some none
    else if call.options.answered attempt answer = .inr .resolved then call.candidate.map some
    else none

/-- What a step does to the stored key, if anything. -/
def keyChange (p : Page ρ) : Event → Option (Option String)
  | .signOut => some none
  | .answer task answer => (p.pending task).bind fun call => call.keyChange p.session answer
  | _ => none

/-- The latest change of the stored key in a trace. -/
def lastChange (tr : List (Page ρ × Event)) : Option (Option String) :=
  (tr.filterMap fun p => keyChange p.1 p.2).getLast?

/-- The tenant headers of a request of the upload. No request is sent after an abort. -/
def uploadSend (p : Page ρ) : Event → Option TenantHeaders
  | .send task minted =>
    if task.uploads && !p.aborted then some (p.session.tenantHeaders minted).2 else none
  | _ => none

/-- The tenant headers of the requests of the upload, in the order they are sent. -/
def uploadSends (tr : List (Page ρ × Event)) : List TenantHeaders :=
  tr.filterMap fun p => uploadSend p.1 p.2

/-- All requests carry one tenant, and none is the sandbox's if a key was stored at the start. -/
def OneTenant (start : Session) (sent : List TenantHeaders) : Prop :=
  (∀ h ∈ sent, ∀ h' ∈ sent, h = h') ∧
    (start.key ≠ none → ∀ h ∈ sent, ∀ id, h ≠ .xDemoSession id)

/-- Before a request of the upload, the latest change of the stored key, if there was one, has stored the
    key of the start or, if there was none, dropped the key. -/
def KeyBack (start : Session) (tr : List (Page ρ × Event)) : Prop :=
  ∀ tr0 t e tr1, tr = tr0 ++ (t, e) :: tr1 → uploadSend t e ≠ none →
    ∀ key, lastChange tr0 = some key → key = start.key

section Steps
variable {p u : Page ρ} {e : Event} {call : Pending ρ} {waits : Option (Pending ρ)} {task : Task}
  {settled : Settled} {answer : Answer}

@[simp] lemma session_nextBatch : p.nextBatch.session = p.session := by
  unfold Page.nextBatch
  split
  · split_ifs <;> rfl
  · rfl

@[simp] lemma session_setPending : (p.setPending waits task).session = p.session := by
  cases task <;> rfl

@[simp] lemma session_finish : (p.finish settled task).session = p.session := by
  cases task <;> cases settled <;> simp [Page.finish]

@[simp] lemma demoSession_signIn {s : Session} : (call.signIn settled s).demoSession = s.demoSession := by
  unfold Pending.signIn
  split <;> rfl

lemma signIn_of_ne {s : Session} (ne : settled ≠ .resolved) : call.signIn settled s = s := by
  unfold Pending.signIn
  split
  · exact absurd rfl ne
  · rfl

/-- What an answer leaves of the session. -/
lemma receive_session (received : p.receive task answer = some u) :
    u.session.key = (keyChange p (.answer task answer)).getD p.session.key ∧
      u.session.demoSession = p.session.demoSession := by
  simp only [Page.receive] at received
  split_ifs at received with foreign
  split at received
  · rename_i rows options candidate attempt waits
    rw [keyChange, waits, Option.bind_some, Pending.keyChange]
    dsimp only
    split at received
    · -- the call is repeated
      rename_i progress again
      obtain rfl := Option.some.inj received
      rw [again]
      refine ⟨?_, by simp⟩
      rw [session_setPending, key_received]
      split_ifs <;> simp_all
    · rename_i settled over_
      obtain rfl := Option.some.inj received
      rw [over_]
      refine ⟨?_, by simp⟩
      rw [session_finish]
      cases settled with
      | resolved =>
        cases candidate <;> simp [Pending.signIn, key_received, resets_of_resolved over_]
      | rejected | aborted =>
        rw [signIn_of_ne (by simp), key_received]
        split_ifs <;> simp_all
  · cases received

/-- What a step does to the session: a `fetch` reads the tenant headers. -/
lemma step_session (st : step p e = some u) :
    (∃ task minted, e = .send task minted ∧ u.session = (p.session.tenantHeaders minted).1) ∨
      (u.session.key = (keyChange p e).getD p.session.key ∧
        u.session.demoSession = p.session.demoSession ∧ uploadSend p e = none) := by
  cases e with
  | send task minted =>
    simp only [step, Page.send] at st
    split_ifs at st with first
    split at st
    · obtain rfl := Option.some.inj st
      exact .inl ⟨task, minted, rfl, by simp⟩
    · cases st
  | answer task answer =>
    simp only [step] at st
    split_ifs at st with idle
    obtain ⟨key, demo⟩ := receive_session st
    exact .inr ⟨key, demo, rfl⟩
  | signOut =>
    simp only [step] at st
    split_ifs at st with idle
    obtain rfl := Option.some.inj st
    exact .inr ⟨Session.key_clearApiKey, rfl, rfl⟩
  | begin | submit | abort =>
    simp only [step] at st
    split_ifs at st with idle
    obtain rfl := Option.some.inj st
    exact .inr ⟨rfl, rfl, rfl⟩

/-- The key changes as the step says. -/
lemma key_step (st : step p e = some u) : u.session.key = (keyChange p e).getD p.session.key := by
  rcases step_session st with ⟨task, minted, rfl, eq⟩ | ⟨key, _⟩
  · rw [eq, Session.key_tenantHeaders]
    rfl
  · exact key

/-- A cached sandbox id stays. -/
lemma demoSession_step {id : String} (st : step p e = some u)
    (cached : p.session.demoSession = some id) : u.session.demoSession = some id := by
  rcases step_session st with ⟨task, minted, _, eq⟩ | ⟨_, same, _⟩
  · exact eq ▸ Session.demoSession_tenantHeaders cached
  · exact same.trans cached

/-- A request of the upload reads the tenant headers. -/
lemma uploadSend_eq_some {h : TenantHeaders} (sent : uploadSend p e = some h) :
    ∃ task minted, e = .send task minted ∧ task.uploads = true ∧
      h = (p.session.tenantHeaders minted).2 := by
  cases e with
  | send task minted =>
    simp only [uploadSend] at sent
    split_ifs at sent with ours
    rw [Bool.and_eq_true] at ours
    exact ⟨task, minted, rfl, ours.1, (Option.some.inj sent).symm⟩
  | begin | submit | signOut | abort | answer => cases sent

/-- The upload waits for no call. -/
def Idle (p : Page ρ) : Prop := ∀ task, task.uploads = true → p.pending task = none

lemma Idle.setPending (idle : Idle p) (other : task.uploads = false) : Idle (p.setPending waits task) := by
  cases task with
  | ledger | runner => cases other
  | other i =>
    intro task ours
    have none_ := idle task ours
    cases task with
    | ledger | runner => exact none_
    | other => cases ours

lemma Idle.finish (idle : Idle p) (other : task.uploads = false) : Idle (p.finish settled task) := by
  cases task with
  | ledger | runner => cases other
  | other i => cases settled <;> exact idle.setPending other

/-- A call that a task waits for when the upload waits for none is not the upload's. -/
lemma Idle.other (idle : Idle p) (waits : p.pending task = some call) : task.uploads = false := by
  refine Bool.eq_false_iff.2 fun ours => ?_
  cases (idle task ours).symm.trans waits

lemma Idle.of_pending (idle : Idle p) (same : ∀ task, task.uploads = true → u.pending task = p.pending task) :
    Idle u := fun task ours => (same task ours).trans (idle task ours)

lemma pending_uploads_call (ours : task.uploads = true) : (p.call call).pending task = p.pending task := by
  cases task with
  | ledger | runner => rfl
  | other => cases ours

/-- An upload that waits for no call sends nothing and goes on waiting for none. -/
lemma Idle.step (idle : Idle p) (st : step p e = some u) : Idle u ∧ uploadSend p e = none := by
  cases e with
  | send task minted =>
    simp only [Frontend.step, Page.send] at st
    split_ifs at st with first
    split at st
    · rename_i waits
      obtain rfl := Option.some.inj st
      have other := idle.other waits
      exact ⟨Idle.setPending (idle.of_pending fun task _ => by cases task <;> rfl) other, by
        simp [uploadSend, other]⟩
    · cases st
  | answer task answer =>
    refine ⟨?_, rfl⟩
    simp only [Frontend.step, Page.receive] at st
    split_ifs at st with due foreign
    split at st
    · rename_i waits
      have other := idle.other waits
      split at st
      · obtain rfl := Option.some.inj st
        exact Idle.setPending (idle.of_pending fun task _ => by cases task <;> rfl) other
      · obtain rfl := Option.some.inj st
        exact Idle.finish (idle.of_pending fun task _ => by cases task <;> rfl) other
    · cases st
  | begin | submit =>
    simp only [Frontend.step] at st
    split_ifs at st with due
    obtain rfl := Option.some.inj st
    exact ⟨idle.of_pending fun _ => pending_uploads_call, rfl⟩
  | signOut | abort =>
    simp only [Frontend.step] at st
    split_ifs at st with due
    obtain rfl := Option.some.inj st
    exact ⟨idle.of_pending fun task _ => by cases task <;> rfl, rfl⟩

end Steps

section Runs
variable {session : Session} {gateway ledger : List ρ} {concurrency : ℕ} {aborted : Bool}
  {others : List (Option (Pending ρ))} {s u : Page ρ} {tr tr0 tr1 : List (Page ρ × Event)}
  {h : TenantHeaders}

/-- A step of the page. -/
def Step (p : Page ρ) (e : Event) (u : Page ρ) : Prop := step p e = some u

@[simp] lemma session_ingestRows :
    (ingestRows session gateway ledger concurrency aborted others).session = session := by
  simp [ingestRows]

/-- The stored key is the one of the latest change, if there was any. -/
lemma key_along (run : Run Step s tr u) : u.session.key = (lastChange tr).getD s.session.key := by
  induction run with
  | nil => rfl
  | @snoc tr t e u _ st ih =>
    rw [key_step st, lastChange, List.filterMap_append]
    cases change : keyChange t e with
    | none => simpa [change, lastChange] using ih
    | some key => simp [change]

/-- The pool begins with a request, unless it has none. -/
lemma startRunners_due (p : Page ρ) : Idle p.startRunners ∨
    p.startRunners.aborted = false ∧ ∃ task rest, p.startRunners.due = task :: rest ∧ task.uploads = true := by
  cases taken : (List.range (min p.concurrency (max p.gateway.length 1))).filter
      fun i => (p.take i).isSome with
  | nil =>
    refine .inl fun task ours => ?_
    cases task with
    | ledger => rfl
    | other => cases ours
    | runner i =>
      rw [Page.pending, Page.startRunners, List.getElem?_map]
      cases index : (List.range (min p.concurrency (max p.gateway.length 1)))[i]? with
      | none => rfl
      | some j =>
        simpa using List.filter_eq_nil_iff.1 taken j (List.mem_of_getElem? index)
  | cons i rest =>
    right
    have some_ : (p.take i).isSome = true :=
      (List.mem_filter.1 (taken ▸ List.mem_cons_self : i ∈ List.filter _ _)).2
    refine ⟨?_, .runner i, rest.map .runner, by simp [Page.startRunners, taken], rfl⟩
    rw [Page.take] at some_
    split_ifs at some_ with stopped
    · cases some_
    · exact Bool.eq_false_iff.2 stopped

/-- The upload begins with a request, unless it has none. -/
lemma ingestRows_due : Idle (ingestRows session gateway ledger concurrency aborted others) ∨
    (ingestRows session gateway ledger concurrency aborted others).aborted = false ∧ ∃ task rest,
      (ingestRows session gateway ledger concurrency aborted others).due = task :: rest ∧
        task.uploads = true := by
  simp only [ingestRows, Page.nextBatch]
  split
  · split_ifs with stopped
    · refine .inl fun task ours => ?_
      cases task with
      | ledger | runner => rfl
      | other => cases ours
    · exact .inr ⟨Bool.eq_false_iff.2 stopped, .ledger, [], rfl, rfl⟩
  · exact startRunners_due _

/-- An upload that sends requests sends its first one at once, with the tenant of the start. -/
lemma first_send (run : Run Step (ingestRows session gateway ledger concurrency aborted others) tr u)
    (sent : h ∈ uploadSends tr) : ∃ minted, (session.tenantHeaders minted).2 ∈ uploadSends tr := by
  rcases ingestRows_due with idle | ⟨running, task, rest, due, ours⟩
  · obtain ⟨⟨t, e⟩, mem, sent⟩ := List.mem_filterMap.1 sent
    obtain ⟨tr0, tr1, v, _, run0, st, _⟩ := run.split mem
    cases ((run0.invariant idle fun idle st => (idle.step st).1).step st).2.symm.trans sent
  · cases tr with
    | nil => cases sent
    | cons p tr =>
      obtain ⟨t, e⟩ := p
      obtain ⟨rfl, v, st, _⟩ := run.of_cons
      cases e with
      | send task' minted =>
        simp only [Step, step, due] at st
        split_ifs at st with first
        obtain rfl : task = task' := by simpa using first
        refine ⟨minted, List.mem_filterMap.2 ⟨_, List.mem_cons_self, ?_⟩⟩
        simp [uploadSend, ours, running]
      | begin | submit | signOut | abort | answer => simp [Step, step, due] at st

/-- Requests that find no key stored carry the sandbox id that is cached from then on. -/
lemma sandbox_cached (run : Run Step s tr u)
    (none_ : ∀ p ∈ tr, uploadSend p.1 p.2 ≠ none → p.1.session.key = none)
    (sent : h ∈ uploadSends tr) :
    ∃ id, h = .xDemoSession id ∧ u.session.demoSession = some id := by
  induction run with
  | nil => cases sent
  | @snoc tr t e u run st ih =>
    rw [uploadSends, List.filterMap_append, List.mem_append] at sent
    rcases sent with old | new
    · obtain ⟨id, eq, cached⟩ := ih (fun p mem => none_ p (List.mem_append_left _ mem)) old
      exact ⟨id, eq, demoSession_step st cached⟩
    · obtain ⟨p, mem, eq⟩ := List.mem_filterMap.1 new
      obtain rfl := List.mem_singleton.1 mem
      obtain ⟨task, minted, rfl, _, rfl⟩ := uploadSend_eq_some eq
      have noKey := none_ _ (List.mem_append_right _ mem) (by simp [eq])
      obtain ⟨id, header, _, cached, _⟩ := @Session.tenantHeaders_of_none _ minted noKey
      refine ⟨id, header, ?_⟩
      rcases step_session st with ⟨_, _, same, now⟩ | ⟨_, _, unsent⟩
      · obtain ⟨_, rfl⟩ := Event.send.inj same
        exact now ▸ cached
      · cases unsent.symm.trans eq

/-- However the requests of an upload, their retries, the other requests of the page and the operator's
    signing in and out interleave, and however the requests are answered: all requests of the upload carry
    one tenant, the account's if a key was stored at the start, if and only if each of them finds the stored
    key unchanged since the start, or changed back. -/
theorem upload_stays_iff
    (run : Run Step (ingestRows session gateway ledger concurrency aborted others) tr u) :
    OneTenant session (uploadSends tr) ↔ KeyBack session tr := by
  constructor
  · rintro ⟨one, _⟩ tr0 t e tr1 rfl sent key change
    obtain ⟨h, sent⟩ := Option.ne_none_iff_exists'.1 sent
    have mem : h ∈ uploadSends (tr0 ++ (t, e) :: tr1) :=
      List.mem_filterMap.2 ⟨(t, e), List.mem_append_right _ List.mem_cons_self, sent⟩
    obtain ⟨minted₀, first⟩ := first_send run mem
    obtain ⟨_, minted, _, _, rfl⟩ := uploadSend_eq_some sent
    obtain ⟨_, run0, _, _⟩ := run.split_append
    have here := key_along run0
    rw [change, Option.getD_some] at here
    exact here.symm.trans (Session.key_eq_of_tenantHeaders (one _ mem _ first))
  · intro back
    have stored : ∀ p ∈ tr, uploadSend p.1 p.2 ≠ none → p.1.session.key = session.key := by
      rintro ⟨t, e⟩ mem sent
      obtain ⟨tr0, tr1, _, rfl, run0, _, _⟩ := run.split mem
      rw [key_along run0]
      cases change : lastChange tr0 with
      | none => simp
      | some key => exact back tr0 t e tr1 rfl sent key change
    cases start : session.key with
    | none =>
      rw [start] at stored
      refine ⟨fun h sent h' sent' => ?_, fun some_ => absurd start some_⟩
      obtain ⟨id, rfl, cached⟩ := sandbox_cached run stored sent
      obtain ⟨id', rfl, cached'⟩ := sandbox_cached run stored sent'
      rw [Option.some.inj (cached.symm.trans cached')]
    | some k =>
      rw [start] at stored
      have bearer : ∀ h ∈ uploadSends tr, h = .authorization ("Bearer " ++ k) := by
        intro h sent
        obtain ⟨⟨t, e⟩, mem, eq⟩ := List.mem_filterMap.1 sent
        have same := stored (t, e) mem (by simp [eq])
        obtain ⟨_, minted, _, _, rfl⟩ := uploadSend_eq_some eq
        exact (Session.tenantHeaders_of_key same).1
      refine ⟨fun h sent h' sent' => (bearer h sent).trans (bearer h' sent').symm, ?_⟩
      intro _ h sent id same
      cases (bearer h sent).symm.trans same

end Runs

/-! Two uploads with a key stored: one that the operator's other doings do not move, and one whose ledger
batch is refused. -/

namespace Sample

def session : Session where
  apiKey := some "llk_AAAA"
  apiKeyLoaded := true

def sandboxId : String := "00000000-0000-0000-0000-000000000001"

/-- Two gateway rows. -/
def gatewayUpload : Page ℕ := ingestRows session [1, 2] [] defaultConcurrency false []

/-- Another key is refused by the key modal, the first row fails once and is posted again; then the
    operator signs out. -/
def accepted : List Event :=
  [.send (.runner 0) sandboxId, .send (.runner 1) sandboxId, .submit "llk_BBBB",
    .send (.other 0) sandboxId, .answer (.runner 0) (.response 503 true),
    .answer (.other 0) (.response 401 true), .send (.runner 0) sandboxId,
    .answer (.runner 1) (.response 202 true), .answer (.runner 0) (.response 202 true), .signOut]

/-- A ledger row and a gateway row. -/
def bothSides : Page ℕ := ingestRows session [1] [2] defaultConcurrency false []

/-- The key is revoked. -/
def refused : List Event :=
  [.send .ledger sandboxId, .answer .ledger (.response 401 true), .send (.runner 0) sandboxId]

end Sample

theorem upload_stays_sample :
    ∃ tr u, Run Step Sample.gatewayUpload tr u ∧ u.session.key = none ∧
      uploadSends tr = List.replicate 3 (.authorization "Bearer llk_AAAA") ∧
      OneTenant Sample.session (uploadSends tr) := by
  have runs : (replay step Sample.gatewayUpload Sample.accepted).map
      (fun p => (p.2.session.key, uploadSends p.1, (List.range p.1.length).all fun i =>
        ((p.1[i]?).bind fun q => uploadSend q.1 q.2).isNone || (lastChange (p.1.take i)).isNone)) =
      some (none, List.replicate 3 (.authorization "Bearer llk_AAAA"), true) := by decide
  obtain ⟨⟨tr, u⟩, eq, facts⟩ := Option.map_eq_some_iff.1 runs
  obtain ⟨gone, facts⟩ := Prod.mk.inj facts
  obtain ⟨sends, calm⟩ := Prod.mk.inj facts
  have run : Run Step Sample.gatewayUpload tr u := .of_replay id eq
  refine ⟨tr, u, run, gone, sends, (upload_stays_iff run).2 ?_⟩
  rintro tr0 t e tr1 rfl sent key change
  have here := List.all_eq_true.1 calm tr0.length (by simp)
  simp [change, sent] at here

/-- The key is dropped by the answer to the ledger batch, and the gateway row goes to the sandbox. -/
theorem upload_falls_into_sandbox :
    ∃ tr u, Run Step Sample.bothSides tr u ∧
      uploadSends tr = [.authorization "Bearer llk_AAAA", .xDemoSession Sample.sandboxId] ∧
      ¬OneTenant Sample.session (uploadSends tr) := by
  have runs : (replay step Sample.bothSides Sample.refused).map (fun p => uploadSends p.1) =
      some [.authorization "Bearer llk_AAAA", .xDemoSession Sample.sandboxId] := by decide
  obtain ⟨⟨tr, u⟩, eq, sends⟩ := Option.map_eq_some_iff.1 runs
  refine ⟨tr, u, .of_replay id eq, sends, fun one => ?_⟩
  have same := one.1 _ (sends ▸ List.mem_cons_self) _ (sends ▸ List.mem_cons_of_mem _ List.mem_cons_self)
  cases same

end LedgerLoop.Frontend
