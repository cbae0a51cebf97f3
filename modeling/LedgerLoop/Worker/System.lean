import LedgerLoop.Library.Run
import LedgerLoop.Services.IngestCall
import LedgerLoop.Services.Queries
import LedgerLoop.Worker.Sweeper

/-!
# The interleaved system

Ingestion, any number of matchers and sweepers, demo retention and exception closing over one
database under READ COMMITTED. A `Sys` is the committed store together with what each worker holds
between its statements; a `Step` is one statement group after which another transaction may run:

* `load` and `find` are the two reads of `process`, `apply` is its insert together with the statements
  that follow it and the commit, and `ack` what the worker loop does once `process` has returned;
* `scan` is the read of `find_stale_pending`, `beginRow` the start of the transaction of its next row,
  which continues with `find` and `apply`;
* ingestion, the deletion of an account and the closing of an exception commit in one step.

The insert of an `apply` is atomic with its commit because nothing uncommitted is visible to others,
and an insert that meets an uncommitted one of the same key waits for it to commit or abort. A deletion
is atomic because a result that becomes visible between its statements makes its foreign keys fail.
A transaction that raises or whose worker dies leaves no trace in the store: `abandon`.

`drawn` holds the identity values the raw tables have handed out, which are never handed out again.
-/

set_option autoImplicit false

namespace LedgerLoop
open LedgerLoop.Library

namespace System
open Persist

/-- What a worker's transaction is for. -/
inductive Job where
  /-- A stream message, with its entry id. -/
  | message (message : IngestMessage) (messageId : Option String)
  /-- A stale row; `rest` is the remainder of the sweep's batch. -/
  | sweep (rest : List TxnFacts)
deriving Repr

/-- What a worker holds between its statements. -/
inductive Activity where
  | idle
  /-- Candidate read, counterparty query outstanding. -/
  | reading (job : Job) (candidate : TxnFacts)
  /-- Decided, insert outstanding. -/
  | writing (job : Job) (candidate : TxnFacts) (decision : Decision) (sides : List TxnFacts)
  /-- `process` has returned, `XACK` outstanding; `found` tells whether the row was there. -/
  | returned (message : IngestMessage) (found : Bool)
  /-- Between two row transactions of a sweep. -/
  | sweeping (batch : List TxnFacts)
deriving Repr

/-- The store, the raw ids handed out, and the workers. -/
structure Sys where
  store : Store := {}
  drawn : IngestSource → List ℕ := fun _ => []
  workers : ℕ → Activity := fun _ => .idle

/-- Where a run starts: the migrated schema, nobody working. -/
def Sys.initial : Sys := {}

inductive Event where
  | openAccount (account : Account)
  | ingest (call : IngestCall) (draws : IngestDraws)
  | load (w : ℕ) (message : IngestMessage) (messageId : Option String)
  | find (w : ℕ) (counterparties : List TxnFacts) (now : Datetime)
  | apply (w : ℕ) (now : Datetime) (draws : Draws)
  | ack (w : ℕ)
  | scan (w : ℕ) (batch : List TxnFacts)
  | beginRow (w : ℕ)
  | abandon (w : ℕ)
  | deleteAccount (accountId : ℕ)
  | closeException (tenantId exceptionId : ℕ) (notes : String) (now : Datetime)

/-- The worker an event is a statement of. -/
def Event.worker : Event → Option ℕ
  | .load w .. | .find w .. | .apply w .. | .ack w | .scan w .. | .beginRow w | .abandon w => some w
  | .openAccount .. | .ingest .. | .deleteAccount .. | .closeException .. => none

/-- The `source_message_id` of a job's result. -/
def Job.messageId : Job → Option String
  | .message _ messageId => messageId
  | .sweep _ => none

/-- What a worker does once its insert has committed. -/
def Job.done : Job → Activity
  | .message m _ => .returned m true
  | .sweep rest => .sweeping rest

/-- What `process` does after `load_facts`. -/
def afterLoad (message : IngestMessage) (messageId : Option String) :
    Option TxnFacts → Activity
  | none => .returned message false
  | some candidate =>
    if message.isDuplicate then
      .writing (.message message messageId) candidate
        (Core.decideDuplicate candidate message.submissions) [candidate]
    else .reading (.message message messageId) candidate

/-- What a worker does after its counterparty query: a matcher defers without a partner, a sweeper
    gives the row up. -/
def afterFind (job : Job) (candidate : TxnFacts) (counterparties : List TxnFacts)
    (config : MatchConfig) (now : Datetime) : Activity :=
  match job with
  | .message message _ =>
    match Core.decide candidate counterparties config with
    | none => .returned message true
    | some decision =>
      .writing job candidate decision (MatcherWorker.sidesOf candidate counterparties decision)
  | .sweep _ =>
    .writing job candidate (Sweeper.decideRow candidate counterparties config now).1
      (Sweeper.decideRow candidate counterparties config now).2

namespace Sys

/-- Worker `w` goes on to `activity`. -/
def setWorker (s : Sys) (w : ℕ) (activity : Activity) : Sys :=
  { s with workers := Function.update s.workers w activity }

/-- A transaction commits a new store. -/
def commit (s : Sys) (store : Store) : Sys := { s with store := store }

/-- An ingestion transaction has drawn `ids` from the identity column of a side. -/
def draw (s : Sys) (side : IngestSource) (ids : List ℕ) : Sys :=
  { s with drawn := Function.update s.drawn side (s.drawn side ++ ids) }

/-- Identity values are distinct and new. -/
def FreshIds (s : Sys) (side : IngestSource) (ids : List ℕ) : Prop :=
  ids.Nodup ∧ ∀ id ∈ ids, id ∉ s.drawn side

/-- The primary keys of `reconciliation_results` and `exceptions` admit the drawn values. -/
def FreshDraws (s : Sys) (draws : Draws) : Prop :=
  (∀ r ∈ s.store.reconciliationResults, r.id ≠ draws.resultId) ∧
    ∀ e ∈ s.store.exceptions, e.id ≠ draws.exceptionId

/-- The facts of a row that is pending now. -/
def IsPending (s : Sys) (f : TxnFacts) : Prop :=
  ∃ row ∈ s.store.raw f.side, row.pending = true ∧ facts row f.side = f

instance (s : Sys) (side : IngestSource) (ids : List ℕ) : Decidable (s.FreshIds side ids) :=
  inferInstanceAs (Decidable (_ ∧ _))

instance (s : Sys) (draws : Draws) : Decidable (s.FreshDraws draws) :=
  inferInstanceAs (Decidable (_ ∧ _))

instance (s : Sys) (f : TxnFacts) : Decidable (s.IsPending f) :=
  inferInstanceAs (Decidable (∃ row ∈ _, _))

end Sys

open Sys in
/-- One step of the system. -/
inductive Step (config : MatchConfig) : Sys → Event → Sys → Prop where
  | openAccount {s : Sys} {account} :
    s.store.hasAccount account.id = false →
    Step config s (.openAccount account)
      (s.commit { s.store with accounts := s.store.accounts ++ [account] })
  | ingest {s : Sys} {call draws store outcomes} :
    s.FreshIds call.side (call.rowIds draws) →
    Ingest.run s.store draws call = .ok (store, outcomes) →
    Step config s (.ingest call draws)
      ((s.commit store).draw call.side (call.rowIds draws))
  | load {s : Sys} {w message messageId} :
    s.workers w = .idle →
    Step config s (.load w message messageId)
      (s.setWorker w
        (afterLoad message messageId (loadFacts s.store message.source message.rowId)))
  | find {s : Sys} {w job candidate found counterparties now} :
    s.workers w = .reading job candidate →
    findCounterparties s.store candidate config = .ok found →
    counterparties.Perm found →
    Step config s (.find w counterparties now)
      (s.setWorker w (afterFind job candidate counterparties config now))
  | apply {s : Sys} {w job candidate decision sides now draws store res} :
    s.workers w = .writing job candidate decision sides →
    s.FreshDraws draws →
    MatcherWorker.persist s.store candidate decision sides job.messageId now draws =
      .ok (store, res) →
    Step config s (.apply w now draws) ((s.commit store).setWorker w job.done)
  | ack {s : Sys} {w message found} :
    s.workers w = .returned message found →
    Step config s (.ack w) (s.setWorker w .idle)
  | scan {s : Sys} {w batch} :
    s.workers w = .idle →
    (∀ f ∈ batch, s.IsPending f) →
    Step config s (.scan w batch) (s.setWorker w (.sweeping batch))
  | beginRow {s : Sys} {w candidate rest} :
    s.workers w = .sweeping (candidate :: rest) →
    Step config s (.beginRow w) (s.setWorker w (.reading (.sweep rest) candidate))
  | abandon {s : Sys} {w} :
    Step config s (.abandon w) (s.setWorker w .idle)
  | deleteAccount {s : Sys} {accountId} :
    Step config s (.deleteAccount accountId) (s.commit (Sweeper.deleteAccount s.store accountId))
  | closeException {s : Sys} {tenantId exceptionId notes now store closed} :
    Queries.closeException s.store tenantId exceptionId notes now = .ok (store, closed) →
    Step config s (.closeException tenantId exceptionId notes now) (s.commit store)

/-- The step an event names, if it can happen. -/
def step (config : MatchConfig) (s : Sys) : Event → Option Sys
  | .openAccount account =>
    if s.store.hasAccount account.id then none
    else some (s.commit { s.store with accounts := s.store.accounts ++ [account] })
  | .ingest call draws =>
    if s.FreshIds call.side (call.rowIds draws) then
      match Ingest.run s.store draws call with
      | .ok (store, _) => some ((s.commit store).draw call.side (call.rowIds draws))
      | .error _ => none
    else none
  | .load w message messageId =>
    match s.workers w with
    | .idle => some (s.setWorker w
        (afterLoad message messageId (loadFacts s.store message.source message.rowId)))
    | _ => none
  | .find w counterparties now =>
    match s.workers w with
    | .reading job candidate =>
      match findCounterparties s.store candidate config with
      | .ok found =>
        if counterparties.Perm found then
          some (s.setWorker w (afterFind job candidate counterparties config now))
        else none
      | .error _ => none
    | _ => none
  | .apply w now draws =>
    match s.workers w with
    | .writing job candidate decision sides =>
      if s.FreshDraws draws then
        match MatcherWorker.persist s.store candidate decision sides job.messageId now draws with
        | .ok (store, _) => some ((s.commit store).setWorker w job.done)
        | .error _ => none
      else none
    | _ => none
  | .ack w =>
    match s.workers w with
    | .returned _ _ => some (s.setWorker w .idle)
    | _ => none
  | .scan w batch =>
    match s.workers w with
    | .idle => if ∀ f ∈ batch, s.IsPending f then some (s.setWorker w (.sweeping batch)) else none
    | _ => none
  | .beginRow w =>
    match s.workers w with
    | .sweeping (candidate :: rest) => some (s.setWorker w (.reading (.sweep rest) candidate))
    | _ => none
  | .abandon w => some (s.setWorker w .idle)
  | .deleteAccount accountId => some (s.commit (Sweeper.deleteAccount s.store accountId))
  | .closeException tenantId exceptionId notes now =>
    match Queries.closeException s.store tenantId exceptionId notes now with
    | .ok (store, _) => some (s.commit store)
    | .error _ => none

/-- `step` computes the step relation. -/
theorem step_iff {config : MatchConfig} {s u : Sys} {e : Event} :
    step config s e = some u ↔ Step config s e u := by
  constructor
  · intro h
    cases e <;> simp only [step] at h
    case openAccount account =>
      split_ifs at h with old
      obtain rfl := Option.some.inj h
      exact .openAccount (by simpa using old)
    case ingest call draws =>
      split_ifs at h with fresh
      split at h
      · obtain rfl := Option.some.inj h
        exact .ingest fresh ‹_›
      · cases h
    case load w message messageId =>
      split at h
      · obtain rfl := Option.some.inj h
        exact .load ‹_›
      · cases h
    case find w counterparties now =>
      split at h
      · split at h
        · split_ifs at h with order
          obtain rfl := Option.some.inj h
          exact .find ‹_› ‹_› order
        · cases h
      · cases h
    case apply w now draws =>
      split at h
      · split_ifs at h with fresh
        split at h
        · obtain rfl := Option.some.inj h
          exact .apply ‹_› fresh ‹_›
        · cases h
      · cases h
    case ack w =>
      split at h
      · obtain rfl := Option.some.inj h
        exact .ack ‹_›
      · cases h
    case scan w batch =>
      split at h
      · split_ifs at h with stale
        obtain rfl := Option.some.inj h
        exact .scan ‹_› stale
      · cases h
    case beginRow w =>
      split at h
      · obtain rfl := Option.some.inj h
        exact .beginRow ‹_›
      · cases h
    case abandon w =>
      obtain rfl := Option.some.inj h
      exact .abandon
    case deleteAccount accountId =>
      obtain rfl := Option.some.inj h
      exact .deleteAccount
    case closeException tenantId exceptionId notes now =>
      split at h
      · obtain rfl := Option.some.inj h
        exact .closeException ‹_›
      · cases h
  · intro st
    cases st <;> simp_all [step]

/-- A step leaves every other worker as it is. -/
lemma Step.others {config : MatchConfig} {s u : Sys} {e : Event} (st : Step config s e u) {w : ℕ}
    (other : e.worker ≠ some w) : u.workers w = s.workers w := by
  have update {w' : ℕ} (ne : some w' ≠ some w) (a : Activity) :
      Function.update s.workers w' a w = s.workers w :=
    Function.update_of_ne (fun eq => ne (congrArg some eq.symm)) _ _
  cases st with
  | openAccount | ingest | deleteAccount | closeException => rfl
  | load | find | apply | ack | scan | beginRow | abandon => exact update other _

/-- A worker no event of a run names is idle at its end. -/
lemma idle_of_unnamed {config : MatchConfig} {tr : List (Sys × Event)} {u : Sys}
    (run : Run (Step config) Sys.initial tr u) {w : ℕ}
    (unnamed : ∀ p ∈ tr, p.2.worker ≠ some w) : u.workers w = .idle := by
  induction run with
  | nil => rfl
  | @snoc tr t e u _ st ih =>
    rw [st.others (unnamed (t, e) (by simp))]
    exact ih fun p mem => unnamed p (List.mem_append_left _ mem)

end System
end LedgerLoop
