import LedgerLoop.Library.Stream
import LedgerLoop.Worker.System

/-!
# From the outbox to the matcher

Port of `queue/relay.py` and of the loop of `worker/loop.py`, over the stream commands of
`queue/streams.py`. A `Delivery` is the interleaved system together with the stream, the relays that
move committed outbox rows onto it and the consumers that feed the matchers from it.

`drain_once` is `claim`, one `publish` for each `XADD` of the pipeline, `mark` and `commit`; a turn of
the loop is `claimStale` or `skipClaim`, `read`, and for each entry `load`, the steps of `process`, and
`ack`. A `crash`, which is also what an exception does to a batch, and an `abort` can happen at every
point. PostgreSQL and Redis do not commit together: no step but `load` and `ack` touches both, and these
touch one of them in a worker's memory only.
-/

set_option autoImplicit false

namespace LedgerLoop
open LedgerLoop.Library

namespace Queue
open LedgerLoop.System

/-- A stream entry. The outbox event it was published for is known to no party. -/
structure Entry where
  event : ℕ
  message : IngestMessage
deriving DecidableEq, Repr

/-- What a relay holds within `drain_once`. -/
inductive Relay where
  | idle
  /-- Rows claimed, the first `sent` of them on the stream. -/
  | publishing (rows : List OutboxEvent) (sent : ℕ)
  /-- The pipeline has answered and `published_at` is set, uncommitted. -/
  | marked (rows : List OutboxEvent)
deriving Repr

/-- What a consumer holds of the stream: entries with their ids. -/
inductive Consumer where
  | idle
  /-- `_maybe_claim` has returned, `XREADGROUP` is outstanding. -/
  | claimed (entries : List (ℕ × IngestMessage))
  /-- The rest of the batch, the entry in hand first. -/
  | working (entries : List (ℕ × IngestMessage))
deriving Repr

/-- What has happened to entries, in order. -/
inductive LogEntry where
  /-- A `process` call for the message of an entry has committed. -/
  | processed (id : ℕ) (message : IngestMessage)
  | acked (id : ℕ)
deriving DecidableEq, Repr

/-- `outbox_batch_size` and `stream_batch_size`. -/
structure QueueSettings where
  outboxBatchSize : ℕ
  streamBatchSize : ℕ
deriving Repr

structure Delivery where
  sys : Sys := {}
  /-- Row locks on `outbox_events`, each with the relay that holds it. -/
  locks : List (ℕ × ℕ) := []
  relays : ℕ → Relay := fun _ => .idle
  stream : EventStream Entry := {}
  consumers : ℕ → Consumer := fun _ => .idle
  log : List LogEntry := []

inductive Event where
  | database (e : System.Event)
  | claim (r : ℕ) (rows : List OutboxEvent)
  | publish (r : ℕ)
  | mark (r : ℕ)
  | commit (r : ℕ) (now : Datetime)
  | abort (r : ℕ)
  | ensureGroup
  | dropGroup
  | claimStale (w : ℕ) (ids : List ℕ)
  | skipClaim (w : ℕ)
  | read (w : ℕ)
  | load (w : ℕ)
  | ack (w : ℕ)
  | finish (w : ℕ)
  | crash (w : ℕ)

namespace Delivery

/-- Nothing ingested, nothing on the stream. -/
def initial : Delivery := {}

def setRelay (d : Delivery) (r : ℕ) (relay : Relay) : Delivery :=
  { d with relays := Function.update d.relays r relay }

def setConsumer (d : Delivery) (w : ℕ) (consumer : Consumer) : Delivery :=
  { d with consumers := Function.update d.consumers w consumer }

/-- The rows `FOR UPDATE SKIP LOCKED` can return. -/
def claimable (d : Delivery) : List OutboxEvent :=
  d.sys.store.outboxEvents.filter fun e => e.publishedAt.isNone && !d.locks.any (·.1 == e.id)

/-- A batch the claim query of a relay can return: unpublished rows that nobody has locked, by id. -/
def Claims (d : Delivery) (limit : ℕ) (rows : List OutboxEvent) : Prop :=
  rows ≠ [] ∧ rows.length ≤ limit ∧ rows.Pairwise (fun a b => a.id < b.id) ∧
    ∀ row ∈ rows, row ∈ d.claimable

instance (d : Delivery) (limit : ℕ) (rows : List OutboxEvent) : Decidable (d.Claims limit rows) :=
  inferInstanceAs (Decidable (_ ∧ _))

/-- The locks of a relay are released. -/
def unlock (d : Delivery) (r : ℕ) : Delivery :=
  { d with locks := d.locks.filter fun lock => lock.2 != r }

/-- `SET published_at = now(), attempts = attempts + 1`. -/
def markPublished (now : Datetime) (e : OutboxEvent) : OutboxEvent :=
  { e with publishedAt := some now, attempts := e.attempts + 1 }

/-- The update of `drain_once`, `WHERE id IN (..)`. -/
def published (store : Store) (rows : List OutboxEvent) (now : Datetime) : Store :=
  { store with outboxEvents := updateWhere (fun e => rows.any (·.id == e.id)) (markPublished now)
                store.outboxEvents }

/-- Rows of `outbox_events` are locked by a relay. -/
def lock (d : Delivery) (r : ℕ) (rows : List OutboxEvent) : Delivery :=
  { d with locks := d.locks ++ rows.map fun row => (row.id, r) }

/-- What a consumer makes of the entries a command returns. -/
def batchOf (entries : List (ℕ × Entry)) : List (ℕ × IngestMessage) :=
  entries.map fun (id, entry) => (id, entry.message)

/-- The log line of a worker that has just returned from `process`. -/
def processedNow (d : Delivery) (w : ℕ) : Activity → List LogEntry
  | .returned .. =>
    match d.consumers w with
    | .working ((id, message) :: _) => [.processed id message]
    | _ => []
  | _ => []

/-- The database goes on to `sys`, by a step of the worker if one is named. -/
def goOn (d : Delivery) (worker : Option ℕ) (sys : Sys) : Delivery :=
  { d with
    sys := sys
    log := d.log ++ worker.elim [] fun w => d.processedNow w (sys.workers w) }

/-- `XACK` of the entry in hand, by a worker that goes on to `sys`. -/
def xack (d : Delivery) (id : ℕ) (sys : Sys) : Delivery :=
  { d with
    sys := sys
    stream := d.stream.xack id
    log := d.log ++ [.acked id] }

/-- Steps of the database that the queue does not drive. A sweep is not run by a consumer. -/
def mayRun (d : Delivery) : System.Event → Bool
  | .load .. | .ack .. | .abandon .. => false
  | .scan w _ =>
    match d.consumers w with
    | .idle => true
    | _ => false
  | _ => true

end Delivery

open Delivery in
/-- One step of the delivery system. -/
inductive Step (config : MatchConfig) (settings : QueueSettings) :
    Delivery → Event → Delivery → Prop where
  | database {d : Delivery} {e sys} :
    d.mayRun e = true →
    System.Step config d.sys e sys →
    (sys.store.outboxEvents.map (·.id)).Nodup →
    Step config settings d (.database e) (d.goOn e.worker sys)
  | claim {d : Delivery} {r rows} :
    d.relays r = .idle →
    d.Claims settings.outboxBatchSize rows →
    Step config settings d (.claim r rows)
      ((d.lock r rows).setRelay r (.publishing rows 0))
  | publish {d : Delivery} {r rows sent row} :
    d.relays r = .publishing rows sent →
    rows[sent]? = some row →
    Step config settings d (.publish r)
      ({ d with stream := d.stream.xadd ⟨row.id, row.payload⟩ }.setRelay r
        (.publishing rows (sent + 1)))
  | mark {d : Delivery} {r rows} :
    d.relays r = .publishing rows rows.length →
    Step config settings d (.mark r) (d.setRelay r (.marked rows))
  | commit {d : Delivery} {r rows now} :
    d.relays r = .marked rows →
    Step config settings d (.commit r now)
      (({ d with sys := d.sys.commit (published d.sys.store rows now) }.unlock r).setRelay r .idle)
  | abort {d : Delivery} {r} :
    Step config settings d (.abort r) ((d.unlock r).setRelay r .idle)
  | ensureGroup {d : Delivery} :
    Step config settings d .ensureGroup { d with stream := d.stream.xgroupCreate }
  | dropGroup {d : Delivery} :
    Step config settings d .dropGroup { d with stream := d.stream.xgroupDestroy }
  | claimStale {d : Delivery} {w ids stream entries} :
    d.consumers w = .idle →
    d.sys.workers w = .idle →
    ids.length ≤ settings.streamBatchSize →
    d.stream.xautoclaim w ids = some (stream, entries) →
    Step config settings d (.claimStale w ids)
      ({ d with stream := stream }.setConsumer w (.claimed (batchOf entries)))
  | skipClaim {d : Delivery} {w} :
    d.consumers w = .idle →
    d.sys.workers w = .idle →
    Step config settings d (.skipClaim w) (d.setConsumer w (.claimed []))
  | read {d : Delivery} {w batch stream entries} :
    d.consumers w = .claimed batch →
    d.sys.workers w = .idle →
    d.stream.xreadgroup w settings.streamBatchSize = some (stream, entries) →
    Step config settings d (.read w)
      ({ d with stream := stream }.setConsumer w (.working (batch ++ batchOf entries)))
  | load {d : Delivery} {w id message rest sys} :
    d.consumers w = .working ((id, message) :: rest) →
    System.Step config d.sys (.load w message (some (toString id))) sys →
    Step config settings d (.load w) (d.goOn (some w) sys)
  | ack {d : Delivery} {w id message rest sys} :
    d.consumers w = .working ((id, message) :: rest) →
    System.Step config d.sys (.ack w) sys →
    Step config settings d (.ack w)
      ((d.xack id sys).setConsumer w (.working rest))
  | finish {d : Delivery} {w} :
    d.consumers w = .working [] →
    Step config settings d (.finish w) (d.setConsumer w .idle)
  | crash {d : Delivery} {w sys} :
    System.Step config d.sys (.abandon w) sys →
    Step config settings d (.crash w) ({ d with sys := sys }.setConsumer w .idle)

open Delivery in
/-- The step an event names, if it can happen. -/
def step (config : MatchConfig) (settings : QueueSettings) (d : Delivery) : Event → Option Delivery
  | .database e =>
    if d.mayRun e then
      (System.step config d.sys e).bind fun sys =>
        if (sys.store.outboxEvents.map (·.id)).Nodup then some (d.goOn e.worker sys) else none
    else none
  | .claim r rows =>
    match d.relays r with
    | .idle =>
      if d.Claims settings.outboxBatchSize rows then
        some ((d.lock r rows).setRelay r (.publishing rows 0))
      else none
    | _ => none
  | .publish r =>
    match d.relays r with
    | .publishing rows sent =>
      rows[sent]?.map fun row =>
        { d with stream := d.stream.xadd ⟨row.id, row.payload⟩ }.setRelay r
          (.publishing rows (sent + 1))
    | _ => none
  | .mark r =>
    match d.relays r with
    | .publishing rows sent =>
      if sent = rows.length then some (d.setRelay r (.marked rows)) else none
    | _ => none
  | .commit r now =>
    match d.relays r with
    | .marked rows => some
        (({ d with sys := d.sys.commit (published d.sys.store rows now) }.unlock r).setRelay r .idle)
    | _ => none
  | .abort r => some ((d.unlock r).setRelay r .idle)
  | .ensureGroup => some { d with stream := d.stream.xgroupCreate }
  | .dropGroup => some { d with stream := d.stream.xgroupDestroy }
  | .claimStale w ids =>
    match d.consumers w, d.sys.workers w with
    | .idle, .idle =>
      if ids.length ≤ settings.streamBatchSize then
        (d.stream.xautoclaim w ids).map fun (stream, entries) =>
          { d with stream := stream }.setConsumer w (.claimed (batchOf entries))
      else none
    | _, _ => none
  | .skipClaim w =>
    match d.consumers w, d.sys.workers w with
    | .idle, .idle => some (d.setConsumer w (.claimed []))
    | _, _ => none
  | .read w =>
    match d.consumers w, d.sys.workers w with
    | .claimed batch, .idle =>
      (d.stream.xreadgroup w settings.streamBatchSize).map fun (stream, entries) =>
        { d with stream := stream }.setConsumer w (.working (batch ++ batchOf entries))
    | _, _ => none
  | .load w =>
    match d.consumers w with
    | .working ((id, message) :: _) =>
      (System.step config d.sys (.load w message (some (toString id)))).map (d.goOn (some w))
    | _ => none
  | .ack w =>
    match d.consumers w with
    | .working ((id, _) :: rest) =>
      (System.step config d.sys (.ack w)).map fun sys =>
        (d.xack id sys).setConsumer w (.working rest)
    | _ => none
  | .finish w =>
    match d.consumers w with
    | .working [] => some (d.setConsumer w .idle)
    | _ => none
  | .crash w =>
    (System.step config d.sys (.abandon w)).map fun sys => { d with sys := sys }.setConsumer w .idle

/-- `step` computes steps. -/
lemma Step.of_step {config : MatchConfig} {settings : QueueSettings} {d d' : Delivery} {e : Event}
    (h : step config settings d e = some d') : Step config settings d e d' := by
  cases e <;> simp only [step] at h
  case database e =>
    split_ifs at h with may
    obtain ⟨sys, next, h⟩ := Option.bind_eq_some_iff.1 h
    split_ifs at h with nodup
    obtain rfl := Option.some.inj h
    exact .database may (step_iff.1 next) nodup
  case claim r rows =>
    split at h
    · split_ifs at h with claims
      obtain rfl := Option.some.inj h
      exact .claim ‹_› claims
    · cases h
  case publish r =>
    split at h
    · obtain ⟨row, next, rfl⟩ := Option.map_eq_some_iff.1 h
      exact .publish ‹_› next
    · cases h
  case mark r =>
    split at h
    · split_ifs at h with all
      obtain rfl := Option.some.inj h
      exact .mark (all ▸ ‹_›)
    · cases h
  case commit r now =>
    split at h
    · obtain rfl := Option.some.inj h
      exact .commit ‹_›
    · cases h
  case abort r =>
    obtain rfl := Option.some.inj h
    exact .abort
  case ensureGroup =>
    obtain rfl := Option.some.inj h
    exact .ensureGroup
  case dropGroup =>
    obtain rfl := Option.some.inj h
    exact .dropGroup
  case claimStale w ids =>
    split at h
    · split_ifs at h with few
      obtain ⟨⟨stream, entries⟩, claim, rfl⟩ := Option.map_eq_some_iff.1 h
      exact .claimStale ‹_› ‹_› few claim
    · cases h
  case skipClaim w =>
    split at h
    · obtain rfl := Option.some.inj h
      exact .skipClaim ‹_› ‹_›
    · cases h
  case read w =>
    split at h
    · obtain ⟨⟨stream, entries⟩, read, rfl⟩ := Option.map_eq_some_iff.1 h
      exact .read ‹_› ‹_› read
    · cases h
  case load w =>
    split at h
    · obtain ⟨sys, next, rfl⟩ := Option.map_eq_some_iff.1 h
      exact .load ‹_› (step_iff.1 next)
    · cases h
  case ack w =>
    split at h
    · obtain ⟨sys, next, rfl⟩ := Option.map_eq_some_iff.1 h
      exact .ack ‹_› (step_iff.1 next)
    · cases h
  case finish w =>
    split at h
    · obtain rfl := Option.some.inj h
      exact .finish ‹_›
    · cases h
  case crash w =>
    obtain ⟨sys, next, rfl⟩ := Option.map_eq_some_iff.1 h
    exact .crash (step_iff.1 next)

end Queue
end LedgerLoop
