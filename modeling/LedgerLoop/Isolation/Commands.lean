import LedgerLoop.Isolation.Renaming
import LedgerLoop.Library.Numbering

/-!
# Tenants' commands, one at a time

The transactions of several tenants, each executed whole: ingestion, `process`, the sweeper's row
transaction, `resolve_exception`, and the three reads. A `Db` is the committed store with the sequences
its identity columns draw from, so that the row ids a tenant sees depend on what the others have drawn.

A sequence hands a value to every tuple of an insert, refused ones included; the insert into
`exceptions` is never refused, because its result is new. An event in a run is a command together with
its answer.
-/

set_option autoImplicit false

namespace LedgerLoop
open LedgerLoop.Library

namespace Isolation
open Persist Queries

/-- The store, and the next value of each sequence. -/
structure Db where
  store : Store
  nextRow : IngestSource → ℕ
  nextResult : ℕ
  nextException : ℕ
  nextEvent : ℕ

/-- The migrated schema with the accounts of the run's tenants. -/
def Db.initial (accounts : List Account) : Db where
  store := { accounts := accounts }
  nextRow _ := 1
  nextResult := 1
  nextException := 1
  nextEvent := 1

/-- The clock readings of a matching transaction. -/
structure Readings where
  /-- `datetime.now(UTC)` for the latency. -/
  now : Datetime
  /-- `now()` of the transaction. -/
  txNow : Datetime
  /-- `datetime.now(UTC)` when a side is marked. -/
  markedAt : IngestSource → Datetime

inductive Command where
  | ingest (call : IngestCall) (now : Datetime)
  | process (message : IngestMessage) (messageId : Option String) (readings : Readings)
  /-- The row transaction of a candidate some scan has read. -/
  | sweepRow (candidate : TxnFacts) (waitedAt : Datetime) (readings : Readings)
  | resolve (tenantId exceptionId : ℕ) (notes : String) (now : Datetime)
  | stats (tenantId : ℕ) (window : WindowName) (now : Datetime)
  | transactions (tenantId : ℕ) (status : Option ReconStatus) (limit : ℕ) (cursor : Option ℤ)
  | exceptions (tenantId : ℕ) (filter : Option ExceptionFilter) (limit : ℕ) (cursor : Option ℤ)

/-- What a command answers. -/
inductive Reply where
  | ingested (side : IngestSource) (outcomes : List IngestOutcome)
  | processed (outcome : ProcessOutcome)
  | swept (result : PersistResult)
  | resolved (answer : ResolveAnswer)
  | stats (out : StatsOut)
  | transactions (page : Page ReconciliationResultOut)
  | exceptions (page : Page ExceptionOut)

/-- The tenant a command is for: that of its request, or of the row it is about. -/
def Command.tenant (s : Store) : Command → Option ℕ
  | .ingest call _ => some call.tenantId
  | .process message .. => (loadFacts s message.source message.rowId).map (·.tenantId)
  | .sweepRow candidate .. => some candidate.tenantId
  | .resolve tenantId .. | .stats tenantId .. | .transactions tenantId .. | .exceptions tenantId .. =>
    some tenantId

/-- What an ingestion transaction draws. -/
def Db.ingestDraws (db : Db) (side : IngestSource) (now : Datetime) : IngestDraws where
  rowId i := db.nextRow side + i
  eventId i := db.nextEvent + i
  now := now

/-- What a matching transaction draws. -/
def Db.draws (db : Db) (readings : Readings) : Draws where
  resultId := db.nextResult
  exceptionId := db.nextException
  now := readings.txNow
  markedAt := readings.markedAt

/-- An ingestion transaction that inserted `tuples` rows commits. -/
def Db.ingested (db : Db) (side : IngestSource) (tuples : ℕ) (store : Store) : Db :=
  { db with
    store := store
    nextRow := Function.update db.nextRow side (db.nextRow side + tuples)
    nextEvent := db.nextEvent + (store.outboxEvents.length - db.store.outboxEvents.length) }

/-- A matching transaction commits; `inserts` tells whether it reached its insert. -/
def Db.decided (db : Db) (inserts : Bool) (store : Store) : Db :=
  { db with
    store := store
    nextResult := db.nextResult + inserts.toNat
    nextException := db.nextException + (store.exceptions.length - db.store.exceptions.length) }

/-- The facts a scan has read: rows never change them. -/
def Scanned (s : Store) (candidate : TxnFacts) : Prop :=
  ∃ row ∈ s.raw candidate.side, facts row candidate.side = candidate

instance (s : Store) (candidate : TxnFacts) : Decidable (Scanned s candidate) :=
  inferInstanceAs (Decidable (∃ row ∈ _, _))

/-- Execute a command: the database its commit leaves and its answer, unless it raises. -/
def exec (config : MatchConfig) (db : Db) : Command → Option (Db × Reply)
  | .ingest call now =>
    (Ingest.run db.store (db.ingestDraws call.side now) call).toOption.map fun result =>
      (db.ingested call.side call.tuples result.1, .ingested call.side result.2)
  | .process message messageId readings =>
    (MatcherWorker.process db.store message messageId config readings.now
      (db.draws readings)).toOption.map fun result =>
        (db.decided result.2.decision.isSome result.1, .processed result.2)
  | .sweepRow candidate waitedAt readings =>
    if Scanned db.store candidate then
      (Sweeper.sweepRow db.store candidate config waitedAt readings.now
        (db.draws readings)).toOption.map fun result => (db.decided true result.1, .swept result.2)
    else none
  | .resolve tenantId exceptionId notes now =>
    (resolveException db.store tenantId exceptionId notes now).toOption.map fun result =>
      ({ db with store := result.1 }, .resolved result.2)
  | .stats tenantId window now => some (db, .stats (getStats db.store tenantId window now))
  | .transactions tenantId status limit cursor =>
    some (db, .transactions (listTransactions db.store tenantId status limit cursor))
  | .exceptions tenantId filter limit cursor =>
    some (db, .exceptions (listExceptions db.store tenantId filter limit cursor))

/-- One command of a run, with its answer. -/
def Step (config : MatchConfig) (db : Db) (event : Command × Reply) (db' : Db) : Prop :=
  exec config db event.1 = some (db', event.2)

/-- Execute commands one after the other, keeping the trace. -/
def execute (config : MatchConfig) (db : Db) :
    List Command → Option (List (Db × Command × Reply) × Db)
  | [] => some ([], db)
  | command :: commands =>
    (exec config db command).bind fun result =>
      (execute config result.1 commands).map fun rest => ((db, command, result.2) :: rest.1, rest.2)

/-- Whether an event of a run is `tenantId`'s. -/
def isOf (tenantId : ℕ) (p : Db × Command × Reply) : Bool :=
  p.2.1.tenant p.1.store == some tenantId

section
variable {config : MatchConfig} {db u v : Db} {event : Command × Reply}

/-- A command does the same whenever it is executed. -/
lemma Step.det (st : Step config db event u) (st' : Step config db event v) : u = v := by
  have eq : some (u, event.2) = some (v, event.2) := st.symm.trans st'
  exact (Prod.mk.inj (Option.some.inj eq)).1

/-- What is executed is a run. -/
lemma run_of_execute {commands : List Command} {tr : List (Db × Command × Reply)}
    (h : execute config db commands = some (tr, u)) : Run (Step config) db tr u := by
  induction commands generalizing db tr with
  | nil =>
    obtain ⟨rfl, rfl⟩ := Prod.mk.inj (Option.some.inj h)
    exact .nil
  | cons command commands ih =>
    simp only [execute, Option.bind_eq_some_iff, Option.map_eq_some_iff] at h
    obtain ⟨result, head, rest, tail, eq⟩ := h
    obtain ⟨rfl, rfl⟩ := Prod.mk.inj eq
    exact (ih tail).cons head

/-- Sequences never go back. -/
lemma Step.grows (st : Step config db event u) :
    (∀ side, db.nextRow side ≤ u.nextRow side) ∧ db.nextResult ≤ u.nextResult ∧
      db.nextException ≤ u.nextException := by
  obtain ⟨command, answer⟩ := event
  cases command with
  | ingest call now =>
    obtain ⟨result, _, eq⟩ := toOption_map_eq_some.1 st
    obtain ⟨rfl, _⟩ := Prod.mk.inj eq
    refine ⟨fun side => ?_, le_rfl, le_rfl⟩
    by_cases same : side = call.side
    · subst same
      simp [Db.ingested]
    · simp [Db.ingested, same]
  | process message messageId readings =>
    obtain ⟨result, _, eq⟩ := toOption_map_eq_some.1 st
    obtain ⟨rfl, _⟩ := Prod.mk.inj eq
    exact ⟨fun _ => le_rfl, Nat.le_add_right _ _, Nat.le_add_right _ _⟩
  | sweepRow candidate waitedAt readings =>
    simp only [Step, exec] at st
    split_ifs at st
    obtain ⟨result, _, eq⟩ := toOption_map_eq_some.1 st
    obtain ⟨rfl, _⟩ := Prod.mk.inj eq
    exact ⟨fun _ => le_rfl, Nat.le_add_right _ _, Nat.le_add_right _ _⟩
  | resolve tenantId exceptionId notes now =>
    obtain ⟨result, _, eq⟩ := toOption_map_eq_some.1 st
    obtain ⟨rfl, _⟩ := Prod.mk.inj eq
    exact ⟨fun _ => le_rfl, le_rfl, le_rfl⟩
  | stats | transactions | exceptions =>
    obtain ⟨rfl, _⟩ := Prod.mk.inj (Option.some.inj st)
    exact ⟨fun _ => le_rfl, le_rfl, le_rfl⟩

end

end Isolation
end LedgerLoop
