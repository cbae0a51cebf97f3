import LedgerLoop.Queue.NoLoss

/-!
# Delivery refines the interleaved system

The relays write two columns of the outbox, and no transaction of the database reads them. A `Delivery`
without the two columns, the stream and the relays is a `Sys`, and each step of delivery is a step of it or
leaves it as it is (`Step.refines`). So whatever holds of every run of the interleaved system holds of the
tables under delivery, with at-least-once messages, crashes and relays in any interleaving
(`delivery_refines`).
-/

set_option autoImplicit false

namespace LedgerLoop
open LedgerLoop.Library

/-- An outbox event as its transaction wrote it. -/
def OutboxEvent.unpublished (e : OutboxEvent) : OutboxEvent := { e with publishedAt := none, attempts := 0 }

/-- A store before any relay. -/
def Store.unpublished (s : Store) : Store := { s with outboxEvents := s.outboxEvents.map OutboxEvent.unpublished }

section Frame
variable {s : Store} {side : IngestSource} {rows : List RawRow}

@[simp] lemma Store.raw_unpublished : s.unpublished.raw side = s.raw side := by
  cases side <;> rfl

lemma Store.setRaw_unpublished : s.unpublished.setRaw side rows = (s.setRaw side rows).unpublished := by
  cases side <;> rfl

end Frame

namespace Ingest
variable {s s' : Store} {tenantId : ℕ} {payload : GatewayWebhookIn} {idempotencyKey rawBody : String}
  {entries : List LedgerEntryIn} {draws : IngestDraws} {call : IngestCall} {side : IngestSource}
  {rows : List RawRow} {outcome : IngestOutcome} {outcomes : List IngestOutcome}

/-- Events are enqueued unpublished. -/
lemma enqueue_unpublished :
    enqueue s.unpublished side outcomes draws = (enqueue s side outcomes draws).unpublished := by
  simp only [enqueue, Store.unpublished, List.map_append, List.map_map]
  rfl

lemma enqueue_setRaw_unpublished : enqueue (s.unpublished.setRaw side rows) side outcomes draws =
    (enqueue (s.setRaw side rows) side outcomes draws).unpublished := by
  rw [Store.setRaw_unpublished, enqueue_unpublished]

lemma ingestGateway_unpublished : ingestGateway s.unpublished tenantId payload idempotencyKey rawBody draws =
    (ingestGateway s tenantId payload idempotencyKey rawBody draws).map (Prod.map Store.unpublished id) := by
  have account : s.unpublished.hasAccount tenantId = s.hasAccount tenantId := rfl
  have held (column : String) : stored s.unpublished .gateway tenantId column = stored s .gateway tenantId column := rfl
  simp only [ingestGateway, bind, Except.bind, account, held, Store.raw_unpublished, enqueue_setRaw_unpublished]
  cases payload.occurredAt.toUtc with
  | error e => rfl
  | ok occurredAt =>
    dsimp only
    by_cases nul : [idempotencyKey, payload.txnId, payload.gatewayRef].any hasNul = true
    · rw [if_pos nul, if_pos nul]
      rfl
    rw [if_neg nul, if_neg nul]
    cases varchar 255 idempotencyKey with
    | none => rfl
    | some column =>
      dsimp only
      split_ifs
      · rfl
      · split <;> rfl
      · rfl
      · rfl

lemma ingestLedgerBatch_unpublished : ingestLedgerBatch s.unpublished tenantId entries draws =
    (ingestLedgerBatch s tenantId entries draws).map (Prod.map Store.unpublished id) := by
  by_cases none_ : entries = []
  · rw [ingestLedgerBatch, ingestLedgerBatch, if_pos none_, if_pos none_]
    rfl
  have account : s.unpublished.hasAccount tenantId = s.hasAccount tenantId := rfl
  have new (tuples : List RawRow) : newRows s.unpublished tenantId tuples = newRows s tenantId tuples := rfl
  have outcomes (new : List RawRow) :
      outcomesOf s.unpublished tenantId entries new = outcomesOf s tenantId entries new := rfl
  have ids (new : List RawRow) : rowIdsOf s.unpublished tenantId entries new = rowIdsOf s tenantId entries new := rfl
  have table (new : List RawRow) : tableOf s.unpublished tenantId entries new = tableOf s tenantId entries new := rfl
  simp only [ingestLedgerBatch, if_neg none_, bind, Except.bind, account, new, outcomes, ids, table,
    enqueue_setRaw_unpublished]
  by_cases many : maxArguments < ledgerColumns.length * (Dict.firstBy (·.idempotencyKey) entries).length
  · rw [if_pos many, if_pos many]
    rfl
  rw [if_neg many, if_neg many]
  cases ledgerRows tenantId (Dict.firstBy (·.idempotencyKey) entries) draws with
  | error e => rfl
  | ok tuples =>
    dsimp only
    split_ifs
    · rfl
    · rfl
    · cases outcomesOf s tenantId entries (newRows s tenantId tuples) with
      | error e => rfl
      | ok announced =>
        dsimp only
        cases answers entries (rowIdsOf s tenantId entries (newRows s tenantId tuples)) announced with
        | error e => rfl
        | ok results => rfl

/-- Ingestion does not see what the relays have done. -/
lemma run_unpublished (ok : run s draws call = .ok (s', outcomes)) :
    run s.unpublished draws call = .ok (s'.unpublished, outcomes) := by
  cases call with
  | gateway tenantId payload idempotencyKey rawBody =>
    simp only [run, ingestGateway_unpublished] at ok ⊢
    cases answer : ingestGateway s tenantId payload idempotencyKey rawBody draws with
    | error e =>
      rw [answer] at ok
      cases ok
    | ok p =>
      rw [answer] at ok
      obtain ⟨rfl, rfl⟩ := Prod.mk.inj (Except.ok.inj ok)
      rfl
  | ledger tenantId entries =>
    simp only [run, ingestLedgerBatch_unpublished] at ok ⊢
    rw [ok]
    rfl

end Ingest

namespace Persist
variable {s s' : Store} {candidate : TxnFacts} {decision : Decision} {sides : List TxnFacts}
  {messageId : Option String} {now : Datetime} {draws : Draws} {res : PersistResult} {r : ReconciliationResult}

lemma settle_unpublished : settle s.unpublished decision r draws =
    Prod.map Store.unpublished id (settle s decision r draws) := by
  have opened (t : Store) : openException t.unpublished r.tenantId r.id draws =
      Prod.map Store.unpublished id (openException t r.tenantId r.id draws) := by
    simp only [openException]
    split_ifs with held held' held'
    · rfl
    · exact absurd held held'
    · exact absurd held' held
    · rfl
  have marked (t : Store) : markReconciled t.unpublished decision draws =
      (markReconciled t decision draws).unpublished := rfl
  have inserted : { s.unpublished with reconciliationResults := s.unpublished.reconciliationResults ++ [r] } =
      ({ s with reconciliationResults := s.reconciliationResults ++ [r] } : Store).unpublished := rfl
  simp only [settle, inserted, marked]
  split_ifs <;> first | rfl | rw [opened]; rfl

/-- Nor does the insert of a result. -/
lemma persist_unpublished
    (ok : MatcherWorker.persist s candidate decision sides messageId now draws = .ok (s', res)) :
    MatcherWorker.persist s.unpublished candidate decision sides messageId now draws =
      .ok (s'.unpublished, res) := by
  simp only [MatcherWorker.persist, applyDecision] at ok ⊢
  split at ok
  · cases ok
  · have conflict (r : ReconciliationResult) : conflicts s.unpublished r = conflicts s r := rfl
    have keys (r : ReconciliationResult) : foreignKeyError s.unpublished r = foreignKeyError s r := by
      simp only [foreignKeyError, dangling, Store.hasRaw, Store.raw_unpublished]
      rfl
    simp only [conflict, keys]
    split_ifs at ok ⊢
    · obtain ⟨rfl, rfl⟩ := Prod.mk.inj (Except.ok.inj ok)
      rfl
    · split at ok
      · cases ok
      · rw [settle_unpublished, Except.ok.inj ok]
        rfl

end Persist

namespace System
open Persist

/-- A system before any relay. -/
def Sys.unpublished (s : Sys) : Sys := { s with store := s.store.unpublished }

/-- Every step can be taken without the publication columns. -/
lemma Step.unpublished {config : MatchConfig} {s u : Sys} {e : Event} (st : Step config s e u) :
    Step config s.unpublished e u.unpublished := by
  cases st with
  | openAccount old => exact .openAccount old
  | ingest fresh ok => exact .ingest fresh (Ingest.run_unpublished ok)
  | @load w message messageId idle =>
    have found : loadFacts s.unpublished.store message.source message.rowId =
        loadFacts s.store message.source message.rowId := by
      simp only [loadFacts, Sys.unpublished, Store.raw_unpublished]
    have next := @Step.load config s.unpublished w message messageId idle
    rw [found] at next
    exact next
  | @find w job candidate found counterparties now reading query order =>
    have same : findCounterparties s.unpublished.store candidate config = .ok found := by
      simpa only [findCounterparties, Sys.unpublished, Store.raw_unpublished] using query
    exact .find reading same order
  | apply writing fresh ok => exact .apply writing fresh (persist_unpublished ok)
  | ack returned => exact .ack returned
  | @scan w batch idle stale =>
    refine .scan idle fun f mem => ?_
    obtain ⟨row, memRow, pending⟩ := stale f mem
    exact ⟨row, Store.raw_unpublished ▸ memRow, pending⟩
  | beginRow sweeping => exact .beginRow sweeping
  | abandon => exact .abandon
  | deleteAccount => exact .deleteAccount
  | @closeException tenantId exceptionId notes now store closed ok =>
    refine @Step.closeException _ _ _ _ _ _ _ closed ?_
    simp only [Queries.closeException] at ok ⊢
    split_ifs at ok
    obtain ⟨rfl, rfl⟩ := Prod.mk.inj (Except.ok.inj ok)
    rw [if_neg (by assumption)]
    rfl

end System

namespace Queue
open LedgerLoop.System

/-- The entry in a consumer's hand. -/
def Consumer.inHand : Consumer → Option (ℕ × IngestMessage)
  | .working entries => entries.head?
  | _ => none

/-- The step of the database a step of delivery is, if any. -/
def systemEvent (d : Delivery) : Event → Option System.Event
  | .database e => some e
  | .load w => (d.consumers w).inHand.map fun p => .load w p.2 (some (toString p.1))
  | .ack w => some (.ack w)
  | .crash w => some (.abandon w)
  | _ => none

/-- What the database has done in a trace. -/
def systemTrace (tr : List (Delivery × Event)) : List (Sys × System.Event) :=
  tr.filterMap fun p => (systemEvent p.1 p.2).map fun e => (p.1.sys.unpublished, e)

section Runs
variable {config : MatchConfig} {settings : QueueSettings} {d d' : Delivery} {e : Event}
  {tr : List (Delivery × Event)}

/-- A step of delivery is a step of the database, or leaves all but the publication columns alone. -/
lemma Step.refines (st : Step config settings d e d') :
    (∃ e', systemEvent d e = some e' ∧ System.Step config d.sys.unpublished e' d'.sys.unpublished) ∨
      systemEvent d e = none ∧ d'.sys.unpublished = d.sys.unpublished := by
  cases st with
  | database _ step => exact .inl ⟨_, rfl, step.unpublished⟩
  | load working step => exact .inl ⟨_, by rw [systemEvent, working]; rfl, step.unpublished⟩
  | ack _ step | crash step => exact .inl ⟨_, rfl, step.unpublished⟩
  | @commit r rows now _ =>
    refine .inr ⟨rfl, ?_⟩
    have columns : (Delivery.published d.sys.store rows now).unpublished = d.sys.store.unpublished := by
      have erased : (updateWhere (fun e => rows.any (·.id == e.id)) (Delivery.markPublished now)
          d.sys.store.outboxEvents).map OutboxEvent.unpublished =
            d.sys.store.outboxEvents.map OutboxEvent.unpublished := map_updateWhere _ fun _ => rfl
      simp only [Store.unpublished, Delivery.published, erased]
    simp only [Delivery.setRelay, Delivery.unlock, Sys.commit, Sys.unpublished, columns]
  | claim | publish | mark | abort | ensureGroup | dropGroup | claimStale | skipClaim | read | finish =>
    exact .inr ⟨rfl, rfl⟩

/-- What the database does under delivery is a run of the interleaved system. -/
lemma systemRun (run : Run (Step config settings) Delivery.initial tr d) :
    Run (System.Step config) Sys.initial (systemTrace tr) d.sys.unpublished := by
  induction run with
  | nil => exact .nil
  | @snoc tr t e u _ st ih =>
    rw [systemTrace, List.filterMap_append, ← systemTrace]
    rcases st.refines with ⟨e', event, step⟩ | ⟨silent, same⟩
    · simp only [List.filterMap_cons, List.filterMap_nil, event, Option.map_some]
      exact ih.snoc step
    · simp only [List.filterMap_cons, List.filterMap_nil, silent, Option.map_none, List.append_nil, same]
      exact ih

/-- What the database does under delivery, with the stream, the relays and the crashes in any interleaving,
    is a run of the interleaved system, and it ends with the same accounts, rows, results and exceptions, and
    with the same workers. -/
theorem delivery_refines (run : Run (Step config settings) Delivery.initial tr d) :
    ∃ u, Run (System.Step config) Sys.initial (systemTrace tr) u ∧ u.store.accounts = d.sys.store.accounts ∧
      (∀ side, u.store.raw side = d.sys.store.raw side) ∧
      u.store.reconciliationResults = d.sys.store.reconciliationResults ∧
      u.store.exceptions = d.sys.store.exceptions ∧ u.drawn = d.sys.drawn ∧ u.workers = d.sys.workers :=
  ⟨d.sys.unpublished, systemRun run, rfl, fun _ => Store.raw_unpublished, rfl, rfl, rfl, rfl⟩

end Runs

theorem delivery_refines_sample :
    ∃ tr d, replay (step .shipped Sample.settings) Delivery.initial Sample.events = some (tr, d) ∧
      (systemTrace tr).length = 10 ∧ ∃ u, Run (System.Step .shipped) Sys.initial (systemTrace tr) u ∧
        u.store.reconciliationResults = d.sys.store.reconciliationResults := by
  have runs : ((replay (step .shipped Sample.settings) Delivery.initial Sample.events).map fun p =>
      (systemTrace p.1).length) = some 10 := by decide +kernel
  obtain ⟨⟨tr, d⟩, eq, length⟩ := Option.map_eq_some_iff.1 runs
  obtain ⟨u, run, _, _, results, _⟩ := delivery_refines (.of_replay Step.of_step eq)
  exact ⟨tr, d, eq, length, u, run, results⟩

end Queue
end LedgerLoop
