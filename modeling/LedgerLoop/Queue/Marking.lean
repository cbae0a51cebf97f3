import LedgerLoop.Queue.Refinement
import LedgerLoop.Worker.Marking
import LedgerLoop.Worker.Submitted

/-!
# Every resubmission is marked

The messages of the stream are those of committed outbox events, a worker is at the message in its consumer's
hand, and a `process` call that has committed left the row of a duplicate marked. With `no_event_lost` this
gives both directions of the ground truth of `duplicates`: a marker is of a row that was submitted again, and
such a row has its marker once its events are through (`resubmissions_marked`).
-/

set_option autoImplicit false

namespace LedgerLoop
open LedgerLoop.Library

namespace System

/-- The message a worker is at. -/
def Activity.message : Activity → Option IngestMessage
  | .reading (.message m _) _ | .writing (.message m _) .. | .returned m _ => some m
  | .idle | .sweeping _ | .reading (.sweep _) _ | .writing (.sweep _) .. => none

section Steps
variable {config : MatchConfig} {s u : Sys} {e : Event} {w : ℕ} {m : IngestMessage}

/-- A worker stays at its message until the ack. -/
lemma Step.message (st : Step config s e u) (at_ : (u.workers w).message = some m) :
    (s.workers w).message = some m ∨ ∃ messageId, e = .load w m messageId := by
  by_cases other : e.worker = some w
  · cases st with
    | openAccount | ingest | deleteAccount | closeException => cases other
    | @load w' message messageId _ =>
      obtain rfl := Option.some.inj other
      refine .inr ⟨messageId, ?_⟩
      simp only [Sys.setWorker, Function.update_self] at at_
      cases loaded : Persist.loadFacts s.store message.source message.rowId with
      | none =>
        rw [loaded] at at_
        obtain rfl : message = m := Option.some.inj at_
        rfl
      | some candidate =>
        rw [loaded] at at_
        simp only [afterLoad] at at_
        split_ifs at at_ <;> obtain rfl : message = m := Option.some.inj at_ <;> rfl
    | @find w' job candidate found counterparties now reading _ _ =>
      obtain rfl := Option.some.inj other
      simp only [Sys.setWorker, Function.update_self] at at_
      refine .inl ?_
      rw [reading]
      cases job with
      | sweep _ => exact at_
      | message _ _ =>
        simp only [afterFind] at at_
        split at at_ <;> exact at_
    | @apply w' job candidate decision sides now draws store res writing _ _ =>
      obtain rfl := Option.some.inj other
      simp only [Sys.setWorker, Function.update_self] at at_
      refine .inl ?_
      rw [writing]
      cases job with
      | sweep _ => cases at_
      | message _ _ => exact at_
    | ack | scan | beginRow | abandon =>
      obtain rfl := Option.some.inj other
      simp only [Sys.setWorker, Function.update_self] at at_
      cases at_
  · rw [st.others other] at at_
    exact .inl at_

/-- A step that leaves the tables alone, or marks publications. -/
lemma Sys.Tallied.of_tables (drawn : u.drawn = s.drawn) (raw : ∀ side, u.store.raw side = s.store.raw side)
    (results : u.store.reconciliationResults = s.store.reconciliationResults) : s.Tallied u where
  drawn side id mem := by rwa [drawn]
  tally side row mem _ := ⟨row, raw side ▸ mem, rfl, le_rfl⟩
  marked side row _ _ marked := by
    rw [Store.Marked, results]
    exact marked

/-- Publishing does not touch what markers depend on. -/
lemma Sys.Marking.published (h : s.Marking) {rows : List OutboxEvent} {now : Datetime} :
    (s.commit (Queue.Delivery.published s.store rows now)).Marking := by
  have raw : ∀ side, (Queue.Delivery.published s.store rows now).raw side = s.store.raw side :=
    fun side => by cases side <;> rfl
  have same : s.Tallied (s.commit (Queue.Delivery.published s.store rows now)) := .of_tables rfl raw rfl
  refine ⟨fun r mem inactive => ?_, fun e mem => ?_, fun side row mem pos => ?_, fun w => (h.workers w).mono same⟩
  · obtain ⟨side, rowId, ref, other, again⟩ := h.markers r mem inactive
    exact ⟨side, rowId, ref, other, again.mono same⟩
  · have payload : ∃ e₀ ∈ s.store.outboxEvents, e₀.payload = e.payload := by
      rcases mem_updateWhere.1 mem with ⟨e₀, mem₀, _, rfl⟩ | ⟨mem₀, _⟩
      · exact ⟨e₀, mem₀, rfl⟩
      · exact ⟨e, mem₀, rfl⟩
    obtain ⟨e₀, mem₀, eq⟩ := payload
    exact eq ▸ (h.genuine e₀ mem₀).mono same
  · obtain ⟨e, memE, names⟩ := h.announced side row (raw side ▸ mem) pos
    by_cases hit : rows.any (·.id == e.id) = true
    · exact ⟨_, mem_updateWhere.2 (.inl ⟨e, memE, hit, rfl⟩), names⟩
    · exact ⟨e, mem_updateWhere.2 (.inr ⟨memE, by simpa using hit⟩), names⟩

end Steps

end System

namespace Queue
open LedgerLoop.System

/-- A worker is at the message in its consumer's hand. -/
def AtHand (c : Consumer) (a : Activity) : Prop :=
  ∀ m, a.message = some m → ∃ id, c.inHand = some (id, m)

/-- The invariant of the markers under delivery. -/
structure Marking (d : Delivery) : Prop where
  sys : d.sys.Marking
  stream : ∀ entry ∈ d.stream.entries, d.sys.Genuine entry.message
  hands : ∀ w, AtHand (d.consumers w) (d.sys.workers w)
  log : ∀ id m, .processed id m ∈ d.log → d.sys.Handled m

/-- An event waits to be handled: it is not published, or its entry is not acked. -/
def Waiting (d : Delivery) (event : OutboxEvent) : Prop :=
  event.publishedAt = none ∨ ∃ (id : ℕ) (entry : Entry), d.stream.entries[id]? = some entry ∧
    entry.event = event.id ∧ entry.message = event.payload ∧ ¬d.stream.Acked id

section Steps
variable {config : MatchConfig} {settings : QueueSettings} {d d' : Delivery} {e : Event}

/-- Tallies do not go down under delivery. -/
lemma Step.tallied (sysInv : d.sys.Inv config) (st : Step config settings d e d') : d.sys.Tallied d'.sys := by
  cases st with
  | database _ step | load _ step | ack _ step | crash step => exact step.tallied sysInv
  | commit => exact .of_tables rfl (fun side => by cases side <;> rfl) rfl
  | claim | publish | mark | abort | ensureGroup | dropGroup | claimStale | skipClaim | read | finish =>
    exact .of_tables rfl (fun _ => rfl) rfl

/-- The message in hand is on the stream. -/
lemma Inv.exists_entry (inv : Inv d) {w id : ℕ} {m : IngestMessage} {rest : List (ℕ × IngestMessage)}
    (working : d.consumers w = .working ((id, m) :: rest)) : ∃ entry ∈ d.stream.entries, entry.message = m := by
  have sound := inv.consumers w
  rw [working] at sound
  obtain ⟨entry, found, same⟩ := sound _ List.mem_cons_self
  exact ⟨entry, List.mem_of_getElem? found, same⟩

/-- What the database does under delivery keeps the markers. -/
lemma Step.sysMarking (inv : Inv d) (sysInv : d.sys.Inv config) (h : Marking d)
    (keyed : ∀ side, Ingest.Keyed (d'.sys.store.raw side)) (st : Step config settings d e d') : d'.sys.Marking := by
  cases st with
  | database may step =>
    refine step.marking sysInv h.sys keyed fun w m messageId eq => ?_
    subst eq
    cases may
  | load working step =>
    refine step.marking sysInv h.sys keyed fun w' m' messageId' eq => ?_
    obtain ⟨entry, mem, same⟩ := inv.exists_entry working
    injection eq with _ eq _
    rw [← eq, ← same]
    exact h.stream entry mem
  | ack _ step | crash step => exact step.marking sysInv h.sys keyed fun _ _ _ eq => by cases eq
  | commit => exact h.sys.published
  | claim | publish | mark | abort | ensureGroup | dropGroup | claimStale | skipClaim | read | finish => exact h.sys

/-- The stream carries messages of the outbox. -/
lemma Step.genuine (inv : Inv d) (sysInv : d.sys.Inv config) (h : Marking d) (st : Step config settings d e d') :
    ∀ entry ∈ d'.stream.entries, d'.sys.Genuine entry.message := by
  have grows := st.tallied sysInv
  have old {entries : List Entry} (same : entries = d.stream.entries) :
      ∀ entry ∈ entries, d'.sys.Genuine entry.message := by
    intro entry mem
    exact (h.stream entry (same ▸ mem)).mono grows
  cases st with
  | @publish r rows sent row publishing next =>
    intro entry mem
    rcases List.mem_append.1 mem with mem | mem
    · exact h.stream entry mem
    · have sound := inv.relays r
      rw [publishing] at sound
      obtain ⟨event, memE, _, payload⟩ := sound.1 row (List.mem_of_getElem? next)
      rw [List.mem_singleton.1 mem, ← payload]
      exact h.sys.genuine event memE
  | ensureGroup => exact old EventStream.entries_xgroupCreate
  | claimStale _ _ _ claim => exact old (EventStream.xautoclaim_spec claim).1
  | read _ _ read => exact old (EventStream.xreadgroup_spec read).1
  | database | load | ack | crash | commit | claim | mark | abort | dropGroup | skipClaim | finish => exact old rfl

/-- Workers are at the messages in hand. -/
lemma Step.hands (h : Marking d) (st : Step config settings d e d') :
    ∀ w, AtHand (d'.consumers w) (d'.sys.workers w) := by
  have idle {w : ℕ} {c : Consumer} (at_ : d.sys.workers w = .idle) :
      ∀ w', AtHand (Function.update d.consumers w c w') (d.sys.workers w') :=
    (Function.forall_update_iff _ fun w' (c : Consumer) => AtHand c (d.sys.workers w')).2
      ⟨fun m eq => by simp [at_, Activity.message] at eq, fun w' _ => h.hands w'⟩
  cases st with
  | @database e sys may step =>
    intro w m at_
    rcases step.message at_ with before | ⟨messageId, rfl⟩
    · exact h.hands w m before
    · cases may
  | @load w id message rest sys working step =>
    intro w' m at_
    rcases step.message at_ with before | ⟨messageId, eq⟩
    · exact h.hands w' m before
    · injection eq with same eq _
      subst same eq
      exact ⟨id, by rw [show (d.goOn (some w) sys).consumers w = d.consumers w from rfl, working]; rfl⟩
  | @ack w id message rest sys working step =>
    intro w' m at_
    by_cases eq : w' = w
    · subst eq
      cases step
      simp only [Delivery.xack, Delivery.setConsumer, Sys.setWorker, Function.update_self] at at_
      cases at_
    · rcases step.message at_ with before | ⟨messageId, eq⟩
      · obtain ⟨id', inHand⟩ := h.hands w' m before
        exact ⟨id', by simpa only [Delivery.xack, Delivery.setConsumer, Function.update_of_ne eq] using inHand⟩
      · cases eq
  | @crash w sys step =>
    intro w' m at_
    by_cases eq : w' = w
    · subst eq
      cases step
      simp only [Delivery.setConsumer, Sys.setWorker, Function.update_self] at at_
      cases at_
    · rcases step.message at_ with before | ⟨messageId, eq⟩
      · obtain ⟨id', inHand⟩ := h.hands w' m before
        exact ⟨id', by simpa only [Delivery.setConsumer, Function.update_of_ne eq] using inHand⟩
      · cases eq
  | claimStale _ at_ _ _ => exact idle at_
  | skipClaim _ at_ => exact idle at_
  | read _ at_ _ => exact idle at_
  | @finish w working =>
    refine (Function.forall_update_iff _ fun w' (c : Consumer) => AtHand c (d.sys.workers w')).2
      ⟨fun m eq => ?_, fun w' _ => h.hands w'⟩
    obtain ⟨id, inHand⟩ := h.hands w m eq
    rw [working] at inHand
    cases inHand
  | claim | publish | mark | commit | abort | ensureGroup | dropGroup => exact h.hands

/-- Whatever is logged as processed is handled. -/
lemma Step.logged (sysInv : d.sys.Inv config) (h : Marking d) (marking : d'.sys.Marking)
    (hands : ∀ w, AtHand (d'.consumers w) (d'.sys.workers w)) (st : Step config settings d e d') :
    ∀ id m, .processed id m ∈ d'.log → d'.sys.Handled m := by
  have grows := st.tallied sysInv
  have old : ∀ id m, .processed id m ∈ d.log → d'.sys.Handled m := fun id m mem => (h.log id m mem).mono grows
  -- a worker that has just returned did so for the message in hand
  have now_ {worker : Option ℕ} {s : Sys} (marking : s.Marking) (grows : d.sys.Tallied s)
      (hands : ∀ w, AtHand (d.consumers w) (s.workers w)) :
      ∀ id m, .processed id m ∈ (d.goOn worker s).log → s.Handled m := by
    intro id m mem
    rcases List.mem_append.1 mem with mem | mem
    · exact (h.log id m mem).mono grows
    · cases worker with
      | none => cases mem
      | some w =>
        cases returned : s.workers w with
        | returned message found =>
          have handled := marking.workers w
          rw [returned] at handled
          obtain ⟨id', inHand⟩ := hands w message (by rw [returned]; rfl)
          cases working : d.consumers w with
          | working entries =>
            rw [working] at inHand
            cases entries with
            | nil => cases inHand
            | cons entry rest =>
              obtain rfl : entry = (id', message) := Option.some.inj inHand
              simp only [Option.elim, Delivery.processedNow, returned, working, List.mem_singleton,
                LogEntry.processed.injEq] at mem
              rw [mem.2]
              exact handled
          | idle | claimed =>
            rw [working] at inHand
            cases inHand
        | idle | reading | writing | sweeping => simp [Delivery.processedNow, returned] at mem
  cases st with
  | database _ step => exact now_ marking grows hands
  | load _ step => exact now_ marking grows hands
  | ack _ step =>
    intro id m mem
    rcases List.mem_append.1 mem with mem | mem
    · exact old id m mem
    · simp at mem
  | crash | claim | publish | mark | commit | abort | ensureGroup | dropGroup | claimStale | skipClaim | read
  | finish => exact old

/-- Every step keeps the invariant. -/
lemma Step.marking (inv : Inv d) (sysInv : d.sys.Inv config) (h : Marking d)
    (keyed : ∀ side, Ingest.Keyed (d'.sys.store.raw side)) (st : Step config settings d e d') : Marking d' where
  sys := st.sysMarking inv sysInv h keyed
  stream := st.genuine inv sysInv h
  hands := st.hands h
  log := st.logged sysInv h (st.sysMarking inv sysInv h keyed) (st.hands h)

end Steps

section Runs
variable {config : MatchConfig} {settings : QueueSettings} {tr : List (Delivery × Event)} {d : Delivery}

/-- Rows are known by their keys under delivery. -/
lemma keyed_reached (run : Run (Step config settings) Delivery.initial tr d) (side : IngestSource) :
    Ingest.Keyed (d.sys.store.raw side) := by
  intro a memA b memB tenant same
  rw [← Store.raw_unpublished] at memA memB
  exact System.row_eq_of_key (systemRun run) memA memB tenant same

/-- The invariant of the interleaved system under delivery. -/
lemma sysInv_reached (run : Run (Step config settings) Delivery.initial tr d) : d.sys.Inv config :=
  run.invariant (I := fun d : Delivery => d.sys.Inv config) (Sys.Inv.initial config)
    fun inv st => st.sysInv inv

/-- The markers are right in every state delivery reaches. -/
lemma Marking.reached (run : Run (Step config settings) Delivery.initial tr d) : Marking d := by
  induction run with
  | nil =>
    refine ⟨Sys.Marking.initial, ?_, fun w m at_ => ?_, ?_⟩
    · rintro entry ⟨⟩
    · cases at_
    · rintro id m ⟨⟩
  | snoc run st ih => exact st.marking (Inv.reached run) (sysInv_reached run) ih (keyed_reached (run.snoc st))

/-- An event that is through has handled its row. -/
lemma handled_of_through (run : Run (Step config settings) Delivery.initial tr d) {event : OutboxEvent}
    (mem : event ∈ d.sys.store.outboxEvents) (through : ¬Waiting d event) : d.sys.Handled event.payload := by
  have inv := Inv.reached run
  have published : event.publishedAt ≠ none := fun unpublished => through (.inl unpublished)
  obtain ⟨id, entry, found, forEvent, message⟩ := inv.published event mem published
  have acked : d.stream.Acked id := by
    by_contra pending
    exact through (.inr ⟨id, entry, found, forEvent, message, pending⟩)
  obtain ⟨entry', before, after, found', log, processed⟩ := inv.acked id acked
  obtain rfl := Option.some.inj (found.symm.trans found')
  have logged : .processed id entry.message ∈ d.log := log ▸ List.mem_append_left _ processed
  exact message ▸ (Marking.reached run).log id entry.message logged

/-- A marker is of a row that was submitted again, and of no other row. -/
lemma exists_row_of_marker (run : Run (Step config settings) Delivery.initial tr d) {r : ReconciliationResult}
    (mem : r ∈ d.sys.store.reconciliationResults) (marker : r.active = false) :
    ∃ side, ∃ row ∈ d.sys.store.raw side, r.rawId side = some row.id ∧ r.rawId side.other = none ∧
      row.tenantId = r.tenantId ∧ 0 < row.duplicateCount := by
  obtain ⟨side, rowId, ref, other, again⟩ := (Marking.reached run).sys.markers r mem marker
  obtain ⟨row, memRow, rfl, tenant⟩ := (sysInv_reached run).consistent.references r mem side rowId ref
  exact ⟨side, row, memRow, ref, other, tenant, again.repeated row memRow rfl⟩

/-- In every state delivery reaches, each duplicate marker is of one row, which was submitted again, and each
    row that was submitted again has exactly one marker, unless an event that announces the resubmission is
    still unpublished or not acked. -/
theorem resubmissions_marked (run : Run (Step config settings) Delivery.initial tr d) :
    (∀ r ∈ d.sys.store.reconciliationResults, r.status = .duplicate → ∃ side, ∃ row ∈ d.sys.store.raw side,
      r.rawId side = some row.id ∧ r.rawId side.other = none ∧ row.tenantId = r.tenantId ∧
        0 < row.duplicateCount) ∧
    ∀ side, ∀ row ∈ d.sys.store.raw side, 0 < row.duplicateCount →
      ∃ event ∈ d.sys.store.outboxEvents, Ingest.repeats side row.id event.payload = true ∧
        (Waiting d event ∨ referencesTo d.sys.store false side row.id = 1) := by
  refine ⟨fun r mem marker => exists_row_of_marker run mem ?_, fun side row mem again => ?_⟩
  · simp [ReconciliationResult.active, marker]
  · obtain ⟨event, memE, repeats⟩ := (Marking.reached run).sys.announced side row mem again
    refine ⟨event, memE, repeats, ?_⟩
    by_cases waiting : Waiting d event
    · exact .inl waiting
    · obtain ⟨rfl, rowId, dup⟩ := Ingest.repeats_iff.1 repeats
      have marked := (handled_of_through run memE waiting).marked dup row mem rowId.symm
      rw [rowId] at marked
      exact .inr ((referencesTo_eq_one_iff (sysInv_reached run).consistent).2 marked)

end Runs

/-! A payment posted twice: the matcher defers its first receipt and marks the second. -/

namespace Sample
open System.Sample

def retryEvent : OutboxEvent :=
  Ingest.outboxRow .gateway (Ingest.Sample.drawsAfter 1)
    (Ingest.retry { gatewayRow 0 "key-1" with duplicateCount := 1 } "txn-1") 0

def retryEvents : List Event :=
  [.database (.openAccount Ingest.Sample.account),
    .database (.ingest (.gateway 1 Ingest.Sample.payload "key-1" "null") (Ingest.Sample.drawsAfter 0)),
    .database (.ingest (.gateway 1 Ingest.Sample.payload "key-1" "null") (Ingest.Sample.drawsAfter 1)),
    .claim 0 [gatewayEvent, retryEvent], .publish 0, .publish 0, .mark 0, .commit 0 (.newYear 4),
    .ensureGroup, .skipClaim 0, .read 0,
    .load 0, .database (.find 0 [] (.newYear 5)), .ack 0,
    .load 0, .database (.apply 0 (.newYear 5) (drawsAt 1)), .ack 0]

end Sample

theorem resubmissions_marked_sample :
    ∃ tr d, replay (step .shipped Sample.settings) Delivery.initial Sample.retryEvents = some (tr, d) ∧
      (d.sys.store.reconciliationResults.map fun r => (r.status, r.gatewayTxnId)) = [(.duplicate, some 1)] ∧
      ∀ r ∈ d.sys.store.reconciliationResults, r.status = .duplicate → ∃ side, ∃ row ∈ d.sys.store.raw side,
        r.rawId side = some row.id ∧ r.rawId side.other = none ∧ row.tenantId = r.tenantId ∧
          0 < row.duplicateCount := by
  have runs : ((replay (step .shipped Sample.settings) Delivery.initial Sample.retryEvents).map fun p =>
      p.2.sys.store.reconciliationResults.map fun r => (r.status, r.gatewayTxnId)) =
        some [(.duplicate, some 1)] := by decide +kernel
  obtain ⟨⟨tr, d⟩, eq, marker⟩ := Option.map_eq_some_iff.1 runs
  exact ⟨tr, d, eq, marker, (resubmissions_marked (.of_replay Step.of_step eq)).1⟩

end Queue
end LedgerLoop
