import LedgerLoop.Services.Tallies
import LedgerLoop.Worker.Evidence

/-!
# Duplicate markers

What ties the markers to the tallies: a marker is of a row that was submitted again, an outbox event with
`is_duplicate` names such a row, and every such row has one. What a worker holds of a message that is
`Genuine`, as those of the outbox are, ends with the row marked (`Sys.Handled`). Each part survives the
deletion of an account, and so speaks of rows only as long as they exist.
-/

set_option autoImplicit false

namespace LedgerLoop
open LedgerLoop.Library

/-- A raw row has its duplicate marker. -/
def Store.Marked (s : Store) (side : IngestSource) (rowId : ℕ) : Prop :=
  ∃ r ∈ s.reconciliationResults, r.active = false ∧ r.rawId side = some rowId

namespace System
open Persist

/-- The id was handed out, and the row, while it exists, was submitted again. -/
structure Sys.Again (s : Sys) (side : IngestSource) (rowId : ℕ) : Prop where
  drawn : rowId ∈ s.drawn side
  repeated : ∀ row ∈ s.store.raw side, row.id = rowId → 0 < row.duplicateCount

/-- A message of a row that was handed out, and submitted again if the message says so. -/
structure Sys.Genuine (s : Sys) (m : IngestMessage) : Prop where
  drawn : m.rowId ∈ s.drawn m.source
  again : m.isDuplicate = true → s.Again m.source m.rowId

/-- The row of a duplicate's message is marked, while it exists. -/
structure Sys.Handled (s : Sys) (m : IngestMessage) : Prop where
  drawn : m.rowId ∈ s.drawn m.source
  marked : m.isDuplicate = true → ∀ row ∈ s.store.raw m.source, row.id = m.rowId →
    s.store.Marked m.source m.rowId

/-- What a worker holds of a message. -/
def Job.Marking (s : Sys) (candidate : TxnFacts) (decision : Decision) : Job → Prop
  | .message m _ => s.Genuine m ∧ (m.isDuplicate = true →
      decision.status = .duplicate ∧ candidate.side = m.source ∧ candidate.rowId = m.rowId)
  | .sweep _ => True

/-- What a worker holds marks the rows of its message, and no others. -/
def Activity.Marking (s : Sys) : Activity → Prop
  | .idle | .sweeping _ | .reading (.sweep _) _ => True
  | .reading (.message m _) _ => s.Genuine m ∧ m.isDuplicate = false
  | .writing job candidate decision _ =>
    (decision.status = .duplicate → (∃ n, decision = Core.decideDuplicate candidate n) ∧
      s.Again candidate.side candidate.rowId) ∧ job.Marking s candidate decision
  | .returned m _ => s.Handled m

/-- The markers and the outbox say of the rows what their tallies say. -/
structure Sys.Marking (s : Sys) : Prop where
  markers : ∀ r ∈ s.store.reconciliationResults, r.active = false → ∃ side rowId,
    r.rawId side = some rowId ∧ r.rawId side.other = none ∧ s.Again side rowId
  genuine : ∀ e ∈ s.store.outboxEvents, s.Genuine e.payload
  announced : ∀ side, ∀ row ∈ s.store.raw side, 0 < row.duplicateCount →
    ∃ e ∈ s.store.outboxEvents, Ingest.repeats side row.id e.payload = true
  workers : ∀ w, (s.workers w).Marking s

/-- How a step lets the rows and the markers of the rows grow. -/
structure Sys.Tallied (s u : Sys) : Prop where
  drawn : ∀ side, ∀ id ∈ s.drawn side, id ∈ u.drawn side
  tally : ∀ side, ∀ row ∈ u.store.raw side, row.id ∈ s.drawn side →
    ∃ r0 ∈ s.store.raw side, r0.id = row.id ∧ r0.duplicateCount ≤ row.duplicateCount
  marked : ∀ side, ∀ row ∈ u.store.raw side, row.id ∈ s.drawn side → s.store.Marked side row.id →
    u.store.Marked side row.id

section Monotone
variable {s u : Sys} {side : IngestSource} {rowId : ℕ} {m : IngestMessage} (grows : s.Tallied u)
include grows

lemma Sys.Again.mono (again : s.Again side rowId) : u.Again side rowId where
  drawn := grows.drawn side rowId again.drawn
  repeated := by
    rintro row mem rfl
    obtain ⟨r0, mem0, same, le⟩ := grows.tally side row mem again.drawn
    exact lt_of_lt_of_le (again.repeated r0 mem0 same) le

lemma Sys.Genuine.mono (genuine : s.Genuine m) : u.Genuine m :=
  ⟨grows.drawn _ _ genuine.drawn, fun dup => (genuine.again dup).mono grows⟩

lemma Sys.Handled.mono (handled : s.Handled m) : u.Handled m where
  drawn := grows.drawn _ _ handled.drawn
  marked dup row mem same := by
    have drawn : row.id ∈ s.drawn m.source := same ▸ handled.drawn
    obtain ⟨r0, mem0, same0, _⟩ := grows.tally _ row mem drawn
    have marked := handled.marked dup r0 mem0 (same0.trans same)
    rw [← same] at marked ⊢
    exact grows.marked _ row mem drawn marked

lemma Activity.Marking.mono {a : Activity} (h : a.Marking s) : a.Marking u := by
  match a with
  | .idle | .sweeping _ | .reading (.sweep _) _ => trivial
  | .reading (.message _ _) _ => exact ⟨h.1.mono grows, h.2⟩
  | .writing (.message _ _) _ _ _ =>
    exact ⟨fun dup => ⟨(h.1 dup).1, (h.1 dup).2.mono grows⟩, h.2.1.mono grows, h.2.2⟩
  | .writing (.sweep _) _ _ _ => exact ⟨fun dup => ⟨(h.1 dup).1, (h.1 dup).2.mono grows⟩, trivial⟩
  | .returned _ _ => exact Sys.Handled.mono grows h

end Monotone

section Steps
variable {config : MatchConfig} {s u : Sys} {e : Event}

/-- Tallies do not go down, and a row keeps its marker. -/
lemma Step.tallied (inv : s.Inv config) (st : Step config s e u) : s.Tallied u := by
  have ext := st.extends
  have ids := (st.inv inv).consistent.rawIds
  by_cases deleted : ∃ accountId, e = .deleteAccount accountId
  · obtain ⟨accountId, rfl⟩ := deleted
    cases st
    refine ⟨ext.drawn, fun side row mem _ => ?_, fun side row mem _ marked => ?_⟩
    · exact ⟨row, (mem_deleteWhere.1 (Sweeper.raw_deleteAccount s.store accountId side ▸ mem)).1, rfl, le_rfl⟩
    · -- the marker has the row's tenant
      obtain ⟨old, other⟩ := mem_deleteWhere.1 (Sweeper.raw_deleteAccount s.store accountId side ▸ mem)
      obtain ⟨r, memR, inactive, ref⟩ := marked
      obtain ⟨row', mem', same, tenant⟩ := inv.consistent.references r memR side row.id ref
      obtain rfl := eq_of_key (inv.consistent.rawIds side) mem' old same
      exact ⟨r, mem_deleteWhere.2 ⟨memR, tenant ▸ other⟩, inactive, ref⟩
  · have appends := st.appends fun accountId eq => deleted ⟨accountId, eq⟩
    refine ⟨ext.drawn, fun side row mem drawn => ?_, fun side row _ _ marked => ?_⟩
    · obtain ⟨r0, mem0, same, _⟩ := ext.kept side row mem drawn
      obtain ⟨later, memLater, follows⟩ := appends.rows side r0 mem0
      obtain rfl := eq_of_key (ids side) memLater mem (follows.id.trans (id_of_facts same))
      exact ⟨r0, mem0, id_of_facts same, follows.duplicateCount⟩
    · obtain ⟨r, memR, same⟩ := marked
      exact ⟨r, appends.results r memR, same⟩

/-- What a worker holds after `load_facts`. -/
lemma marking_afterLoad {m : IngestMessage} {messageId : Option String} (genuine : s.Genuine m) :
    (afterLoad m messageId (loadFacts s.store m.source m.rowId)).Marking s := by
  cases loaded : loadFacts s.store m.source m.rowId with
  | none =>
    refine ⟨genuine.drawn, fun _ row mem same => ?_⟩
    have found := loadFacts_isSome mem
    simp [same, loaded] at found
  | some candidate =>
    obtain ⟨row, mem, same, rfl⟩ := loadFacts_eq_some loaded
    simp only [afterLoad]
    split_ifs with dup
    · have again := genuine.again dup
      rw [← same] at again
      exact ⟨fun _ => ⟨⟨_, rfl⟩, again⟩, genuine, fun _ => ⟨rfl, rfl, same⟩⟩
    · exact ⟨genuine, by simpa using dup⟩

/-- What a worker holds after its counterparty query is no duplicate. -/
lemma marking_afterFind {job : Job} {candidate : TxnFacts} {counterparties : List TxnFacts} {now : Datetime}
    (reading : (Activity.reading job candidate).Marking s) :
    (afterFind job candidate counterparties config now).Marking s := by
  have notDuplicate {d : Decision} (eq : Core.decide candidate counterparties config = some d) :
      d.status ≠ .duplicate := by
    obtain ⟨best, _, status, layer, verdict, rfl, _⟩ := Core.decide_spec eq
    exact (Core.classifyPair_verdict verdict).ne_duplicate
  match job with
  | .message m _ =>
    obtain ⟨genuine, first⟩ := reading
    have never {P : Prop} (dup : m.isDuplicate = true) : P := by
      rw [first] at dup
      cases dup
    simp only [afterFind]
    split
    · exact ⟨genuine.drawn, never⟩
    · exact ⟨fun dup => absurd dup (notDuplicate ‹_›), genuine, never⟩
  | .sweep _ =>
    refine ⟨fun dup => ?_, trivial⟩
    simp only [Sweeper.decideRow] at dup
    split at dup
    · exact absurd dup (notDuplicate ‹_›)
    · simp only [Core.decideUnmatched] at dup
      split_ifs at dup

/-- A committed decision of a duplicate leaves the row marked. -/
lemma marked_of_persist {candidate : TxnFacts} {sides : List TxnFacts} {messageId : Option String}
    {now : Datetime} {draws : Draws} {store : Store} {res : PersistResult} {n : ℕ}
    (ok : MatcherWorker.persist s.store candidate (Core.decideDuplicate candidate n) sides messageId now draws =
      .ok (store, res)) : store.Marked candidate.side candidate.rowId := by
  have own {latency : Option ℤ} : (resultRow (Core.decideDuplicate candidate n) candidate.tenantId latency
      messageId draws).rawId candidate.side = some candidate.rowId := by
    cases side : candidate.side <;>
      simp [resultRow, ReconciliationResult.rawId, Core.decideDuplicate, side]
  have single {latency : Option ℤ} {side : IngestSource} {id : ℕ}
      (ref : (resultRow (Core.decideDuplicate candidate n) candidate.tenantId latency messageId draws).rawId side =
        some id) : side = candidate.side ∧ id = candidate.rowId := by
    cases side <;> cases h : candidate.side <;>
      simp_all [resultRow, ReconciliationResult.rawId, Core.decideDuplicate]
  obtain ⟨r, rfl, ⟨held, rfl⟩ | ⟨_, _, rfl⟩⟩ := persist_ok ok
  · obtain ⟨r', mem, _, active, side, id, ref, ref'⟩ := conflicts_iff.1 held
    obtain ⟨rfl, rfl⟩ := single ref
    exact ⟨r', mem, active, ref'⟩
  · have written : resultRow (Core.decideDuplicate candidate n) candidate.tenantId
        (some (computeLatencyMs (Core.decideDuplicate candidate n) sides now)) messageId draws ∈
          (settle s.store (Core.decideDuplicate candidate n) (resultRow (Core.decideDuplicate candidate n)
            candidate.tenantId (some (computeLatencyMs (Core.decideDuplicate candidate n) sides now)) messageId
            draws) draws).1.reconciliationResults := by
      rw [settle_results]
      exact List.mem_append_right _ (List.mem_singleton_self _)
    exact ⟨_, written, rfl, own⟩

/-- A result that a transaction writes as a duplicate is the marker of its candidate. -/
lemma markers_of_persist {job : Job} {candidate : TxnFacts} {decision : Decision} {sides : List TxnFacts}
    {now : Datetime} {draws : Draws} {store : Store} {res : PersistResult}
    (writing : (Activity.writing job candidate decision sides).Marking s)
    (ok : MatcherWorker.persist s.store candidate decision sides job.messageId now draws = .ok (store, res)) :
    ∀ r ∈ store.reconciliationResults, r ∈ s.store.reconciliationResults ∨ (r.active = false →
      r.rawId candidate.side = some candidate.rowId ∧ r.rawId candidate.side.other = none ∧
        s.Again candidate.side candidate.rowId) := by
  intro r mem
  by_cases old : r ∈ s.store.reconciliationResults
  · exact .inl old
  refine .inr fun inactive => ?_
  obtain ⟨_, _, status, _, refs⟩ := written_of_persist ok mem old
  have dup : decision.status = .duplicate := by
    rw [← status]
    simpa [ReconciliationResult.active] using inactive
  obtain ⟨⟨n, rfl⟩, again⟩ := writing.1 dup
  refine ⟨?_, ?_, again⟩ <;> rw [refs] <;> cases side : candidate.side <;>
    simp [Core.decideDuplicate, Decision.rowId, IngestSource.other, side]

/-- Every step keeps the markers, if keys stay unique and messages are genuine. -/
lemma Step.marking (inv : s.Inv config) (h : s.Marking) (keyed : ∀ side, Ingest.Keyed (u.store.raw side))
    (genuine : ∀ w m messageId, e = .load w m messageId → s.Genuine m) (st : Step config s e u) : u.Marking := by
  have grows := st.tallied inv
  have workers : ∀ w, (s.workers w).Marking u := fun w => (h.workers w).mono grows
  have update {w : ℕ} {a : Activity} (next : a.Marking u) :
      ∀ w', (Function.update s.workers w a w').Marking u :=
    (Function.forall_update_iff _ fun _ (a : Activity) => a.Marking u).2 ⟨next, fun w' _ => workers w'⟩
  -- the tables stay
  have same (raw : ∀ side, u.store.raw side = s.store.raw side)
      (results : u.store.reconciliationResults = s.store.reconciliationResults)
      (outbox : u.store.outboxEvents = s.store.outboxEvents) (workers : ∀ w, (u.workers w).Marking u) :
      u.Marking := by
    refine ⟨fun r mem inactive => ?_, fun e mem => ?_, fun side row mem pos => ?_, workers⟩
    · obtain ⟨side, rowId, ref, other, again⟩ := h.markers r (results ▸ mem) inactive
      exact ⟨side, rowId, ref, other, again.mono grows⟩
    · exact (h.genuine e (outbox ▸ mem)).mono grows
    · rw [outbox]
      exact h.announced side row (raw side ▸ mem) pos
  cases st with
  | openAccount => exact same (fun side => by cases side <;> rfl) rfl rfl workers
  | @ingest call draws store outcomes fresh ok =>
    obtain ⟨new, tallies⟩ := Ingest.run_tallies (show Ingest.Keyed (store.raw call.side) from keyed call.side) ok
    have inv' := (Step.ingest fresh ok).inv inv
    refine ⟨fun r mem inactive => ?_, fun e mem => ?_, fun side row mem pos => ?_, workers⟩
    · have old := (Ingest.run_effect ok).results ▸ mem
      obtain ⟨side, rowId, ref, other, again⟩ := h.markers r old inactive
      exact ⟨side, rowId, ref, other, again.mono grows⟩
    · change e ∈ store.outboxEvents at mem
      rw [tallies.outbox] at mem
      rcases List.mem_append.1 mem with old | added
      · exact (h.genuine e old).mono grows
      · obtain ⟨row, memRow, idEq, again⟩ := tallies.names e added
        have drawn := inv'.drawn _ row memRow
        rw [idEq] at drawn
        refine ⟨drawn, fun dup => ⟨drawn, fun row' mem' same' => ?_⟩⟩
        obtain rfl := eq_of_key (inv'.consistent.rawIds _) mem' memRow (same'.trans idEq.symm)
        exact again dup
    · change ∃ e ∈ store.outboxEvents, _
      rw [tallies.outbox]
      rcases tallies.repeated side row mem pos with ⟨r0, mem0, idEq, pos0⟩ | ⟨e, memE, names⟩
      · obtain ⟨e, memE, names⟩ := h.announced side r0 mem0 pos0
        exact ⟨e, List.mem_append_left _ memE, idEq ▸ names⟩
      · exact ⟨e, List.mem_append_right _ memE, names⟩
  | @load w m messageId idle =>
    exact same (fun _ => rfl) rfl rfl (update ((marking_afterLoad (genuine w m messageId rfl)).mono grows))
  | @find w job candidate found counterparties now reading query order =>
    have held := h.workers w
    rw [reading] at held
    exact same (fun _ => rfl) rfl rfl (update ((marking_afterFind held).mono grows))
  | @apply w job candidate decision sides now draws store res writing fresh ok =>
    have held := h.workers w
    rw [writing] at held
    refine ⟨fun r mem inactive => ?_, fun e mem => ?_, fun side row mem pos => ?_, update ?_⟩
    · rcases markers_of_persist held ok r mem with old | new
      · obtain ⟨side, rowId, ref, other, again⟩ := h.markers r old inactive
        exact ⟨side, rowId, ref, other, again.mono grows⟩
      · obtain ⟨ref, other, again⟩ := new inactive
        exact ⟨_, _, ref, other, again.mono grows⟩
    · have outbox : store.outboxEvents = s.store.outboxEvents := by
        obtain ⟨r, _, ⟨_, rfl⟩ | ⟨_, _, rfl⟩⟩ := persist_ok ok
        · rfl
        · exact settle_outboxEvents ..
      exact (h.genuine e (outbox ▸ mem)).mono grows
    · change ∃ e ∈ store.outboxEvents, _
      change row ∈ store.raw side at mem
      obtain ⟨r, _, ⟨_, rfl⟩ | ⟨_, _, rfl⟩⟩ := persist_ok ok
      · exact h.announced side row mem pos
      · obtain ⟨r0, mem0, eq, _⟩ := Consistent.of_mem_settle mem
        rw [settle_outboxEvents]
        rw [eq] at pos ⊢
        exact h.announced side r0 mem0 pos
    · match job with
      | .sweep _ => trivial
      | .message m _ =>
        obtain ⟨writes, genuine, repeats⟩ := held
        refine ⟨grows.drawn _ _ genuine.drawn, fun dup row mem same => ?_⟩
        obtain ⟨status, sideEq, idEq⟩ := repeats dup
        obtain ⟨⟨n, rfl⟩, _⟩ := writes status
        rw [← sideEq, ← idEq]
        exact marked_of_persist ok
  | ack => exact same (fun _ => rfl) rfl rfl (update trivial)
  | scan => exact same (fun _ => rfl) rfl rfl (update trivial)
  | beginRow => exact same (fun _ => rfl) rfl rfl (update trivial)
  | abandon => exact same (fun _ => rfl) rfl rfl (update trivial)
  | @deleteAccount accountId =>
    refine ⟨fun r mem inactive => ?_, fun e mem => (h.genuine e mem).mono grows, fun side row mem pos => ?_, workers⟩
    · obtain ⟨side, rowId, ref, other, again⟩ := h.markers r (mem_deleteWhere.1 mem).1 inactive
      exact ⟨side, rowId, ref, other, again.mono grows⟩
    · exact h.announced side row (mem_deleteWhere.1 (Sweeper.raw_deleteAccount s.store accountId side ▸ mem)).1 pos
  | closeException ok =>
    obtain ⟨rfl, _⟩ := Queries.closeException_ok ok
    exact same (fun side => by cases side <;> rfl) rfl rfl workers

/-- Nothing stored, nothing marked. -/
lemma Sys.Marking.initial : Sys.initial.Marking where
  markers r mem := by cases mem
  genuine e mem := by cases mem
  announced side row mem := by cases side <;> cases mem
  workers _ := trivial

end Steps

end System
end LedgerLoop
