import LedgerLoop.Isolation.Alone
import LedgerLoop.Worker.Invariant

/-!
# Matching in isolation

What `process` and the sweeper's row transaction do with a row of the tenant they also do in the store
the tenant has by itself, up to the renaming; with a row of another tenant they leave the tenant's slice
as it is.
-/

set_option autoImplicit false

namespace LedgerLoop
open LedgerLoop.Library

namespace Isolation
open Persist MatcherWorker

/-- The draws of a transaction and of the same transaction alone. -/
structure Agree (ρ : Renaming) (draws draws' : Draws) : Prop where
  resultId : draws.resultId = ρ.result draws'.resultId
  now : draws.now = draws'.now
  markedAt : draws.markedAt = draws'.markedAt

/-- Two transactions leave the tenant by itself and open as many exceptions. -/
structure Alike (ρ : Renaming) (A : ℕ) (s s' t t' : Store) : Prop where
  alone : Alone ρ A t t'
  opened : t.exceptions.length - s.exceptions.length = t'.exceptions.length - s'.exceptions.length

/-- Whether a decision gets an exception for its result. -/
def opens (s : Store) (d : Decision) (r : ReconciliationResult) : Bool :=
  d.opensException && !s.exceptions.any (·.reconciliationResultId == r.id)

section Settle
variable {ρ : Renaming} {A : ℕ} {s s' : Store} {d : Decision} {r : ReconciliationResult}
  {draws draws' : Draws} {side : IngestSource} {row : RawRow}

/-- The exceptions after a decision, and what it reports of them. -/
lemma settle_opens :
    (settle s d r draws).1.exceptions =
        s.exceptions ++ (if opens s d r then [exceptionRow r.tenantId r.id draws] else []) ∧
      (settle s d r draws).2 =
        { written := true, resultId := some r.id, exceptionOpened := opens s d r } := by
  obtain ⟨u, eq⟩ : ∃ u, u = if d.status = .duplicate then
        { s with reconciliationResults := s.reconciliationResults ++ [r] }
      else markReconciled { s with reconciliationResults := s.reconciliationResults ++ [r] } d
        draws := ⟨_, rfl⟩
  have before : u.exceptions = s.exceptions := by
    rw [eq]
    split_ifs
    · rfl
    · simp [markReconciled]
  cases exc : d.opensException with
  | false => simp [settle, ← eq, opens, exc, before]
  | true =>
    cases held : s.exceptions.any (·.reconciliationResultId == r.id) with
    | false => simp only [settle, ← eq, openException, before, opens, exc, held, if_true,
        Bool.false_eq_true, if_false, Bool.true_and, Bool.not_false, and_self]
    | true => simp only [settle, ← eq, openException, before, opens, exc, held, if_true,
        Bool.false_eq_true, if_false, Bool.true_and, Bool.not_true, List.append_nil, and_self]

/-- Rows keep their id and their tenant through a decision. -/
lemma of_mem_settle (mem : row ∈ (settle s d r draws).1.raw side) :
    ∃ r0 ∈ s.raw side, r0.id = row.id ∧ r0.tenantId = row.tenantId := by
  rw [settle_raw] at mem
  split_ifs at mem
  · exact ⟨row, mem, rfl, rfl⟩
  · obtain ⟨r0, mem0, eq⟩ := of_mem_markRows mem
    exact ⟨r0, mem0, by rw [eq], by rw [eq]⟩

/-- Marking a row of the tenant. -/
lemma markRows_own {rows rows' : List RawRow} {at_ : Datetime} {rowId : Option ℕ}
    (slice : Slice (ownRow A) (RawRow.rename ρ side) rows rows') :
    Slice (ownRow A) (RawRow.rename ρ side) (markRows (rowId.map (ρ.row side)) at_ rows)
      (markRows rowId at_ rows') := by
  cases rowId with
  | none => exact slice
  | some id =>
    refine slice.update (fun _ => rfl) (fun r' _ => ?_) fun _ => rfl
    have ids : (ρ.row side r'.id == ρ.row side id) = (r'.id == id) := by
      rw [Bool.eq_iff_iff, beq_iff_eq, beq_iff_eq]
      exact (ρ.row_mono side).injective.eq_iff
    simp only [RawRow.rename_id, RawRow.rename_pending, ids]

/-- Marking a row of another tenant. -/
lemma markRows_foreign {rows rows' : List RawRow} {at_ : Datetime} {rowId : Option ℕ}
    (slice : Slice (ownRow A) (RawRow.rename ρ side) rows rows')
    (foreign : ∀ id, rowId = some id → id ∉ Set.range (ρ.row side)) :
    Slice (ownRow A) (RawRow.rename ρ side) (markRows rowId at_ rows) rows' := by
  cases rowId with
  | none => exact slice
  | some id =>
    refine slice.update_foreign (fun _ => rfl) fun r mem sel => ?_
    by_contra own
    obtain ⟨r', _, rfl⟩ := slice.exists_of_mem mem (by simpa using own)
    obtain ⟨idEq, _⟩ := Bool.and_eq_true_iff.1 sel
    exact foreign id rfl ⟨r'.id, beq_iff_eq.1 idEq⟩

/-- The tenant's results are asked for an exception on both sides alike. -/
lemma Alone.opens (alone : Alone ρ A s s') : opens s (d.rename ρ) (r.rename ρ) = opens s' d r := by
  have asked : (s.exceptions.any fun e => e.reconciliationResultId == ρ.result r.id) =
      s'.exceptions.any fun e => e.reconciliationResultId == r.id := by
    refine alone.exceptions.any (fun e mem sel => ?_) fun e' _ => ?_
    · have own := alone.exceptionResults e mem ⟨r.id, (beq_iff_eq.1 sel).symm⟩
      simpa [ownException] using own
    · rw [Bool.eq_iff_iff, beq_iff_eq, beq_iff_eq]
      exact ρ.result_mono.injective.eq_iff
  simp only [Isolation.opens, Decision.rename_opensException, ReconciliationResult.rename_id, asked]

/-- A decision about the tenant's rows. -/
lemma Alone.settle (alone : Alone ρ A s s') (agree : Agree ρ draws draws') (own : r.tenantId = A)
    (opened : Isolation.opens s' d r = true → draws.exceptionId = ρ.exception draws'.exceptionId) :
    Alone ρ A (settle s (d.rename ρ) (r.rename ρ) draws).1 (settle s' d r draws').1 where
  accounts := by simp [alone.accounts]
  rows side := by
    rw [settle_raw, settle_raw, Decision.rename_status, Decision.rename_rowId, agree.markedAt]
    split_ifs
    · exact alone.rows side
    · exact markRows_own (alone.rows side)
  results := by
    rw [settle_results, settle_results]
    exact alone.results.concat (by simp [ownResult, own])
  exceptions := by
    rw [settle_opens.1, settle_opens.1, alone.opens]
    split_ifs with opens
    · have row : exceptionRow (r.rename ρ).tenantId (r.rename ρ).id draws =
          (exceptionRow r.tenantId r.id draws').rename ρ := by
        simp [exceptionRow, Exception_.rename, opened opens, agree.now]
      rw [row]
      exact alone.exceptions.concat (by simp [ownException, Exception_.rename, exceptionRow, own])
    · simpa using alone.exceptions
  rowIds side row mem range := by
    obtain ⟨r0, mem0, idEq, tenant⟩ := of_mem_settle mem
    exact tenant ▸ alone.rowIds side r0 mem0 (idEq ▸ range)
  resultIds r' mem range := by
    rw [settle_results, List.mem_append, List.mem_singleton] at mem
    rcases mem with old | rfl
    · exact alone.resultIds r' old range
    · exact own
  exceptionResults e mem range := by
    rw [settle_opens.1, List.mem_append] at mem
    rcases mem with old | new
    · exact alone.exceptionResults e old range
    · split_ifs at new
      · obtain rfl := List.mem_singleton.1 new
        exact own
      · cases new

/-- A decision about rows of another tenant. -/
lemma Alone.settle_foreign (alone : Alone ρ A s s') (foreign : r.tenantId ≠ A)
    (fresh : r.id ∉ Set.range ρ.result)
    (rows : ∀ side id, d.rowId side = some id → id ∉ Set.range (ρ.row side)) :
    Alone ρ A (Persist.settle s d r draws).1 s' where
  accounts := by simp [alone.accounts]
  rows side := by
    rw [settle_raw]
    split_ifs
    · exact alone.rows side
    · exact markRows_foreign (alone.rows side) (rows side)
  results := by
    rw [settle_results]
    exact alone.results.append_foreign (by simp [ownResult, foreign])
  exceptions := by
    rw [settle_opens.1]
    refine alone.exceptions.append_foreign fun e mem => ?_
    split_ifs at mem
    · obtain rfl := List.mem_singleton.1 mem
      simp [ownException, exceptionRow, foreign]
    · cases mem
  rowIds side row mem range := by
    obtain ⟨r0, mem0, idEq, tenant⟩ := of_mem_settle mem
    exact tenant ▸ alone.rowIds side r0 mem0 (idEq ▸ range)
  resultIds r' mem range := by
    rw [settle_results, List.mem_append, List.mem_singleton] at mem
    rcases mem with old | rfl
    · exact alone.resultIds r' old range
    · exact absurd range fresh
  exceptionResults e mem range := by
    rw [settle_opens.1, List.mem_append] at mem
    rcases mem with old | new
    · exact alone.exceptionResults e old range
    · split_ifs at new
      · obtain rfl := List.mem_singleton.1 new
        exact absurd range fresh
      · cases new

end Settle

section Persist
variable {ρ : Renaming} {A : ℕ} {s s' t : Store} {candidate : TxnFacts} {decision : Decision}
  {sides : List TxnFacts} {messageId : Option String} {now : Datetime} {draws draws' : Draws}
  {res : PersistResult} {config : MatchConfig}

/-- The row of a decision under the renaming. -/
lemma resultRow_rename {tenantId : ℕ} {latencyMs : Option ℤ} (agree : Agree ρ draws draws') :
    resultRow (decision.rename ρ) tenantId latencyMs messageId draws =
      (resultRow decision tenantId latencyMs messageId draws').rename ρ := by
  simp [resultRow, ReconciliationResult.rename, Decision.rename, agree.resultId, agree.now]

lemma rowError_rename {r : ReconciliationResult} : rowError (r.rename ρ) = rowError r := by
  have sides : ((r.rename ρ).gatewayTxnId = none ∧ (r.rename ρ).ledgerEntryId = none) ↔
      r.gatewayTxnId = none ∧ r.ledgerEntryId = none := by
    simp only [ReconciliationResult.rename, Option.map_eq_none_iff]
  simp only [rowError, sides]
  rfl

/-- Persisting a decision about the tenant's rows. -/
lemma Alone.persist (alone : Alone ρ A s s') (own : candidate.tenantId = A)
    (agree : Agree ρ draws draws')
    (opened : s.exceptions.length < t.exceptions.length →
      draws.exceptionId = ρ.exception draws'.exceptionId)
    (ok : MatcherWorker.persist s (candidate.rename ρ) (decision.rename ρ)
      (sides.map (TxnFacts.rename ρ)) messageId now draws = .ok (t, res)) :
    ∃ t' res', MatcherWorker.persist s' candidate decision sides messageId now draws' =
        .ok (t', res') ∧ res = res'.rename ρ ∧ Alike ρ A s s' t t' := by
  obtain ⟨r, rowEq⟩ : ∃ r, r = resultRow decision candidate.tenantId
      (some (computeLatencyMs decision sides now)) messageId draws' := ⟨_, rfl⟩
  have row : resultRow (decision.rename ρ) (candidate.rename ρ).tenantId
      (some (computeLatencyMs (decision.rename ρ) (sides.map (TxnFacts.rename ρ)) now)) messageId
      draws = r.rename ρ := by
    rw [resultRow_rename agree, computeLatencyMs_rename , rowEq]
    rfl
  have ownR : r.tenantId = A := by rw [rowEq]; exact own
  simp only [MatcherWorker.persist, applyDecision, row, rowError_rename, alone.conflicts ownR,
    alone.foreignKeyError] at ok
  simp only [MatcherWorker.persist, applyDecision, ← rowEq]
  cases fits : rowError r with
  | some e => simp [fits] at ok
  | none =>
    simp only [fits] at ok ⊢
    split_ifs at ok ⊢ with held
    · obtain ⟨rfl, rfl⟩ := Prod.mk.inj (Except.ok.inj ok)
      exact ⟨s', _, rfl, rfl, alone, by simp⟩
    · cases keys : Persist.foreignKeyError s' r with
      | some e => simp [keys] at ok
      | none =>
        simp only [keys] at ok ⊢
        have eq := Except.ok.inj ok
        have store : (Persist.settle s (decision.rename ρ) (r.rename ρ) draws).1 = t := by rw [eq]
        have result : (Persist.settle s (decision.rename ρ) (r.rename ρ) draws).2 = res := by rw [eq]
        have grown : t.exceptions.length =
            s.exceptions.length + (Isolation.opens s' decision r).toNat := by
          rw [← store, settle_opens.1, alone.opens]
          cases Isolation.opens s' decision r <;> simp
        have grown' : (Persist.settle s' decision r draws').1.exceptions.length =
            s'.exceptions.length + (Isolation.opens s' decision r).toNat := by
          rw [settle_opens.1]
          cases Isolation.opens s' decision r <;> simp
        refine ⟨(Persist.settle s' decision r draws').1, (Persist.settle s' decision r draws').2, rfl,
          ?_, ?_, ?_⟩
        · rw [← result, settle_opens.2, settle_opens.2, alone.opens]
          rfl
        · rw [← store]
          refine alone.settle agree ownR fun opens => opened ?_
          rw [grown, opens]
          simp
        · omega

/-- Persisting a decision about rows of another tenant. -/
lemma Alone.persist_foreign (alone : Alone ρ A s s') (foreign : candidate.tenantId ≠ A)
    (fresh : draws.resultId ∉ Set.range ρ.result)
    (decided : System.Decided config (Scanned s) candidate decision) (stored : Scanned s candidate)
    (ok : MatcherWorker.persist s candidate decision sides messageId now draws = .ok (t, res)) :
    Alone ρ A t s' := by
  rcases applyDecision_ok ok with ⟨_, rfl, _⟩ | ⟨_, _, _, rfl, _⟩
  · exact alone
  · refine alone.settle_foreign foreign fresh fun side id ref => ?_
    obtain ⟨f, ⟨row, mem, rowEq⟩, rfl, rfl, tenant⟩ := decided.covers stored ref
    rw [← rowEq] at tenant ⊢
    exact alone.foreign_row mem fun own => foreign (tenant.symm.trans own)

end Persist

section Transactions
variable {ρ : Renaming} {A : ℕ} {s s' t : Store} {candidate : TxnFacts} {decision : Decision}
  {sides found : List TxnFacts} {message : IngestMessage} {messageId : Option String}
  {now waitedAt : Datetime} {draws draws' : Draws} {res : PersistResult} {outcome : ProcessOutcome}
  {config : MatchConfig}

/-- The counterparties of a row of the tenant are its own. -/
lemma Alone.findCounterparties (alone : Alone ρ A s s') (own : candidate.tenantId = A) :
    findCounterparties s (candidate.rename ρ) config =
      (findCounterparties s' candidate config).map (List.map (TxnFacts.rename ρ)) := by
  simp only [Persist.findCounterparties, bind, Except.bind, TxnFacts.rename_occurredAt]
  cases candidate.occurredAt.sub config.driftWindow with
  | error e => rfl
  | ok low =>
    cases candidate.occurredAt.add config.driftWindow with
    | error e => rfl
    | ok high =>
      have rows : (s.raw candidate.side.other).filter (isCounterparty (candidate.rename ρ) low high) =
          ((s'.raw candidate.side.other).filter (isCounterparty candidate low high)).map
            (RawRow.rename ρ candidate.side.other) :=
        (alone.rows candidate.side.other).filter
          (fun r _ sel => by simp_all [isCounterparty, ownRow]) fun _ _ => rfl
      simp only [TxnFacts.rename_side, rows, List.map_map, Except.map, pure, Except.pure]
      rfl

lemma opposite_of_mem (query : Persist.findCounterparties s candidate config = .ok found) :
    ∀ f ∈ found, f.side = candidate.side.other := by
  intro f mem
  obtain ⟨row, _, _, _, _, _, rfl⟩ := (mem_findCounterparties query).1 mem
  rfl

/-- Writing a decision about the tenant's rows, as `process` does. -/
lemma Alone.write (alone : Alone ρ A s s') (own : candidate.tenantId = A)
    (agree : outcome.decision.isSome = true → Agree ρ draws draws')
    (opened : s.exceptions.length < t.exceptions.length →
      draws.exceptionId = ρ.exception draws'.exceptionId)
    (ok : process.write s messageId now draws (candidate.rename ρ) (decision.rename ρ)
      (sides.map (TxnFacts.rename ρ)) = .ok (t, outcome)) :
    ∃ t' outcome', process.write s' messageId now draws' candidate decision sides =
        .ok (t', outcome') ∧ outcome = outcome'.rename ρ ∧ Alike ρ A s s' t t' := by
  simp only [process.write, bind, Except.bind] at ok
  split at ok
  · cases ok
  rename_i persisted eq
  obtain ⟨rfl, rfl⟩ := Prod.mk.inj (Except.ok.inj ok)
  obtain ⟨t', res', ok', same, alike⟩ := alone.persist own (agree rfl) opened eq
  refine ⟨t', _, by simp only [process.write, ok', bind, Except.bind]; rfl, ?_, alike⟩
  rw [same, computeLatencyMs_rename]
  rfl

/-- `process` on a message about the tenant's row. -/
lemma Alone.process (alone : Alone ρ A s s')
    (agree : outcome.decision.isSome = true → Agree ρ draws draws')
    (opened : s.exceptions.length < t.exceptions.length →
      draws.exceptionId = ρ.exception draws'.exceptionId)
    (ok : MatcherWorker.process s (message.rename ρ) messageId config now draws = .ok (t, outcome)) :
    ∃ t' outcome', MatcherWorker.process s' message messageId config now draws' =
        .ok (t', outcome') ∧ outcome = outcome'.rename ρ ∧ Alike ρ A s s' t t' := by
  have deferred (eq : (.ok (s, ProcessOutcome.deferred) : Except PyError _) = .ok (t, outcome)) :
      ∃ t' outcome', (.ok (s', ProcessOutcome.deferred) : Except PyError _) = .ok (t', outcome') ∧
        outcome = outcome'.rename ρ ∧ Alike ρ A s s' t t' := by
    obtain ⟨rfl, rfl⟩ := Prod.mk.inj (Except.ok.inj eq)
    exact ⟨s', _, rfl, rfl, alone, by simp⟩
  simp only [MatcherWorker.process, IngestMessage.rename_source, IngestMessage.rename_rowId,
    IngestMessage.rename_isDuplicate, IngestMessage.rename_submissions, alone.loadFacts] at ok ⊢
  cases loaded : Persist.loadFacts s' message.source message.rowId with
  | none =>
    simp only [loaded, Option.map_none] at ok ⊢
    exact deferred ok
  | some candidate =>
    have own : candidate.tenantId = A := by
      obtain ⟨row, mem, _, rfl⟩ := loadFacts_eq_some loaded
      exact alone.tenant_of_row mem
    simp only [loaded, Option.map_some] at ok ⊢
    by_cases duplicate : message.isDuplicate = true
    · simp only [duplicate, if_true] at ok ⊢
      rw [Core.decideDuplicate_rename, ← List.map_singleton] at ok
      exact alone.write own agree opened ok
    · simp only [duplicate, Bool.false_eq_true, if_false, alone.findCounterparties own, bind,
        Except.bind] at ok ⊢
      cases query : Persist.findCounterparties s' candidate config with
      | error e => simp [query, Except.map] at ok
      | ok found =>
        simp only [query, Except.map, Core.decide_rename] at ok ⊢
        cases decided : Core.decide candidate found config with
        | none =>
          simp only [decided, Option.map_none] at ok ⊢
          exact deferred ok
        | some decision =>
          simp only [decided, Option.map_some, sidesOf_rename (opposite_of_mem query)] at ok ⊢
          exact alone.write own agree opened ok

/-- The sweeper's row transaction for a row of the tenant. -/
lemma Alone.sweepRow (alone : Alone ρ A s s') (own : candidate.tenantId = A)
    (agree : Agree ρ draws draws')
    (opened : s.exceptions.length < t.exceptions.length →
      draws.exceptionId = ρ.exception draws'.exceptionId)
    (ok : Sweeper.sweepRow s (candidate.rename ρ) config waitedAt now draws = .ok (t, res)) :
    ∃ t' res', Sweeper.sweepRow s' candidate config waitedAt now draws' = .ok (t', res') ∧
      res = res'.rename ρ ∧ Alike ρ A s s' t t' := by
  simp only [Sweeper.sweepRow, alone.findCounterparties own, bind, Except.bind] at ok ⊢
  cases query : Persist.findCounterparties s' candidate config with
  | error e => simp [query, Except.map] at ok
  | ok found =>
    have row : Sweeper.decideRow (candidate.rename ρ) (found.map (TxnFacts.rename ρ)) config waitedAt =
        ((Sweeper.decideRow candidate found config waitedAt).1.rename ρ,
          (Sweeper.decideRow candidate found config waitedAt).2.map (TxnFacts.rename ρ)) := by
      simp only [Sweeper.decideRow, Core.decide_rename]
      cases Core.decide candidate found config with
      | none => simp only [Option.map_none, TxnFacts.rename_receivedAt, Core.decideUnmatched_rename,
          List.map_cons, List.map_nil]
      | some decision => simp only [Option.map_some, sidesOf_rename (opposite_of_mem query)]
    simp only [query, Except.map, row] at ok ⊢
    exact alone.persist own agree opened ok

/-- A call that took no decision left the store as it was. -/
lemma process_undecided
    (ok : MatcherWorker.process s message messageId config now draws = .ok (t, outcome))
    (undecided : outcome.decision = none) : t = s := by
  have unwritten {candidate decision sides}
      (ok : process.write s messageId now draws candidate decision sides = .ok (t, outcome)) :
      t = s := by
    simp only [process.write, bind, Except.bind] at ok
    split at ok
    · cases ok
    · obtain ⟨_, rfl⟩ := Prod.mk.inj (Except.ok.inj ok)
      cases undecided
  have deferred (eq : (.ok (s, ProcessOutcome.deferred) : Except PyError _) = .ok (t, outcome)) :
      t = s := (Prod.mk.inj (Except.ok.inj eq)).1.symm
  simp only [MatcherWorker.process] at ok
  split at ok
  · exact deferred ok
  · split_ifs at ok
    · exact unwritten ok
    · simp only [bind, Except.bind] at ok
      split at ok
      · cases ok
      · split at ok
        · exact deferred ok
        · exact unwritten ok

/-- A decision about a stored row is about stored rows of its tenant. -/
lemma decided_of_decide (query : Persist.findCounterparties s candidate config = .ok found)
    (decided : Core.decide candidate found config = some decision) :
    System.Decided config (Scanned s) candidate decision := by
  obtain ⟨best, mem, status, layer, verdict, rfl, _⟩ := Core.decide_spec decided
  obtain ⟨row, stored, _, _, _, _, rfl⟩ := (mem_findCounterparties query).1 mem
  exact .pair ⟨row, stored, rfl⟩ verdict

/-- `process` on a message about another tenant's row, or about none. -/
lemma Alone.process_foreign (alone : Alone ρ A s s')
    (foreign : ∀ f, Persist.loadFacts s message.source message.rowId = some f → f.tenantId ≠ A)
    (fresh : outcome.decision.isSome = true → draws.resultId ∉ Set.range ρ.result)
    (ok : MatcherWorker.process s message messageId config now draws = .ok (t, outcome)) :
    Alone ρ A t s' := by
  cases taken : outcome.decision with
  | none =>
    obtain rfl := process_undecided ok taken
    exact alone
  | some _ =>
    have unused := fresh (by rw [taken]; rfl)
    rcases process_ok ok with ⟨_, rfl⟩ | ⟨candidate, loaded, rest⟩
    · exact alone
    obtain ⟨row, mem, _, rfl⟩ := loadFacts_eq_some loaded
    have stored : Scanned s (facts row message.source) := ⟨row, mem, rfl⟩
    have marker : System.Decided config (Scanned s) (facts row message.source)
        (Core.decideDuplicate (facts row message.source) message.submissions) := .duplicate _
    rcases rest with ⟨_, res, persisted⟩ | ⟨_, found, query, ⟨_, rfl⟩ | ⟨d, res, decided, persisted⟩⟩
    · exact alone.persist_foreign (foreign _ loaded) unused marker stored persisted
    · exact alone
    · exact alone.persist_foreign (foreign _ loaded) unused (decided_of_decide query decided) stored
        persisted

/-- The sweeper's row transaction for a row of another tenant. -/
lemma Alone.sweepRow_foreign (alone : Alone ρ A s s') (foreign : candidate.tenantId ≠ A)
    (fresh : draws.resultId ∉ Set.range ρ.result) (stored : Scanned s candidate)
    (ok : Sweeper.sweepRow s candidate config waitedAt now draws = .ok (t, res)) : Alone ρ A t s' := by
  obtain ⟨found, query, persisted⟩ := Sweeper.sweepRow_ok ok
  have decided : System.Decided config (Scanned s) candidate
      (Sweeper.decideRow candidate found config waitedAt).1 := by
    simp only [Sweeper.decideRow]
    split
    · exact decided_of_decide query ‹_›
    · exact .unmatched _
  exact alone.persist_foreign foreign fresh decided stored persisted

end Transactions

end Isolation
end LedgerLoop
