import LedgerLoop.Worker.Serial

/-!
# Precedence of layers over the store

`decide` takes the strongest layer among the candidate's counterparties, so in a serial run the row a
transaction is for never ends in a pair while a pending row would make a stronger one with it. The
chosen partner has no such guarantee: the rivals that wait for it are not in the candidate's list. Such
a rival is one whose own matching attempt, or the partner's, is still to come.
-/

set_option autoImplicit false

namespace LedgerLoop
open LedgerLoop.Library

namespace System
open Persist

/-- No pending row forms with `row` a viable pair of a layer stronger than `layer`. -/
def Unrivalled (config : MatchConfig) (s : Sys) (side : IngestSource) (row : RawRow)
    (layer : MatchLayer) : Prop :=
  ∀ rival ∈ s.store.raw side.other, rival.pending = true → ∀ status layer',
    Core.classifyPair (facts row side) (facts rival side.other) config = some (status, layer') →
      Core.layerRank layer ≤ Core.layerRank layer'

/-- Between `s` and `u` a result is written that pairs `g` with `l`. -/
structure WritesPair (s u : Sys) (r : ReconciliationResult) (g l : RawRow) : Prop where
  written : r ∈ u.store.reconciliationResults
  new : r ∉ s.store.reconciliationResults
  memG : g ∈ s.store.raw .gateway
  memL : l ∈ s.store.raw .ledger
  refG : r.gatewayTxnId = some g.id
  refL : r.ledgerEntryId = some l.id

/-- The first receipt of a row was processed while the row was stored. -/
def Processed (tr : List (Sys × Transaction)) (side : IngestSource) (rowId : ℕ) : Prop :=
  ∃ p ∈ tr, p.2.IsFirstReceipt p.1 side rowId

/-- No pending row forms a viable pair with `row` once the first receipts of both are processed. -/
def RivalsUnprocessed (config : MatchConfig) (tr : List (Sys × Transaction)) (s : Sys)
    (side : IngestSource) (row : RawRow) : Prop :=
  ∀ rival ∈ s.store.raw side.other, rival.pending = true →
    Processed tr side row.id → Processed tr side.other rival.id →
      Core.classifyPair (facts row side) (facts rival side.other) config = none

section
variable {config : MatchConfig} {s u : Sys} {tx : Transaction} {tr : List (Sys × Transaction)}
  {r : ReconciliationResult} {g l : RawRow}

/-- A duplicate marker pairs nothing. -/
lemma decideDuplicate_unpaired {candidate : TxnFacts} {n a b : ℕ} :
    ¬((Core.decideDuplicate candidate n).rowId .gateway = some a ∧
      (Core.decideDuplicate candidate n).rowId .ledger = some b) := by
  cases h : candidate.side <;> simp [Core.decideDuplicate, Decision.rowId, h]

/-- A row given up is paired with nothing. -/
lemma decideUnmatched_unpaired {candidate : TxnFacts} {waited : Timedelta} {a b : ℕ} :
    ¬((Core.decideUnmatched candidate waited).rowId .gateway = some a ∧
      (Core.decideUnmatched candidate waited).rowId .ledger = some b) := by
  cases h : candidate.side <;> simp [Core.decideUnmatched, Decision.rowId, h]

/-- What a transaction that writes a pair is: a matching attempt for a row it knows, whose decision the
    pair is. -/
structure Attempt (config : MatchConfig) (s : Sys) (tx : Transaction) (r : ReconciliationResult)
    (candidate : TxnFacts) (found : List TxnFacts) (decision : Decision) : Prop where
  known : s.Knows candidate
  isFor : tx.IsFor s candidate.side candidate.rowId
  query : findCounterparties s.store candidate config = .ok found
  decided : Core.decide candidate found config = some decision
  free : conflicts s.store r = false
  tenantId : r.tenantId = candidate.tenantId
  status : r.status = decision.status
  layer : r.matchLayer = decision.layer
  rawId : ∀ side, r.rawId side = decision.rowId side

/-- Whole transactions other than matching attempts write no result. -/
lemma results_of_other {e : Event} (whole : e.isWhole = true) (st : Step config s e u)
    (written : r ∈ u.store.reconciliationResults) : r ∈ s.store.reconciliationResults := by
  cases st with
  | openAccount | scan | abandon => exact written
  | ingest fresh ok => exact (Ingest.run_effect ok).results ▸ written
  | deleteAccount => exact (mem_deleteWhere.1 written).1
  | closeException ok =>
    simp only [Queries.closeException] at ok
    split_ifs at ok
    obtain ⟨rfl, _⟩ := Prod.mk.inj (Except.ok.inj ok)
    exact written
  | load | find | apply | ack | beginRow => cases whole

/-- A pair is written by a matching attempt. -/
lemma Serial.attempt (inv : s.Inv config) (st : Serial config s tx u) (pair : WritesPair s u r g l) :
    ∃ candidate found decision, Attempt config s tx r candidate found decision := by
  have both {decision : Decision} (rawId : ∀ side, r.rawId side = decision.rowId side) :
      decision.rowId .gateway = some g.id ∧ decision.rowId .ledger = some l.id :=
    ⟨(rawId .gateway).symm.trans pair.refG, (rawId .ledger).symm.trans pair.refL⟩
  cases st with
  | other whole step => exact absurd (results_of_other whole step pair.written) pair.new
  | process idle fresh ok =>
    rcases MatcherWorker.process_ok ok with ⟨_, rfl⟩ |
      ⟨candidate, loaded, ⟨_, res, persisted⟩ |
        ⟨_, found, query, ⟨_, rfl⟩ | ⟨decision, res, decided, persisted⟩⟩⟩
    · exact absurd pair.written pair.new
    · obtain ⟨_, _, _, _, rawId⟩ := written_of_persist persisted pair.written pair.new
      exact absurd (both rawId) decideDuplicate_unpaired
    · exact absurd pair.written pair.new
    · obtain ⟨free, tenantId, status, layer, rawId⟩ :=
        written_of_persist persisted pair.written pair.new
      obtain ⟨row, mem, idEq, rfl⟩ := loadFacts_eq_some loaded
      exact ⟨_, found, decision, inv.knows mem, ⟨rfl, idEq.symm⟩, query, decided, free, tenantId,
        status, layer, rawId⟩
  | @sweepRow w candidate rest waitedAt now draws store res sweeping fresh ok =>
    obtain ⟨found, query, persisted⟩ := Sweeper.sweepRow_ok ok
    obtain ⟨free, tenantId, status, layer, rawId⟩ :=
      written_of_persist persisted pair.written pair.new
    have known := inv.workers w
    rw [sweeping] at known
    cases decided : Core.decide candidate found config with
    | none =>
      simp only [Sweeper.decideRow, decided] at rawId
      exact absurd (both rawId) decideUnmatched_unpaired
    | some decision =>
      simp only [Sweeper.decideRow, decided] at status layer rawId
      exact ⟨candidate, found, decision, known _ List.mem_cons_self,
        ⟨candidate, rest, sweeping, rfl, rfl⟩, query, decided, free, tenantId, status, layer, rawId⟩

section Attempts
variable {candidate : TxnFacts} {found : List TxnFacts} {decision : Decision} {side : IngestSource}
  {row : RawRow}

/-- No pending row makes a stronger pair with the row of a matching attempt. -/
lemma Attempt.unrivalled (windows : config.exactWindow ≤ config.driftWindow)
    (attempt : Attempt config s tx r candidate found decision) (mem : row ∈ s.store.raw candidate.side)
    (idEq : row.id = candidate.rowId) : Unrivalled config s candidate.side row r.matchLayer := by
  intro rival memR pending status layer' viable
  rw [attempt.known.2 row mem idEq] at viable
  have listed := viable_mem_findCounterparties windows attempt.query memR pending viable
  obtain ⟨best, _, _, layer, _, eq, least⟩ := Core.decide_spec attempt.decided
  have le := least _ listed _ _ viable
  rw [attempt.layer, eq]
  by_contra stronger
  exact absurd le (not_le.2 (SortKey.lt_iff.2 (.inl (not_le.1 stronger))))

/-- Both rows of a pair were pending when it was written. -/
lemma Attempt.pending (inv : s.Inv config)
    (attempt : Attempt config s tx r candidate found decision) (mem : row ∈ s.store.raw side)
    (ref : r.rawId side = some row.id) : row.pending = true := by
  obtain ⟨best, memBest, status, layer, viable, eq, _⟩ := Core.decide_spec attempt.decided
  obtain ⟨row', mem', _, _, _, _, rfl⟩ := (mem_findCounterparties attempt.query).1 memBest
  have decided : Decided config s.Knows candidate decision := eq ▸ .pair (inv.knows mem') viable
  obtain ⟨f, known, rfl, rowId, tenant⟩ :=
    decided.covers attempt.known ((attempt.rawId side).symm.trans ref)
  have same := congrArg TxnFacts.tenantId (known.2 row mem rowId.symm)
  have active : r.active = true := by
    have := (Core.classifyPair_verdict viable).ne_duplicate
    simpa [ReconciliationResult.active, attempt.status, eq, Core.pairDecision] using this
  exact inv.consistent.pending_of_free attempt.free active mem ref
    ((same.trans tenant).trans attempt.tenantId.symm)

/-- Two pending rows of a viable pair have not both been processed in a serial run. -/
lemma rivals_unprocessed (windows : config.exactWindow ≤ config.driftWindow)
    (run : Run (Serial config) Sys.initial tr s) (mem : row ∈ s.store.raw side)
    (pending : row.pending = true) : RivalsUnprocessed config tr s side row := by
  obtain ⟨tr', run', unraced, acked⟩ := Serial.runs run
  intro rival memR pendingR processed processedR
  exact (PairsOpen.reached windows run' unraced).pairs side row mem rival memR pending pendingR
    (.inl (acked side row.id processed)) (.inl (acked side.other rival.id processedR))

end Attempts

/-- When a serial run writes a pair, the transaction is for one of its rows, and no pending row makes a
    stronger pair with that row. A pending row that makes any pair with one of the two rows has not
    been processed, or that row has not. -/
theorem layer_precedence (windows : config.exactWindow ≤ config.driftWindow)
    (run : Run (Serial config) Sys.initial tr s) (st : Serial config s tx u)
    (pair : WritesPair s u r g l) :
    ((tx.IsFor s .gateway g.id ∧ Unrivalled config s .gateway g r.matchLayer) ∨
        (tx.IsFor s .ledger l.id ∧ Unrivalled config s .ledger l r.matchLayer)) ∧
      RivalsUnprocessed config tr s .gateway g ∧ RivalsUnprocessed config tr s .ledger l := by
  obtain ⟨tr', run', _, _⟩ := Serial.runs run
  have inv := Sys.Inv.reached run'
  obtain ⟨candidate, found, decision, attempt⟩ := st.attempt inv pair
  refine ⟨?_, rivals_unprocessed windows run pair.memG (attempt.pending inv pair.memG pair.refG),
    rivals_unprocessed windows run pair.memL (attempt.pending inv pair.memL pair.refL)⟩
  obtain ⟨best, _, status, layer, _, eq, _⟩ := Core.decide_spec attempt.decided
  have own : r.rawId candidate.side = some candidate.rowId := by
    rw [attempt.rawId, eq, Core.pairDecision_rowId.1]
  have isFor := attempt.isFor
  cases side : candidate.side with
  | gateway =>
    rw [side] at own isFor
    have idEq : g.id = candidate.rowId := Option.some.inj (pair.refG.symm.trans own)
    exact .inl ⟨idEq ▸ isFor, side ▸ attempt.unrivalled windows (side ▸ pair.memG) idEq⟩
  | ledger =>
    rw [side] at own isFor
    have idEq : l.id = candidate.rowId := Option.some.inj (pair.refL.symm.trans own)
    exact .inr ⟨idEq ▸ isFor, side ▸ attempt.unrivalled windows (side ▸ pair.memL) idEq⟩

end

/-! Two gateway rows wait for one ledger row, the first with an amount drift, the second exactly. The
first one's message is processed first. -/

namespace Sample

def driftPayload : GatewayWebhookIn :=
  { Ingest.Sample.payload with amount := ⟨10100, by decide⟩, amount_nonzero := by decide }

def driftRow : RawRow :=
  Ingest.gatewayRow 1 driftPayload "key-1" "null" (.newYear 0) (Ingest.Sample.drawsAfter 0)

def arrivals : List Transaction :=
  [.other (.openAccount Ingest.Sample.account),
    .other (.ingest (.gateway 1 driftPayload "key-1" "null") (Ingest.Sample.drawsAfter 0)),
    .other (.ingest (.gateway 1 Ingest.Sample.payload "key-2" "null") (Ingest.Sample.drawsAfter 1)),
    .other (.ingest (.ledger 1 [Ingest.Sample.entry]) (Ingest.Sample.drawsAfter 0))]

def driftTransaction : Transaction :=
  .process 0 (messageOf .gateway driftRow) none (.newYear 5) (drawsAt 1)

lemma drift_run : ∃ tr s u r, Run (Serial .shipped) Sys.initial tr s ∧
    Serial .shipped s driftTransaction u ∧
    WritesPair s u r driftRow (ledgerRow 0 Ingest.Sample.entry) ∧ r.matchLayer = .amountDrift ∧
    gatewayRow 1 "key-2" ∈ s.store.raw .gateway := by
  let l := ledgerRow 0 Ingest.Sample.entry
  have runs : ((replay (serial .shipped) Sys.initial arrivals).bind fun p =>
      (serial .shipped p.2 driftTransaction).map fun u =>
        decide (driftRow ∈ p.2.store.raw .gateway ∧ gatewayRow 1 "key-2" ∈ p.2.store.raw .gateway ∧
          l ∈ p.2.store.raw .ledger ∧ ∃ r ∈ u.store.reconciliationResults,
            r ∉ p.2.store.reconciliationResults ∧ r.gatewayTxnId = some driftRow.id ∧
              r.ledgerEntryId = some l.id ∧ r.matchLayer = .amountDrift)) = some true := by
    decide +kernel
  obtain ⟨⟨tr, s⟩, eq, last⟩ := Option.bind_eq_some_iff.1 runs
  obtain ⟨u, eq', checks⟩ := Option.map_eq_some_iff.1 last
  obtain ⟨memG, memG', memL, r, written, new, refG, refL, layer⟩ := of_decide_eq_true checks
  exact ⟨tr, s, u, r, .of_replay Serial.of_serial eq, .of_serial eq',
    ⟨written, new, memG, memL, refG, refL⟩, layer, memG'⟩

end Sample

theorem layer_precedence_sample : ∃ tr s u r, Run (Serial .shipped) Sys.initial tr s ∧
    Serial .shipped s Sample.driftTransaction u ∧
    WritesPair s u r Sample.driftRow (Sample.ledgerRow 0 Ingest.Sample.entry) ∧
    Unrivalled .shipped s .gateway Sample.driftRow r.matchLayer := by
  obtain ⟨tr, s, u, r, run, st, pair, _, _⟩ := Sample.drift_run
  refine ⟨tr, s, u, r, run, st, pair, ?_⟩
  rcases (layer_precedence (by decide) run st pair).1 with ⟨_, unrivalled⟩ | ⟨⟨source, _⟩, _⟩
  · exact unrivalled
  · cases source

/-- A pair is written while its ledger row has a stronger rival pending. -/
theorem partner_has_stronger_rival : ∃ tr s tx u r g l, Run (Serial .shipped) Sys.initial tr s ∧
    Serial .shipped s tx u ∧ WritesPair s u r g l ∧
    ¬(Unrivalled .shipped s .gateway g r.matchLayer ∧
      Unrivalled .shipped s .ledger l r.matchLayer) := by
  obtain ⟨tr, s, u, r, run, st, pair, layer, rival⟩ := Sample.drift_run
  refine ⟨tr, s, _, u, r, _, _, run, st, pair, fun both => ?_⟩
  have viable : Core.classifyPair (facts (Sample.ledgerRow 0 Ingest.Sample.entry) .ledger)
      (facts (Sample.gatewayRow 1 "key-2") .gateway) .shipped = some (.matched, .exact) := by
    decide +kernel
  have stronger := both.2 _ rival rfl _ _ viable
  simp [layer, Core.layerRank] at stronger

end System
end LedgerLoop
