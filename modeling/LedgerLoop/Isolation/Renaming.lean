import LedgerLoop.Library.Slice
import LedgerLoop.Services.IngestCall
import LedgerLoop.Services.Queries
import LedgerLoop.Worker.Sweeper

/-!
# Renaming row ids

A `Renaming` maps the ids of the two raw tables, of the results and of the exceptions to others, in
order. Every value that carries ids has its `rename`: rows, the facts matching reads, decisions, and the
answers of the read path.

Ids reach a decision in one place only, the last component of the sort key, which compares two rows of
one table; so the choice of a counterparty commutes with a renaming (`Core.decide_rename`).
-/

set_option autoImplicit false

namespace LedgerLoop
open LedgerLoop.Library

/-- An order-preserving renaming of row ids, one for each table. -/
structure Renaming where
  row : IngestSource → ℕ → ℕ
  result : ℕ → ℕ
  exception : ℕ → ℕ
  row_mono : ∀ side, StrictMono (row side)
  result_mono : StrictMono result
  exception_mono : StrictMono exception

section
variable (ρ : Renaming)

def RawRow.rename (side : IngestSource) (row : RawRow) : RawRow :=
  { row with id := ρ.row side row.id }

def TxnFacts.rename (f : TxnFacts) : TxnFacts := { f with rowId := ρ.row f.side f.rowId }

def Decision.rename (d : Decision) : Decision :=
  { d with
    gatewayRowId := d.gatewayRowId.map (ρ.row .gateway)
    ledgerRowId := d.ledgerRowId.map (ρ.row .ledger) }

def ReconciliationResult.rename (r : ReconciliationResult) : ReconciliationResult :=
  { r with
    id := ρ.result r.id
    gatewayTxnId := r.gatewayTxnId.map (ρ.row .gateway)
    ledgerEntryId := r.ledgerEntryId.map (ρ.row .ledger) }

def Exception_.rename (e : Exception_) : Exception_ :=
  { e with
    id := ρ.exception e.id
    reconciliationResultId := ρ.result e.reconciliationResultId }

def IngestMessage.rename (m : IngestMessage) : IngestMessage :=
  { m with rowId := ρ.row m.source m.rowId }

def IngestOutcome.rename (side : IngestSource) (o : IngestOutcome) : IngestOutcome :=
  { o with rowId := ρ.row side o.rowId }

def PersistResult.rename (r : PersistResult) : PersistResult :=
  { r with resultId := r.resultId.map ρ.result }

def ProcessOutcome.rename (o : ProcessOutcome) : ProcessOutcome :=
  { o with decision := o.decision.map (Decision.rename ρ) }

def ReconciliationResultOut.rename (o : ReconciliationResultOut) : ReconciliationResultOut :=
  { o with
    id := ρ.result o.id
    gatewayTxnId := o.gatewayTxnId.map (ρ.row .gateway)
    ledgerEntryId := o.ledgerEntryId.map (ρ.row .ledger) }

def ExceptionOut.rename (o : ExceptionOut) : ExceptionOut :=
  { o with
    id := ρ.exception o.id
    reconciliationResultId := ρ.result o.reconciliationResultId
    gatewayTxnId := o.gatewayTxnId.map (ρ.row .gateway)
    ledgerEntryId := o.ledgerEntryId.map (ρ.row .ledger) }

/-- A page whose items are renamed by `item` and whose cursor is by `id`. -/
def Page.rename {α : Type} (item : α → α) (id : ℕ → ℕ) (page : Page α) : Page α :=
  { items := page.items.map item, nextCursor := page.nextCursor.map id }

def Queries.ResolveAnswer.rename : Queries.ResolveAnswer → Queries.ResolveAnswer
  | .ok out => .ok (out.rename ρ)
  | .notFound => .notFound
  | .conflict => .conflict

end

section
variable {ρ : Renaming} {side : IngestSource} {row : RawRow} {f : TxnFacts} {d : Decision}
  {r : ReconciliationResult}

@[simp] lemma RawRow.rename_id : (row.rename ρ side).id = ρ.row side row.id := rfl

@[simp] lemma RawRow.rename_tenantId : (row.rename ρ side).tenantId = row.tenantId := rfl

@[simp] lemma RawRow.rename_idempotencyKey :
    (row.rename ρ side).idempotencyKey = row.idempotencyKey := rfl

@[simp] lemma RawRow.rename_duplicateCount :
    (row.rename ρ side).duplicateCount = row.duplicateCount := rfl

@[simp] lemma RawRow.rename_pending : (row.rename ρ side).pending = row.pending := rfl

@[simp] lemma TxnFacts.rename_side : (f.rename ρ).side = f.side := rfl

@[simp] lemma TxnFacts.rename_tenantId : (f.rename ρ).tenantId = f.tenantId := rfl

@[simp] lemma TxnFacts.rename_rowId : (f.rename ρ).rowId = ρ.row f.side f.rowId := rfl

@[simp] lemma TxnFacts.rename_receivedAt : (f.rename ρ).receivedAt = f.receivedAt := rfl

@[simp] lemma TxnFacts.rename_occurredAt : (f.rename ρ).occurredAt = f.occurredAt := rfl

@[simp] lemma IngestMessage.rename_source {m : IngestMessage} : (m.rename ρ).source = m.source := rfl

@[simp] lemma IngestMessage.rename_rowId {m : IngestMessage} :
    (m.rename ρ).rowId = ρ.row m.source m.rowId := rfl

@[simp] lemma IngestMessage.rename_isDuplicate {m : IngestMessage} :
    (m.rename ρ).isDuplicate = m.isDuplicate := rfl

@[simp] lemma IngestMessage.rename_submissions {m : IngestMessage} :
    (m.rename ρ).submissions = m.submissions := rfl

@[simp] lemma Decision.rename_status : (d.rename ρ).status = d.status := rfl

@[simp] lemma Decision.rename_opensException :
    (d.rename ρ).opensException = d.opensException := rfl

lemma Decision.rename_rowId : (d.rename ρ).rowId side = (d.rowId side).map (ρ.row side) := by
  cases side <;> rfl

@[simp] lemma ReconciliationResult.rename_id : (r.rename ρ).id = ρ.result r.id := rfl

@[simp] lemma ReconciliationResult.rename_tenantId : (r.rename ρ).tenantId = r.tenantId := rfl

@[simp] lemma ReconciliationResult.rename_active : (r.rename ρ).active = r.active := rfl

lemma ReconciliationResult.rename_rawId :
    (r.rename ρ).rawId side = (r.rawId side).map (ρ.row side) := by
  cases side <;> rfl

/-- Facts are read off a renamed row as off the row. -/
lemma facts_rename : facts (row.rename ρ side) side = (facts row side).rename ρ := rfl

end

namespace Core
variable {ρ : Renaming} {a b candidate : TxnFacts} {config : MatchConfig} {cps : List TxnFacts}

lemma gatewayAndLedger_rename :
    gatewayAndLedger (a.rename ρ) (b.rename ρ) =
      ((gatewayAndLedger a b).1.rename ρ, (gatewayAndLedger a b).2.rename ρ) := by
  unfold gatewayAndLedger
  split_ifs <;> first | rfl | contradiction

/-- The verdict on a pair does not read ids. -/
lemma classifyPair_rename :
    classifyPair (a.rename ρ) (b.rename ρ) config = classifyPair a b config := by
  simp only [classifyPair, gatewayAndLedger_rename]
  rfl

/-- Neither do the notes. -/
lemma pairNotes_rename {layer : MatchLayer} :
    pairNotes (a.rename ρ) (b.rename ρ) layer config = pairNotes a b layer config := by
  cases layer <;> simp only [pairNotes, gatewayAndLedger_rename] <;> rfl

/-- A pair decision names the two rows. -/
lemma pairDecision_rename {status : ReconStatus} {layer : MatchLayer}
    (sides : b.side = a.side.other) :
    pairDecision (a.rename ρ) (b.rename ρ) status layer config =
      (pairDecision a b status layer config).rename ρ := by
  obtain ⟨gateway, ledger⟩ := gatewayAndLedger_sides sides
  simp only [pairDecision, pairNotes_rename, gatewayAndLedger_rename, Decision.rename,
    TxnFacts.rename_rowId, gateway, ledger, Option.map_some]

lemma decideDuplicate_rename {submissions : ℕ} :
    decideDuplicate (candidate.rename ρ) submissions =
      (decideDuplicate candidate submissions).rename ρ := by
  cases h : candidate.side <;> simp [decideDuplicate, Decision.rename, h]

lemma decideUnmatched_rename {waited : Timedelta} :
    decideUnmatched (candidate.rename ρ) waited = (decideUnmatched candidate waited).rename ρ := by
  cases h : candidate.side <;> simp [decideUnmatched, Decision.rename, h]

lemma viable_rename :
    viable (candidate.rename ρ) (cps.map (TxnFacts.rename ρ)) config =
      (viable candidate cps config).map fun item => (item.1.rename ρ, item.2) := by
  simp only [viable, List.filterMap_map, List.map_filterMap]
  refine List.filterMap_congr fun other _ => ?_
  simp only [Function.comp_apply, classifyPair_rename, Option.map_map]
  rfl

/-- Sort keys compare as before: the ids in them are of rows of one table. -/
lemma sortKey_rename {layer layer' : MatchLayer} (sides : a.side = b.side) :
    sortKey (candidate.rename ρ) (a.rename ρ) layer < sortKey (candidate.rename ρ) (b.rename ρ) layer' ↔
      sortKey candidate a layer < sortKey candidate b layer' := by
  have ids : ρ.row a.side a.rowId < ρ.row b.side b.rowId ↔ a.rowId < b.rowId := by
    rw [sides]
    exact (ρ.row_mono b.side).lt_iff_lt
  simp only [SortKey.lt_iff]
  change _ ∨ _ ∧ (_ ∨ _ ∧ (_ ∨ _ ∧ ρ.row a.side a.rowId < ρ.row b.side b.rowId)) ↔ _
  rw [ids]
  exact Iff.rfl

/-- The choice of a counterparty commutes with the renaming. -/
lemma decide_rename :
    decide (candidate.rename ρ) (cps.map (TxnFacts.rename ρ)) config =
      (decide candidate cps config).map (Decision.rename ρ) := by
  have other {item} (mem : item ∈ viable candidate cps config) :
      item.1.side = candidate.side.other := (classifyPair_agree (mem_viable.1 mem).2).side
  have least : ((viable candidate cps config).map fun item => (item.1.rename ρ, item.2)).argmin
        (fun item => sortKey (candidate.rename ρ) item.1 item.2.2) =
      ((viable candidate cps config).argmin fun item => sortKey candidate item.1 item.2.2).map
        fun item => (item.1.rename ρ, item.2) :=
    argmin_map fun a memA b memB => sortKey_rename ((other memA).trans (other memB).symm)
  rw [decide, decide, viable_rename, least, Option.map_map, Option.map_map]
  refine Option.map_congr fun item mem => ?_
  exact pairDecision_rename (other (List.argmin_mem mem))

end Core

namespace MatcherWorker
variable {ρ : Renaming} {candidate : TxnFacts} {cps sides : List TxnFacts} {decision : Decision}

/-- The sides of a decision are those of its renaming. -/
lemma sidesOf_rename (opposite : ∀ f ∈ cps, f.side = candidate.side.other) :
    sidesOf (candidate.rename ρ) (cps.map (TxnFacts.rename ρ)) (decision.rename ρ) =
      (sidesOf candidate cps decision).map (TxnFacts.rename ρ) := by
  simp only [sidesOf, List.map_cons, List.filter_map]
  refine congrArg _ (congrArg _ (List.filter_congr fun f mem => ?_))
  simp only [Function.comp_apply, TxnFacts.rename_rowId, TxnFacts.rename_side, opposite f mem,
    Decision.rename_rowId]
  rw [← Option.map_some, Bool.eq_iff_iff, beq_iff_eq, beq_iff_eq]
  exact (Option.map_injective (ρ.row_mono _).injective).eq_iff

lemma computeLatencyMs_rename {now : Datetime} :
    Persist.computeLatencyMs (decision.rename ρ) (sides.map (TxnFacts.rename ρ)) now =
      Persist.computeLatencyMs decision sides now := by
  cases sides with
  | nil => rfl
  | cons first rest =>
    simp only [List.map_cons, Persist.computeLatencyMs, Persist.latestReceipt, List.map_map]
    rfl

end MatcherWorker

end LedgerLoop
