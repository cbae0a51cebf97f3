import LedgerLoop.Worker.Reconciled

/-!
# Verdicts about contents

The rules of layers 1 to 3 look at what two rows say, not at which rows they are: a verdict about two rows of
one tenant is a verdict about their contents, and so is the note that explains it.
-/

set_option autoImplicit false

namespace LedgerLoop

/-- A content as the facts of a row of some tenant. -/
def Content.facts (c : Content) (side : IngestSource) : TxnFacts where
  side := side
  tenantId := 0
  rowId := 0
  txnId := c.txnId
  amount := c.amount
  currency := c.currency
  occurredAt := c.occurredAt
  receivedAt := c.occurredAt

/-- What layers 1 to 3 say of a payment and a ledger entry. -/
def classifyContent (gateway ledger : Content) (config : MatchConfig) : Option (ReconStatus × MatchLayer) :=
  Core.classifyPair (gateway.facts .gateway) (ledger.facts .ledger) config

/-- What layers 1 to 3 say of a submission on a side and one on the other. -/
def classifySides (side : IngestSource) (own opposite : Content) (config : MatchConfig) :
    Option (ReconStatus × MatchLayer) :=
  match side with
  | .gateway => classifyContent own opposite config
  | .ledger => classifyContent opposite own config

/-- The status of a submission without a partner. -/
def unmatchedStatus (side : IngestSource) : ReconStatus :=
  if side = .gateway then .unmatchedGatewayOnly else .unmatchedLedgerOnly

section Contents
variable {config : MatchConfig} {side : IngestSource} {row row' : RawRow} {a b : TxnFacts} {layer : MatchLayer}

/-- Verdicts are about contents. -/
lemma classifyPair_content (tenant : row.tenantId = row'.tenantId) :
    Core.classifyPair (facts row .gateway) (facts row' .ledger) config =
      classifyContent row.content row'.content config := by
  have sides : IngestSource.gateway ≠ .ledger := by decide
  simp only [classifyContent, Core.classifyPair, facts, Content.facts, RawRow.content, tenant, ne_eq,
    not_true_eq_false, if_false]
  rfl

/-- Verdicts are about contents, whichever side asks. -/
lemma classifyPair_sides (tenant : row.tenantId = row'.tenantId) :
    Core.classifyPair (facts row side) (facts row' side.other) config =
      classifySides side row.content row'.content config := by
  cases side with
  | gateway => exact classifyPair_content tenant
  | ledger => exact Core.classifyPair_comm.trans (classifyPair_content tenant.symm)

/-- The note of a pair does not depend on which side asks. -/
lemma pairNotes_comm (opposite : b.side = a.side.other) :
    Core.pairNotes a b layer config = Core.pairNotes b a layer config := by
  have delta : Core.timeDelta a b = Core.timeDelta b a := abs_sub_comm _ _
  have sorted : Core.gatewayAndLedger a b = Core.gatewayAndLedger b a := by
    cases own : a.side with
    | gateway => simp [Core.gatewayAndLedger, own, opposite, IngestSource.other]
    | ledger => simp [Core.gatewayAndLedger, own, opposite, IngestSource.other]
  unfold Core.pairNotes
  rw [delta, sorted]

/-- The note of a pair is about contents. -/
lemma pairNotes_content : Core.pairNotes (facts row .gateway) (facts row' .ledger) layer config =
    Core.pairNotes (row.content.facts .gateway) (row'.content.facts .ledger) layer config := by
  cases layer <;> rfl

end Contents

end LedgerLoop
