import LedgerLoop.Worker.Loop

/-!
# The sweeper

Port of `worker/sweeper.py`: the transaction `sweep_once` runs for one stale row, a last matching
attempt before giving up, and the deletion transaction of demo retention.

`sweepRow` takes the candidate as the scan of `sweep_once` read it, which may be long before.
-/

set_option autoImplicit false

namespace LedgerLoop
open LedgerLoop.Library

namespace Sweeper
open Persist MatcherWorker

/-- The decision of a row transaction: a match if there is one, else the row is given up. -/
def decideRow (candidate : TxnFacts) (counterparties : List TxnFacts) (config : MatchConfig)
    (now : Datetime) : Decision × List TxnFacts :=
  match Core.decide candidate counterparties config with
  | some decision => (decision, sidesOf candidate counterparties decision)
  | none => (Core.decideUnmatched candidate (now.diff candidate.receivedAt), [candidate])

/-- The transaction of one stale row; `waitedAt` and `now` are its two clock readings. -/
def sweepRow (s : Store) (candidate : TxnFacts) (config : MatchConfig) (waitedAt now : Datetime)
    (draws : Draws) : Except PyError (Store × PersistResult) := do
  let counterparties ← findCounterparties s candidate config
  let (decision, sides) := decideRow candidate counterparties config waitedAt
  persist s candidate decision sides none now draws

/-- What a row transaction that returned did. -/
lemma sweepRow_ok {s s' : Store} {candidate config waitedAt now draws res}
    (ok : sweepRow s candidate config waitedAt now draws = .ok (s', res)) :
    ∃ counterparties, findCounterparties s candidate config = .ok counterparties ∧
      persist s candidate (decideRow candidate counterparties config waitedAt).1
        (decideRow candidate counterparties config waitedAt).2 none now draws = .ok (s', res) := by
  simp only [sweepRow, bind, Except.bind] at ok
  split at ok
  · cases ok
  · rename_i counterparties query
    exact ⟨counterparties, query, ok⟩

/-- The transaction of `sweep_demo_accounts` for one account: what its five statements, and the
    cascade to its keys, leave of a store. -/
def deleteAccount (s : Store) (accountId : ℕ) : Store where
  exceptions := deleteWhere (·.tenantId == accountId) s.exceptions
  reconciliationResults := deleteWhere (·.tenantId == accountId) s.reconciliationResults
  gatewayTransactions := deleteWhere (·.tenantId == accountId) s.gatewayTransactions
  ledgerEntries := deleteWhere (·.tenantId == accountId) s.ledgerEntries
  accounts := deleteWhere (·.id == accountId) s.accounts
  apiKeys := deleteWhere (·.accountId == accountId) s.apiKeys
  outboxEvents := s.outboxEvents

@[simp] lemma raw_deleteAccount (s : Store) (accountId : ℕ) (side : IngestSource) :
    (deleteAccount s accountId).raw side = deleteWhere (·.tenantId == accountId) (s.raw side) := by
  cases side <;> rfl

end Sweeper
end LedgerLoop
