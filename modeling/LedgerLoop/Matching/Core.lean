import LedgerLoop.Db.Models
import Mathlib.Data.List.MinMax
import Mathlib.Data.Prod.Lex

/-!
# The matching engine's pure core

Port of `matching/core.py`: layers 1 to 3 of one pair (`classifyPair`), the choice of the best
counterparty (`decide`), and the two decisions taken without a counterparty (`decideDuplicate`,
`decideUnmatched`).

`SortKey` is the four-part key of `_sort_key` under lexicographic order, and Python's `min` by a key,
which returns the first of equal elements, is `List.argmin`. The amounts are compared in hundredths;
the tolerance is a `Decimal` because the configured percentage has its own exponent.
-/

set_option autoImplicit false

namespace LedgerLoop
open LedgerLoop.Library

/-- The subset of a raw row that matching depends on (`TxnFacts`). -/
structure TxnFacts where
  side : IngestSource
  tenantId : ℕ
  rowId : ℕ
  txnId : String
  amount : Money
  currency : String
  occurredAt : Datetime
  receivedAt : Datetime
deriving DecidableEq, Repr

/-- Tuning knobs (`MatchConfig`). -/
structure MatchConfig where
  exactWindow : Timedelta
  driftWindow : Timedelta
  amountDriftPct : Decimal
  amountDriftAbs : Decimal
deriving DecidableEq, Repr

/-- `MatchConfig.from_settings` of the default settings: 2 s, 60 s, `0.01` and `10.0`. -/
def MatchConfig.shipped : MatchConfig where
  exactWindow := Timedelta.seconds 2
  driftWindow := Timedelta.seconds 60
  amountDriftPct := ⟨1, -2⟩
  amountDriftAbs := ⟨100, -1⟩

/-- A terminal classification for one transaction or pair (`Decision`). -/
structure Decision where
  status : ReconStatus
  layer : MatchLayer
  gatewayRowId : Option ℕ
  ledgerRowId : Option ℕ
  notes : Option String
deriving DecidableEq, Repr

/-- `Decision.opens_exception`. -/
def Decision.opensException (d : Decision) : Bool := d.status.opensException

/-- The row a decision covers on one side. -/
def Decision.rowId (d : Decision) : IngestSource → Option ℕ
  | .gateway => d.gatewayRowId
  | .ledger => d.ledgerRowId

/-- The tuple `_sort_key` returns: layer rank, time distance, amount distance, row id. -/
structure SortKey where
  layer : ℕ
  time : Timedelta
  amount : ℤ
  rowId : ℕ
deriving DecidableEq, Repr

namespace SortKey

/-- The key as a tuple under lexicographic order. -/
def tuple (k : SortKey) : ℕ ×ₗ ℤ ×ₗ ℤ ×ₗ ℕ :=
  toLex (k.layer, toLex (k.time, toLex (k.amount, k.rowId)))

lemma tuple_injective : Function.Injective tuple := by
  rintro ⟨⟩ ⟨⟩ h
  simpa [tuple] using h

/-- Tuple comparison; spelled out because instance search takes a noncomputable route through `ℤ`. -/
@[reducible] def tupleOrder : LinearOrder (ℕ ×ₗ ℤ ×ₗ ℤ ×ₗ ℕ) :=
  @Prod.Lex.instLinearOrder ℕ (ℤ ×ₗ ℤ ×ₗ ℕ) Nat.instLinearOrder
    (@Prod.Lex.instLinearOrder ℤ (ℤ ×ₗ ℕ) Int.instLinearOrder
      (@Prod.Lex.instLinearOrder ℤ ℕ Int.instLinearOrder Nat.instLinearOrder))

instance : LinearOrder SortKey := @LinearOrder.lift' _ _ tupleOrder tuple tuple_injective

lemma lt_iff {a b : SortKey} :
    a < b ↔ a.layer < b.layer ∨ a.layer = b.layer ∧ (a.time < b.time ∨ a.time = b.time ∧
      (a.amount < b.amount ∨ a.amount = b.amount ∧ a.rowId < b.rowId)) := by
  have : a < b ↔ a.tuple < b.tuple := Iff.rfl
  rw [this]
  simp [tuple, Prod.Lex.toLex_lt_toLex]

end SortKey

namespace Core

/-- `_LAYER_RANK`; the two layers `decide` never ranks come last. -/
def layerRank : MatchLayer → ℕ
  | .exact => 0
  | .timeDrift => 1
  | .amountDrift => 2
  | .duplicate | .unmatchedSweep => 3

/-- `time_delta`. -/
def timeDelta (a b : TxnFacts) : Timedelta := |a.occurredAt.diff b.occurredAt|

/-- `amount_tolerance`. -/
def amountTolerance (reference : Money) (config : MatchConfig) : Decimal :=
  (reference.toDecimal.abs.mul config.amountDriftPct).max config.amountDriftAbs

/-- `_gateway_and_ledger`. -/
def gatewayAndLedger (a b : TxnFacts) : TxnFacts × TxnFacts :=
  if a.side = .gateway then (a, b) else (b, a)

/-- `classify_pair`: layers 1 to 3 against one counterparty. -/
def classifyPair (candidate other : TxnFacts) (config : MatchConfig) :
    Option (ReconStatus × MatchLayer) :=
  if candidate.tenantId ≠ other.tenantId then none
  else if candidate.side = other.side then none
  else if candidate.txnId ≠ other.txnId then none
  else if candidate.currency ≠ other.currency then none
  else
    let dt := timeDelta candidate other
    let sameAmount := candidate.amount = other.amount
    if sameAmount ∧ dt ≤ config.exactWindow then some (.matched, .exact)
    else if sameAmount ∧ dt ≤ config.driftWindow then some (.matched, .timeDrift)
    else if ¬sameAmount ∧ dt ≤ config.driftWindow ∧
        -- the allowance is a share of the gateway amount, whichever side asks
        ((gatewayAndLedger candidate other).1.amount.toDecimal.sub
            (gatewayAndLedger candidate other).2.amount.toDecimal).abs.toRat ≤
          (amountTolerance (gatewayAndLedger candidate other).1.amount config).toRat then
      some (.amountDrift, .amountDrift)
    else none

/-- `_sort_key`. -/
def sortKey (candidate other : TxnFacts) (layer : MatchLayer) : SortKey where
  layer := layerRank layer
  time := timeDelta candidate other
  amount := |candidate.amount.minor - other.amount.minor|
  rowId := other.rowId

/-- The counterparties with a verdict, each with it. -/
def viable (candidate : TxnFacts) (counterparties : List TxnFacts) (config : MatchConfig) :
    List (TxnFacts × ReconStatus × MatchLayer) :=
  counterparties.filterMap fun other =>
    (classifyPair candidate other config).map fun verdict => (other, verdict)

/-- `notes` of a pair decision. -/
def pairNotes (candidate best : TxnFacts) (layer : MatchLayer) (config : MatchConfig) :
    Option String :=
  match layer with
  | .timeDrift =>
    some ("clock drift " ++ formatFixed 3 (Timedelta.totalSeconds (timeDelta candidate best)) ++
      "s within " ++ formatFixed 0 (Timedelta.totalSeconds config.driftWindow) ++ "s window")
  | .amountDrift =>
    let (gateway, ledger) := gatewayAndLedger candidate best
    let diff := gateway.amount.toDecimal.sub ledger.amount.toDecimal
    some ("amount drift " ++ diff.formatSigned ++ " (gateway " ++ gateway.amount.toDecimal.str ++
      " vs ledger " ++ ledger.amount.toDecimal.str ++ "), tolerance " ++
      (amountTolerance gateway.amount config).str)
  | _ => none

/-- The decision that pairs the candidate with the chosen counterparty. -/
def pairDecision (candidate best : TxnFacts) (status : ReconStatus) (layer : MatchLayer)
    (config : MatchConfig) : Decision where
  status := status
  layer := layer
  gatewayRowId := some (gatewayAndLedger candidate best).1.rowId
  ledgerRowId := some (gatewayAndLedger candidate best).2.rowId
  notes := pairNotes candidate best layer config

/-- `decide`: layers 1 to 3 against every available counterparty; `none` means "defer". -/
def decide (candidate : TxnFacts) (counterparties : List TxnFacts) (config : MatchConfig) :
    Option Decision :=
  ((viable candidate counterparties config).argmin
      fun item => sortKey candidate item.1 item.2.2).map fun item =>
    pairDecision candidate item.1 item.2.1 item.2.2 config

/-- `decide_duplicate`: layer 4. -/
def decideDuplicate (candidate : TxnFacts) (submissions : ℕ) : Decision where
  status := .duplicate
  layer := .duplicate
  gatewayRowId := if candidate.side = .gateway then some candidate.rowId else none
  ledgerRowId := if candidate.side = .ledger then some candidate.rowId else none
  notes := some (toString submissions ++
    " submissions of idempotency key; first receipt retained")

/-- `decide_unmatched`: layer 5. -/
def decideUnmatched (candidate : TxnFacts) (waited : Timedelta) : Decision where
  status := if candidate.side = .gateway then .unmatchedGatewayOnly else .unmatchedLedgerOnly
  layer := .unmatchedSweep
  gatewayRowId := if candidate.side = .gateway then some candidate.rowId else none
  ledgerRowId := if candidate.side = .gateway then none else some candidate.rowId
  notes := some ("no counterparty after " ++ formatFixed 0 (Timedelta.totalSeconds waited) ++ "s")

end Core
end LedgerLoop
