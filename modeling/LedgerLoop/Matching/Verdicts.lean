import LedgerLoop.Matching.Core

/-!
# What a verdict guarantees

Facts about `classifyPair` and `decide` that the persistence layer and the workers rely on: a verdict
agrees on tenant, sides, transaction id and currency, lies within the drift window, and is the same
from either side; `decide` answers iff some counterparty has a verdict, and then with the least one.
-/

set_option autoImplicit false

namespace LedgerLoop
open LedgerLoop.Library

/-- What layer 0 and the identity checks of `classifyPair` establish. -/
structure TxnFacts.Agree (a b : TxnFacts) : Prop where
  tenantId : a.tenantId = b.tenantId
  side : b.side = a.side.other
  txnId : a.txnId = b.txnId
  currency : a.currency = b.currency

/-- The three verdicts of layers 1 to 3. -/
inductive Verdict : ReconStatus × MatchLayer → Prop where
  | exact : Verdict (.matched, .exact)
  | timeDrift : Verdict (.matched, .timeDrift)
  | amountDrift : Verdict (.amountDrift, .amountDrift)

/-- No verdict is a duplicate marker. -/
lemma Verdict.ne_duplicate {v : ReconStatus × MatchLayer} (h : Verdict v) : v.1 ≠ .duplicate := by
  cases h <;> decide

namespace Core

variable {a b c : TxnFacts} {config : MatchConfig}

lemma timeDelta_comm : timeDelta a b = timeDelta b a := by
  simp only [timeDelta, Datetime.diff]
  exact abs_sub_comm _ _

/-- The drift window as the interval the counterparty query scans. -/
lemma timeDelta_le {w : Timedelta} :
    timeDelta a b ≤ w ↔
      a.occurredAt.us - w ≤ b.occurredAt.us ∧ b.occurredAt.us ≤ a.occurredAt.us + w := by
  change |a.occurredAt.us - b.occurredAt.us| ≤ (w : ℤ) ↔ _
  rw [abs_le]
  constructor <;> rintro ⟨_, _⟩ <;> constructor <;> linarith

lemma gatewayAndLedger_comm (side : b.side = a.side.other) :
    gatewayAndLedger a b = gatewayAndLedger b a := by
  unfold gatewayAndLedger
  cases h : a.side <;> simp_all [IngestSource.other]

/-- The pair in column order: the gateway side first. -/
lemma gatewayAndLedger_sides (side : b.side = a.side.other) :
    (gatewayAndLedger a b).1.side = .gateway ∧ (gatewayAndLedger a b).2.side = .ledger := by
  unfold gatewayAndLedger
  cases h : a.side <;> simp_all [IngestSource.other]

/-- A verdict agrees on everything but amount and time. -/
lemma classifyPair_agree {v : ReconStatus × MatchLayer}
    (h : classifyPair a b config = some v) : a.Agree b := by
  unfold classifyPair at h
  split_ifs at h with tenant side txn currency
  exact ⟨not_not.1 tenant, IngestSource.eq_other_of_ne side, not_not.1 txn, not_not.1 currency⟩

/-- A verdict is one of three. -/
lemma classifyPair_verdict {v : ReconStatus × MatchLayer}
    (h : classifyPair a b config = some v) : Verdict v := by
  simp only [classifyPair] at h
  split_ifs at h <;> obtain rfl := Option.some.inj h
  · exact .exact
  · exact .timeDrift
  · exact .amountDrift

/-- The verdict does not depend on the side that asks. -/
lemma classifyPair_comm : classifyPair a b config = classifyPair b a config := by
  by_cases side : a.side = b.side
  · simp [classifyPair, side]
  · have pair := gatewayAndLedger_comm (IngestSource.eq_other_of_ne side)
    simp only [classifyPair, pair, timeDelta_comm (a := b) (b := a), eq_comm (a := b.tenantId),
      eq_comm (a := b.side), eq_comm (a := b.txnId), eq_comm (a := b.currency),
      eq_comm (a := b.amount), ne_eq]

/-- A verdict lies within the drift window, the range the counterparty query scans. -/
lemma classifyPair_window {v : ReconStatus × MatchLayer}
    (windows : config.exactWindow ≤ config.driftWindow)
    (h : classifyPair a b config = some v) : timeDelta a b ≤ config.driftWindow := by
  simp only [classifyPair] at h
  split_ifs at h with _ _ _ _ exact drift amount
  · exact exact.2.trans windows
  · exact drift.2
  · exact amount.2.1

lemma mem_viable {cps : List TxnFacts} {item : TxnFacts × ReconStatus × MatchLayer} :
    item ∈ viable a cps config ↔ item.1 ∈ cps ∧ classifyPair a item.1 config = some item.2 := by
  obtain ⟨other, verdict⟩ := item
  simp only [viable, List.mem_filterMap, Option.map_eq_some_iff, Prod.mk.injEq]
  constructor
  · rintro ⟨o, mem, v, h, rfl, rfl⟩
    exact ⟨mem, h⟩
  · rintro ⟨mem, h⟩
    exact ⟨other, mem, verdict, h, rfl, rfl⟩

/-- `decide` defers iff no counterparty has a verdict. -/
lemma decide_eq_none {cps : List TxnFacts} :
    decide c cps config = none ↔ ∀ other ∈ cps, classifyPair c other config = none := by
  simp only [decide, Option.map_eq_none_iff, List.argmin_eq_none, List.eq_nil_iff_forall_not_mem,
    mem_viable]
  constructor
  · intro h other mem
    cases eq : classifyPair c other config with
    | none => rfl
    | some v => exact absurd ⟨mem, eq⟩ (h (other, v))
  · rintro h ⟨other, v⟩ ⟨mem, eq⟩
    simp [h other mem] at eq

/-- `decide` pairs the candidate with the counterparty of the least sort key. -/
lemma decide_spec {cps : List TxnFacts} {d : Decision} (h : decide c cps config = some d) :
    ∃ best ∈ cps, ∃ status layer,
      classifyPair c best config = some (status, layer) ∧
      d = pairDecision c best status layer config ∧
      ∀ other ∈ cps, ∀ st ly, classifyPair c other config = some (st, ly) →
        sortKey c best layer ≤ sortKey c other ly := by
  simp only [decide, Option.map_eq_some_iff] at h
  obtain ⟨⟨best, status, layer⟩, min, rfl⟩ := h
  have mem := mem_viable.1 (List.argmin_mem min)
  refine ⟨best, mem.1, status, layer, mem.2, rfl, ?_⟩
  intro other memO st ly eq
  have viable : (other, st, ly) ∈ viable c cps config := mem_viable.2 ⟨memO, eq⟩
  exact List.le_of_mem_argmin viable min

/-- A pair decision covers the candidate on its side and the partner on the other. -/
lemma pairDecision_rowId {best : TxnFacts} {status : ReconStatus} {layer : MatchLayer} :
    (pairDecision c best status layer config).rowId c.side = some c.rowId ∧
      (pairDecision c best status layer config).rowId c.side.other = some best.rowId := by
  cases h : c.side <;> simp [pairDecision, gatewayAndLedger, Decision.rowId, IngestSource.other, h]

end Core
end LedgerLoop
