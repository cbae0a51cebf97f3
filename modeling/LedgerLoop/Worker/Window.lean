import LedgerLoop.Worker.Latency

/-!
# The ends of the counterparty window

`find_counterparties` subtracts and adds the drift window to the candidate's `occurred_at`, and the
request models accept any instant Python can represent. Both ends of the window are instants iff
`occurred_at` keeps that distance from the ends of the calendar (`WindowFits`), and nothing else in the
transactions of the matcher and the sweeper can leave the range.
-/

set_option autoImplicit false

namespace LedgerLoop
open LedgerLoop.Library

/-- Both ends of the drift window around an instant lie in the years 1 to 9999. -/
def WindowFits (config : MatchConfig) (d : Datetime) : Prop :=
  (0 ≤ d.us - config.driftWindow ∧ d.us - config.driftWindow < Datetime.horizon) ∧
    (0 ≤ d.us + config.driftWindow ∧ d.us + config.driftWindow < Datetime.horizon)

namespace Persist

section
variable {s : Store} {candidate : TxnFacts} {config : MatchConfig} {decision : Decision}
  {sides : List TxnFacts} {messageId : Option String} {waitedAt now : Datetime} {draws : Draws}
  {message : IngestMessage} {e : PyError}

/-- The query fails iff its window does not fit, and then with the date-range error. -/
lemma findCounterparties_error_iff :
    findCounterparties s candidate config = .error e ↔
      ¬WindowFits config candidate.occurredAt ∧ e = .dateRange := by
  have fits : (∃ cps, findCounterparties s candidate config = .ok cps) ↔
      WindowFits config candidate.occurredAt := by
    rw [findCounterparties_isOk, Datetime.sub, Datetime.add, Datetime.ofUs_isOk, Datetime.ofUs_isOk]
    rfl
  have only (us : ℤ) {e' : PyError} (h : Datetime.ofUs us = .error e') : e' = .dateRange := by
    unfold Datetime.ofUs at h
    split_ifs at h
    exact (Except.error.inj h).symm
  have range {e' : PyError} (h : findCounterparties s candidate config = .error e') :
      e' = .dateRange := by
    simp only [findCounterparties, bind, Except.bind, pure, Except.pure] at h
    split at h
    · rename_i eq
      exact (Except.error.inj h) ▸ only _ eq
    · split at h
      · rename_i eq
        exact (Except.error.inj h) ▸ only _ eq
      · cases h
  rw [← fits]
  constructor
  · intro h
    refine ⟨?_, range h⟩
    rintro ⟨cps, ok⟩
    simp [h] at ok
  · rintro ⟨stuck, rfl⟩
    cases eq : findCounterparties s candidate config with
    | error e' => rw [range eq]
    | ok cps => exact absurd ⟨cps, eq⟩ stuck

/-- Persisting a decision does no date arithmetic that can fail. -/
lemma persist_ne_dateRange :
    MatcherWorker.persist s candidate decision sides messageId now draws ≠ .error .dateRange := by
  have row_error (r : ReconciliationResult) : rowError r ≠ some .dateRange := by
    unfold rowError
    split_ifs <;> simp
  have key_error (r : ReconciliationResult) : foreignKeyError s r ≠ some .dateRange := by
    unfold foreignKeyError
    split_ifs <;> simp
  rw [MatcherWorker.persist, applyDecision]
  intro failed
  split at failed
  · rename_i e eq
    exact row_error _ (Except.error.inj failed ▸ eq)
  · split_ifs at failed
    split at failed
    · rename_i e eq
      exact key_error _ (Except.error.inj failed ▸ eq)
    · cases failed

/-- The sweeper's row transaction leaves the calendar iff the window does not fit. -/
lemma sweepRow_dateRange_iff :
    Sweeper.sweepRow s candidate config waitedAt now draws = .error .dateRange ↔
      ¬WindowFits config candidate.occurredAt := by
  have query : findCounterparties s candidate config = .error .dateRange ↔ _ :=
    findCounterparties_error_iff
  simp only [Sweeper.sweepRow, bind, Except.bind]
  split
  · rename_i e eq
    have := findCounterparties_error_iff.1 eq
    simp [this]
  · rename_i cps eq
    simp only [persist_ne_dateRange, false_iff, not_not]
    by_contra stuck
    simp [query.2 ⟨stuck, rfl⟩] at eq

/-- The matcher's transaction for a first receipt leaves the calendar iff the window does not fit. -/
lemma process_dateRange_iff (found : loadFacts s message.source message.rowId = some candidate)
    (first : message.isDuplicate = false) :
    MatcherWorker.process s message messageId config now draws = .error .dateRange ↔
      ¬WindowFits config candidate.occurredAt := by
  have query : findCounterparties s candidate config = .error .dateRange ↔ _ :=
    findCounterparties_error_iff
  simp only [MatcherWorker.process, found, first, Bool.false_eq_true, if_false, bind, Except.bind]
  split
  · rename_i e eq
    have := findCounterparties_error_iff.1 eq
    simp [this]
  · rename_i cps eq
    have fits : WindowFits config candidate.occurredAt := by
      by_contra stuck
      simp [query.2 ⟨stuck, rfl⟩] at eq
    simp only [fits, not_true_eq_false, iff_false]
    split
    · simp
    · intro failed
      simp only [MatcherWorker.process.write, bind, Except.bind] at failed
      split at failed
      · rename_i e' eq'
        exact persist_ne_dateRange ((Except.error.inj failed) ▸ eq')
      · cases failed

/-- The transactions of a stored row's first receipt and of its sweep stay clear of the date-range
    error iff the drift window around its `occurred_at` fits the calendar. -/
theorem dateRange_iff {side : IngestSource} {row : RawRow}
    (stored : loadFacts s side row.id = some (facts row side)) :
    (MatcherWorker.process s (Ingest.message side (Ingest.firstReceipt row)) messageId config now
          draws ≠ .error .dateRange ∧
        Sweeper.sweepRow s (facts row side) config waitedAt now draws ≠ .error .dateRange) ↔
      WindowFits config row.occurredAt := by
  have matcher : MatcherWorker.process s (Ingest.message side (Ingest.firstReceipt row)) messageId
      config now draws = .error .dateRange ↔
        ¬WindowFits config (facts row side).occurredAt :=
    process_dateRange_iff stored rfl
  have sweeper : Sweeper.sweepRow s (facts row side) config waitedAt now draws =
      .error .dateRange ↔ ¬WindowFits config (facts row side).occurredAt :=
    sweepRow_dateRange_iff
  rw [ne_eq, ne_eq, matcher, sweeper, not_not, and_self]
  rfl

end

/-! A payment dated thirty seconds before the end of the calendar. -/

namespace Sample

def lastMinute : Datetime where
  us := Datetime.horizon - 30000000
  nonneg := by decide
  bounded := by decide

def lastPayload : GatewayWebhookIn :=
  { Ingest.Sample.payload with occurredAt := .utc lastMinute }

def lastRow : RawRow :=
  Ingest.gatewayRow 1 lastPayload "key-1" "null" lastMinute Ingest.Sample.draws

end Sample

/-- An accepted and stored payment whose first receipt fails in the matcher, and whose sweep fails. -/
theorem last_minute_payment_fails :
    ∃ s' outcome, Ingest.ingestGateway Ingest.Sample.store 1 Sample.lastPayload "key-1" "null"
          Ingest.Sample.draws = .ok (s', outcome) ∧
      s'.raw .gateway = [Sample.lastRow] ∧
      s'.outboxEvents.map (·.payload) =
        [Ingest.message .gateway (Ingest.firstReceipt Sample.lastRow)] ∧
      MatcherWorker.process s' (Ingest.message .gateway (Ingest.firstReceipt Sample.lastRow)) none
        .shipped (.newYear 9) Sample.draws = .error .dateRange ∧
      Sweeper.sweepRow s' (facts Sample.lastRow .gateway) .shipped (.newYear 9) (.newYear 9)
        Sample.draws = .error .dateRange :=
  ⟨_, _, rfl, by decide, by decide, rfl, rfl⟩

theorem dateRange_iff_sample :
    (MatcherWorker.process Sample.store (Ingest.message .gateway (Ingest.firstReceipt Sample.row))
          none .shipped (.newYear 9) Sample.draws ≠ .error .dateRange ∧
        Sweeper.sweepRow Sample.store (facts Sample.row .gateway) .shipped (.newYear 9) (.newYear 9)
          Sample.draws ≠ .error .dateRange) ↔
      WindowFits .shipped Sample.row.occurredAt :=
  dateRange_iff (by decide)

end Persist
end LedgerLoop
