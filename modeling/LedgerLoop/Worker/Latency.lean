import LedgerLoop.Worker.Sweeper
import LedgerLoop.Services.IngestCall

/-!
# The range of the latency column

`compute_latency_ms` clamps a negative age to zero but has no upper bound, while `match_latency_ms` is
a 32-bit column. The computation is a chain of monotone steps, so the ages that fit are those below
the first one that does not: 2147483648000 microseconds, a little under twenty-five days.
-/

set_option autoImplicit false

namespace LedgerLoop
open LedgerLoop.Library

namespace Persist

/-- `compute_latency_ms` as a function of the age of the later side. -/
def latencyOfAge (age : Timedelta) : ℤ :=
  max (Binary64.truncate (Binary64.nearest (Timedelta.totalSeconds age * 1000))) 0

/-- The age at which the latency leaves the column, in microseconds. -/
def overflowAge : ℤ := 2147483648000

lemma latencyOfAge_nonneg (age : ℤ) : 0 ≤ latencyOfAge age := le_max_right _ _

/-- An older row never has a smaller latency. -/
lemma latencyOfAge_mono {a b : ℤ} (le : a ≤ b) : latencyOfAge a ≤ latencyOfAge b := by
  have cast : (a : ℚ) ≤ (b : ℚ) := by exact_mod_cast le
  have seconds : Timedelta.totalSeconds a ≤ Timedelta.totalSeconds b :=
    Binary64.nearest_mono (div_le_div_of_nonneg_right cast (by norm_num))
  have millis := Binary64.nearest_mono
    (mul_le_mul_of_nonneg_right seconds (by norm_num : (0 : ℚ) ≤ 1000))
  exact max_le_max_right _ (Binary64.truncate_mono millis)

/-- The oldest row that fits. -/
lemma latencyOfAge_last : latencyOfAge 2147483647999 = 2147483647 := by
  have seconds : Timedelta.totalSeconds 2147483647999 =
      (4611686018425240 : ℤ) * (2 : ℚ) ^ (21 - 52 : ℤ) :=
    Binary64.nearest_eq (by norm_num) (by norm_num) (by norm_num [Binary64.halfEven])
  have millis : Binary64.nearest ((4611686018425240 : ℤ) * (2 : ℚ) ^ (21 - 52 : ℤ) * 1000) =
      (9007199254736797 : ℤ) * (2 : ℚ) ^ (30 - 52 : ℤ) :=
    Binary64.nearest_eq (by norm_num) (by norm_num) (by norm_num [Binary64.halfEven])
  rw [latencyOfAge, seconds, millis]
  norm_num [Binary64.truncate]

/-- The youngest row that does not. -/
lemma latencyOfAge_overflow : latencyOfAge overflowAge = 2147483648 := by
  have seconds : Timedelta.totalSeconds overflowAge =
      (4611686018427388 : ℤ) * (2 : ℚ) ^ (21 - 52 : ℤ) :=
    Binary64.nearest_eq (by norm_num [overflowAge]) (by norm_num [overflowAge])
      (by norm_num [overflowAge, Binary64.halfEven])
  have millis : Binary64.nearest ((4611686018427388 : ℤ) * (2 : ℚ) ^ (21 - 52 : ℤ) * 1000) =
      (4503599627370496 : ℤ) * (2 : ℚ) ^ (31 - 52 : ℤ) :=
    Binary64.nearest_eq (by norm_num) (by norm_num) (by norm_num [Binary64.halfEven])
  rw [latencyOfAge, seconds, millis]
  norm_num [Binary64.truncate]

/-- A latency fits its column iff the age stays below the overflow age. -/
lemma latencyOfAge_le_iff {age : ℤ} : latencyOfAge age ≤ 2147483647 ↔ age < overflowAge := by
  constructor
  · intro fits
    by_contra old
    have := latencyOfAge_mono (not_lt.1 old)
    rw [latencyOfAge_overflow] at this
    omega
  · intro young
    have le : age ≤ 2147483647999 := by
      unfold overflowAge at young
      omega
    have := latencyOfAge_mono le
    rwa [latencyOfAge_last] at this

/-- Some side of the decision arrived less than the overflow age before `now`. -/
def Recent (sides : List TxnFacts) (now : Datetime) : Prop :=
  sides = [] ∨ ∃ f ∈ sides, now.us - f.receivedAt.us < overflowAge

section
variable {s : Store} {candidate first : TxnFacts} {decision : Decision}
  {sides rest : List TxnFacts} {messageId : Option String} {now : Datetime} {draws : Draws}

lemma computeLatencyMs_cons :
    computeLatencyMs decision (first :: rest) now =
      latencyOfAge (now.us - (latestReceipt first rest).us) := rfl

/-- The later arrival is an arrival, and none is later. -/
lemma latestReceipt_spec :
    (∃ f ∈ first :: rest, latestReceipt first rest = f.receivedAt) ∧
      ∀ f ∈ first :: rest, f.receivedAt ≤ latestReceipt first rest := by
  unfold latestReceipt
  induction rest using List.reverseRecOn with
  | nil => simp
  | append_singleton rest g ih =>
    obtain ⟨⟨f, mem, eq⟩, le⟩ := ih
    simp only [List.map_append, List.map_cons, List.map_nil, List.foldl_append, List.foldl_cons,
      List.foldl_nil]
    refine ⟨?_, ?_⟩
    · rcases le_total ((rest.map TxnFacts.receivedAt).foldl max first.receivedAt) g.receivedAt
        with later | earlier
      · exact ⟨g, by simp, max_eq_right later⟩
      · refine ⟨f, ?_, (max_eq_left earlier).trans eq⟩
        rcases List.mem_cons.1 mem with rfl | mem <;> simp_all
    · intro f' mem'
      simp only [List.mem_cons, List.mem_append, List.not_mem_nil, or_false] at mem'
      rcases mem' with rfl | mem' | rfl
      · exact le_max_of_le_left (le _ List.mem_cons_self)
      · exact le_max_of_le_left (le _ (List.mem_cons_of_mem _ mem'))
      · exact le_max_right _ _

lemma computeLatencyMs_nonneg : 0 ≤ computeLatencyMs decision sides now := by
  cases sides with
  | nil => exact le_rfl
  | cons first rest => exact latencyOfAge_nonneg _

/-- The latency stays within the column iff some side is recent. -/
lemma computeLatencyMs_le_iff :
    computeLatencyMs decision sides now ≤ 2147483647 ↔ Recent sides now := by
  cases sides with
  | nil => simp [computeLatencyMs, Recent]
  | cons first rest =>
    obtain ⟨⟨latest, memL, eq⟩, le⟩ := @latestReceipt_spec first rest
    rw [computeLatencyMs_cons, latencyOfAge_le_iff]
    constructor
    · intro young
      exact .inr ⟨latest, memL, eq ▸ young⟩
    · rintro (none | ⟨f, mem, young⟩)
      · cases none
      · have := Datetime.le_iff.1 (le f mem)
        omega

/-- Only a latency that does not fit is refused as one. -/
lemma rowError_latency {r : ReconciliationResult} :
    rowError r = some (.dataError "match_latency_ms") ↔
      (r.matchLatencyMs.any fun ms => ¬FitsInteger ms) = true := by
  unfold rowError
  constructor
  · intro h
    by_contra fits
    rw [if_neg fits] at h
    split_ifs at h <;> simp at h
  · intro unfit
    rw [if_pos unfit]

lemma foreignKeyError_ne_dataError {r : ReconciliationResult} {column : String} :
    foreignKeyError s r ≠ some (.dataError column) := by
  unfold foreignKeyError
  split_ifs <;> simp

/-- A latency past the column's range fails the insert, and nothing else fails it that way. -/
lemma persist_overflow_iff :
    MatcherWorker.persist s candidate decision sides messageId now draws =
        .error (.dataError "match_latency_ms") ↔
      2147483647 < computeLatencyMs decision sides now := by
  have nonneg : 0 ≤ computeLatencyMs decision sides now := computeLatencyMs_nonneg
  have unfit : (resultRow decision candidate.tenantId
      (some (computeLatencyMs decision sides now)) messageId draws).matchLatencyMs.any
        (fun ms => ¬FitsInteger ms) = true ↔ 2147483647 < computeLatencyMs decision sides now := by
    simp [resultRow, FitsInteger]
    omega
  rw [← unfit, ← rowError_latency, MatcherWorker.persist, applyDecision]
  constructor
  · intro failed
    split at failed
    · rename_i e eq
      rw [eq, Except.error.inj failed]
    · split_ifs at failed
      split at failed
      · rename_i e eq
        exact absurd (Except.error.inj failed ▸ eq) foreignKeyError_ne_dataError
      · cases failed
  · intro eq
    simp [eq]

/-- The latency of a decision is in the range of its column iff some side it is about is recent, and
    exactly otherwise is the decision refused for its latency. -/
theorem latency_fits_iff :
    (0 ≤ computeLatencyMs decision sides now ∧ computeLatencyMs decision sides now ≤ 2147483647 ↔
        Recent sides now) ∧
      (MatcherWorker.persist s candidate decision sides messageId now draws =
          .error (.dataError "match_latency_ms") ↔ ¬Recent sides now) := by
  have le_iff : computeLatencyMs decision sides now ≤ 2147483647 ↔ _ := computeLatencyMs_le_iff
  refine ⟨⟨fun h => le_iff.1 h.2, fun h => ⟨computeLatencyMs_nonneg, le_iff.2 h⟩⟩, ?_⟩
  rw [persist_overflow_iff, ← le_iff, not_le]

end

/-! A key submitted again twenty-five days after its row arrived. -/

namespace Sample

def row : RawRow where
  id := 1
  tenantId := 1
  txnId := "txn-1"
  amount := Ingest.Sample.payload.amount
  currency := "USD"
  occurredAt := .newYear 0
  ref := "ref-1"
  rawPayload := .body "{}"
  idempotencyKey := "key-1"
  duplicateCount := 1
  receivedAt := .newYear 0

def store : Store where
  accounts := [Ingest.Sample.account]
  gatewayTransactions := [row]

def message : IngestMessage where
  source := .gateway
  rowId := 1
  txnId := "txn-1"
  isDuplicate := true
  submissions := 2

def late : Datetime where
  us := (Datetime.newYear 0).us + overflowAge
  nonneg := by decide
  bounded := by decide

def draws : Draws where
  resultId := 1
  exceptionId := 1
  now := late
  markedAt := fun _ => late

end Sample

/-- The duplicate marker of an old row has a latency past the column, and is refused for it. -/
theorem late_duplicate_overflows :
    computeLatencyMs (Core.decideDuplicate (facts Sample.row .gateway) 2)
        [facts Sample.row .gateway] Sample.late = 2147483648 ∧
      MatcherWorker.process Sample.store Sample.message none .shipped Sample.late Sample.draws =
        .error (.dataError "match_latency_ms") := by
  have latency : computeLatencyMs (Core.decideDuplicate (facts Sample.row .gateway) 2)
      [facts Sample.row .gateway] Sample.late = 2147483648 := by
    have age : Sample.late.us - (latestReceipt (facts Sample.row .gateway) []).us = overflowAge := by
      decide
    rw [computeLatencyMs_cons, age, latencyOfAge_overflow]
  have refused : MatcherWorker.persist Sample.store (facts Sample.row .gateway)
      (Core.decideDuplicate (facts Sample.row .gateway) 2) [facts Sample.row .gateway] none
      Sample.late Sample.draws = .error (.dataError "match_latency_ms") :=
    persist_overflow_iff.2 (by rw [latency]; norm_num)
  have loaded : loadFacts Sample.store .gateway 1 = some (facts Sample.row .gateway) := by decide
  refine ⟨latency, ?_⟩
  simp only [MatcherWorker.process, Sample.message, loaded, if_true, MatcherWorker.process.write,
    refused, bind, Except.bind]

end Persist
end LedgerLoop
