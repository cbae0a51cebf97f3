import LedgerLoop.Frontend.Wire
import LedgerLoop.Library.DecimalRound
import LedgerLoop.Services.Queries
import LedgerLoop.Worker.Submitted

/-!
# The load generator

Port of `scripts/generate_load.py`: the planner, which fabricates transactions and records in `GroundTruth`
what the engine should make of each (`record`), the requests its senders post, and the comparison with the
engine's counts (`printVerification`).

What the random generator and the clock return is a `Draws`, one for each transaction, so that a run of the
planner is a function of a list of them. `none` is an exception. `posted` is what the senders' requests store
when the API takes them; the senders drain the queues concurrently, so only up to order.
-/

set_option autoImplicit false

namespace LedgerLoop
open Library

namespace GenerateLoad

/-- `EXACT_WINDOW_S`. -/
def exactWindowS : ℚ := 2

/-- `DRIFT_WINDOW_S`. -/
def driftWindowS : ℚ := 60

/-- `AMOUNT_DRIFT_PCT`. -/
def amountDriftPct : Decimal := ⟨1, -2⟩

/-- `AMOUNT_DRIFT_ABS`. -/
def amountDriftAbs : Decimal := ⟨1000, -2⟩

/-- `GroundTruth`, without what counts requests. -/
structure GroundTruth where
  matched : ℕ := 0
  matchedExact : ℕ := 0
  matchedTimeDrift : ℕ := 0
  amountDrift : ℕ := 0
  unmatchedGatewayOnly : ℕ := 0
  unmatchedLedgerOnly : ℕ := 0
  duplicates : ℕ := 0
  transactionsPlanned : ℕ := 0
deriving DecidableEq, Repr

namespace GroundTruth

/-- `expected_results`. -/
def expectedResults (truth : GroundTruth) : ℕ :=
  truth.matched + truth.amountDrift + truth.unmatchedGatewayOnly + truth.unmatchedLedgerOnly + truth.duplicates

/-- `expected_active`. -/
def expectedActive (truth : GroundTruth) : ℕ :=
  truth.matched + truth.amountDrift + truth.unmatchedGatewayOnly + truth.unmatchedLedgerOnly

/-- `expected_match_rate`. -/
def expectedMatchRate (truth : GroundTruth) : ℚ :=
  if truth.expectedActive = 0 then 0 else Binary64.nearest (truth.matched / truth.expectedActive)

end GroundTruth

/-- What a plan depends on of `Config`. -/
structure Config where
  dropRate : ℚ
  duplicateRate : ℚ
  driftRate : ℚ
  currency : String
deriving DecidableEq, Repr

/-- `PlannedTxn`. -/
structure PlannedTxn where
  txnId : String
  amount : Decimal
  ledgerAmount : Decimal
  currency : String
  occurredAt : Datetime
  ledgerOccurredAt : Datetime
  idempotencyKey : String
  entryId : String
  duplicate : Bool
  dropped : Bool
deriving DecidableEq, Repr

/-- What a transaction draws: `Decimal(rng.uniform(50, 50_000))`, the clock, the three chances,
    `Decimal(str(rng.uniform(0.002, 0.008)))`, the chance of its sign, and the skew as a `timedelta`. -/
structure Draws where
  amount : Decimal
  now : Datetime
  drop : ℚ
  duplicate : ℚ
  drift : ℚ
  fraction : Decimal
  sign : ℚ
  skew : Timedelta
deriving DecidableEq, Repr

/-- `_money`. -/
def money (value : Decimal) : Option Decimal := value.quantize (-2)

/-- `f"{seq:08d}"`. -/
def eightDigits (seq : ℕ) : String := String.ofList ((Nat.toDigits 10 seq).leftpad 8 '0')

/-- The ledger amount of a transaction, drifted or not. -/
def ledgerAmountOf (cfg : Config) (draws : Draws) (amount : Decimal) : Option Decimal :=
  if draws.drift < cfg.driftRate then
    let fraction := draws.fraction.mul ⟨if draws.sign < 1 / 2 then 1 else -1, 0⟩
    (money (amount.add (amount.mul fraction))).bind fun ledgerAmount =>
      -- tiny amounts can round the drift away
      if ledgerAmount.toRat = amount.toRat then money (amount.add ⟨1, -2⟩) else some ledgerAmount
  else some amount

/-- `f"TXN-{run_id}-{seq:08d}"`. -/
def txnIdOf (runId : String) (seq : ℕ) : String := "TXN-" ++ runId ++ "-" ++ eightDigits seq

/-- `plan_transaction`. -/
def planTransaction (cfg : Config) (draws : Draws) (seq : ℕ) (runId : String) : Option PlannedTxn := do
  let txnId := txnIdOf runId seq
  let amount ← money draws.amount
  let ledgerAmount ← ledgerAmountOf cfg draws amount
  let ledgerOccurredAt ← (draws.now.add draws.skew).toOption
  some
    { txnId := txnId
      amount := amount
      ledgerAmount := ledgerAmount
      currency := cfg.currency
      occurredAt := draws.now
      ledgerOccurredAt := ledgerOccurredAt
      idempotencyKey := "gw-" ++ txnId
      entryId := "LEDG-" ++ runId ++ "-" ++ eightDigits seq
      duplicate := draws.duplicate < cfg.duplicateRate
      dropped := draws.drop < cfg.dropRate }

/-- What `classify` returns. -/
inductive Verdict where
  | matchedExact
  | matchedTimeDrift
  | amountDrift
  | unmatchedGatewayOnly
  | unmatchedBoth
deriving DecidableEq, Repr

/-- `classify`. -/
def classify (txn : PlannedTxn) : Verdict :=
  if txn.dropped then .unmatchedGatewayOnly
  else
    let dt := |(txn.ledgerOccurredAt.diff txn.occurredAt).totalSeconds|
    if driftWindowS < dt then .unmatchedBoth
    else if txn.ledgerAmount.toRat ≠ txn.amount.toRat then
      let tolerance := (txn.amount.abs.mul amountDriftPct).max amountDriftAbs
      if (txn.amount.sub txn.ledgerAmount).abs.toRat ≤ tolerance.toRat then .amountDrift else .unmatchedBoth
    else if dt ≤ exactWindowS then .matchedExact
    else .matchedTimeDrift

/-- The branches of `record` on the verdict. -/
def GroundTruth.add (truth : GroundTruth) : Verdict → GroundTruth
  | .matchedExact => { truth with matched := truth.matched + 1, matchedExact := truth.matchedExact + 1 }
  | .matchedTimeDrift => { truth with matched := truth.matched + 1, matchedTimeDrift := truth.matchedTimeDrift + 1 }
  | .amountDrift => { truth with amountDrift := truth.amountDrift + 1 }
  | .unmatchedGatewayOnly => { truth with unmatchedGatewayOnly := truth.unmatchedGatewayOnly + 1 }
  | .unmatchedBoth =>
    { truth with
      unmatchedGatewayOnly := truth.unmatchedGatewayOnly + 1
      unmatchedLedgerOnly := truth.unmatchedLedgerOnly + 1 }

/-- `record`. -/
def record (truth : GroundTruth) (txn : PlannedTxn) : GroundTruth :=
  let truth := truth.add (classify txn)
  if txn.duplicate then { truth with duplicates := truth.duplicates + 1 } else truth

/-- The variables of `planner`, and what it has put into the queues. -/
structure Planner where
  truth : GroundTruth := {}
  seq : ℕ := 0
  gatewayQueue : List PlannedTxn := []
  ledgerQueue : List PlannedTxn := []
deriving DecidableEq, Repr

/-- An iteration of `planner`. -/
def turn (cfg : Config) (runId : String) (state : Planner) (draws : Draws) : Option Planner :=
  (planTransaction cfg draws state.seq runId).map fun txn =>
    let truth := record state.truth txn
    { truth := { truth with transactionsPlanned := truth.transactionsPlanned + 1 }
      seq := state.seq + 1
      gatewayQueue := state.gatewayQueue ++ [txn]
      ledgerQueue := if txn.dropped then state.ledgerQueue else state.ledgerQueue ++ [txn] }

/-- `planner`, as many iterations as there are draws. -/
def planner (cfg : Config) (runId : String) (draws : List Draws) : Option Planner :=
  draws.foldlM (turn cfg runId) {}

/-! ## The requests -/

/-- The JSON of `gateway_body`; `isoformat` of a UTC instant is read as the instant. -/
structure GatewayBody where
  txnId : String
  amount : String
  currency : String
  occurredAt : AwareDatetime
  gatewayRef : String

/-- `gateway_body`. -/
def gatewayBody (txn : PlannedTxn) : GatewayBody where
  txnId := txn.txnId
  amount := txn.amount.str
  currency := txn.currency
  occurredAt := .utc txn.occurredAt
  gatewayRef := "REF-" ++ txn.txnId

/-- The JSON of `ledger_body`. -/
structure LedgerBody where
  entryId : String
  txnId : String
  amount : String
  currency : String
  occurredAt : AwareDatetime
  idempotencyKey : String

/-- `ledger_body`. -/
def ledgerBody (txn : PlannedTxn) : LedgerBody where
  entryId := txn.entryId
  txnId := txn.txnId
  amount := txn.ledgerAmount.str
  currency := txn.currency
  occurredAt := .utc txn.ledgerOccurredAt
  idempotencyKey := "ld-" ++ txn.txnId

/-- `MoneyField` and `_non_zero`. -/
def moneyField (text : String) : Option { m : Money // m.minor ≠ 0 } :=
  ((Decimal.ofText text.toList).bind Money.ofDecimal).bind fun m => if h : m.minor ≠ 0 then some ⟨m, h⟩ else none

/-- `ShortIdField` and `IdemKeyField`. -/
def textField (n : ℕ) (text : String) : Option { s : String // HasLength n s } :=
  if h : HasLength n text then some ⟨text, h⟩ else none

/-- `CurrencyField`. -/
def currencyField (text : String) : Option { s : String // IsCurrency s } :=
  if h : IsCurrency text then some ⟨text, h⟩ else none

/-- The request model `GatewayWebhookIn`. -/
def GatewayBody.validate (body : GatewayBody) : Option GatewayWebhookIn := do
  let ⟨txnId, short⟩ ← textField 128 body.txnId
  let ⟨amount, nonzero⟩ ← moneyField body.amount
  let ⟨currency, iso⟩ ← currencyField body.currency
  let ⟨gatewayRef, short'⟩ ← textField 128 body.gatewayRef
  some ⟨txnId, amount, currency, body.occurredAt, gatewayRef, short, nonzero, iso, short'⟩

/-- The request model `LedgerEntryIn`. -/
def LedgerBody.validate (body : LedgerBody) : Option LedgerEntryIn := do
  let ⟨entryId, short⟩ ← textField 128 body.entryId
  let ⟨txnId, short'⟩ ← textField 128 body.txnId
  let ⟨amount, nonzero⟩ ← moneyField body.amount
  let ⟨currency, iso⟩ ← currencyField body.currency
  let ⟨idempotencyKey, short''⟩ ← textField 255 body.idempotencyKey
  some ⟨entryId, txnId, amount, currency, body.occurredAt, idempotencyKey, short, short', nonzero, iso, short''⟩

/-- What a request of `gateway_sender` submits, if the API takes it. -/
def gatewayPost (txn : PlannedTxn) : Option Submission :=
  (Frontend.getIdempotencyKey txn.idempotencyKey.toList).bind fun key =>
    (gatewayBody txn).validate.map fun body => ⟨.gateway, String.ofList key, body.content⟩

/-- What an entry of a batch of `ledger_sender` submits, if the API takes it. -/
def ledgerPost (txn : PlannedTxn) : Option Submission := (ledgerBody txn).validate.map LedgerEntryIn.submission

/-- How often `gateway_sender` posts a transaction. -/
def attempts (txn : PlannedTxn) : ℕ := if txn.duplicate then 2 else 1

/-- What the senders submit of what is queued. -/
def Planner.posted (state : Planner) : List Submission :=
  state.gatewayQueue.flatMap (fun txn => (gatewayPost txn).toList.flatMap (List.replicate (attempts txn))) ++
    state.ledgerQueue.flatMap fun txn => (ledgerPost txn).toList

/-- Every request is accepted: the run ends without `http_errors`. -/
structure Planner.Accepted (state : Planner) : Prop where
  gateway : ∀ txn ∈ state.gatewayQueue, (gatewayPost txn).isSome = true
  ledger : ∀ txn ∈ state.ledgerQueue, (ledgerPost txn).isSome = true

/-! ## The comparison -/

/-- The lines of `print_verification`: a label, what was injected, and what the engine counts. -/
def verificationRows (truth : GroundTruth) (stats : StatsOut) : List (String × ℕ × ℕ) :=
  [("matched", truth.matched, stats.row.matched),
    ("amount drift", truth.amountDrift, stats.row.drift),
    ("unmatched", truth.unmatchedGatewayOnly + truth.unmatchedLedgerOnly, stats.row.unmatched),
    ("duplicates", truth.duplicates, stats.row.duplicates)]

/-- `print_verification`: every count agrees. -/
def printVerification (truth : GroundTruth) (stats : StatsOut) : Bool :=
  (verificationRows truth stats).all fun line => (line.2.2 : ℤ) - line.2.1 == 0

/-! ## What is queued -/

/-- What the planner has queued after some iterations. -/
structure Planner.Queued (runId : String) (state : Planner) : Prop where
  ids : state.gatewayQueue.map PlannedTxn.txnId = (List.range state.seq).map (txnIdOf runId)
  ledger : state.ledgerQueue = state.gatewayQueue.filter (!·.dropped)
  keys : ∀ txn ∈ state.gatewayQueue, txn.idempotencyKey = "gw-" ++ txn.txnId
  amounts : ∀ txn ∈ state.gatewayQueue, txn.amount.exp = -2 ∧ txn.ledgerAmount.exp = -2

section Planning
variable {cfg : Config} {runId : String} {draws : Draws} {seq i j : ℕ} {txn : PlannedTxn} {state next : Planner}

/-- The number of a transaction is read off its id. -/
lemma txnIdOf_injective (same : txnIdOf runId i = txnIdOf runId j) : i = j := by
  have value (n : ℕ) : Decimal.value (eightDigits n).toList = n := by
    rw [eightDigits, String.toList_ofList, List.leftpad]
    exact Decimal.value_zeros.trans Decimal.value_toDigits
  have digits : eightDigits i = eightDigits j := by
    rw [txnIdOf, txnIdOf] at same
    apply String.toList_inj.1
    have lists := congrArg String.toList same
    simp only [String.toList_append] at lists
    exact List.append_cancel_left lists
  rw [← value i, digits, value]

/-- What a planned transaction looks like. -/
lemma of_planTransaction (planned : planTransaction cfg draws seq runId = some txn) :
    txn.txnId = txnIdOf runId seq ∧ txn.idempotencyKey = "gw-" ++ txn.txnId ∧ txn.amount.exp = -2 ∧
      txn.ledgerAmount.exp = -2 := by
  obtain ⟨amount, rounded, planned⟩ := Option.bind_eq_some_iff.1 planned
  obtain ⟨ledgerAmount, ledger, planned⟩ := Option.bind_eq_some_iff.1 planned
  obtain ⟨ledgerOccurredAt, _, planned⟩ := Option.bind_eq_some_iff.1 planned
  obtain rfl := Option.some.inj planned
  refine ⟨rfl, rfl, Decimal.exp_of_quantize rounded, ?_⟩
  show ledgerAmount.exp = -2
  unfold ledgerAmountOf at ledger
  by_cases drifted : draws.drift < cfg.driftRate
  · rw [if_pos drifted] at ledger
    obtain ⟨candidate, rounded', ledger⟩ := Option.bind_eq_some_iff.1 ledger
    by_cases same : candidate.toRat = amount.toRat
    · rw [if_pos same] at ledger
      exact Decimal.exp_of_quantize ledger
    · rw [if_neg same] at ledger
      rw [← Option.some.inj ledger]
      exact Decimal.exp_of_quantize rounded'
  · rw [if_neg drifted] at ledger
    rw [← Option.some.inj ledger]
    exact Decimal.exp_of_quantize rounded

/-- An iteration queues one transaction more. -/
lemma Planner.Queued.turn (queued : state.Queued runId) (ok : turn cfg runId state draws = some next) :
    next.Queued runId := by
  obtain ⟨txn, planned, rfl⟩ := Option.map_eq_some_iff.1 ok
  obtain ⟨txnId, key, amount, ledgerAmount⟩ := of_planTransaction planned
  refine ⟨?_, ?_, ?_, ?_⟩
  · rw [List.range_succ, List.map_append, List.map_append, queued.ids, List.map_singleton, List.map_singleton, txnId]
  · rw [List.filter_append, ← queued.ledger]
    cases dropped : txn.dropped with
    | true => simp [dropped]
    | false => simp [dropped]
  · intro txn' mem
    rcases List.mem_append.1 mem with mem | mem
    · exact queued.keys txn' mem
    · rw [List.mem_singleton.1 mem]
      exact key
  · intro txn' mem
    rcases List.mem_append.1 mem with mem | mem
    · exact queued.amounts txn' mem
    · rw [List.mem_singleton.1 mem]
      exact ⟨amount, ledgerAmount⟩

/-- A property every iteration keeps holds when the planner is through. -/
lemma planner_induction {I : Planner → Prop} {all : List Draws} (start : I {})
    (step : ∀ state draws next, I state → turn cfg runId state draws = some next → I next)
    (planned : planner cfg runId all = some state) : I state := by
  have from_ (all : List Draws) : ∀ initial, I initial → all.foldlM (GenerateLoad.turn cfg runId) initial = some state →
      I state := by
    induction all with
    | nil =>
      intro initial holds eq
      rw [← Option.some.inj eq]
      exact holds
    | cons draws all ih =>
      intro initial holds eq
      obtain ⟨next, ok, rest⟩ := Option.bind_eq_some_iff.1 eq
      exact ih next (step initial draws next holds ok) rest
  exact from_ all {} start planned

/-- What a planner that is through has queued. -/
lemma planner_queued {all : List Draws} (planned : planner cfg runId all = some state) : state.Queued runId := by
  have start : Planner.Queued runId {} := ⟨rfl, rfl, by simp, by simp⟩
  exact planner_induction start (fun _ _ _ queued ok => queued.turn ok) planned

/-- Transactions are told apart by their ids. -/
lemma Planner.Queued.distinct (queued : state.Queued runId) : (state.gatewayQueue.map PlannedTxn.txnId).Nodup := by
  rw [queued.ids]
  exact List.nodup_range.map fun _ _ => txnIdOf_injective

end Planning

end GenerateLoad
end LedgerLoop
