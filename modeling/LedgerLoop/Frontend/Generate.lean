import LedgerLoop.Frontend.Wire
import LedgerLoop.Services.Queries

/-!
# Synthetic streams with a ground truth

Port of `lib/generate.ts` and of the panel in `screens/Dashboard.tsx` that compares what was injected with
what the backend reports. A number is a double: a rational that every arithmetic operation rounds by
`Binary64.nearest`, where integers below `2 ^ 53` and comparisons are exact.

The functions of `Math` whose results the language leaves to the implementation, the radix 36 rendering of
a number and the two readings of the clock are the `Host` the generator runs on.
-/

set_option autoImplicit false

namespace LedgerLoop.Frontend
open Library JsText Binary64

/-- `BackendRules`. -/
structure BackendRules where
  exactWindowMs : ℤ
  driftWindowMs : ℤ
  amountDriftBps : ℤ
  amountDriftFloor : ℤ
deriving DecidableEq, Repr

/-- `BACKEND_RULES`. -/
def backendRules : BackendRules where
  exactWindowMs := 2000
  driftWindowMs := 60000
  amountDriftBps := 100
  amountDriftFloor := 1000

/-- `PlannedTxn`. -/
structure PlannedTxn where
  amount : ℤ
  ledgerAmount : ℤ
  occurredAt : ℤ
  ledgerOccurredAt : ℤ
  dropped : Bool
deriving DecidableEq, Repr

/-- The union `Verdict`. -/
inductive TruthVerdict where
  | matchedExact
  | matchedTimeDrift
  | amountDrift
  | unmatchedGatewayOnly
  | unmatchedBoth
deriving DecidableEq, Repr

/-- `classify`. -/
def classify (txn : PlannedTxn) (rules : BackendRules) : TruthVerdict :=
  if txn.dropped then .unmatchedGatewayOnly
  else
    let dt := |nearest ((txn.ledgerOccurredAt - txn.occurredAt : ℤ) : ℚ)|
    if rules.driftWindowMs < dt then .unmatchedBoth
    else if txn.ledgerAmount ≠ txn.amount then
      let tolerance := max (nearest (|txn.amount| * rules.amountDriftBps : ℚ))
        (nearest (rules.amountDriftFloor * 10000 : ℚ))
      if nearest (|nearest ((txn.amount - txn.ledgerAmount : ℤ) : ℚ)| * 10000) ≤ tolerance then .amountDrift
      else .unmatchedBoth
    else if dt ≤ rules.exactWindowMs then .matchedExact
    else .matchedTimeDrift

/-- `GeneratorConfig`. -/
structure GeneratorConfig where
  count : ℚ
  dropRate : ℚ
  duplicateRate : ℚ
  driftRate : ℚ
  timeSkewMs : ℚ
  currency : JsText
  seed : ℚ
  anchorMs : Option ℚ
deriving DecidableEq, Repr

/-- `GroundTruth`. -/
structure GroundTruth where
  matchedExact : ℕ := 0
  matchedTimeDrift : ℕ := 0
  amountDrift : ℕ := 0
  unmatchedGatewayOnly : ℕ := 0
  unmatchedBoth : ℕ := 0
  duplicates : ℕ := 0
  gatewayRows : ℕ := 0
  ledgerRows : ℕ := 0
deriving DecidableEq, Repr

/-- `GeneratedRun`. -/
structure GeneratedRun where
  gateway : List SourceRow
  ledger : List SourceRow
  truth : GroundTruth
  runId : JsText
deriving DecidableEq, Repr

/-- What the generator takes from its environment: `Math.log`, `Math.sqrt` and `Math.cos`, `toString(36)`,
    and `Date.now()` for the run id and for the default anchor. -/
structure Host where
  log : ℚ → ℚ
  sqrt : ℚ → ℚ
  cos : ℚ → ℚ
  radix36 : ℚ → JsText
  idNow : ℤ
  anchorNow : ℤ
  radix36_printable : ∀ n, ∀ u ∈ radix36 n, 32 < u.toNat ∧ u.toNat < 127

/-- `seed >>> 0`. -/
def toUint32 (n : ℚ) : UInt32 := UInt32.ofNat (truncate n % 2 ^ 32).toNat

/-- One call of what `rng` returns: the number, and the state it leaves. -/
def nextRandom (a : UInt32) : ℚ × UInt32 :=
  let a := a + 0x6d2b79f5
  let t := (a ^^^ (a >>> 15)) * (1 ||| a)
  let t := (t + (t ^^^ (t >>> 7)) * (61 ||| t)) ^^^ t
  (((t ^^^ (t >>> 14)).toNat : ℚ) / 4294967296, a)

/-- `Math.PI`. -/
def pi : ℚ := 884279719003555 / 281474976710656

/-- `gauss`. -/
def gauss (host : Host) (a : UInt32) (mean stdDev : ℚ) : ℚ × UInt32 :=
  let first := nextRandom a
  let u := max first.1 (1 / 2 ^ 52)
  let v := nextRandom first.2
  let radius := host.sqrt (nearest (-2 * host.log u))
  let angle := host.cos (nearest (nearest (2 * pi) * v.1))
  (nearest (mean + nearest (nearest (stdDev * radius) * angle)), v.2)

/-- `Math.round`: to the nearest integer, a half goes up. -/
def round (x : ℚ) : ℤ := ⌊x + 1 / 2⌋

/-- `a + b` of two integers, which is an integer. -/
def plus (a b : ℤ) : ℤ := ⌊nearest ((a + b : ℤ) : ℚ)⌋

/-- `s.toUpperCase()` of ASCII text. -/
def toUpperCase (s : JsText) : JsText :=
  s.map fun u => if unit 'a' ≤ u && u ≤ unit 'z' then u - 32 else u

/-- `n.toString(36).toUpperCase().slice(-4)`. -/
def shortCode (host : Host) (n : ℚ) : JsText :=
  let s := toUpperCase (host.radix36 n)
  s.drop (s.length - 4)

/-- The instants of a run: where it starts and how far its transactions are apart. -/
structure Spread where
  startAt : ℚ
  step : ℚ
deriving DecidableEq, Repr

/-- `startAt` and `step` of `generate`. -/
def spread (host : Host) (cfg : GeneratorConfig) : Spread :=
  let spanMs := min (6 * 3600000) (max 60000 (nearest (cfg.count * 100)))
  { startAt := nearest (cfg.anchorMs.getD host.anchorNow - spanMs)
    step := nearest (spanMs / max 1 cfg.count) }

/-- What `generate` draws for one transaction. -/
structure Draw where
  txn : PlannedTxn
  duplicate : Bool
deriving DecidableEq, Repr

/-- The ledger amount of a transaction marked as drifted, of two more draws. -/
def driftedAmount (amount : ℤ) (size sign : ℚ) : ℤ :=
  let fraction := nearest (nearest (nearest (2 / 1000) + nearest (size * nearest (6 / 1000))) *
    if sign < 1 / 2 then 1 else -1)
  let ledgerAmount := round (nearest (amount * nearest (1 + fraction)))
  if ledgerAmount = amount then plus amount 1 else ledgerAmount

/-- The draws of the `i`-th turn of the loop of `generate`, each with the state it leaves. -/
def drawTxn (host : Host) (cfg : GeneratorConfig) (i : ℕ) (a : UInt32) : Draw × UInt32 :=
  let s := spread host cfg
  let price := nextRandom a
  let amount := plus 5000 ⌊nearest (price.1 * 4995000)⌋
  let within := nextRandom price.2
  let occurredAt := round (nearest (nearest (s.startAt + nearest (i * s.step)) + nearest (within.1 * s.step)))
  let drop := nextRandom within.2
  let retry := nextRandom drop.2
  let drift := nextRandom retry.2
  let size := nextRandom drift.2
  let sign := nextRandom size.2
  -- the last two are drawn for a drift only
  let drifted := decide (drift.1 < cfg.driftRate)
  let skew := gauss host (if drifted then sign.2 else drift.2) cfg.timeSkewMs
    (max (nearest (cfg.timeSkewMs * nearest (3 / 10))) 1)
  ({ txn :=
      { amount := amount
        ledgerAmount := if drifted then driftedAmount amount size.1 sign.1 else amount
        occurredAt := occurredAt
        ledgerOccurredAt := plus occurredAt (round skew.1)
        dropped := decide (drop.1 < cfg.dropRate) }
     duplicate := decide (retry.1 < cfg.duplicateRate) }, skew.2)

/-- `truth` with one more verdict. -/
def GroundTruth.add (truth : GroundTruth) : TruthVerdict → GroundTruth
  | .matchedExact => { truth with matchedExact := truth.matchedExact + 1 }
  | .matchedTimeDrift => { truth with matchedTimeDrift := truth.matchedTimeDrift + 1 }
  | .amountDrift => { truth with amountDrift := truth.amountDrift + 1 }
  | .unmatchedGatewayOnly => { truth with unmatchedGatewayOnly := truth.unmatchedGatewayOnly + 1 }
  | .unmatchedBoth => { truth with unmatchedBoth := truth.unmatchedBoth + 1 }

/-- The transaction id of the `i`-th turn. -/
def txnIdOf (runId : JsText) (i : ℕ) : JsText := lit "TXN-" ++ runId ++ unit '-' :: pad 6 i

/-- The gateway row of a transaction. -/
def gatewayRowOf (cfg : GeneratorConfig) (runId : JsText) (i line : ℕ) (d : Draw) : SourceRow where
  side := .gateway
  line := line
  txnId := txnIdOf runId i
  amount := d.txn.amount
  currency := cfg.currency
  occurredAt := d.txn.occurredAt
  idempotencyKey := lit "gw-" ++ runId ++ unit '-' :: txnIdOf runId i

/-- The ledger row of a transaction. -/
def ledgerRowOf (cfg : GeneratorConfig) (runId : JsText) (i line : ℕ) (d : Draw) : SourceRow where
  side := .ledger
  line := line
  txnId := txnIdOf runId i
  amount := d.txn.ledgerAmount
  currency := cfg.currency
  occurredAt := d.txn.ledgerOccurredAt
  idempotencyKey := lit "ldg-" ++ runId ++ unit '-' :: txnIdOf runId i

/-- The variables of the loop. -/
structure LoopVars where
  random : UInt32
  line : ℕ := 1
  gateway : List SourceRow := []
  ledger : List SourceRow := []
  truth : GroundTruth := {}
deriving DecidableEq, Repr

/-- One turn of the loop of `generate`. -/
def turn (host : Host) (cfg : GeneratorConfig) (rules : BackendRules) (runId : JsText) (vars : LoopVars)
    (i : ℕ) : LoopVars :=
  let drawn := drawTxn host cfg i vars.random
  let d := drawn.1
  let retries := if d.duplicate then 1 else 0
  let truth := vars.truth.add (classify d.txn rules)
  let afterGateway := vars.line + 1 + retries
  { random := drawn.2
    line := if d.txn.dropped then afterGateway else afterGateway + 1
    gateway := vars.gateway ++ gatewayRowOf cfg runId i vars.line d ::
      if d.duplicate then [gatewayRowOf cfg runId i (vars.line + 1) d] else []
    ledger := if d.txn.dropped then vars.ledger
      else vars.ledger ++ [ledgerRowOf cfg runId i afterGateway d]
    truth := { truth with duplicates := truth.duplicates + retries } }

/-- `runId` of `generate`. -/
def runIdOf (host : Host) (cfg : GeneratorConfig) : JsText :=
  shortCode host cfg.seed ++ shortCode host host.idNow

/-- `generate`. -/
def generate (host : Host) (cfg : GeneratorConfig) (rules : BackendRules := backendRules) : GeneratedRun :=
  let runId := runIdOf host cfg
  let vars := (List.range ⌈cfg.count⌉₊).foldl (turn host cfg rules runId) { random := toUint32 cfg.seed }
  { gateway := vars.gateway
    ledger := vars.ledger
    truth := { vars.truth with gatewayRows := vars.gateway.length, ledgerRows := vars.ledger.length }
    runId := runId }

/-- `TruthCheck`. -/
structure TruthCheck where
  label : String
  injected : ℕ
  detected : ℕ
  agrees : Bool
  hint : String
deriving DecidableEq, Repr

/-- `DetectedCounts`. -/
structure DetectedCounts where
  matchedExact : ℕ
  matchedTimeDrift : ℕ
  amountDrift : ℕ
  unmatchedGateway : ℕ
  unmatchedLedger : ℕ
  duplicates : ℕ
deriving DecidableEq, Repr

/-- A line of the comparison. -/
def truthLine (label : String) (injected detected : ℕ) (hint : String) : TruthCheck :=
  ⟨label, injected, detected, injected == detected, hint⟩

/-- `compareToTruth`. -/
def compareToTruth (truth : GroundTruth) (detected : DetectedCounts) : List TruthCheck :=
  [truthLine "Matched · exact" truth.matchedExact detected.matchedExact "layer 1 — same amount, within 2s",
    truthLine "Matched · time drift" truth.matchedTimeDrift detected.matchedTimeDrift
      "layer 2 — same amount, within 60s",
    truthLine "Amount drift" truth.amountDrift detected.amountDrift
      "layer 3 — inside tolerance, still an exception",
    truthLine "Unmatched · gateway" (truth.unmatchedGatewayOnly + truth.unmatchedBoth) detected.unmatchedGateway
      "dropped ledger rows plus both-sided breaks",
    truthLine "Unmatched · ledger" truth.unmatchedBoth detected.unmatchedLedger
      "the ledger half of each both-sided break",
    truthLine "Duplicates" truth.duplicates detected.duplicates
      "layer 4 — repeat idempotency keys, suppressed"]

/-- The counts the dashboard takes from the stats. -/
def detectedCounts (stats : StatsOut) : DetectedCounts where
  matchedExact := stats.row.matched - stats.row.viaTimeDrift
  matchedTimeDrift := stats.row.viaTimeDrift
  amountDrift := stats.row.drift
  unmatchedGateway := stats.row.unmatchedGateway
  unmatchedLedger := stats.row.unmatchedLedger
  duplicates := stats.row.duplicates

/-! ## What the loop emits -/

/-- A row without its line number, which nothing reads that is sent. -/
def SourceRow.unlined (row : SourceRow) : SourceRow := { row with line := 0 }

section Emitted
variable (cfg : GeneratorConfig) (rules : BackendRules) (runId : JsText)

/-- The gateway rows of one turn. -/
def gatewayRowsOf (p : ℕ × Draw) : List SourceRow :=
  gatewayRowOf cfg runId p.1 0 p.2 :: if p.2.duplicate then [gatewayRowOf cfg runId p.1 0 p.2] else []

/-- The ledger rows of one turn. -/
def ledgerRowsOf (p : ℕ × Draw) : List SourceRow :=
  if p.2.txn.dropped then [] else [ledgerRowOf cfg runId p.1 0 p.2]

/-- The number of turns with a verdict. -/
def turnsWith (plan : List (ℕ × Draw)) (verdict : TruthVerdict) : ℕ :=
  plan.countP fun p => classify p.2.txn rules == verdict

/-- The ground truth of a list of turns. -/
def truthOf (plan : List (ℕ × Draw)) : GroundTruth where
  matchedExact := turnsWith rules plan .matchedExact
  matchedTimeDrift := turnsWith rules plan .matchedTimeDrift
  amountDrift := turnsWith rules plan .amountDrift
  unmatchedGatewayOnly := turnsWith rules plan .unmatchedGatewayOnly
  unmatchedBoth := turnsWith rules plan .unmatchedBoth
  duplicates := plan.countP (·.2.duplicate)

/-- The amounts of a draw are positive and far below the largest safe integer. -/
structure Draw.Small (d : Draw) : Prop where
  amount : 5000 ≤ d.txn.amount ∧ d.txn.amount ≤ 5000000
  ledgerAmount : 0 < d.txn.ledgerAmount ∧ d.txn.ledgerAmount < 2 ^ 53

/-- The variables hold what a list of turns emits. -/
structure Emits (plan : List (ℕ × Draw)) (vars : LoopVars) : Prop where
  turns : plan.map Prod.fst = List.range plan.length
  small : ∀ p ∈ plan, p.2.Small
  gateway : vars.gateway.map SourceRow.unlined = plan.flatMap (gatewayRowsOf cfg runId)
  ledger : vars.ledger.map SourceRow.unlined = plan.flatMap (ledgerRowsOf cfg runId)
  truth : vars.truth = truthOf rules plan

end Emitted

section Draws
variable {a : UInt32} {q : ℚ} {n : ℤ} {amount : ℤ}

lemma nextRandom_bounds : 0 ≤ (nextRandom a).1 ∧ (nextRandom a).1 < 1 := by
  rw [nextRandom]
  refine ⟨by positivity, ?_⟩
  rw [div_lt_one (by norm_num)]
  exact_mod_cast UInt32.toNat_lt _

/-- A sum of integers is exact as long as it is safe. -/
lemma plus_eq {b : ℤ} (nonneg : 0 ≤ n + b) (safe : n + b < 2 ^ 53) : plus n b = n + b := by
  obtain ⟨k, eq⟩ := Int.eq_ofNat_of_zero_le nonneg
  have small : k < 2 ^ 53 := by omega
  rw [plus, eq, Int.cast_natCast, nearest_natCast small]
  exact Int.floor_natCast k

/-- Rounding keeps a nonnegative number within a factor of two. -/
lemma nearest_within (nonneg : 0 ≤ q) : q / 2 ≤ nearest q ∧ nearest q ≤ 2 * q := by
  have error := abs_le.1 (abs_nearest_sub_le nonneg)
  have tiny : q / 2 ^ 53 ≤ q / 2 := by
    apply div_le_div_of_nonneg_left nonneg <;> norm_num
  constructor <;> linarith [error.1, error.2]

lemma round_bounds {lo hi : ℤ} (above : (lo : ℚ) ≤ q) (below : q ≤ hi) : lo ≤ round q ∧ round q ≤ hi := by
  constructor
  · exact Int.le_floor.2 (by linarith)
  · have : round q < hi + 1 := Int.floor_lt.2 (by push_cast; linarith)
    omega

/-- A generated amount is 50.00 to 50 000.00. -/
lemma amount_bounds {u : ℚ} (nonneg : 0 ≤ u) (lt : u < 1) :
    5000 ≤ plus 5000 ⌊nearest (u * 4995000)⌋ ∧ plus 5000 ⌊nearest (u * 4995000)⌋ ≤ 5000000 := by
  have top : nearest (u * 4995000) ≤ (4995000 : ℕ) := by
    rw [← nearest_natCast (show 4995000 < 2 ^ 53 by norm_num)]
    exact nearest_mono (by push_cast; linarith)
  have lo : 0 ≤ ⌊nearest (u * 4995000)⌋ := Int.floor_nonneg.2 (nearest_nonneg (by positivity))
  have hi : ⌊nearest (u * 4995000)⌋ ≤ 4995000 := by
    have := Int.floor_mono top
    rwa [Int.floor_natCast] at this
  rw [plus_eq (by omega) (by omega)]
  omega

/-- The factor of a drifted amount is about one. -/
lemma drift_bounds {size sign : ℚ} (nonneg : 0 ≤ size) (lt : size < 1) (unit_ : |sign| = 1) :
    2 / 5 ≤ nearest (1 + nearest (nearest (nearest (2 / 1000) + nearest (size * nearest (6 / 1000))) * sign)) ∧
      nearest (1 + nearest (nearest (nearest (2 / 1000) + nearest (size * nearest (6 / 1000))) * sign)) ≤ 5 / 2 := by
  obtain ⟨low, base⟩ := @nearest_within (2 / 1000) (by norm_num)
  obtain ⟨low', spread⟩ := @nearest_within (6 / 1000) (by norm_num)
  have positive : 0 ≤ size * nearest (6 / 1000) := mul_nonneg nonneg (by linarith)
  have part : size * nearest (6 / 1000) ≤ 12 / 1000 := by nlinarith
  obtain ⟨_, part'⟩ := nearest_within positive
  have sum : 0 ≤ nearest (2 / 1000) + nearest (size * nearest (6 / 1000)) :=
    add_nonneg (by linarith) (nearest_nonneg positive)
  obtain ⟨_, sum'⟩ := nearest_within sum
  have total := nearest_nonneg sum
  generalize nearest (nearest (2 / 1000) + nearest (size * nearest (6 / 1000))) = fraction at sum' total ⊢
  have signed : |nearest (fraction * sign)| ≤ 2 * fraction := by
    rw [nearest_abs, abs_mul, unit_, mul_one, abs_of_nonneg total]
    exact (nearest_within total).2
  obtain ⟨lo, hi⟩ := abs_le.1 signed
  obtain ⟨above, below⟩ := @nearest_within (1 + nearest (fraction * sign)) (by linarith)
  constructor <;> linarith

/-- A drifted amount is positive. -/
lemma driftedAmount_bounds {size sign : ℚ} (nonneg : 0 ≤ size) (lt : size < 1) (lo : 5000 ≤ amount)
    (hi : amount ≤ 5000000) : 0 < driftedAmount amount size sign ∧ driftedAmount amount size sign < 2 ^ 53 := by
  have unit_ : |if sign < 1 / 2 then (1 : ℚ) else -1| = 1 := by split_ifs <;> norm_num
  obtain ⟨above, below⟩ := drift_bounds nonneg lt unit_
  simp only [driftedAmount]
  generalize nearest (1 + _) = factor at above below ⊢
  have loQ : (5000 : ℚ) ≤ amount := by exact_mod_cast lo
  have hiQ : (amount : ℚ) ≤ 5000000 := by exact_mod_cast hi
  obtain ⟨low, high⟩ := @nearest_within (amount * factor) (by nlinarith)
  obtain ⟨least, most⟩ := @round_bounds (nearest (amount * factor)) 1000 25000000
    (by push_cast; nlinarith) (by push_cast; nlinarith)
  split_ifs
  · rw [plus_eq (by omega) (by omega)]
    omega
  · omega

/-- Every draw is small. -/
lemma drawTxn_small {host : Host} {cfg : GeneratorConfig} {i : ℕ} : (drawTxn host cfg i a).1.Small := by
  obtain ⟨nonneg, lt⟩ := @nextRandom_bounds a
  have amount := amount_bounds nonneg lt
  refine ⟨amount, ?_⟩
  unfold drawTxn
  dsimp only
  split_ifs
  · obtain ⟨nonneg', lt'⟩ := @nextRandom_bounds
      (nextRandom (nextRandom (nextRandom (nextRandom (nextRandom a).2).2).2).2).2
    exact driftedAmount_bounds nonneg' lt' amount.1 amount.2
  · omega

end Draws

section Loop
variable {host : Host} {cfg : GeneratorConfig} {rules : BackendRules} {runId : JsText}
  {plan : List (ℕ × Draw)} {vars : LoopVars}

/-- The ground truth of one more turn. -/
lemma truthOf_concat {p : ℕ × Draw} : truthOf rules (plan ++ [p]) =
    let truth := (truthOf rules plan).add (classify p.2.txn rules)
    { truth with duplicates := truth.duplicates + if p.2.duplicate then 1 else 0 } := by
  have dup : (plan ++ [p]).countP (·.2.duplicate) = plan.countP (·.2.duplicate) + if p.2.duplicate then 1 else 0 := by
    rw [List.countP_append, List.countP_singleton]
  have one (verdict : TruthVerdict) : turnsWith rules (plan ++ [p]) verdict =
      turnsWith rules plan verdict + if classify p.2.txn rules == verdict then 1 else 0 := by
    rw [turnsWith, List.countP_append, List.countP_singleton]
    rfl
  rw [truthOf, dup]
  simp only [one]
  cases classify p.2.txn rules <;> rfl

/-- One turn emits its rows. -/
lemma Emits.turn (emits : Emits cfg rules runId plan vars) :
    Emits cfg rules runId (plan ++ [(plan.length, (drawTxn host cfg plan.length vars.random).1)])
      (turn host cfg rules runId vars plan.length) where
  turns := by
    rw [List.map_append, emits.turns, List.length_append, List.length_singleton, List.range_succ]
    rfl
  small := by
    intro p mem
    rcases List.mem_append.1 mem with mem | mem
    · exact emits.small p mem
    · exact List.mem_singleton.1 mem ▸ drawTxn_small
  gateway := by
    rw [List.flatMap_append, ← emits.gateway, Frontend.turn]
    simp only [List.map_append, List.map_cons, List.flatMap_singleton, gatewayRowsOf]
    split_ifs <;> rfl
  ledger := by
    rw [List.flatMap_append, ← emits.ledger, Frontend.turn]
    simp only [List.flatMap_singleton, ledgerRowsOf]
    by_cases dropped : (drawTxn host cfg plan.length vars.random).1.txn.dropped = true
    · rw [if_pos dropped, if_pos dropped, List.append_nil]
    · rw [if_neg dropped, if_neg dropped, List.map_append]
      rfl
  truth := by
    rw [truthOf_concat, ← emits.truth]
    rfl

/-- The loop emits the rows of its turns. -/
lemma emits_loop (n : ℕ) (a : UInt32) : ∃ plan, plan.length = n ∧
    Emits cfg rules runId plan ((List.range n).foldl (turn host cfg rules runId) { random := a }) := by
  induction n with
  | zero => exact ⟨[], rfl, ⟨rfl, nofun, rfl, rfl, rfl⟩⟩
  | succ n ih =>
    obtain ⟨plan, rfl, emits⟩ := ih
    rw [List.range_succ, List.foldl_append]
    exact ⟨_, List.length_append, emits.turn⟩

end Loop
end LedgerLoop.Frontend
