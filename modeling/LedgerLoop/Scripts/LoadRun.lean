import LedgerLoop.Queue.Pipeline
import LedgerLoop.Scripts.GenerateLoad

/-!
# A load run verifies

The generator predicts with rules of its own: durations as floats, amounts as decimals, and a `GroundTruth` it
keeps while it plans. `PlannedTxn.findings` is what a prediction stands for among the engine's results; the truth
counts these (`planner_counts`), and a drained pipeline that was posted what is queued has found these and no others
(`Planner.findings_perm`). So the two columns of `print_verification` agree.
-/

set_option autoImplicit false

namespace LedgerLoop
open Library

section Seconds
variable {t : Timedelta} {n : ℕ}

/-- A duration in seconds, rounded, is compared with whole seconds as it is. -/
lemma Timedelta.totalSeconds_le_iff (small : n < 2 ^ 32) : |t.totalSeconds| ≤ n ↔ |t| ≤ Timedelta.seconds n := by
  have magnitude : |t.totalSeconds| = Binary64.nearest (((|t| : ℤ) : ℚ) / 1000000) := by
    rw [Timedelta.totalSeconds]
    rcases le_total 0 t with nonneg | nonpos
    · rw [abs_of_nonneg nonneg, abs_of_nonneg]
      apply Binary64.nearest_nonneg
      apply div_nonneg _ (by norm_num)
      exact_mod_cast nonneg
    · rw [abs_of_nonpos nonpos, Int.cast_neg, neg_div, Binary64.nearest_neg, abs_of_nonpos]
      apply Binary64.nearest_nonpos
      apply div_nonpos_of_nonpos_of_nonneg _ (by norm_num)
      exact_mod_cast nonpos
  have bound : (n : ℚ) < 2 ^ 32 := by exact_mod_cast small
  rw [magnitude, Timedelta.seconds]
  constructor
  · intro le
    by_contra more
    -- one microsecond too many is more than half a unit in the last place
    have past : ((n : ℚ) * 1000000 + 1) / 1000000 ≤ ((|t| : ℤ) : ℚ) / 1000000 := by
      apply div_le_div_of_nonneg_right _ (by norm_num)
      exact_mod_cast not_le.1 more
    have near := Binary64.abs_nearest_sub_le (le_trans (by positivity) past)
    have close := (abs_le.1 near).1
    have excess : (n : ℚ) < ((|t| : ℤ) : ℚ) / 1000000 * (1 - 1 / 2 ^ 53) := by
      apply lt_of_lt_of_le _ (mul_le_mul_of_nonneg_right past (by norm_num))
      linarith
    linarith
  · intro le
    rw [← Binary64.nearest_natCast (small.trans (by norm_num))]
    apply Binary64.nearest_mono
    rw [div_le_iff₀ (by norm_num)]
    exact_mod_cast le

end Seconds

namespace GenerateLoad

/-! ## What is posted -/

section Posts
variable {txn : PlannedTxn} {g l : Submission} {d : Decimal}

/-- The larger of two decimals. -/
lemma toRat_max {a b : Decimal} : (a.max b).toRat = max a.toRat b.toRat := by
  unfold Decimal.max
  split_ifs with less
  · rw [max_eq_right less.le]
  · rw [max_eq_left (not_lt.1 less)]

/-- An amount arrives as it is rendered. -/
lemma moneyField_str {m : { m : Money // m.minor ≠ 0 }} (two : d.exp = -2) (read : moneyField d.str = some m) :
    m.1.toDecimal = d := by
  have some_ : 0 < d.digits.length := List.length_pos_iff.2 Nat.toDigits_ne_nil
  rw [moneyField, Decimal.ofText_str (by omega) (by omega), Option.bind_some] at read
  obtain ⟨m', made, read⟩ := Option.bind_eq_some_iff.1 read
  split_ifs at read
  obtain rfl := Option.some.inj read
  have value := Money.ofDecimal_eq_some.1 made
  rw [Decimal.toRat, two] at value
  have minor : d.coeff = m'.minor := by
    have hundred : ((10 : ℚ) ^ (-2 : ℤ)) * 100 = 1 := by norm_num
    rw [mul_assoc, hundred, mul_one] at value
    exact_mod_cast value
  show (⟨m'.minor, -2⟩ : Decimal) = d
  rw [← minor, ← two]

lemma of_textField {n : ℕ} {text : String} {s : { s : String // HasLength n s }} (read : textField n text = some s) :
    s.1 = text := by
  unfold textField at read
  split_ifs at read
  rw [← Option.some.inj read]

lemma of_currencyField {text : String} {s : { s : String // IsCurrency s }} (read : currencyField text = some s) :
    s.1 = text := by
  unfold currencyField at read
  split_ifs at read
  rw [← Option.some.inj read]

/-- What a gateway request submits. -/
lemma of_gatewayPost (two : txn.amount.exp = -2) (posted : gatewayPost txn = some g) : ∃ m : Money,
    m.toDecimal = txn.amount ∧
      g = ⟨.gateway, txn.idempotencyKey, ⟨txn.txnId, m, txn.currency, txn.occurredAt⟩⟩ := by
  obtain ⟨key, header, posted⟩ := Option.bind_eq_some_iff.1 posted
  obtain ⟨body, valid, rfl⟩ := Option.map_eq_some_iff.1 posted
  obtain ⟨txnId, id, valid⟩ := Option.bind_eq_some_iff.1 valid
  obtain ⟨amount, read, valid⟩ := Option.bind_eq_some_iff.1 valid
  obtain ⟨currency, code, valid⟩ := Option.bind_eq_some_iff.1 valid
  obtain ⟨gatewayRef, _, valid⟩ := Option.bind_eq_some_iff.1 valid
  obtain rfl := Option.some.inj valid
  refine ⟨amount.1, moneyField_str two read, ?_⟩
  have same : key = txn.idempotencyKey.toList := by
    unfold Frontend.getIdempotencyKey at header
    split_ifs at header
    exact (Option.some.inj header).symm
  rw [same, String.ofList_toList, GatewayWebhookIn.content, GatewayWebhookIn.instant_eq (AwareDatetime.toUtc_utc _)]
  simp only [of_textField id, of_currencyField code]
  rfl

/-- What an entry of a batch submits. -/
lemma of_ledgerPost (two : txn.ledgerAmount.exp = -2) (posted : ledgerPost txn = some l) : ∃ m : Money,
    m.toDecimal = txn.ledgerAmount ∧
      l = ⟨.ledger, "ld-" ++ txn.txnId, ⟨txn.txnId, m, txn.currency, txn.ledgerOccurredAt⟩⟩ := by
  obtain ⟨entry, valid, rfl⟩ := Option.map_eq_some_iff.1 posted
  obtain ⟨entryId, _, valid⟩ := Option.bind_eq_some_iff.1 valid
  obtain ⟨txnId, id, valid⟩ := Option.bind_eq_some_iff.1 valid
  obtain ⟨amount, read, valid⟩ := Option.bind_eq_some_iff.1 valid
  obtain ⟨currency, code, valid⟩ := Option.bind_eq_some_iff.1 valid
  obtain ⟨key, ref, valid⟩ := Option.bind_eq_some_iff.1 valid
  obtain rfl := Option.some.inj valid
  refine ⟨amount.1, moneyField_str two read, ?_⟩
  rw [LedgerEntryIn.submission, LedgerEntryIn.content, LedgerEntryIn.instant_eq (AwareDatetime.toUtc_utc _)]
  simp only [of_textField id, of_currencyField code, of_textField ref]
  rfl

/-- What the engine makes of a pair that is predicted. -/
def Verdict.engine : Verdict → Option (ReconStatus × MatchLayer)
  | .matchedExact => some (.matched, .exact)
  | .matchedTimeDrift => some (.matched, .timeDrift)
  | .amountDrift => some (.amountDrift, .amountDrift)
  | .unmatchedGatewayOnly | .unmatchedBoth => none

/-- The prediction is the verdict of layers 1 to 3. -/
lemma classify_engine (paired : txn.dropped = false) (two : txn.amount.exp = -2) (two' : txn.ledgerAmount.exp = -2)
    (gateway : gatewayPost txn = some g) (ledger : ledgerPost txn = some l) :
    classifyContent g.content l.content .shipped = (classify txn).engine := by
  obtain ⟨m, amount, rfl⟩ := of_gatewayPost two gateway
  obtain ⟨m', ledgerAmount, rfl⟩ := of_ledgerPost two' ledger
  have delta : |(txn.ledgerOccurredAt.diff txn.occurredAt)| = |txn.occurredAt.diff txn.ledgerOccurredAt| :=
    abs_sub_comm _ _
  have drift : driftWindowS < |(txn.ledgerOccurredAt.diff txn.occurredAt).totalSeconds| ↔
      ¬|txn.occurredAt.diff txn.ledgerOccurredAt| ≤ MatchConfig.shipped.driftWindow := by
    have whole := @Timedelta.totalSeconds_le_iff (txn.ledgerOccurredAt.diff txn.occurredAt) 60 (by norm_num)
    rw [delta] at whole
    rw [← not_le]
    exact not_congr whole
  have exact_ : |(txn.ledgerOccurredAt.diff txn.occurredAt).totalSeconds| ≤ exactWindowS ↔
      |txn.occurredAt.diff txn.ledgerOccurredAt| ≤ MatchConfig.shipped.exactWindow := by
    have whole := @Timedelta.totalSeconds_le_iff (txn.ledgerOccurredAt.diff txn.occurredAt) 2 (by norm_num)
    rwa [delta] at whole
  have same : txn.ledgerAmount.toRat ≠ txn.amount.toRat ↔ ¬m = m' := by
    rw [← amount, ← ledgerAmount, Money.toRat_toDecimal, Money.toRat_toDecimal]
    apply not_congr
    constructor
    · intro eq
      have minor : m'.minor = m.minor := by
        have scaled := congrArg (· * 100) eq
        norm_num at scaled
        exact scaled
      cases m
      cases m'
      simp_all
    · rintro rfl
      rfl
  have tolerance : ((txn.amount.abs.mul amountDriftPct).max amountDriftAbs).toRat =
      (Core.amountTolerance m .shipped).toRat := by
    have floor : amountDriftAbs.toRat = MatchConfig.shipped.amountDriftAbs.toRat := by
      norm_num [amountDriftAbs, MatchConfig.shipped, Decimal.toRat]
    rw [Core.amountTolerance, toRat_max, toRat_max, floor, amount]
    rfl
  have distance : txn.amount.sub txn.ledgerAmount = m.toDecimal.sub m'.toDecimal := by rw [amount, ledgerAmount]
  have ordered : MatchConfig.shipped.exactWindow ≤ MatchConfig.shipped.driftWindow := by decide
  simp only [classifyContent, Core.classifyPair, Core.timeDelta, Core.gatewayAndLedger, Content.facts, classify, paired,
    drift, exact_, same, tolerance, distance, ne_eq, not_true, if_true, if_false, reduceCtorEq]
  by_cases near : |txn.occurredAt.diff txn.ledgerOccurredAt| ≤ MatchConfig.shipped.driftWindow
  · by_cases equal : m = m'
    · by_cases soon : |txn.occurredAt.diff txn.ledgerOccurredAt| ≤ MatchConfig.shipped.exactWindow
      · simp only [equal, soon, near, not_true, if_true, if_false, and_self, Verdict.engine]
      · simp only [equal, soon, near, not_true, if_true, if_false, and_self, and_false, Verdict.engine]
    · simp only [equal, near, not_true, not_false_iff, if_true, if_false, false_and, true_and]
      split_ifs <;> rfl
  · have late : ¬|txn.occurredAt.diff txn.ledgerOccurredAt| ≤ MatchConfig.shipped.exactWindow := fun soon =>
      near (soon.trans ordered)
    simp only [near, late, not_false_iff, if_true, if_false, and_false, false_and, Verdict.engine]

end Posts

/-! ## What is kept of it -/

section Kept
variable {runId : String} {state : Planner} {txn txn' : PlannedTxn} {a g l : Submission} {key : String} {c : Content}
  {n : ℕ} {v : ReconStatus × MatchLayer}

/-- The key of a ledger entry. -/
def PlannedTxn.ledgerKey (txn : PlannedTxn) : String := "ld-" ++ txn.txnId

/-- Appending to a fixed text keeps texts apart. -/
lemma append_cancel {front x y : String} (same : front ++ x = front ++ y) : x = y := by
  have lists := congrArg String.toList same
  rw [String.toList_append, String.toList_append] at lists
  exact String.toList_inj.1 (List.append_cancel_left lists)

lemma Planner.Queued.eq_of_txnId (queued : state.Queued runId) (mem : txn ∈ state.gatewayQueue)
    (mem' : txn' ∈ state.gatewayQueue) (same : txn.txnId = txn'.txnId) : txn = txn' :=
  List.inj_on_of_nodup_map queued.distinct mem mem' same

lemma Planner.Queued.eq_of_key (queued : state.Queued runId) (mem : txn ∈ state.gatewayQueue)
    (mem' : txn' ∈ state.gatewayQueue) (same : txn.idempotencyKey = txn'.idempotencyKey) : txn = txn' := by
  rw [queued.keys txn mem, queued.keys txn' mem'] at same
  exact queued.eq_of_txnId mem mem' (append_cancel same)

/-- What is queued for the ledger senders. -/
lemma Planner.Queued.mem_ledger (queued : state.Queued runId) :
    txn ∈ state.ledgerQueue ↔ txn ∈ state.gatewayQueue ∧ txn.dropped = false := by
  rw [queued.ledger, List.mem_filter, Bool.not_eq_eq_eq_not, Bool.not_true]

/-- The requests of the gateway senders. -/
lemma mem_gatewayPosts :
    a ∈ (gatewayPost txn).toList.flatMap (List.replicate (attempts txn)) ↔ gatewayPost txn = some a := by
  have pos : attempts txn ≠ 0 := by
    unfold attempts
    split_ifs <;> decide
  cases post : gatewayPost txn with
  | none => simp
  | some g => simp [pos, eq_comm]

lemma gatewayPost_key (queued : state.Queued runId) (mem : txn ∈ state.gatewayQueue) (post : gatewayPost txn = some g) :
    g.key = (.gateway, txn.idempotencyKey) := by
  obtain ⟨m, _, rfl⟩ := of_gatewayPost (queued.amounts txn mem).1 post
  rfl

lemma ledgerPost_key (queued : state.Queued runId) (mem : txn ∈ state.gatewayQueue) (post : ledgerPost txn = some l) :
    l.key = (.ledger, txn.ledgerKey) := by
  obtain ⟨m, _, rfl⟩ := of_ledgerPost (queued.amounts txn mem).2 post
  rfl

/-- Under the key of a transaction is its gateway request, as often as it was posted. -/
lemma kept_gateway (queued : state.Queued runId) (mem : txn ∈ state.gatewayQueue) (post : gatewayPost txn = some g) :
    keptOf state.posted .gateway txn.idempotencyKey = some (g.content, attempts txn) := by
  have nodup := queued.distinct.of_map
  rw [keptOf, Planner.posted, FirstWins.kept_append, FirstWins.kept_flatMap nodup mem, FirstWins.further_of_ne]
  · rw [post, Option.toList_some, List.flatMap_singleton, attempts]
    have key := gatewayPost_key queued mem post
    cases duplicate : txn.duplicate with
    | true => simp [FirstWins.kept, key]
    | false => simp [FirstWins.kept, key]
  · intro l listed
    obtain ⟨other, memL, here⟩ := List.mem_flatMap.1 listed
    rw [ledgerPost_key queued (queued.mem_ledger.1 memL).1 (Option.mem_toList.1 here)]
    simp
  · intro other memO ne g' listed same
    rw [gatewayPost_key queued memO (mem_gatewayPosts.1 listed)] at same
    exact ne (queued.eq_of_key memO mem (Prod.mk.inj same).2)

/-- Under the key of a ledger entry is the entry. -/
lemma kept_ledger (queued : state.Queued runId) (mem : txn ∈ state.gatewayQueue) (paired : txn.dropped = false)
    (post : ledgerPost txn = some l) : keptOf state.posted .ledger txn.ledgerKey = some (l.content, 1) := by
  have nodup : state.ledgerQueue.Nodup := queued.ledger ▸ queued.distinct.of_map.filter _
  rw [keptOf, Planner.posted, FirstWins.kept_append, FirstWins.kept_eq_none, FirstWins.further,
    FirstWins.kept_flatMap nodup (queued.mem_ledger.2 ⟨mem, paired⟩)]
  · have key := ledgerPost_key queued mem post
    simp [post, FirstWins.kept, key]
  · intro other memO ne l' listed same
    have memG := (queued.mem_ledger.1 memO).1
    rw [ledgerPost_key queued memG (Option.mem_toList.1 listed)] at same
    exact ne (queued.eq_of_txnId memG mem (append_cancel (Prod.mk.inj same).2))
  · intro g listed
    obtain ⟨other, memG, here⟩ := List.mem_flatMap.1 listed
    rw [gatewayPost_key queued memG (mem_gatewayPosts.1 here)]
    simp

/-- What is posted is posted of a transaction. -/
lemma of_mem_posted (queued : state.Queued runId) (mem : a ∈ state.posted) :
    (∃ txn ∈ state.gatewayQueue, gatewayPost txn = some a) ∨
      ∃ txn ∈ state.gatewayQueue, txn.dropped = false ∧ ledgerPost txn = some a := by
  rcases List.mem_append.1 mem with listed | listed
  · obtain ⟨txn, memG, here⟩ := List.mem_flatMap.1 listed
    exact .inl ⟨txn, memG, mem_gatewayPosts.1 here⟩
  · obtain ⟨txn, memL, here⟩ := List.mem_flatMap.1 listed
    obtain ⟨memG, paired⟩ := queued.mem_ledger.1 memL
    exact .inr ⟨txn, memG, paired, Option.mem_toList.1 here⟩

lemma of_kept_gateway (queued : state.Queued runId) (held : keptOf state.posted .gateway key = some (c, n)) :
    ∃ txn ∈ state.gatewayQueue, ∃ g, gatewayPost txn = some g ∧ txn.idempotencyKey = key ∧ g.content = c ∧
      attempts txn = n := by
  obtain ⟨⟨a, mem, same, _⟩, _⟩ := FirstWins.of_kept held
  rcases of_mem_posted queued mem with ⟨txn, memG, post⟩ | ⟨txn, memG, _, post⟩
  · rw [gatewayPost_key queued memG post] at same
    obtain rfl := (Prod.mk.inj same).2
    rw [kept_gateway queued memG post] at held
    obtain ⟨content, times⟩ := Prod.mk.inj (Option.some.inj held)
    exact ⟨txn, memG, a, post, rfl, content, times⟩
  · rw [ledgerPost_key queued memG post] at same
    cases (Prod.mk.inj same).1

lemma of_kept_ledger (queued : state.Queued runId) (held : keptOf state.posted .ledger key = some (c, n)) :
    ∃ txn ∈ state.gatewayQueue, txn.dropped = false ∧ ∃ l, ledgerPost txn = some l ∧ txn.ledgerKey = key ∧
      l.content = c ∧ n = 1 := by
  obtain ⟨⟨a, mem, same, _⟩, _⟩ := FirstWins.of_kept held
  rcases of_mem_posted queued mem with ⟨txn, memG, post⟩ | ⟨txn, memG, paired, post⟩
  · rw [gatewayPost_key queued memG post] at same
    cases (Prod.mk.inj same).1
  · rw [ledgerPost_key queued memG post] at same
    obtain rfl := (Prod.mk.inj same).2
    rw [kept_ledger queued memG paired post] at held
    obtain ⟨content, times⟩ := Prod.mk.inj (Option.some.inj held)
    exact ⟨txn, memG, paired, a, post, rfl, content, times.symm⟩

/-- In whichever order the requests arrive, the same is kept. -/
lemma kept_of_perm {log : List Submission} (queued : state.Queued runId) (perm : log.Perm state.posted) :
    keptOf log = keptOf state.posted := by
  funext side key
  apply FirstWins.kept_perm perm
  intro a mem b mem' same
  rcases of_mem_posted queued mem with ⟨txn, memG, post⟩ | ⟨txn, memG, paired, post⟩
  · have key := gatewayPost_key queued memG post
    rcases of_mem_posted queued mem' with ⟨txn', memG', post'⟩ | ⟨txn', memG', _, post'⟩
    · rw [key, gatewayPost_key queued memG' post'] at same
      obtain rfl := queued.eq_of_key memG memG' (Prod.mk.inj same).2
      rw [Option.some.inj (post.symm.trans post')]
    · rw [key, ledgerPost_key queued memG' post'] at same
      cases (Prod.mk.inj same).1
  · have key := ledgerPost_key queued memG post
    rcases of_mem_posted queued mem' with ⟨txn', memG', post'⟩ | ⟨txn', memG', _, post'⟩
    · rw [key, gatewayPost_key queued memG' post'] at same
      cases (Prod.mk.inj same).1
    · rw [key, ledgerPost_key queued memG' post'] at same
      obtain rfl := queued.eq_of_txnId memG memG' (append_cancel (Prod.mk.inj same).2)
      rw [Option.some.inj (post.symm.trans post')]

/-- A request and an entry are viable if they are of one transaction, which is predicted to match. -/
lemma viable_iff (queued : state.Queued runId) (mem : txn ∈ state.gatewayQueue) (mem' : txn' ∈ state.gatewayQueue)
    (paired : txn'.dropped = false) (post : gatewayPost txn = some g) (post' : ledgerPost txn' = some l) :
    classifyContent g.content l.content .shipped = some v ↔ txn = txn' ∧ (classify txn).engine = some v := by
  constructor
  · intro viable
    have agree := (Core.classifyPair_agree viable).txnId
    obtain ⟨m, _, gateway⟩ := of_gatewayPost (queued.amounts txn mem).1 post
    obtain ⟨m', _, ledger⟩ := of_ledgerPost (queued.amounts txn' mem').2 post'
    rw [gateway, ledger] at agree
    obtain rfl := queued.eq_of_txnId mem mem' agree
    rw [classify_engine paired (queued.amounts txn mem).1 (queued.amounts txn mem).2 post post'] at viable
    exact ⟨rfl, viable⟩
  · rintro ⟨rfl, verdict⟩
    rw [classify_engine paired (queued.amounts txn mem).1 (queued.amounts txn mem).2 post post']
    exact verdict

end Kept

/-! ## What is found -/

/-- The findings a verdict stands for. -/
def Verdict.findings (gatewayKey ledgerKey : String) : Verdict → List Finding
  | .matchedExact => [⟨some gatewayKey, some ledgerKey, .matched, .exact⟩]
  | .matchedTimeDrift => [⟨some gatewayKey, some ledgerKey, .matched, .timeDrift⟩]
  | .amountDrift => [⟨some gatewayKey, some ledgerKey, .amountDrift, .amountDrift⟩]
  | .unmatchedGatewayOnly => [.single .gateway gatewayKey .unmatchedGatewayOnly .unmatchedSweep]
  | .unmatchedBoth =>
    [.single .gateway gatewayKey .unmatchedGatewayOnly .unmatchedSweep,
      .single .ledger ledgerKey .unmatchedLedgerOnly .unmatchedSweep]

/-- The findings a transaction stands for. -/
def PlannedTxn.findings (txn : PlannedTxn) : List Finding :=
  (classify txn).findings txn.idempotencyKey txn.ledgerKey ++
    if txn.duplicate then [.single .gateway txn.idempotencyKey .duplicate .duplicate] else []

section Findings
variable {runId : String} {state : Planner} {txn txn' : PlannedTxn} {f : Finding} {verdict : Verdict}
  {gatewayKey ledgerKey : String} {status : ReconStatus} {layer : MatchLayer}

/-- Only a dropped transaction is predicted to have no ledger entry. -/
lemma classify_eq_gatewayOnly : classify txn = .unmatchedGatewayOnly ↔ txn.dropped = true := by
  unfold classify
  dsimp only
  split_ifs with dropped <;> simp [dropped]

lemma Verdict.mem_findings_pair (viable : verdict.engine = some (status, layer)) :
    verdict.findings gatewayKey ledgerKey = [⟨some gatewayKey, some ledgerKey, status, layer⟩] := by
  cases verdict with
  | matchedExact | matchedTimeDrift | amountDrift =>
    obtain ⟨rfl, rfl⟩ := Prod.mk.inj (Option.some.inj viable)
    rfl
  | unmatchedGatewayOnly | unmatchedBoth => cases viable

lemma Verdict.mem_findings_gateway (none_ : verdict.engine = none) :
    Finding.single .gateway gatewayKey .unmatchedGatewayOnly .unmatchedSweep ∈
      verdict.findings gatewayKey ledgerKey := by
  cases verdict with
  | matchedExact | matchedTimeDrift | amountDrift => cases none_
  | unmatchedGatewayOnly | unmatchedBoth => exact List.mem_cons_self

lemma Verdict.eq_unmatchedBoth (none_ : verdict.engine = none) (ne : verdict ≠ .unmatchedGatewayOnly) :
    verdict = .unmatchedBoth := by
  cases verdict with
  | matchedExact | matchedTimeDrift | amountDrift => cases none_
  | unmatchedGatewayOnly => exact absurd rfl ne
  | unmatchedBoth => rfl

/-- A finding about a verdict is of the pair, of the gateway row, or of the ledger row. -/
lemma Verdict.of_mem_findings (mem : f ∈ verdict.findings gatewayKey ledgerKey) :
    (∃ status layer, verdict.engine = some (status, layer) ∧ f = ⟨some gatewayKey, some ledgerKey, status, layer⟩) ∨
      verdict.engine = none ∧ f = .single .gateway gatewayKey .unmatchedGatewayOnly .unmatchedSweep ∨
      verdict = .unmatchedBoth ∧ f = .single .ledger ledgerKey .unmatchedLedgerOnly .unmatchedSweep := by
  cases verdict with
  | matchedExact | matchedTimeDrift | amountDrift => exact .inl ⟨_, _, rfl, List.mem_singleton.1 mem⟩
  | unmatchedGatewayOnly => exact .inr (.inl ⟨rfl, List.mem_singleton.1 mem⟩)
  | unmatchedBoth =>
    rcases List.mem_cons.1 mem with eq | mem
    · exact .inr (.inl ⟨rfl, eq⟩)
    · exact .inr (.inr ⟨rfl, List.mem_singleton.1 mem⟩)

/-- A finding of the log is one a transaction stands for. -/
lemma mem_findings_of_log (queued : state.Queued runId) (accepted : state.Accepted)
    (found : Findings .shipped (keptOf state.posted) f) : ∃ txn ∈ state.gatewayQueue, f ∈ txn.findings := by
  cases found with
  | @pair gatewayKey ledgerKey gateway ledger n n' status layer heldG heldL viable =>
    obtain ⟨txn, mem, g, post, rfl, rfl, _⟩ := of_kept_gateway queued heldG
    obtain ⟨txn', mem', paired, l, post', rfl, rfl, _⟩ := of_kept_ledger queued heldL
    obtain ⟨rfl, verdict⟩ := (viable_iff queued mem mem' paired post post').1 viable
    refine ⟨txn, mem, List.mem_append_left _ ?_⟩
    rw [Verdict.mem_findings_pair verdict]
    exact List.mem_singleton_self _
  | @alone side key content n held single =>
    cases side with
    | gateway =>
      obtain ⟨txn, mem, g, post, rfl, rfl, _⟩ := of_kept_gateway queued held
      refine ⟨txn, mem, List.mem_append_left _ (Verdict.mem_findings_gateway ?_)⟩
      cases dropped : txn.dropped with
      | true =>
        rw [classify_eq_gatewayOnly.2 dropped]
        rfl
      | false =>
        obtain ⟨l, post'⟩ := Option.isSome_iff_exists.1 (accepted.ledger txn (queued.mem_ledger.2 ⟨mem, dropped⟩))
        have none_ := single _ _ _ (kept_ledger queued mem dropped post')
        by_contra viable
        obtain ⟨v, verdict⟩ := Option.ne_none_iff_exists'.1 viable
        have both := (viable_iff queued mem mem dropped post post').2 ⟨rfl, verdict⟩
        rw [show classifyContent g.content l.content .shipped = none from none_] at both
        cases both
    | ledger =>
      obtain ⟨txn, mem, paired, l, post', rfl, rfl, _⟩ := of_kept_ledger queued held
      obtain ⟨g, post⟩ := Option.isSome_iff_exists.1 (accepted.gateway txn mem)
      have none_ := single _ _ _ (kept_gateway queued mem post)
      have engine : (classify txn).engine = none := by
        by_contra viable
        obtain ⟨v, verdict⟩ := Option.ne_none_iff_exists'.1 viable
        have both := (viable_iff queued mem mem paired post post').2 ⟨rfl, verdict⟩
        rw [show classifyContent g.content l.content .shipped = none from none_] at both
        cases both
      have ne : classify txn ≠ .unmatchedGatewayOnly := fun eq => by
        rw [classify_eq_gatewayOnly.1 eq] at paired
        cases paired
      refine ⟨txn, mem, List.mem_append_left _ ?_⟩
      rw [Verdict.eq_unmatchedBoth engine ne]
      exact List.mem_cons_of_mem _ List.mem_cons_self
  | @again side key content n held many =>
    cases side with
    | gateway =>
      obtain ⟨txn, mem, g, post, rfl, rfl, times⟩ := of_kept_gateway queued held
      refine ⟨txn, mem, List.mem_append_right _ ?_⟩
      cases duplicate : txn.duplicate with
      | true => exact List.mem_singleton_self _
      | false => simp [attempts, duplicate] at times; omega
    | ledger =>
      obtain ⟨_, _, _, _, _, _, _, one⟩ := of_kept_ledger queued held
      omega

/-- What a transaction stands for is a finding of the log. -/
lemma log_of_mem_findings (queued : state.Queued runId) (accepted : state.Accepted) (mem : txn ∈ state.gatewayQueue)
    (listed : f ∈ txn.findings) : Findings .shipped (keptOf state.posted) f := by
  obtain ⟨g, post⟩ := Option.isSome_iff_exists.1 (accepted.gateway txn mem)
  have heldG := kept_gateway queued mem post
  have entry (paired : txn.dropped = false) : ∃ l, ledgerPost txn = some l :=
    Option.isSome_iff_exists.1 (accepted.ledger txn (queued.mem_ledger.2 ⟨mem, paired⟩))
  rcases List.mem_append.1 listed with listed | listed
  · rcases Verdict.of_mem_findings listed with ⟨status, layer, verdict, rfl⟩ | ⟨none_, rfl⟩ | ⟨both, rfl⟩
    · have paired : txn.dropped = false := by
        rw [← Bool.not_eq_true]
        intro dropped
        rw [classify_eq_gatewayOnly.2 dropped] at verdict
        cases verdict
      obtain ⟨l, post'⟩ := entry paired
      apply Findings.pair heldG (kept_ledger queued mem paired post')
      exact (viable_iff queued mem mem paired post post').2 ⟨rfl, verdict⟩
    · apply Findings.alone heldG
      intro key content n held
      obtain ⟨txn', mem', paired, l, post', rfl, rfl, _⟩ := of_kept_ledger queued held
      by_contra viable
      obtain ⟨v, viable⟩ := Option.ne_none_iff_exists'.1 viable
      have same := (viable_iff queued mem mem' paired post post').1 viable
      rw [none_] at same
      cases same.2
    · have paired : txn.dropped = false := by
        rw [← Bool.not_eq_true]
        intro dropped
        rw [classify_eq_gatewayOnly.2 dropped] at both
        cases both
      obtain ⟨l, post'⟩ := entry paired
      apply Findings.alone (kept_ledger queued mem paired post')
      intro key content n held
      obtain ⟨txn', mem', g', post'', rfl, rfl, _⟩ := of_kept_gateway queued held
      by_contra viable
      obtain ⟨v, viable⟩ := Option.ne_none_iff_exists'.1 viable
      obtain ⟨rfl, verdict⟩ := (viable_iff queued mem' mem paired post'' post').1 viable
      rw [both] at verdict
      cases verdict
  · cases duplicate : txn.duplicate with
    | true =>
      rw [duplicate, if_pos rfl, List.mem_singleton] at listed
      rw [listed]
      apply Findings.again heldG
      rw [attempts, duplicate]
      decide
    | false =>
      rw [duplicate] at listed
      cases listed

/-- A finding names its transaction. -/
lemma of_mem_findings (listed : f ∈ txn.findings) :
    f.gatewayKey = some txn.idempotencyKey ∨ f.gatewayKey = none ∧ f.ledgerKey = some txn.ledgerKey := by
  rcases List.mem_append.1 listed with listed | listed
  · rcases Verdict.of_mem_findings listed with ⟨status, layer, _, rfl⟩ | ⟨_, rfl⟩ | ⟨_, rfl⟩
    · exact .inl rfl
    · exact .inl rfl
    · exact .inr ⟨rfl, rfl⟩
  · cases duplicate : txn.duplicate with
    | true =>
      rw [duplicate, if_pos rfl, List.mem_singleton] at listed
      rw [listed]
      exact .inl rfl
    | false =>
      rw [duplicate] at listed
      cases listed

lemma nodup_findings_self : txn.findings.Nodup := by
  unfold PlannedTxn.findings
  cases classify txn <;> cases txn.duplicate <;> simp [Verdict.findings, Finding.single]

/-- No finding is of two transactions, or of one twice. -/
lemma nodup_findings (queued : state.Queued runId) : (state.gatewayQueue.flatMap PlannedTxn.findings).Nodup := by
  have nodup := queued.distinct.of_map
  apply List.nodup_flatMap.2
  refine ⟨fun txn _ => nodup_findings_self, nodup.pairwise_of_forall_ne fun txn mem txn' mem' ne f here there => ?_⟩
  apply ne
  rcases of_mem_findings here with key | ⟨none_, key⟩
  · rcases of_mem_findings there with key' | ⟨none', _⟩
    · exact queued.eq_of_key mem mem' (Option.some.inj (key.symm.trans key'))
    · rw [none'] at key
      cases key
  · rcases of_mem_findings there with key' | ⟨_, key'⟩
    · rw [none_] at key'
      cases key'
    · exact queued.eq_of_txnId mem mem' (append_cancel (Option.some.inj (key.symm.trans key')))

end Findings

/-! ## The counts -/

/-- A ground truth counts findings. -/
structure GroundTruth.Counts (truth : GroundTruth) (fs : List Finding) : Prop where
  matched : truth.matched = fs.countP fun f => f.status == .matched
  matchedTimeDrift : truth.matchedTimeDrift = fs.countP fun f => f.matchLayer == .timeDrift
  amountDrift : truth.amountDrift = fs.countP fun f => f.status == .amountDrift || f.status == .timeDrift
  unmatchedGatewayOnly : truth.unmatchedGatewayOnly = fs.countP fun f => f.status == .unmatchedGatewayOnly
  unmatchedLedgerOnly : truth.unmatchedLedgerOnly = fs.countP fun f => f.status == .unmatchedLedgerOnly
  duplicates : truth.duplicates = fs.countP fun f => f.status == .duplicate
  expectedResults : truth.expectedResults = fs.length

section Counts
variable {cfg : Config} {runId : String} {draws : Draws} {all : List Draws} {state next : Planner} {txn : PlannedTxn}
  {truth : GroundTruth} {fs : List Finding}

lemma GroundTruth.Counts.of_perm {fs' : List Finding} (counts : truth.Counts fs) (perm : fs'.Perm fs) :
    truth.Counts fs' := by
  obtain ⟨matched, matchedTimeDrift, amountDrift, gateway, ledger, duplicates, results⟩ := counts
  refine ⟨?_, ?_, ?_, ?_, ?_, ?_, ?_⟩
  · rwa [perm.countP_eq]
  · rwa [perm.countP_eq]
  · rwa [perm.countP_eq]
  · rwa [perm.countP_eq]
  · rwa [perm.countP_eq]
  · rwa [perm.countP_eq]
  · rwa [perm.length_eq]

/-- `record` counts the findings of a transaction. -/
lemma GroundTruth.Counts.record (counts : truth.Counts fs) : (record truth txn).Counts (fs ++ txn.findings) := by
  obtain ⟨matched, matchedTimeDrift, amountDrift, gateway, ledger, duplicates, results⟩ := counts
  unfold GroundTruth.expectedResults at results
  unfold GenerateLoad.record PlannedTxn.findings
  constructor <;>
    (cases classify txn <;> cases txn.duplicate <;>
      simp [GroundTruth.add, Verdict.findings, Finding.single, GroundTruth.expectedResults, *] <;> omega)

lemma counts_turn (counts : state.truth.Counts (state.gatewayQueue.flatMap PlannedTxn.findings))
    (ok : turn cfg runId state draws = some next) :
    next.truth.Counts (next.gatewayQueue.flatMap PlannedTxn.findings) := by
  obtain ⟨txn, _, rfl⟩ := Option.map_eq_some_iff.1 ok
  rw [List.flatMap_append, List.flatMap_singleton]
  have recorded : (record state.truth txn).Counts _ := counts.record
  obtain ⟨matched, matchedTimeDrift, amountDrift, gateway, ledger, duplicates, results⟩ := recorded
  exact ⟨matched, matchedTimeDrift, amountDrift, gateway, ledger, duplicates, results⟩

/-- The truth of a planner counts what its transactions stand for. -/
lemma planner_counts (planned : planner cfg runId all = some state) :
    state.truth.Counts (state.gatewayQueue.flatMap PlannedTxn.findings) := by
  have start : GroundTruth.Counts {} [] := ⟨rfl, rfl, rfl, rfl, rfl, rfl, rfl⟩
  exact planner_induction start (fun _ _ _ counts ok => counts_turn counts ok) planned

end Counts

section Run
variable {settings : Queue.QueueSettings} {tr : List (Queue.Delivery × Queue.Event)} {d : Queue.Delivery}
  {cfg : Config}
  {runId : String} {draws : List Draws} {state : Planner} {tenantId : ℕ} {window : WindowName} {now : Datetime}
  {truth : GroundTruth}

/-- What the engine has found is what the transactions stand for. -/
lemma Planner.Queued.findings_perm (queued : state.Queued runId) (accepted : state.Accepted)
    (drained : Queue.Drained .shipped settings tr d)
    (sent : (submissionsOf tenantId (Queue.systemTrace tr)).Perm state.posted) :
    (Queue.findings d tenantId).Perm (state.gatewayQueue.flatMap PlannedTxn.findings) := by
  have windows : MatchConfig.shipped.exactWindow ≤ MatchConfig.shipped.driftWindow := by decide
  have log : Queue.submitted tenantId tr = keptOf state.posted := kept_of_perm queued sent
  apply (List.perm_ext_iff_of_nodup (drained.nodup_findings windows) (nodup_findings queued)).2
  intro f
  rw [drained.mem_findings windows, log, List.mem_flatMap]
  constructor
  · exact mem_findings_of_log queued accepted
  · rintro ⟨txn, mem, listed⟩
    exact log_of_mem_findings queued accepted mem listed

/-- Counts of the results are counts of the findings. -/
lemma countP_findings {P : ReconStatus → MatchLayer → Bool} :
    (d.sys.store.reconciliationResults.filter (·.tenantId == tenantId)).countP (fun r => P r.status r.matchLayer) =
      (Queue.findings d tenantId).countP fun f => P f.status f.matchLayer := by
  rw [Queue.findings, List.countP_map]
  rfl

/-- The engine's counts, if a truth counts its findings. -/
lemma stats_of_counts (counts : truth.Counts (Queue.findings d tenantId))
    (covers : ∀ r ∈ d.sys.store.reconciliationResults, r.tenantId = tenantId →
      (now.us - Timedelta.seconds window.seconds : ℤ) ≤ r.resolvedAt.us) :
    let row := (Queries.getStats d.sys.store tenantId window now).row
    row.matched = truth.matched ∧ row.viaTimeDrift = truth.matchedTimeDrift ∧ row.drift = truth.amountDrift ∧
      row.unmatchedGateway = truth.unmatchedGatewayOnly ∧ row.unmatchedLedger = truth.unmatchedLedgerOnly ∧
      row.unmatched = truth.unmatchedGatewayOnly + truth.unmatchedLedgerOnly ∧ row.duplicates = truth.duplicates := by
  have count (P : ReconStatus → MatchLayer → Bool) : (Queries.windowRows d.sys.store tenantId window now).countP
      (fun r => P r.status r.matchLayer) = (Queue.findings d tenantId).countP fun f => P f.status f.matchLayer := by
    rw [windowRows_eq covers]
    exact countP_findings
  refine ⟨?_, ?_, ?_, ?_, ?_, ?_, ?_⟩
  · rw [counts.matched]
    exact count fun status _ => status == .matched
  · rw [counts.matchedTimeDrift]
    exact count fun _ layer => layer == .timeDrift
  · rw [counts.amountDrift]
    exact count fun status _ => status == .amountDrift || status == .timeDrift
  · rw [counts.unmatchedGatewayOnly]
    exact count fun status _ => status == .unmatchedGatewayOnly
  · rw [counts.unmatchedLedgerOnly]
    exact count fun status _ => status == .unmatchedLedgerOnly
  · rw [counts.unmatchedGatewayOnly, counts.unmatchedLedgerOnly]
    refine (count fun status _ => status == .unmatchedGatewayOnly || status == .unmatchedLedgerOnly).trans ?_
    generalize Queue.findings d tenantId = fs
    induction fs with
    | nil => rfl
    | cons f fs ih =>
      simp only [List.countP_cons, ih]
      cases f.status <;> simp <;> omega
  · rw [counts.duplicates]
    exact count fun status _ => status == .duplicate

/-- A load run verifies: once the pipeline has drained what the senders posted, in whatever order and batches, the
    engine has found of each planned transaction what was predicted, every line of `print_verification` agrees, and
    so do the match rate and the number of results. -/
theorem load_run_verifies (drained : Queue.Drained .shipped settings tr d)
    (planned : planner cfg runId draws = some state) (accepted : state.Accepted)
    (sent : (submissionsOf tenantId (Queue.systemTrace tr)).Perm state.posted)
    (covers : ∀ r ∈ d.sys.store.reconciliationResults, r.tenantId = tenantId →
      (now.us - Timedelta.seconds window.seconds : ℤ) ≤ r.resolvedAt.us) :
    let stats := Queries.getStats d.sys.store tenantId window now
    (Queue.findings d tenantId).Perm (state.gatewayQueue.flatMap PlannedTxn.findings) ∧
      printVerification state.truth stats = true ∧ stats.matchRate = state.truth.expectedMatchRate ∧
      (d.sys.store.reconciliationResults.countP fun r => r.tenantId == tenantId) = state.truth.expectedResults := by
  have perm := (planner_queued planned).findings_perm accepted drained sent
  have counts := (planner_counts planned).of_perm perm
  obtain ⟨matched, _, drift, _, _, unmatched, duplicates⟩ := stats_of_counts counts covers
  refine ⟨perm, ?_, ?_, ?_⟩
  · simp [printVerification, verificationRows, matched, drift, unmatched, duplicates]
  · have total : state.truth.matched + (state.truth.unmatchedGatewayOnly + state.truth.unmatchedLedgerOnly) +
        state.truth.amountDrift = state.truth.expectedActive := by
      unfold GroundTruth.expectedActive
      omega
    have rate : (Queries.getStats d.sys.store tenantId window now).matchRate =
        let row := (Queries.getStats d.sys.store tenantId window now).row
        if row.matched + row.unmatched + row.drift = 0 then 0
          else Binary64.nearest (row.matched / (row.matched + row.unmatched + row.drift : ℕ)) := rfl
    rw [rate]
    dsimp only
    rw [matched, unmatched, drift, total]
    rfl
  · rw [counts.expectedResults, Queue.findings, List.length_map, List.countP_eq_length_filter]

end Run

/-! Three planned transactions: the first is posted twice, the second drifts, and the ledger never hears of
the third. A sweep gives the third up. -/

namespace Sample
open Queue System.Sample

def cfg : Config where
  dropRate := 1 / 4
  duplicateRate := 1 / 2
  driftRate := 1 / 4
  currency := "CHF"

def duplicated : Draws where
  amount := ⟨1234567, -4⟩
  now := .newYear 0
  drop := 1 / 2
  duplicate := 1 / 4
  drift := 1 / 2
  fraction := ⟨5, -3⟩
  sign := 0
  skew := 400000

def drifted : Draws :=
  { duplicated with
    amount := ⟨7500004, -4⟩
    now := .newYear 1
    duplicate := 3 / 4
    drift := 1 / 8
    skew := -300000 }

def dropped : Draws :=
  { duplicated with
    now := .newYear 2
    drop := 1 / 8
    duplicate := 3 / 4 }

def planned : Planner := (planner cfg "5eed" [duplicated, drifted, dropped]).getD {}

def posts : List IngestCall :=
  planned.gatewayQueue.filterMap fun txn =>
    (gatewayBody txn).validate.map fun body => .gateway 1 body txn.idempotencyKey "null"

def batch : IngestCall := .ledger 1 (planned.ledgerQueue.filterMap fun txn => (ledgerBody txn).validate)

def settings : QueueSettings where
  outboxBatchSize := 10
  streamBatchSize := 10

def ingests : List Queue.Event :=
  .database (.openAccount Ingest.Sample.account) ::
    (posts.take 1 ++ posts ++ [batch]).zipIdx.map fun (call, n) =>
      .database (.ingest call (Ingest.Sample.drawsAfter n))

/-- The store once everything is posted. -/
def ingested : Store :=
  ((replay (Queue.step .shipped settings) Delivery.initial ingests).map fun p => p.2.sys.store).getD {}

/-- The facts of the `i`th row of a side. -/
def factsAt (side : IngestSource) (i : ℕ) : List TxnFacts :=
  (((ingested.raw side).drop i).take 1).map fun row => facts row side

def events : List Queue.Event :=
  ingests ++ .claim 0 ingested.outboxEvents :: List.replicate 6 (.publish 0) ++
    [.mark 0, .commit 0 (.newYear 4), .ensureGroup, .skipClaim 0, .read 0,
      .load 0, .database (.find 0 (factsAt .ledger 0) (.newYear 5)),
      .database (.apply 0 (.newYear 5) (drawsAt 1)), .ack 0,
      .load 0, .database (.apply 0 (.newYear 5) (drawsAt 2)), .ack 0,
      .load 0, .database (.find 0 (factsAt .ledger 1) (.newYear 5)),
      .database (.apply 0 (.newYear 5) (drawsAt 3)), .ack 0,
      .load 0, .database (.find 0 [] (.newYear 5)), .ack 0,
      .load 0, .database (.find 0 [] (.newYear 5)), .ack 0,
      .load 0, .database (.find 0 [] (.newYear 5)), .ack 0, .finish 0,
      .database (.scan 1 (factsAt .gateway 2)), .database (.beginRow 1), .database (.find 1 [] (.newYear 400)),
      .database (.apply 1 (.newYear 400) (drawsAt 4))]

/-- A computable check that a window covers every result. -/
def coveredBy (window : WindowName) (now : Datetime) (d : Delivery) : Bool :=
  d.sys.store.reconciliationResults.all fun r =>
    decide ((now.us - Timedelta.seconds window.seconds : ℤ) ≤ r.resolvedAt.us)

end Sample

theorem load_run_verifies_sample :
    ∃ tr d state, replay (Queue.step .shipped Sample.settings) Queue.Delivery.initial Sample.events = some (tr, d) ∧
      planner Sample.cfg "5eed" [Sample.duplicated, Sample.drifted, Sample.dropped] = some state ∧
      state.truth =
        { matched := 1, matchedExact := 1, amountDrift := 1, unmatchedGatewayOnly := 1, duplicates := 1,
          transactionsPlanned := 3 } ∧
      Queue.findings d 1 =
        [⟨some "gw-TXN-5eed-00000000", some "ld-TXN-5eed-00000000", .matched, .exact⟩,
          ⟨some "gw-TXN-5eed-00000000", none, .duplicate, .duplicate⟩,
          ⟨some "gw-TXN-5eed-00000001", some "ld-TXN-5eed-00000001", .amountDrift, .amountDrift⟩,
          ⟨some "gw-TXN-5eed-00000002", none, .unmatchedGatewayOnly, .unmatchedSweep⟩] ∧
      printVerification state.truth (Queries.getStats d.sys.store 1 .day (.newYear 500)) = true := by
  have runs : ((replay (Queue.step .shipped Sample.settings) Queue.Delivery.initial Sample.events).map fun p =>
      (p.1.all (Queue.drainedStep p.2), [IngestSource.gateway, .ledger].all fun side =>
        System.settledTable (p.2.sys.store.raw side), p.2.sys.store.outboxEvents.all (Queue.throughNow p.2),
        Sample.coveredBy .day (.newYear 500) p.2, submissionsOf 1 (Queue.systemTrace p.1))) =
      some (true, true, true, true, Sample.planned.posted) := by decide +kernel
  have finds : ((replay (Queue.step .shipped Sample.settings) Queue.Delivery.initial Sample.events).map fun p =>
      Queue.findings p.2 1) =
      some [⟨some "gw-TXN-5eed-00000000", some "ld-TXN-5eed-00000000", .matched, .exact⟩,
        ⟨some "gw-TXN-5eed-00000000", none, .duplicate, .duplicate⟩,
        ⟨some "gw-TXN-5eed-00000001", some "ld-TXN-5eed-00000001", .amountDrift, .amountDrift⟩,
        ⟨some "gw-TXN-5eed-00000002", none, .unmatchedGatewayOnly, .unmatchedSweep⟩] := by decide +kernel
  have plans : planner Sample.cfg "5eed" [Sample.duplicated, Sample.drifted, Sample.dropped] =
      some Sample.planned := by decide +kernel
  have truth : Sample.planned.truth =
      { matched := 1, matchedExact := 1, amountDrift := 1, unmatchedGatewayOnly := 1, duplicates := 1,
        transactionsPlanned := 3 } := by decide +kernel
  have gateway : (Sample.planned.gatewayQueue.all fun txn => (gatewayPost txn).isSome) = true := by decide +kernel
  have ledger : (Sample.planned.ledgerQueue.all fun txn => (ledgerPost txn).isSome) = true := by decide +kernel
  obtain ⟨⟨tr, d⟩, eq, checks⟩ := Option.map_eq_some_iff.1 runs
  obtain ⟨events, rest⟩ := Prod.mk.inj checks
  obtain ⟨tables, rest⟩ := Prod.mk.inj rest
  obtain ⟨through, rest⟩ := Prod.mk.inj rest
  obtain ⟨covered, log⟩ := Prod.mk.inj rest
  rw [eq] at finds
  have drained : Queue.Drained .shipped Sample.settings tr d :=
    .of_checks (.of_replay Queue.Step.of_step eq) events tables through
  have sent : (submissionsOf 1 (Queue.systemTrace tr)).Perm Sample.planned.posted := log ▸ .refl _
  have covers : ∀ r ∈ d.sys.store.reconciliationResults, r.tenantId = 1 →
      ((Datetime.newYear 500).us - Timedelta.seconds WindowName.day.seconds : ℤ) ≤ r.resolvedAt.us := fun r mem _ =>
    of_decide_eq_true (List.all_eq_true.1 covered r mem)
  exact ⟨tr, d, Sample.planned, eq, plans, truth, Option.some.inj finds,
    (load_run_verifies drained plans ⟨List.all_eq_true.1 gateway, List.all_eq_true.1 ledger⟩ sent covers).2.1⟩

end GenerateLoad
end LedgerLoop
