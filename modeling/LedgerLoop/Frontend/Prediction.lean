import LedgerLoop.Frontend.Generate
import LedgerLoop.Worker.Reconciled

/-!
# What `classify` predicts of a pair

`classify` compares whole milliseconds and minor units in double arithmetic, `classify_pair` the datetimes
and decimals that come of them over the wire. Both follow the same rules (`exactVerdict`), except that for
amounts of 60 bits in the scaled comparison the doubles of a difference just out of tolerance and of the
tolerance can be the same (`Collapses`): then a drift is predicted for which the engine has no verdict.
-/

set_option autoImplicit false

namespace LedgerLoop.Frontend
open Library JsText Binary64

/-- A difference one unit above the tolerance that rounding takes back to it. -/
def Collapses (amount diff : ℕ) : Prop :=
  2 ^ 59 ≤ 100 * amount ∧ 100 * diff = amount + 1 ∧ (amount % 64 = 11 ∨ amount % 64 = 15 ∨ amount % 64 = 43)

instance (amount diff : ℕ) : Decidable (Collapses amount diff) := inferInstanceAs (Decidable (_ ∧ _))

section Rounding
variable {amount diff n : ℕ}

/-- Rounding of a number of 60 bits, in units of 128. -/
def even128 (n : ℤ) : ℤ :=
  if 2 * (n % 128) < 128 then n / 128 else if 128 < 2 * (n % 128) then n / 128 + 1
  else if n / 128 % 2 = 0 then n / 128 else n / 128 + 1

lemma nearest_sixty (lo : 2 ^ 59 ≤ n) (hi : n < 2 ^ 60) : nearest n = even128 n * 128 := by
  have eq := @nearest_of_binade n 7 (by simpa using lo) (by simpa using hi)
  rw [halfEven_div _ (by norm_num)] at eq
  norm_num at eq
  rw [eq]
  norm_num [even128]

/-- Of two neighbours the larger one is not rounded above the smaller one for three residues. -/
lemma even128_le_iff {a : ℤ} (odd : a % 4 = 3) : even128 (100 * a + 100) ≤ even128 (100 * a) ↔
    a % 64 = 11 ∨ a % 64 = 15 ∨ a % 64 = 43 := by
  obtain ⟨q, r, rfl, lo, hi⟩ : ∃ q r : ℤ, a = 64 * q + r ∧ 0 ≤ r ∧ r < 64 :=
    ⟨a / 64, a % 64, by omega, by omega, by omega⟩
  have rest : (64 * q + r) % 64 = r := by omega
  have shift (k : ℤ) : even128 (6400 * q + k) = 50 * q + even128 k := by
    have parity : (k / 128 + 50 * q) % 2 = k / 128 % 2 := by omega
    rw [even128, show 6400 * q + k = k + 128 * (50 * q) by ring, Int.add_mul_emod_self_left,
      Int.add_mul_ediv_left _ _ (by norm_num), parity, even128]
    split_ifs <;> ring
  rw [rest, show 100 * (64 * q + r) + 100 = 6400 * q + (100 * r + 100) by ring,
    show 100 * (64 * q + r) = 6400 * q + 100 * r by ring, shift, shift, add_le_add_iff_left]
  interval_cases r <;> first | omega | decide

/-- In the last binade of the tolerance, doubles of neighbours collapse for three residues. -/
lemma collapses_iff (large : 2 ^ 59 ≤ 100 * amount) (safe : amount < 2 ^ 53) (next : 100 * diff = amount + 1) :
    nearest (10000 * diff : ℕ) ≤ nearest (100 * amount : ℕ) ↔ Collapses amount diff := by
  have scaled : 10000 * diff = 100 * amount + 100 := by omega
  have step := @even128_le_iff amount (by omega)
  rw [scaled, nearest_sixty (by omega) (by omega), nearest_sixty large (by omega),
    mul_le_mul_iff_left₀ (by norm_num), Int.cast_le]
  push_cast
  rw [step, Collapses]
  omega

/-- Two hundreds whose doubles are out of order are neighbours in the last binade. -/
lemma next_of_nearest_le {x y : ℕ} (hundred : 100 ∣ x) (hundred' : 100 ∣ y) (pos : 0 < x) (lt : x < y)
    (bound : x + 8256 < 2 ^ 60) (bound' : y < 2 ^ 67) (le : nearest y ≤ nearest x) : y = x + 100 ∧ 2 ^ 59 ≤ x := by
  have posX : (0 : ℚ) < x := by exact_mod_cast pos
  have posY : (0 : ℚ) < y := by exact_mod_cast pos.trans lt
  have gap := sub_le_of_nearest_le posX posY le
  have ulpX : ulp x ≤ 2 ^ (60 - 53 : ℤ) := ulp_le posX (by exact_mod_cast (show x < 2 ^ 60 by omega))
  have near : y < 2 ^ 60 := by
    have ulpY : ulp y ≤ 2 ^ (67 - 53 : ℤ) := ulp_le posY (by exact_mod_cast bound')
    norm_num at ulpX ulpY
    have : (y : ℚ) ≤ (x + 8256 : ℕ) := by push_cast at gap ⊢; linarith
    have := Nat.cast_le.1 this
    omega
  have ulpY : ulp y ≤ 2 ^ (60 - 53 : ℤ) := ulp_le posY (by exact_mod_cast near)
  norm_num at ulpX ulpY
  have next : y = x + 100 := by
    have : (y : ℚ) ≤ (x + 128 : ℕ) := by push_cast at gap ⊢; linarith
    have := Nat.cast_le.1 this
    omega
  refine ⟨next, ?_⟩
  by_contra below
  -- one binade lower the unit in the last place is less than the difference
  have ulpX' : ulp x ≤ 2 ^ (59 - 53 : ℤ) := ulp_le posX (by exact_mod_cast not_le.1 below)
  norm_num at ulpX'
  rw [next] at gap ulpY
  push_cast at gap ulpY
  linarith

/-- The scaled difference as a double. -/
lemma lt_nearest_scaled (large : 2 ^ 53 ≤ diff) (bound : n < 2 ^ 60) :
    nearest n < nearest (nearest diff * 10000) := by
  have big : (2 : ℚ) ^ 53 ≤ nearest diff := by
    rw [← nearest_two_pow]
    exact nearest_mono (by exact_mod_cast large)
  calc nearest n ≤ nearest (2 ^ 60) := nearest_mono (by exact_mod_cast bound.le)
    _ = 2 ^ 60 := nearest_two_pow 60
    _ < 2 ^ 66 := by norm_num
    _ = nearest (2 ^ 66) := (nearest_two_pow 66).symm
    _ ≤ nearest (nearest diff * 10000) := nearest_mono (by linarith)

/-- Comparing the scaled amounts as doubles errs on collapsing differences only. -/
lemma scaled_le_iff (safe : amount < 2 ^ 53) :
    nearest (nearest diff * 10000) ≤ max (nearest (amount * 100)) (nearest (1000 * 10000)) ↔
      10000 * diff ≤ max (100 * amount) 10000000 ∨ Collapses amount diff := by
  have tolerance : max (nearest (amount * 100)) (nearest (1000 * 10000)) =
      nearest (max (100 * amount) 10000000 : ℕ) := by
    rw [← Monotone.map_max fun _ _ => nearest_mono]
    push_cast
    norm_num [mul_comm]
  rw [tolerance]
  have hundred : 100 ∣ max (100 * amount) 10000000 := by omega
  generalize allowed : max (100 * amount) 10000000 = x at hundred ⊢
  rcases lt_or_ge diff (2 ^ 53) with small | large
  · have same : nearest (nearest diff * 10000) = nearest (10000 * diff : ℕ) := by
      rw [nearest_natCast small]
      push_cast
      rw [mul_comm]
    rw [same]
    constructor
    · intro le
      by_contra out
      obtain ⟨above, apart⟩ := not_or.1 out
      obtain ⟨next, last⟩ := next_of_nearest_le hundred ⟨100 * diff, by ring⟩ (by omega) (not_le.1 above)
        (by omega) (by omega) le
      have eq : x = 100 * amount := by omega
      rw [eq] at le
      exact apart ((collapses_iff (by omega) safe (by omega)).1 le)
    · rintro (within | collapse)
      · exact nearest_mono (Nat.cast_le.2 within)
      · have eq : x = 100 * amount := by have := collapse.1; omega
        rw [eq]
        exact (collapses_iff collapse.1 safe collapse.2.1).2 collapse
  · refine iff_of_false (not_le.2 (lt_nearest_scaled large (by omega))) ?_
    rintro (within | ⟨_, next, _⟩) <;> omega

end Rounding

/-! ## One pair -/

/-- The amounts and instants on which `classify` errs: close in time, and a collapsing difference. -/
def Diverges (txn : PlannedTxn) : Prop :=
  |txn.ledgerOccurredAt - txn.occurredAt| ≤ 60000 ∧
    Collapses txn.amount.natAbs (txn.amount - txn.ledgerAmount).natAbs

instance (txn : PlannedTxn) : Decidable (Diverges txn) := inferInstanceAs (Decidable (_ ∧ _))

/-- The verdict of layers 1 to 3 that a prediction stands for; `none` means no verdict. -/
def TruthVerdict.engine : TruthVerdict → Option (ReconStatus × MatchLayer)
  | .matchedExact => some (.matched, .exact)
  | .matchedTimeDrift => some (.matched, .timeDrift)
  | .amountDrift => some (.amountDrift, .amountDrift)
  | .unmatchedGatewayOnly | .unmatchedBoth => none

/-- The rules of layers 1 to 3 in whole milliseconds and minor units. -/
def exactVerdict (txn : PlannedTxn) : TruthVerdict :=
  if 60000 < |txn.ledgerOccurredAt - txn.occurredAt| then .unmatchedBoth
  else if txn.ledgerAmount ≠ txn.amount then
    if 10000 * (txn.amount - txn.ledgerAmount).natAbs ≤ max (100 * txn.amount.natAbs) 10000000 then .amountDrift
    else .unmatchedBoth
  else if |txn.ledgerOccurredAt - txn.occurredAt| ≤ 2000 then .matchedExact
  else .matchedTimeDrift

section Pair
variable {txn : PlannedTxn} {g l : TxnFacts}

/-- The double of an absolute difference. -/
lemma abs_nearest_intCast (n : ℤ) : |nearest (n : ℚ)| = nearest ((n.natAbs : ℕ) : ℚ) := by
  rw [nearest_abs, Nat.cast_natAbs, Int.cast_abs]

/-- A collapsing difference is out of tolerance. -/
lemma Collapses.above {amount diff : ℕ} (collapse : Collapses amount diff) :
    max (100 * amount) 10000000 < 10000 * diff := by
  obtain ⟨large, next, _⟩ := collapse
  omega

lemma exactVerdict_of_diverges (diverges : Diverges txn) : exactVerdict txn = .unmatchedBoth := by
  obtain ⟨close, collapse⟩ := diverges
  have above := collapse.above
  have differ : txn.ledgerAmount ≠ txn.amount := by omega
  rw [exactVerdict, if_neg (not_lt.2 close), if_pos differ, if_neg (not_le.2 above)]

/-- `classify` follows the rules but for collapsing differences. -/
lemma classify_eq (paired : txn.dropped = false) (safe : |txn.amount| < 2 ^ 53) :
    classify txn backendRules = if Diverges txn then .amountDrift else exactVerdict txn := by
  have window {k : ℕ} (small : k + 1 < 2 ^ 53) :
      |nearest ((txn.ledgerOccurredAt - txn.occurredAt : ℤ) : ℚ)| ≤ k ↔
        |txn.ledgerOccurredAt - txn.occurredAt| ≤ k := by
    rw [nearest_abs, ← Int.cast_abs, nearest_le_natCast small]
  have drift := @window 60000 (by norm_num)
  have exact_ := @window 2000 (by norm_num)
  have amount : txn.amount.natAbs < 2 ^ 53 := by
    have := Int.natCast_natAbs txn.amount
    zify
    omega
  have tolerance := @scaled_le_iff txn.amount.natAbs (txn.amount - txn.ledgerAmount).natAbs amount
  rw [← abs_nearest_intCast, Nat.cast_natAbs, Int.cast_abs] at tolerance
  push_cast at drift exact_ tolerance
  simp only [classify, paired, Bool.false_eq_true, if_false, backendRules]
  push_cast
  simp only [← not_le, drift, exact_, tolerance, exactVerdict, Diverges]
  by_cases close : |txn.ledgerOccurredAt - txn.occurredAt| ≤ 60000
  · by_cases collapse : Collapses txn.amount.natAbs (txn.amount - txn.ledgerAmount).natAbs
    · have above := collapse.above
      have differ : txn.ledgerAmount ≠ txn.amount := by omega
      simp only [close, collapse, differ, or_true, and_self, not_true, if_false, if_true, ne_eq,
        not_false_eq_true]
    · simp only [close, collapse, or_false, and_false, not_true, if_false]
  · simp only [close, false_and, not_false_eq_true, if_true, if_false]

/-- The amount rule in hundredths. -/
lemma within_iff {a b : Money} : (a.toDecimal.sub b.toDecimal).abs.toRat ≤
      (Core.amountTolerance a .shipped).toRat ↔
    10000 * (a.minor - b.minor).natAbs ≤ max (100 * a.minor.natAbs) 10000000 := by
  have boundA := a.bounded
  have boundB := b.bounded
  have diff : (a.toDecimal.sub b.toDecimal).abs = ⟨|a.minor - b.minor|, -2⟩ := by
    have aligned : a.toDecimal.sub b.toDecimal = ⟨a.minor - b.minor, -2⟩ := by
      simp only [Decimal.sub, Money.toDecimal, min_self, sub_self, Int.toNat_zero, pow_zero, mul_one]
      exact Decimal.fix_eq_self (by dsimp only; rw [abs_lt] at *; omega)
    rw [aligned, Decimal.abs]
    exact Decimal.fix_eq_self (by dsimp only; rw [abs_abs, abs_lt]; rw [abs_lt] at *; omega)
  have share : a.toDecimal.abs.mul MatchConfig.shipped.amountDriftPct = ⟨|a.minor|, -4⟩ := by
    have magnitude : a.toDecimal.abs = ⟨|a.minor|, -2⟩ :=
      Decimal.fix_eq_self (by dsimp only [Money.toDecimal]; rw [abs_abs]; omega)
    rw [magnitude, Decimal.mul]
    simp only [MatchConfig.shipped, mul_one, Int.reduceAdd, Int.reduceNeg]
    exact Decimal.fix_eq_self (by dsimp only; rw [abs_abs]; omega)
  have tolerance : (Core.amountTolerance a .shipped).toRat = max ((|a.minor| : ℤ) / 10000 : ℚ) 10 := by
    have floor : MatchConfig.shipped.amountDriftAbs.toRat = 10 := by norm_num [MatchConfig.shipped, Decimal.toRat]
    have percent : (⟨|a.minor|, -4⟩ : Decimal).toRat = (|a.minor| : ℤ) / 10000 := by
      norm_num [Decimal.toRat, div_eq_mul_inv]
    rw [Core.amountTolerance, share, Decimal.max, floor, percent]
    split_ifs with less
    · rw [floor, max_eq_right less.le]
    · rw [percent, max_eq_left (not_lt.1 less)]
  have distance : (⟨|a.minor - b.minor|, -2⟩ : Decimal).toRat = (|a.minor - b.minor| : ℤ) / 100 := by
    norm_num [Decimal.toRat, div_eq_mul_inv]
  rw [diff, distance, tolerance, le_max_iff, le_max_iff, div_le_div_iff₀ (by norm_num) (by norm_num),
    div_le_iff₀ (by norm_num)]
  norm_cast
  rw [← Int.natCast_natAbs, ← Int.natCast_natAbs]
  omega

/-- The rules in milliseconds and minor units are those of `classify_pair`. -/
lemma classifyPair_eq (agree : g.Agree l) (gateway : g.side = .gateway) (amount : g.amount.minor = txn.amount)
    (ledgerAmount : l.amount.minor = txn.ledgerAmount)
    (occurredAt : g.occurredAt.us = (txn.occurredAt + epoch) * 1000)
    (ledgerOccurredAt : l.occurredAt.us = (txn.ledgerOccurredAt + epoch) * 1000) :
    Core.classifyPair g l .shipped = (exactVerdict txn).engine := by
  obtain ⟨tenant, side, txnId, currency⟩ := agree
  have other : ¬IngestSource.gateway = l.side := by rw [side, gateway]; decide
  have delta : Core.timeDelta g l = |txn.ledgerOccurredAt - txn.occurredAt| * 1000 := by
    rw [Core.timeDelta, Datetime.diff, occurredAt, ledgerOccurredAt, abs_sub_comm,
      show (txn.ledgerOccurredAt + epoch) * 1000 - (txn.occurredAt + epoch) * 1000 =
        (txn.ledgerOccurredAt - txn.occurredAt) * 1000 by ring, abs_mul]
    rfl
  have exact_ : Core.timeDelta g l ≤ MatchConfig.shipped.exactWindow ↔
      |txn.ledgerOccurredAt - txn.occurredAt| ≤ 2000 := by
    rw [delta]
    change _ ≤ (2 * 1000000 : ℤ) ↔ _
    omega
  have drift : Core.timeDelta g l ≤ MatchConfig.shipped.driftWindow ↔
      |txn.ledgerOccurredAt - txn.occurredAt| ≤ 60000 := by
    rw [delta]
    change _ ≤ (60 * 1000000 : ℤ) ↔ _
    omega
  have same : g.amount = l.amount ↔ txn.ledgerAmount = txn.amount := by
    rw [← amount, ← ledgerAmount, eq_comm]
    constructor
    · intro eq
      rw [eq]
    · intro eq
      cases hg : g.amount
      cases hl : l.amount
      simp_all
  have within := @within_iff g.amount l.amount
  rw [amount, ledgerAmount] at within
  simp only [Core.classifyPair, tenant, other, txnId, currency, Core.gatewayAndLedger, gateway, exact_, drift,
    same, within, ne_eq, not_true, if_false, if_true, exactVerdict, ← not_le]
  split_ifs <;> first | rfl | omega

/-- `classify` predicts a verdict of the engine: the four answers to a pair that is sent correspond. -/
def Predicts (txn : PlannedTxn) (verdict : Option (ReconStatus × MatchLayer)) : Prop :=
  (classify txn backendRules = .matchedExact ↔ verdict = some (.matched, .exact)) ∧
    (classify txn backendRules = .matchedTimeDrift ↔ verdict = some (.matched, .timeDrift)) ∧
    (classify txn backendRules = .amountDrift ↔ verdict = some (.amountDrift, .amountDrift)) ∧
    (classify txn backendRules = .unmatchedBoth ↔ verdict = none)

/-- The rules are predicted exactly where no difference collapses. -/
lemma predicts_iff (paired : txn.dropped = false) (safe : |txn.amount| < 2 ^ 53) :
    Predicts txn (exactVerdict txn).engine ↔ ¬Diverges txn := by
  have sent : exactVerdict txn ≠ .unmatchedGatewayOnly := by
    unfold exactVerdict
    split_ifs <;> decide
  rw [Predicts, classify_eq paired safe]
  by_cases diverges : Diverges txn
  · simp [diverges, exactVerdict_of_diverges diverges, TruthVerdict.engine]
  · rw [if_neg diverges]
    cases eq : exactVerdict txn <;> simp_all [TruthVerdict.engine]

end Pair

/-! ## Over the wire -/

/-- What the database holds of a row that is sent, if the API takes it. -/
def SourceRow.received (server : Server) (row : SourceRow) : Option Content :=
  match row.side with
  | .gateway => do
    let payload ← toGatewayWebhook row
    let body ← payload.validate server
    let occurredAt ← body.occurredAt.toUtc.toOption
    some ⟨body.txnId, body.amount, body.currency, occurredAt⟩
  | .ledger => do
    let payload ← toLedgerEntry row
    let entry ← payload.validate server
    let occurredAt ← entry.occurredAt.toUtc.toOption
    some ⟨entry.txnId, entry.amount, entry.currency, occurredAt⟩

section Received
variable {server : Server} {row : SourceRow} {c : Content}

/-- The fields of a row, read one by one. -/
lemma received_eq_some (eq : row.received server = some c) : ∃ iso txnId amount currency at_,
    toISOString row.occurredAt = some iso ∧ shortText 128 row.txnId = some txnId ∧
      moneyField (toDecimalString row.amount) = some amount ∧ currencyField row.currency = some currency ∧
      server.instant iso = some at_ ∧ at_.toUtc = .ok c.occurredAt ∧
      c.txnId = txnId.1 ∧ c.amount = amount.1 ∧ c.currency = currency.1 := by
  have utc {a : AwareDatetime} {d : Datetime} (eq : a.toUtc.toOption = some d) : a.toUtc = .ok d := by
    cases utc : a.toUtc with
    | ok _ =>
      rw [utc] at eq
      rw [Option.some.inj eq]
    | error _ => rw [utc] at eq; cases eq
  unfold SourceRow.received at eq
  split at eq
  · obtain ⟨payload, sent, eq⟩ := Option.bind_eq_some_iff.1 eq
    obtain ⟨body, valid, eq⟩ := Option.bind_eq_some_iff.1 eq
    obtain ⟨occurredAt, ok, eq⟩ := Option.bind_eq_some_iff.1 eq
    obtain rfl := Option.some.inj eq
    obtain ⟨iso, time, rfl⟩ := Option.map_eq_some_iff.1 sent
    obtain ⟨txnId, id, valid⟩ := Option.bind_eq_some_iff.1 valid
    obtain ⟨amount, money, valid⟩ := Option.bind_eq_some_iff.1 valid
    obtain ⟨currency, code, valid⟩ := Option.bind_eq_some_iff.1 valid
    obtain ⟨at_, instant, valid⟩ := Option.bind_eq_some_iff.1 valid
    obtain ⟨ref, _, valid⟩ := Option.bind_eq_some_iff.1 valid
    obtain rfl := Option.some.inj valid
    exact ⟨iso, txnId, amount, currency, at_, time, id, money, code, instant, utc ok, rfl, rfl, rfl⟩
  · obtain ⟨payload, sent, eq⟩ := Option.bind_eq_some_iff.1 eq
    obtain ⟨entry, valid, eq⟩ := Option.bind_eq_some_iff.1 eq
    obtain ⟨occurredAt, ok, eq⟩ := Option.bind_eq_some_iff.1 eq
    obtain rfl := Option.some.inj eq
    obtain ⟨iso, time, rfl⟩ := Option.map_eq_some_iff.1 sent
    obtain ⟨entryId, _, valid⟩ := Option.bind_eq_some_iff.1 valid
    obtain ⟨txnId, id, valid⟩ := Option.bind_eq_some_iff.1 valid
    obtain ⟨amount, money, valid⟩ := Option.bind_eq_some_iff.1 valid
    obtain ⟨currency, code, valid⟩ := Option.bind_eq_some_iff.1 valid
    obtain ⟨at_, instant, valid⟩ := Option.bind_eq_some_iff.1 valid
    obtain ⟨key, _, valid⟩ := Option.bind_eq_some_iff.1 valid
    obtain rfl := Option.some.inj valid
    exact ⟨iso, txnId, amount, currency, at_, time, id, money, code, instant, utc ok, rfl, rfl, rfl⟩

/-- Amount and instant come back as they were sent. -/
lemma received_amount (eq : row.received server = some c) (nonzero : row.amount ≠ 0)
    (safe : |row.amount| < 2 ^ 53) :
    c.amount.minor = row.amount ∧ c.occurredAt.us = (row.occurredAt + epoch) * 1000 := by
  obtain ⟨iso, txnId, amount, currency, at_, time, _, money, _, instant, utc, _, same, _⟩ := received_eq_some eq
  obtain ⟨m, read, minor⟩ := moneyField_toDecimalString nonzero safe
  rw [money] at read
  obtain rfl := Option.some.inj read
  refine ⟨by rw [same, minor], ?_⟩
  rw [instant_toISOString time] at instant
  cases made : Datetime.ofUs ((row.occurredAt + epoch) * 1000) with
  | error _ => rw [made] at instant; cases instant
  | ok d =>
    rw [made] at instant
    obtain rfl := Option.some.inj instant
    rw [AwareDatetime.toUtc_utc] at utc
    rw [← Except.ok.inj utc]
    exact Datetime.ofUs_eq_ok.1 made

/-- Rows with the same texts are received with the same texts. -/
lemma received_texts {row' : SourceRow} {c' : Content} (eq : row.received server = some c)
    (eq' : row'.received server = some c') (txnId : row'.txnId = row.txnId)
    (currency : row'.currency = row.currency) : c'.txnId = c.txnId ∧ c'.currency = c.currency := by
  obtain ⟨_, id, _, code, _, _, readId, _, readCode, _, _, sameId, _, sameCode⟩ := received_eq_some eq
  obtain ⟨_, id', _, code', _, _, readId', _, readCode', _, _, sameId', _, sameCode'⟩ := received_eq_some eq'
  rw [txnId, readId] at readId'
  rw [currency, readCode] at readCode'
  rw [sameId, sameId', sameCode, sameCode', Option.some.inj readId', Option.some.inj readCode']
  exact ⟨rfl, rfl⟩

end Received

end LedgerLoop.Frontend
