import LedgerLoop.Worker.Evidence

/-!
# The stats add up

`get_stats` counts by status, by layer and in two tables. What ties the counts together is an invariant of
every writer: a result has a layer that its status comes of (`ReconStatus.layers`), and it has an exception
iff its status opens one.

`match_rate` is a float. It is the quotient rounded to a double, so multiplied by the total it gives the
matches up to the rounding (`stats_add_up`), and not always exactly (`rate_of_fortyNine`).
-/

set_option autoImplicit false

namespace LedgerLoop
open LedgerLoop.Library

/-- The layers a status comes of; `timeDrift` is reserved. -/
def ReconStatus.layers : ReconStatus → List MatchLayer
  | .matched => [.exact, .timeDrift]
  | .amountDrift => [.amountDrift]
  | .unmatchedGatewayOnly | .unmatchedLedgerOnly => [.unmatchedSweep]
  | .duplicate => [.duplicate]
  | .timeDrift => []

/-- A drift, or one side without the other. -/
def ReconStatus.isBreak : ReconStatus → Bool
  | .amountDrift | .timeDrift | .unmatchedGatewayOnly | .unmatchedLedgerOnly => true
  | .matched | .duplicate => false

/-- The stats up to the number of duplicates. -/
def StatsOut.eraseDuplicates (out : StatsOut) : StatsOut :=
  { out with row := { out.row with duplicates := 0 } }

namespace Queries

/-- The tenant's results in the window. -/
def windowRows (s : Store) (tenantId : ℕ) (window : WindowName) (now : Datetime) :
    List ReconciliationResult :=
  s.reconciliationResults.filter fun r => r.tenantId == tenantId &&
    decide ((now.us - Timedelta.seconds window.seconds : ℤ) ≤ r.resolvedAt.us)

/-- The exception of a result is not closed. -/
def isOpenBreak (s : Store) (tenantId : ℕ) (r : ReconciliationResult) : Bool :=
  r.tenantId == tenantId && r.status.isBreak &&
    s.exceptions.any fun e => e.reconciliationResultId == r.id && e.closedAt.isNone

section Counts
variable {rows : List ReconciliationResult} {r : ReconciliationResult} {n : ℕ}

/-- The counts by status are those of the active results. -/
lemma total_statsOf :
    (statsOf rows n).matched + (statsOf rows n).unmatched + (statsOf rows n).drift =
      rows.countP (·.active) := by
  simp only [statsOf]
  induction rows with
  | nil => rfl
  | cons r rows ih =>
    simp only [List.countP_cons, ReconciliationResult.active] at ih ⊢
    cases r.status <;> simp <;> omega

lemma unmatched_statsOf :
    (statsOf rows n).unmatched = (statsOf rows n).unmatchedGateway + (statsOf rows n).unmatchedLedger := by
  simp only [statsOf]
  induction rows with
  | nil => rfl
  | cons r rows ih =>
    simp only [List.countP_cons] at ih ⊢
    cases r.status <;> simp <;> omega

/-- A duplicate marker counts as a duplicate only. -/
lemma statsOf_concat (status : r.status = .duplicate) (layer : r.matchLayer = .duplicate) :
    statsOf (rows ++ [r]) n = { statsOf rows n with duplicates := (statsOf rows n).duplicates + 1 } := by
  simp [statsOf, status, layer, ReconciliationResult.active]

end Counts

/-- A rate of a count to a total that contains it. -/
lemma matchRate_bounds {matched total : ℕ} (le : matched ≤ total) (rate : ℚ)
    (eq : rate = if total = 0 then 0 else Binary64.nearest (matched / total)) :
    0 ≤ rate ∧ rate ≤ 1 ∧ |rate * total - matched| ≤ matched / 2 ^ 53 := by
  split_ifs at eq with empty
  · subst eq
    obtain rfl : matched = 0 := by omega
    simp
  have pos : (0 : ℚ) < total := by exact_mod_cast Nat.pos_of_ne_zero empty
  have nonneg : (0 : ℚ) ≤ matched / total := by positivity
  have one : Binary64.nearest 1 = 1 := by exact_mod_cast @Binary64.nearest_natCast 1 (by norm_num)
  have error := mul_le_mul_of_nonneg_right (Binary64.abs_nearest_sub_le nonneg) pos.le
  subst eq
  refine ⟨Binary64.nearest_nonneg nonneg, ?_, ?_⟩
  · rw [← one]
    exact Binary64.nearest_mono ((div_le_one pos).2 (by exact_mod_cast le))
  · calc |Binary64.nearest (matched / total) * total - matched|
        = |Binary64.nearest (matched / total) - matched / total| * total := by
          rw [← abs_of_pos pos, ← abs_mul, abs_of_pos pos, sub_mul, div_mul_cancel₀ _ pos.ne']
      _ ≤ matched / total / 2 ^ 53 * total := error
      _ = matched / 2 ^ 53 := by field_simp

end Queries

namespace System
open Persist Queries

/-- Every result has a layer its status comes of. -/
def Layered (s : Store) : Prop := ∀ r ∈ s.reconciliationResults, r.matchLayer ∈ r.status.layers

section Layers
variable {config : MatchConfig} {s u : Sys} {e : Event}

/-- Every decision has a layer its status comes of. -/
lemma Decided.layer_mem {known : TxnFacts → Prop} {candidate d}
    (dec : Decided config known candidate d) : d.layer ∈ d.status.layers := by
  cases dec with
  | duplicate n => exact List.mem_singleton_self _
  | unmatched waited =>
    simp only [Core.decideUnmatched]
    split_ifs <;> exact List.mem_singleton_self _
  | pair _ verdict =>
    cases Core.classifyPair_verdict verdict <;> simp [Core.pairDecision, ReconStatus.layers]

/-- Every step keeps the layers. -/
lemma Step.layered (inv : s.Inv config) (layered : Layered s.store) (st : Step config s e u) :
    Layered u.store := by
  cases st with
  | openAccount | load | find | ack | scan | beginRow | abandon => exact layered
  | ingest fresh ok =>
    intro r mem
    exact layered r ((Ingest.run_effect ok).results ▸ mem)
  | apply writing fresh ok =>
    rename_i w job candidate decision sides now draws store res
    have sound := inv.workers w
    rw [writing] at sound
    intro r mem
    by_cases old : r ∈ s.store.reconciliationResults
    · exact layered r old
    · obtain ⟨_, _, status, layer, _⟩ := written_of_persist ok mem old
      rw [status, layer]
      exact sound.2.1.layer_mem
  | deleteAccount => exact fun r mem => layered r (mem_deleteWhere.1 mem).1
  | closeException ok =>
    obtain ⟨rfl, _⟩ := closeException_ok ok
    exact layered

lemma layered_reached {tr} (run : Run (Step config) Sys.initial tr u) : Layered u.store :=
  (run.invariant (I := fun s => s.Inv config ∧ Layered s.store)
    ⟨.initial config, by rintro r ⟨⟩⟩ fun inv st => ⟨st.inv inv.1, st.layered inv.1 inv.2⟩).2

end Layers

section Breaks
variable {s : Store} {tenantId : ℕ}

/-- The open exceptions are those of the breaks that are not closed. -/
lemma countP_open (c : Consistent s) :
    (s.exceptions.countP fun e => e.tenantId == tenantId && e.closedAt.isNone) =
      s.reconciliationResults.countP (isOpenBreak s tenantId) := by
  rw [List.countP_eq_length_filter, List.countP_eq_length_filter,
    ← List.length_map (f := Exception_.reconciliationResultId),
    ← List.length_map (f := ReconciliationResult.id)]
  refine List.Perm.length_eq ((List.perm_ext_iff_of_nodup
    ((List.filter_sublist.map _).nodup c.exceptionResults)
    ((List.filter_sublist.map _).nodup c.resultIds)).2 fun id => ?_)
  simp only [List.mem_map, List.mem_filter, Bool.and_eq_true, beq_iff_eq, isOpenBreak, List.any_eq_true]
  constructor
  · rintro ⟨e, ⟨mem, tenant, isOpen⟩, rfl⟩
    obtain ⟨r, memR, idEq, tenantR⟩ := c.exceptionOf e mem
    have opens := (c.opened r memR).2 ⟨e, mem, idEq.symm⟩
    have isBreak : r.status.isBreak = true := by
      cases eq : r.status <;> simp [eq, ReconStatus.opensException, ReconStatus.isBreak] at opens ⊢
    exact ⟨r, ⟨memR, ⟨tenantR.trans tenant, isBreak⟩, e, mem, idEq.symm, isOpen⟩, idEq⟩
  · rintro ⟨r, ⟨memR, ⟨tenant, _⟩, e, mem, refers, isOpen⟩, rfl⟩
    obtain ⟨r', memR', idEq, tenantR⟩ := c.exceptionOf e mem
    obtain rfl := eq_of_key c.resultIds memR' memR (idEq.trans refers)
    exact ⟨e, ⟨mem, tenantR.symm.trans tenant, isOpen⟩, refers⟩

end Breaks

/-- A repeated submission, or what a worker does to mark it. -/
def Resubmits (s : Sys) : Event → Prop
  | .ingest call _ => ∀ tenantId key, call.HasKey tenantId key →
    Ingest.stored s.store call.side tenantId key = true
  | .load _ message _ => message.isDuplicate = true
  | .apply w .. => ∃ job candidate decision sides,
    s.workers w = .writing job candidate decision sides ∧ decision.status = .duplicate
  | .ack _ | .abandon _ => True
  | _ => False

section Duplicates
variable {config : MatchConfig} {s u v : Sys} {e : Event} {tenantId : ℕ} {window : WindowName}
  {now : Datetime}

/-- A duplicate marker opens no exception. -/
lemma settle_duplicate {store : Store} {d : Decision} {r : ReconciliationResult} {draws : Draws}
    (duplicate : d.status = .duplicate) : (settle store d r draws).1.exceptions = store.exceptions := by
  simp [settle, Decision.opensException, duplicate, ReconStatus.opensException]

/-- A repeated submission leads to a duplicate marker at most. -/
lemma Step.resubmits (inv : s.Inv config) (st : Step config s e u) (again : Resubmits s e) :
    u.store.exceptions = s.store.exceptions ∧
      (u.store.reconciliationResults = s.store.reconciliationResults ∨
        ∃ r, u.store.reconciliationResults = s.store.reconciliationResults ++ [r] ∧
          r.status = .duplicate ∧ r.matchLayer = .duplicate) := by
  cases st with
  | openAccount | find | scan | beginRow | deleteAccount | closeException => cases again
  | load | ack | abandon => exact ⟨rfl, .inl rfl⟩
  | ingest fresh ok =>
    have eff := Ingest.run_effect ok
    exact ⟨eff.exceptions, .inl eff.results⟩
  | apply writing fresh ok =>
    rename_i w job candidate decision sides now draws store res
    obtain ⟨job', candidate', decision', sides', writing', duplicate⟩ := again
    cases writing.symm.trans writing'
    have sound := inv.workers w
    rw [writing] at sound
    have layer := sound.2.1.layer_mem
    rw [duplicate] at layer
    obtain ⟨r, eq, ⟨_, rfl⟩ | ⟨_, _, rfl⟩⟩ := persist_ok ok
    · exact ⟨rfl, .inl rfl⟩
    · refine ⟨settle_duplicate duplicate, .inr ⟨r, settle_results _ _ _ _, ?_, ?_⟩⟩
      · rw [eq]
        exact duplicate
      · rw [eq]
        exact List.mem_singleton.1 layer

/-- Repeated submissions change the number of duplicates and nothing else. -/
lemma Step.stats (inv : s.Inv config) (st : Step config s e u) (again : Resubmits s e) :
    (getStats u.store tenantId window now).eraseDuplicates =
      (getStats s.store tenantId window now).eraseDuplicates := by
  obtain ⟨exceptions, results | ⟨r, results, status, layer⟩⟩ := st.resubmits inv again
  · rw [getStats, getStats, fetchStats, fetchStats, exceptions, results]
  · rw [getStats, getStats, fetchStats, fetchStats, exceptions, results, List.filter_append,
      List.filter_singleton]
    cases r.tenantId == tenantId &&
        decide ((now.us - Timedelta.seconds window.seconds : ℤ) ≤ r.resolvedAt.us) with
    | true =>
      rw [cond_true, statsOf_concat status layer]
      rfl
    | false => rw [cond_false, List.append_nil]

end Duplicates

/-- The stats of a tenant and a window add up: the total is the number of results that are no duplicates,
    the unmatched are those of the two sides, the matches by time drift are matches, the match rate is the
    quotient rounded to a double, repeated submissions change the number of duplicates only, and the open
    exceptions are the breaks of all time that are not closed. -/
structure AddsUp (config : MatchConfig) (u : Sys) (tenantId : ℕ) (window : WindowName) (now : Datetime)
    (out : StatsOut) (rows : List ReconciliationResult) : Prop where
  total : out.total = rows.countP (·.active)
  unmatched : out.row.unmatched = out.row.unmatchedGateway + out.row.unmatchedLedger
  matched : out.row.matched = rows.countP (·.status == .matched)
  viaTimeDrift : out.row.viaTimeDrift =
    rows.countP fun r => r.status == .matched && r.matchLayer == .timeDrift
  rate : out.matchRate =
    if out.total = 0 then 0 else Binary64.nearest (out.row.matched / out.total)
  rateBounds : 0 ≤ out.matchRate ∧ out.matchRate ≤ 1 ∧
    |out.matchRate * out.total - out.row.matched| ≤ out.row.matched / 2 ^ 53
  repeated : ∀ tr' v, Run (Step config) u tr' v → (∀ p ∈ tr', Resubmits p.1 p.2) →
    (getStats v.store tenantId window now).eraseDuplicates = out.eraseDuplicates
  openExceptions : out.row.openExceptions =
    u.store.reconciliationResults.countP (isOpenBreak u.store tenantId)

/-- In every reachable state the stats of every tenant and window add up. -/
theorem stats_add_up {config : MatchConfig} {tr u} (run : Run (Step config) Sys.initial tr u)
    (tenantId : ℕ) (window : WindowName) (now : Datetime) :
    AddsUp config u tenantId window now (getStats u.store tenantId window now)
      (windowRows u.store tenantId window now) := by
  have inv := Sys.Inv.reached run
  refine ⟨total_statsOf, unmatched_statsOf, rfl, ?_, rfl, ?_, fun tr' v run' again => ?_,
    countP_open inv.consistent⟩
  · refine List.countP_congr fun r mem => ?_
    have layer := layered_reached run r (List.mem_of_mem_filter mem)
    cases eq : r.status <;> simp [eq, ReconStatus.layers] at layer ⊢ <;> simp_all
  · refine matchRate_bounds ?_ _ rfl
    change (statsOf _ _).matched ≤ (statsOf _ _).matched + (statsOf _ _).unmatched + (statsOf _ _).drift
    omega
  · refine (run'.invariant_within (I := fun t => t.Inv config ∧
      (getStats t.store tenantId window now).eraseDuplicates =
        (getStats u.store tenantId window now).eraseDuplicates) (Q := fun _ => True) ⟨inv, rfl⟩ again
      (fun _ _ => trivial) trivial fun held again _ _ st => ?_).2
    exact ⟨st.inv held.1, (st.stats held.1 again).trans held.2⟩

/-! One of 49 gateway rows has its ledger row, and a sweep gives up the other 48. -/

namespace Sample

def keyAt (n : ℕ) : String := "key-" ++ toString n

def sweepOf (rows : List (ℕ × List TxnFacts)) : List Event :=
  .scan 0 (rows.map fun p => facts (gatewayRow p.1 (keyAt p.1)) .gateway) ::
    rows.flatMap fun p => [.beginRow 0, .find 0 p.2 (.newYear 5), .apply 0 (.newYear 5) (drawsAt (p.1 + 1))]

/-- The row that is matched, then `n` rows that are not. -/
def oneMatch (n : ℕ) : List Event :=
  .openAccount Ingest.Sample.account :: .ingest (.ledger 1 [Ingest.Sample.entry]) Ingest.Sample.draws ::
    ((List.range (n + 1)).map fun i =>
      .ingest (.gateway 1 Ingest.Sample.payload (keyAt i) "null") (Ingest.Sample.drawsAfter i)) ++
    sweepOf ((0, [facts (ledgerRow 0 Ingest.Sample.entry) .ledger]) ::
      (List.range n).map fun i => (i + 1, []))

end Sample

/-- A rate of 1 in 49, and its product with 49 in double arithmetic too, is not what it should be. -/
lemma nearest_fortyNinth :
    Binary64.nearest (1 / 49) = 5882252574524729 * (2 : ℚ) ^ (-58 : ℤ) ∧
      Binary64.nearest (Binary64.nearest (1 / 49) * 49) = 9007199254740991 * (2 : ℚ) ^ (-53 : ℤ) := by
  have rate : Binary64.nearest (1 / 49) = 5882252574524729 * (2 : ℚ) ^ (-58 : ℤ) :=
    @Binary64.nearest_eq _ (-6) 5882252574524729 (by norm_num) (by norm_num)
      (by norm_num [Binary64.halfEven])
  refine ⟨rate, ?_⟩
  rw [rate]
  exact @Binary64.nearest_eq (5882252574524729 * 2 ^ (-58 : ℤ) * 49) (-1) 9007199254740991
    (by norm_num) (by norm_num) (by norm_num [Binary64.halfEven])

/-- The match rate of 1 match in 49 results, times 49, is less than 1, exactly and in double arithmetic. -/
theorem rate_of_fortyNine :
    ∃ tr u, Run (Step .shipped) Sys.initial tr u ∧
      (getStats u.store 1 .hour (.newYear 5)).row.matched = 1 ∧
      (getStats u.store 1 .hour (.newYear 5)).total = 49 ∧
      (getStats u.store 1 .hour (.newYear 5)).matchRate * 49 ≠ 1 ∧
      Binary64.nearest ((getStats u.store 1 .hour (.newYear 5)).matchRate * 49) ≠ 1 := by
  have runs : ((replay (step .shipped) Sys.initial (Sample.oneMatch 48)).map fun p =>
      ((getStats p.2.store 1 .hour (.newYear 5)).row.matched,
        (getStats p.2.store 1 .hour (.newYear 5)).total)) = some (1, 49) := by
    decide +kernel
  obtain ⟨⟨tr, u⟩, eq, counts⟩ := Option.map_eq_some_iff.1 runs
  obtain ⟨matched, total⟩ := Prod.mk.inj counts
  have rate : (getStats u.store 1 .hour (.newYear 5)).matchRate = Binary64.nearest (1 / 49) := by
    have unfolded : (getStats u.store 1 .hour (.newYear 5)).matchRate =
        if (getStats u.store 1 .hour (.newYear 5)).total = 0 then 0
        else Binary64.nearest ((getStats u.store 1 .hour (.newYear 5)).row.matched /
          (getStats u.store 1 .hour (.newYear 5)).total) := rfl
    rw [unfolded, matched, total]
    norm_num
  obtain ⟨quotient, product⟩ := nearest_fortyNinth
  refine ⟨tr, u, .of_replay step_iff.1 eq, matched, total, ?_, ?_⟩
  · rw [rate, quotient]
    norm_num
  · rw [rate, product]
    norm_num

namespace Sample

/-- The sides of a payment that its ledger books a cent too high. -/
def short : GatewayWebhookIn :=
  { Ingest.Sample.payload with
    txnId := "txn-short"
    txnId_length := by decide }

def high : LedgerEntryIn :=
  { Ingest.Sample.entry with
    txnId := "txn-short"
    amount := ⟨10001, by decide⟩
    idempotencyKey := "key-high"
    txnId_length := by decide
    amount_nonzero := by decide
    idempotencyKey_length := by decide }

def alone : GatewayWebhookIn :=
  { Ingest.Sample.payload with
    txnId := "txn-3"
    txnId_length := by decide }

def shortRow : RawRow := Ingest.gatewayRow 1 short "key-2" "null" (.newYear 0) (Ingest.Sample.drawsAfter 1)

def highRow : RawRow := Ingest.ledgerRow 1 high (.newYear 0) 0 (Ingest.Sample.drawsAfter 1)

def aloneRow : RawRow := Ingest.gatewayRow 1 alone "key-3" "null" (.newYear 0) (Ingest.Sample.drawsAfter 3)

/-- After the match, a drift, a retry of the first payment, and a sweep of a payment no entry is for. -/
def everyStatus : List Event :=
  events ++
    [.ingest (.gateway 1 short "key-2" "null") (Ingest.Sample.drawsAfter 1),
      .ingest (.ledger 1 [high]) (Ingest.Sample.drawsAfter 1),
      .load 0 (messageOf .gateway shortRow) none,
      .find 0 [facts highRow .ledger] (.newYear 5),
      .apply 0 (.newYear 5) (drawsAt 3), .ack 0,
      .ingest (.gateway 1 Ingest.Sample.payload "key-1" "null") (Ingest.Sample.drawsAfter 2),
      .load 0 { messageOf .gateway (gatewayRow 0 "key-1") with isDuplicate := true, submissions := 2 } none,
      .apply 0 (.newYear 5) (drawsAt 4), .ack 0,
      .ingest (.gateway 1 alone "key-3" "null") (Ingest.Sample.drawsAfter 3),
      .scan 0 [facts aloneRow .gateway], .beginRow 0, .find 0 [] (.newYear 5),
      .apply 0 (.newYear 5) (drawsAt 5)]

end Sample

theorem stats_add_up_sample :
    ∃ tr u, Run (Step .shipped) Sys.initial tr u ∧
      ((getStats u.store 1 .hour (.newYear 5)).row.matched, (getStats u.store 1 .hour (.newYear 5)).row.drift,
        (getStats u.store 1 .hour (.newYear 5)).row.unmatched,
        (getStats u.store 1 .hour (.newYear 5)).row.duplicates) = (1, 1, 1, 1) ∧
      AddsUp .shipped u 1 .hour (.newYear 5) (getStats u.store 1 .hour (.newYear 5))
        (windowRows u.store 1 .hour (.newYear 5)) := by
  have runs : ((replay (step .shipped) Sys.initial Sample.everyStatus).map fun p =>
      ((getStats p.2.store 1 .hour (.newYear 5)).row.matched,
        (getStats p.2.store 1 .hour (.newYear 5)).row.drift,
        (getStats p.2.store 1 .hour (.newYear 5)).row.unmatched,
        (getStats p.2.store 1 .hour (.newYear 5)).row.duplicates)) = some (1, 1, 1, 1) := by decide +kernel
  obtain ⟨⟨tr, u⟩, eq, counts⟩ := Option.map_eq_some_iff.1 runs
  have run : Run (Step .shipped) Sys.initial tr u := .of_replay step_iff.1 eq
  exact ⟨tr, u, run, counts, stats_add_up run 1 .hour (.newYear 5)⟩

end System
end LedgerLoop
