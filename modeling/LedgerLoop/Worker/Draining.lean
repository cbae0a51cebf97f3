import LedgerLoop.Worker.Pass

/-!
# Draining the backlog

`sweep` of `worker/sweep.py` repeats `sweep_once` until a pass counts nothing. Without concurrent
writers and without a transaction that raises, a pass takes the oldest rows of either side out of the
backlog, as many as its limit admits, and counts them, so that a pass that counts nothing has found
nothing. `sweep_drains` bounds the number of passes by the larger side of the backlog.
-/

set_option autoImplicit false

namespace LedgerLoop
open LedgerLoop.Library

namespace Sweeper

/-- How `sweep` ended. -/
structure Drain where
  store : Store
  total : ℕ
  passes : ℕ
  drained : Bool
  raised : Option PyError := none

/-- `sweep`, with `maxPasses` passes left. -/
def sweep (settings : SweepSettings) (env : ℕ → PassEnv) (s : Store) : ℕ → Drain
  | 0 => { store := s, total := 0, passes := 0, drained := false }
  | maxPasses + 1 =>
    let pass := sweepOnce settings s (env 0)
    match pass.raised with
    | some e => { store := pass.store, total := 0, passes := 1, drained := false, raised := some e }
    | none =>
      if pass.count = 0 then { store := pass.store, total := 0, passes := 1, drained := true }
      else
        let later := sweep settings (fun k => env (k + 1)) pass.store maxPasses
        { later with total := pass.count + later.total, passes := later.passes + 1 }

/-- The store before the `k`-th of a sequence of passes. -/
def passStore (settings : SweepSettings) (env : ℕ → PassEnv) (s : Store) : ℕ → Store
  | 0 => s
  | k + 1 => (sweepOnce settings (passStore settings env s k) (env k)).store

/-- The results the row transactions of a pass write. -/
def resultsWritten (settings : SweepSettings) (s : Store) (env : PassEnv) : ℕ :=
  (sweepSides settings s env).store.reconciliationResults.length - s.reconciliationResults.length

/-- A pass reconciles the oldest rows of the gateway backlog, then the oldest of what that leaves of the
    ledger backlog, and counts them; it counts nothing iff there is no backlog. -/
def PassReconciles (settings : SweepSettings) (cutoff : Datetime) (s : Store) (env : PassEnv) : Prop :=
  ∃ gateway ledger : List RawRow,
    Earliest RawRow.receivedAt settings.batchLimit (stalePending s .gateway cutoff) gateway ∧
    Earliest RawRow.receivedAt settings.batchLimit
      (stalePending (sweepSide settings s env .gateway).store .ledger cutoff) ledger ∧
    (∀ row ∈ gateway, Settled (sweepSides settings s env).store .gateway row) ∧
    (∀ row ∈ ledger, Settled (sweepSides settings s env).store .ledger row) ∧
    (sweepOnce settings s env).count = gateway.length + ledger.length ∧
    (sweepOnce settings s env).count = resultsWritten settings s env ∧
    ((sweepOnce settings s env).count = 0 ↔
      stalePending s .gateway cutoff = [] ∧ stalePending s .ledger cutoff = [])

section Pass
variable {settings : SweepSettings} {s t : Store} {env : PassEnv} {cutoff : Datetime}
  {side : IngestSource} {rows batch : List RawRow} {ids : List ℕ}

/-- Taking a batch out of distinct rows leaves the others. -/
lemma length_filter_batch {limit : ℕ} (e : Earliest RawRow.receivedAt limit rows batch) :
    (rows.filter fun row => decide (row.id ∉ batch.map RawRow.id)).length + batch.length ≤
      rows.length := by
  obtain ⟨rest, perm, _⟩ := e.least
  have none : (batch.filter fun row => decide (row.id ∉ batch.map RawRow.id)) = [] :=
    List.filter_eq_nil_iff.2 fun row mem => by simpa using ⟨row, mem, rfl⟩
  rw [← (perm.filter _).length_eq, ← perm.length_eq, List.filter_append, none, List.nil_append,
    List.length_append, Nat.add_comm]
  exact Nat.add_le_add_left (List.length_filter_le ..) _

/-- The count of a pass is that of its row transactions. -/
lemma sweepOnce_count : (sweepOnce settings s env).count = (sweepSides settings s env).count := by
  simp only [sweepOnce]
  split <;> rfl

lemma sweepOnce_raised : (sweepOnce settings s env).raised = (sweepSides settings s env).raised := by
  simp only [sweepOnce]
  split <;> rfl

/-- Demo retention takes accounts with all that is theirs, or does nothing. -/
lemma sweepOnce_store (c : Consistent (sweepSides settings s env).store) :
    (sweepOnce settings s env).store = (sweepSides settings s env).store ∨
      ∃ ids, (sweepOnce settings s env).store = without (sweepSides settings s env).store ids := by
  simp only [sweepOnce]
  split
  · simp only [sweepDemoAccounts]
    split
    · exact .inl rfl
    · rw [deleteDemoAccounts_runs c]
      exact .inr ⟨_, rfl⟩
  · exact .inl rfl

lemma without_consistent (c : Consistent s) : Consistent (without s ids) := by
  induction ids generalizing s with
  | nil => exact without_nil ▸ c
  | cons id ids ih => exact without_cons ▸ ih (c.deleteAccount id)

lemma raw_without_sublist : ((without s ids).raw side).Sublist (s.raw side) := by
  cases side <;> exact List.filter_sublist

/-- A pass whose row transactions all return. -/
structure Pass (settings : SweepSettings) (cutoff : Datetime) (s : Store) (env : PassEnv)
    (gateway ledger : List RawRow) (mid end_ : Store) (drawn drawn' : List ℕ) : Prop where
  oldestGateway : Earliest RawRow.receivedAt settings.batchLimit (stalePending s .gateway cutoff) gateway
  oldestLedger : Earliest RawRow.receivedAt settings.batchLimit (stalePending mid .ledger cutoff) ledger
  first : Reconciled s mid .gateway (gateway.map RawRow.id) drawn
  next : Reconciled mid end_ .ledger (ledger.map RawRow.id) drawn'
  length : drawn.length = gateway.length
  length' : drawn'.length = ledger.length
  swept : sweepSides settings s env = { store := end_, count := gateway.length + ledger.length }
  middle : mid = (sweepSide settings s env .gateway).store
  idle : gateway = [] → mid = s

lemma exists_pass (c : Consistent s) (scans : env.Scans settings fun _ => cutoff)
    (fresh : env.Fresh s) (calm : (sweepOnce settings s env).raised = none) :
    ∃ gateway ledger mid end_ drawn drawn',
      Pass settings cutoff s env gateway ledger mid end_ drawn drawn' := by
  rw [sweepOnce_raised] at calm
  obtain ⟨gateway, done, rest, drawn, scanned, oldest, stopped⟩ :=
    sweepSide_stopped c scans (fresh.ofSide .gateway)
  have idle : gateway = [] → (sweepSide settings s env .gateway).store = s := by
    rintro rfl
    simp only [sweepSide, scanned, List.map_nil, sweepRows]
  rcases stopped.raised with ⟨rfl, quiet⟩ | ⟨row, tail, e, _, raised, _⟩
  · obtain ⟨ledger, done', rest', drawn', _, oldest', stopped'⟩ := sweepSide_stopped
      stopped.reconciled.consistent scans (fresh.other stopped.reconciled stopped.drawn)
    rcases stopped'.raised with ⟨rfl, quiet'⟩ | ⟨row, tail, e, _, raised, _⟩
    · obtain rfl : gateway = done := by simpa using stopped.split
      obtain rfl : ledger = done' := by simpa using stopped'.split
      refine ⟨gateway, ledger, _, _, drawn, drawn', oldest, oldest', stopped.reconciled,
        stopped'.reconciled, stopped.length, stopped'.length, ?_, rfl, idle⟩
      simp only [sweepSides, quiet, quiet', stopped.count, stopped'.count]
    · simp [sweepSides, quiet, raised] at calm
  · simp [sweepSides, raised] at calm

namespace Pass
variable {gateway ledger : List RawRow} {mid end_ : Store} {drawn drawn' : List ℕ}

/-- Its candidates are settled at the end, and it counts them. -/
lemma reconciles (p : Pass settings cutoff s env gateway ledger mid end_ drawn drawn')
    (c : Consistent s) (pos : 0 < settings.batchLimit) : PassReconciles settings cutoff s env := by
  have swept := p.swept
  have count : (sweepOnce settings s env).count = gateway.length + ledger.length := by
    rw [sweepOnce_count, swept]
  refine ⟨gateway, ledger, p.oldestGateway, p.middle ▸ p.oldestLedger, ?_, ?_, count, ?_, ?_⟩
  · intro row mem
    rw [swept]
    exact (p.first.settled_after p.next c (p.oldestGateway.subset row mem) (List.mem_map_of_mem mem)).1
  · intro row mem
    rw [swept]
    exact (p.next.settled p.first.consistent (p.oldestLedger.subset row mem)
      (List.mem_map_of_mem mem)).1
  · have first := congrArg List.length p.first.results
    have next := congrArg List.length p.next.results
    simp only [List.length_append, List.length_map, p.length, p.length'] at first next
    rw [count, resultsWritten, swept]
    simp only
    omega
  · rw [count, Nat.add_eq_zero_iff, List.length_eq_zero_iff, List.length_eq_zero_iff,
      p.oldestGateway.eq_nil_iff pos, p.oldestLedger.eq_nil_iff pos]
    refine and_congr_right fun none => ?_
    rw [p.idle ((p.oldestGateway.eq_nil_iff pos).2 none)]

/-- Each side of the backlog gets shorter by the limit, or to nothing. -/
lemma backlog (p : Pass settings cutoff s env gateway ledger mid end_ drawn drawn') :
    Consistent (sweepOnce settings s env).store ∧ ∀ side,
      (stalePending (sweepOnce settings s env).store side cutoff).length +
          min settings.batchLimit (stalePending s side cutoff).length ≤
        (stalePending s side cutoff).length := by
  have consistent : Consistent (sweepSides settings s env).store := by
    rw [p.swept]
    exact p.next.consistent
  have retained (side : IngestSource) :
      (stalePending (sweepOnce settings s env).store side cutoff).length ≤
        (stalePending end_ side cutoff).length := by
    have end_eq : (sweepSides settings s env).store = end_ := by rw [p.swept]
    rcases sweepOnce_store consistent with same | ⟨ids, same⟩
    · rw [same, end_eq]
    · rw [same, end_eq]
      exact (raw_without_sublist.filter _).length_le
  refine ⟨?_, fun side => ?_⟩
  · rcases sweepOnce_store consistent with same | ⟨ids, same⟩
    · rwa [same]
    · rw [same]
      exact without_consistent consistent
  · have taken := length_filter_batch p.oldestGateway
    have taken' := length_filter_batch p.oldestLedger
    rw [← p.first.own, p.oldestGateway.length] at taken
    rw [← p.next.own, p.oldestLedger.length] at taken'
    have kept := retained side
    cases side with
    | gateway =>
      have other := (p.next.other cutoff).length_le
      simp only [IngestSource.other] at other
      omega
    | ledger =>
      have other := (p.first.other cutoff).length_le
      simp only [IngestSource.other] at other
      omega

end Pass

end Pass

section Drain
variable {settings : SweepSettings} {cutoff : Datetime}

lemma passStore_succ {s : Store} {env : ℕ → PassEnv} (k : ℕ) : passStore settings env s (k + 1) =
    passStore settings (fun k => env (k + 1)) (sweepOnce settings s (env 0)).store k := by
  induction k with
  | zero => rfl
  | succ k ih => rw [passStore, ih]; rfl

/-- A backlog of `n` batches is drained by `n + 1` passes. -/
lemma sweep_drained {s : Store} {env : ℕ → PassEnv} {n maxPasses : ℕ} (c : Consistent s)
    (pos : 0 < settings.batchLimit)
    (backlog : ∀ side, (stalePending s side cutoff).length ≤ n * settings.batchLimit)
    (budget : n + 1 ≤ maxPasses)
    (scans : ∀ k < maxPasses, (env k).Scans settings fun _ => cutoff)
    (fresh : ∀ k < maxPasses, (env k).Fresh (passStore settings env s k))
    (calm : ∀ k < maxPasses, (sweepOnce settings (passStore settings env s k) (env k)).raised = none) :
    let drain := sweep settings env s maxPasses
    drain.raised = none ∧ drain.drained = true ∧ drain.passes ≤ n + 1 ∧
      (∀ side, stalePending drain.store side cutoff = []) ∧
      drain.total = ∑ k ∈ Finset.range drain.passes,
        resultsWritten settings (passStore settings env s k) (env k) := by
  obtain ⟨m, rfl⟩ : ∃ m, maxPasses = m + 1 := ⟨maxPasses - 1, by omega⟩
  have first := Nat.succ_pos m
  obtain ⟨gateway, ledger, mid, end_, drawn, drawn', pass⟩ :=
    exists_pass c (scans 0 first) (fresh 0 first) (calm 0 first)
  obtain ⟨c', shorter⟩ := pass.backlog
  obtain ⟨_, _, _, _, _, _, _, counts, zero⟩ := pass.reconciles c pos
  have quiet : (sweepOnce settings s (env 0)).raised = none := calm 0 first
  by_cases nothing : (sweepOnce settings s (env 0)).count = 0
  · -- the last pass: there was no backlog
    obtain ⟨noGateway, noLedger⟩ := zero.1 nothing
    have ended : sweep settings env s (m + 1) =
        { store := (sweepOnce settings s (env 0)).store, total := 0, passes := 1, drained := true } := by
      simp only [sweep, quiet, nothing, if_true]
    simp only [ended, Finset.sum_range_one]
    refine ⟨trivial, trivial, by omega, fun side => ?_, counts ▸ nothing.symm⟩
    have none : (stalePending s side cutoff).length = 0 := by
      cases side with
      | gateway => rw [noGateway]; rfl
      | ledger => rw [noLedger]; rfl
    have short := shorter side
    exact List.length_eq_zero_iff.1 (by omega)
  · have ended : sweep settings env s (m + 1) =
        let later := sweep settings (fun k => env (k + 1)) (sweepOnce settings s (env 0)).store m
        { later with total := (sweepOnce settings s (env 0)).count + later.total
                     passes := later.passes + 1 } := by
      simp only [sweep, quiet, nothing, if_false]
    cases n with
    | zero =>
      exfalso
      have none (side : IngestSource) : stalePending s side cutoff = [] :=
        List.length_eq_zero_iff.1 (by simpa using backlog side)
      exact nothing (zero.2 ⟨none .gateway, none .ledger⟩)
    | succ n =>
      have later (k : ℕ) (lt : k < m) : k + 1 < m + 1 := Nat.succ_lt_succ lt
      have left (side : IngestSource) :
          (stalePending (sweepOnce settings s (env 0)).store side cutoff).length ≤
            n * settings.batchLimit := by
        have short := shorter side
        have long := backlog side
        rw [Nat.succ_mul] at long
        omega
      obtain ⟨quiet', drained, passes, empty, total⟩ := sweep_drained c' pos left
        (by omega) (fun k lt => scans (k + 1) (later k lt))
        (fun k lt => @passStore_succ settings s env k ▸ fresh (k + 1) (later k lt))
        (fun k lt => @passStore_succ settings s env k ▸ calm (k + 1) (later k lt))
      simp only [ended]
      refine ⟨quiet', drained, by omega, empty, ?_⟩
      rw [total, counts, Finset.sum_range_succ']
      simp only [passStore_succ, Nat.add_comm]
      rfl

/-- Without concurrent writers and without a transaction that raises, every pass reconciles the oldest
    rows of either backlog as far as its limit goes, and `sweep` ends with no backlog once its budget
    admits one pass more than the larger side has batches; it returns the number of results written. -/
theorem sweep_drains {config : MatchConfig} {hashKey : String → String} {refreshAfterS : ℤ}
    {tr : List (System.Sys × System.Live.Event)} {u : System.Sys} {env : ℕ → PassEnv} {maxPasses : ℕ}
    (run : Run (System.Live.Step config hashKey refreshAfterS) System.Sys.initial tr u)
    (pos : 0 < settings.batchLimit)
    (scans : ∀ k < maxPasses, (env k).Scans settings fun _ => cutoff)
    (fresh : ∀ k < maxPasses, (env k).Fresh (passStore settings env u.store k))
    (calm : ∀ k < maxPasses,
      (sweepOnce settings (passStore settings env u.store k) (env k)).raised = none)
    (budget : (max (stalePending u.store .gateway cutoff).length
      (stalePending u.store .ledger cutoff).length + settings.batchLimit - 1) / settings.batchLimit + 1 ≤
        maxPasses) :
    (∀ k < maxPasses, PassReconciles settings cutoff (passStore settings env u.store k) (env k)) ∧
    (sweep settings env u.store maxPasses).raised = none ∧
    (sweep settings env u.store maxPasses).drained = true ∧
    (sweep settings env u.store maxPasses).passes ≤
      (max (stalePending u.store .gateway cutoff).length
        (stalePending u.store .ledger cutoff).length + settings.batchLimit - 1) / settings.batchLimit + 1 ∧
    (∀ side, stalePending (sweep settings env u.store maxPasses).store side cutoff = []) ∧
    (sweep settings env u.store maxPasses).total =
      ∑ k ∈ Finset.range (sweep settings env u.store maxPasses).passes,
        resultsWritten settings (passStore settings env u.store k) (env k) := by
  have c := (System.Live.Inv.reached run).system.consistent
  have consistent (k : ℕ) (lt : k < maxPasses) : Consistent (passStore settings env u.store k) := by
    induction k with
    | zero => exact c
    | succ k ih =>
      have before := Nat.lt_of_succ_lt lt
      obtain ⟨_, _, _, _, _, _, pass⟩ :=
        exists_pass (ih before) (scans k before) (fresh k before) (calm k before)
      exact pass.backlog.1
  refine ⟨fun k lt => ?_, sweep_drained c pos (fun side => ?_) budget scans fresh calm⟩
  · obtain ⟨_, _, _, _, _, _, pass⟩ :=
      exists_pass (consistent k lt) (scans k lt) (fresh k lt) (calm k lt)
    exact pass.reconciles (consistent k lt) pos
  · have whole : max (stalePending u.store .gateway cutoff).length
        (stalePending u.store .ledger cutoff).length ≤
          (max (stalePending u.store .gateway cutoff).length
            (stalePending u.store .ledger cutoff).length + settings.batchLimit - 1) /
              settings.batchLimit * settings.batchLimit := by
      have := Nat.lt_div_mul_add pos (a := max (stalePending u.store .gateway cutoff).length
        (stalePending u.store .ledger cutoff).length + settings.batchLimit - 1)
      omega
    cases side with
    | gateway => exact (le_max_left _ _).trans whole
    | ledger => exact (le_max_right _ _).trans whole

end Drain

/-! Two payments, and the ledger entry of the older one, whose messages were never handled; a pass takes one
row of a side. -/

namespace Sample

def settings : SweepSettings :=
  { config := .shipped, unmatchedAfterS := 300, batchLimit := 500, demoRetentionHours := 24 }

def oneByOne : SweepSettings := { settings with batchLimit := 1 }

def draws (n : ℕ) : Draws where
  resultId := n
  exceptionId := n
  now := .newYear 400
  markedAt _ := .newYear 400

def env (k : ℕ) : PassEnv where
  scannedAt _ := .newYear 400
  order _ rows := rows
  row side i := { waitedAt := .newYear 400, now := .newYear 400
                  draws := draws (2 * i + 1000 * k + if side = .gateway then 0 else 1) }
  retention := none

/-- A payment that no ledger entry is for. -/
def lonely : GatewayWebhookIn :=
  { Ingest.Sample.payload with txnId := "txn-alone", gatewayRef := "ref-alone"
                               txnId_length := by decide, gatewayRef_length := by decide }

def paid : RawRow := System.Sample.gatewayRow 0 "key-1"

def alone : RawRow := Ingest.gatewayRow 1 lonely "key-2" "null" (.newYear 0) (Ingest.Sample.drawsAfter 1)

def booked : RawRow := System.Sample.ledgerRow 0 Ingest.Sample.entry

/-- A side is ingested. -/
def commit (s : System.Sys) (side : IngestSource) (row : RawRow) : System.Sys :=
  (s.commit (Ingest.enqueue (s.store.setRaw side (s.store.raw side ++ [row])) side
    [Ingest.firstReceipt row] (Ingest.Sample.drawsAfter (row.id - 1)))).draw side [row.id]

def opened : System.Sys :=
  System.Sys.initial.commit { accounts := [Ingest.Sample.account] }

def ingested : System.Sys :=
  commit (commit (commit opened .gateway paid) .gateway alone) .ledger booked

lemma run : Run (System.Live.Step .shipped id 60) System.Sys.initial
    [(System.Sys.initial, .work (.openAccount Ingest.Sample.account)),
      (opened, .work (.ingest (.gateway 1 Ingest.Sample.payload "key-1" "null") Ingest.Sample.draws)),
      (commit opened .gateway paid,
        .work (.ingest (.gateway 1 lonely "key-2" "null") (Ingest.Sample.drawsAfter 1))),
      (commit (commit opened .gateway paid) .gateway alone,
        .work (.ingest (.ledger 1 [Ingest.Sample.entry]) Ingest.Sample.draws))] ingested :=
  .snoc (.snoc (.snoc (.snoc .nil (.work (.openAccount rfl))) (.work (.ingest (by decide) rfl)))
    (.work (.ingest (by decide) rfl))) (.work (.ingest (by decide) rfl))

lemma scans (k : ℕ) : (env k).Scans settings fun _ => .newYear 100 where
  cutoff _ := rfl
  reorders _ _ := .refl _

lemma scans_oneByOne (k : ℕ) : (env k).Scans oneByOne fun _ => .newYear 100 :=
  ⟨(scans k).cutoff, (scans k).reorders⟩

/-- A pass whose ledger backlog is empty once the first row of the gateway's is swept. -/
lemma sweepOnce_eq {s t : Store} (k : ℕ) {rows : List RawRow}
    (backlog : stalePending s .gateway (.newYear 100) = rows)
    (sorted : rows.Pairwise fun a b => a.receivedAt ≤ b.receivedAt)
    (does : (sweepRows .shipped s ((env k).row .gateway)
      ((rows.take 1).map fun row => facts row .gateway)).store = t)
    (quiet : (sweepRows .shipped s ((env k).row .gateway)
      ((rows.take 1).map fun row => facts row .gateway)).raised = none)
    (none_ : stalePending t .ledger (.newYear 100) = []) :
    (sweepOnce oneByOne s (env k)).store = t ∧ (sweepOnce oneByOne s (env k)).raised = none := by
  have first : sweepSide oneByOne s (env k) .gateway = sweepRows .shipped s ((env k).row .gateway)
      ((rows.take 1).map fun row => facts row .gateway) := by
    simp only [sweepSide, @scan_of_sorted oneByOne s .gateway (env k) (fun _ => .newYear 100) rfl rfl
      (backlog ▸ sorted), backlog]
    rfl
  have second : sweepSide oneByOne t (env k) .ledger = { store := t, count := 0 } := by
    simp only [sweepSide, @scan_of_sorted oneByOne t .ledger (env k) (fun _ => .newYear 100) rfl rfl
      (none_ ▸ .nil), none_, List.take_nil, List.map_nil, sweepRows]
  have noRetention : (env k).retention = none := rfl
  simp only [sweepOnce, sweepSides, first, quiet, does, second, noRetention, and_self]

/-- The stores after the first pass and after the second. -/
def paired : Store := (sweepRows .shipped ingested.store ((env 0).row .gateway) [facts paid .gateway]).store

def swept : Store := (sweepRows .shipped paired ((env 1).row .gateway) [facts alone .gateway]).store

lemma first_pass : (sweepOnce oneByOne ingested.store (env 0)).store = paired ∧
    (sweepOnce oneByOne ingested.store (env 0)).raised = none :=
  @sweepOnce_eq ingested.store paired 0 [paid, alone] (by decide +kernel) (by decide +kernel) rfl
    (by decide +kernel) (by decide +kernel)

lemma second_pass : (sweepOnce oneByOne paired (env 1)).store = swept ∧
    (sweepOnce oneByOne paired (env 1)).raised = none :=
  @sweepOnce_eq paired swept 1 [alone] (by decide +kernel) (by decide +kernel) rfl (by decide +kernel)
    (by decide +kernel)

lemma third_pass : (sweepOnce oneByOne swept (env 2)).store = swept ∧
    (sweepOnce oneByOne swept (env 2)).raised = none :=
  @sweepOnce_eq swept swept 2 [] (by decide +kernel) .nil rfl rfl (by decide +kernel)

/-- What each pass draws is unused. -/
lemma fresh {s : Store} (k : ℕ) {ids : List ℕ} (eq : s.reconciliationResults.map (·.id) = ids)
    (below : ∀ id ∈ ids, id < 1000 * k) : (env k).Fresh s where
  injective := by
    rintro (_ | _) i (_ | _) j eq <;> simp [env, draws] at eq ⊢ <;> omega
  unused r mem side i same := by
    have small := below r.id (eq ▸ List.mem_map_of_mem mem)
    rw [same] at small
    simp only [env, draws] at small
    omega

end Sample

open Sample in
theorem sweep_drains_sample :
    stalePending ingested.store .gateway (.newYear 100) = [paid, alone] ∧
    stalePending ingested.store .ledger (.newYear 100) = [booked] ∧
    paired.reconciliationResults.map (fun r => (r.gatewayTxnId, r.ledgerEntryId)) = [(some 1, some 1)] ∧
    (sweep oneByOne env ingested.store 3).drained = true ∧
    (sweep oneByOne env ingested.store 3).passes ≤ 3 ∧
    ∀ side, stalePending (sweep oneByOne env ingested.store 3).store side (.newYear 100) = [] := by
  have backlog : stalePending ingested.store .gateway (.newYear 100) = [paid, alone] := by decide +kernel
  have ledger : stalePending ingested.store .ledger (.newYear 100) = [booked] := by decide +kernel
  have store_one : passStore oneByOne env ingested.store 1 = paired := first_pass.1
  have store_two : passStore oneByOne env ingested.store 2 = swept := by
    rw [passStore, store_one, second_pass.1]
  have cases_three {p : ℕ → Prop} (zero : p 0) (one : p 1) (two : p 2) : ∀ k < 3, p k := by
    intro k lt
    obtain rfl | rfl | rfl : k = 0 ∨ k = 1 ∨ k = 2 := by omega
    · exact zero
    · exact one
    · exact two
  have written : paired.reconciliationResults.map (·.id) = [0] ∧
      swept.reconciliationResults.map (·.id) = [0, 1000] := by decide +kernel
  obtain ⟨_, _, drained, passes, empty, _⟩ := @sweep_drains oneByOne (.newYear 100) _ _ _ _ _ env 3
    run (by decide) (fun k _ => scans_oneByOne k)
    (cases_three (@fresh ingested.store 0 [] rfl (by rintro _ ⟨⟩))
      (store_one ▸ fresh 1 written.1 (by decide))
      (store_two ▸ fresh 2 written.2 (by decide)))
    (cases_three first_pass.2 (store_one ▸ second_pass.2) (store_two ▸ third_pass.2))
    (by rw [backlog, ledger]; decide)
  exact ⟨backlog, ledger, by decide +kernel, drained,
    passes.trans (by rw [backlog, ledger]; decide), empty⟩

end Sweeper
end LedgerLoop
