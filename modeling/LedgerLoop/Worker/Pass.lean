import LedgerLoop.Worker.DemoRetention

/-!
# A pass of the sweeper

`sweep_once` and the loop of `worker/sweep.py` around it: per side a scan, then one transaction for each
row it returned, then demo retention if its interval is over. What a pass takes from outside, clock
readings, identity values, the order in which a query meets its rows and what the database fails a
transaction with, is a `PassEnv`.

Without a concurrent writer a row transaction that returns always writes: a pending row has no result
that its insert could collide with (`sweepRow_reconciles`). So a pass takes exactly its candidates out
of the backlog (`Reconciled`).
-/

set_option autoImplicit false

namespace LedgerLoop
open LedgerLoop.Library

/-- A row without its mark. -/
def RawRow.eraseMark (row : RawRow) : RawRow := { row with reconciledAt := none }

lemma RawRow.id_of_eraseMark {a b : RawRow} (h : a.eraseMark = b.eraseMark) : a.id = b.id := by
  have := congrArg RawRow.id h
  exact this

lemma RawRow.receivedAt_of_eraseMark {a b : RawRow} (h : a.eraseMark = b.eraseMark) :
    a.receivedAt = b.receivedAt := by
  have := congrArg RawRow.receivedAt h
  exact this

namespace Sweeper
open Persist

/-- The settings a pass reads. -/
structure SweepSettings where
  config : MatchConfig
  /-- `unmatched_after_s`. -/
  unmatchedAfterS : ℕ
  batchLimit : ℕ
  demoRetentionHours : ℕ

/-- `window`. -/
def SweepSettings.window (settings : SweepSettings) : Timedelta :=
  Timedelta.seconds settings.unmatchedAfterS

/-- What a row transaction takes from outside; `fault` is what the database fails it with, if it does. -/
structure RowEnv where
  waitedAt : Datetime
  now : Datetime
  draws : Draws
  fault : Option PyError := none

/-- What a pass takes from outside; `retention` is there if the interval of demo retention is over. -/
structure PassEnv where
  scannedAt : IngestSource → Datetime
  order : IngestSource → List RawRow → List RawRow
  row : IngestSource → ℕ → RowEnv
  retention : Option (Datetime × (List Account → List Account))

/-- The transaction of one candidate. -/
def rowTransaction (config : MatchConfig) (s : Store) (env : RowEnv) (candidate : TxnFacts) :
    Except PyError (Store × PersistResult) :=
  match env.fault with
  | some e => .error e
  | none => sweepRow s candidate config env.waitedAt env.now env.draws

/-- `for candidate in stale`. -/
def sweepRows (config : MatchConfig) (s : Store) (env : ℕ → RowEnv) : List TxnFacts → Swept
  | [] => { store := s, count := 0 }
  | candidate :: rest =>
    match rowTransaction config s (env 0) candidate with
    | .error e => { store := s, count := 0, raised := some e }
    | .ok (s', persisted) =>
      let swept := sweepRows config s' (fun i => env (i + 1)) rest
      { swept with count := swept.count + if persisted.written then 1 else 0 }

/-- `find_stale_pending` on the table in the order the query meets it. -/
def scan (settings : SweepSettings) (s : Store) (env : PassEnv) (side : IngestSource) :
    Except PyError (List TxnFacts) :=
  findStalePending (s.setRaw side (env.order side (s.raw side))) side (env.scannedAt side)
    settings.window settings.batchLimit

/-- One side of a pass. -/
def sweepSide (settings : SweepSettings) (s : Store) (env : PassEnv) (side : IngestSource) : Swept :=
  match scan settings s env side with
  | .error e => { store := s, count := 0, raised := some e }
  | .ok stale => sweepRows settings.config s (env.row side) stale

/-- `for source in (IngestSource.GATEWAY, IngestSource.LEDGER)`. -/
def sweepSides (settings : SweepSettings) (s : Store) (env : PassEnv) : Swept :=
  let gateway := sweepSide settings s env .gateway
  match gateway.raised with
  | some _ => gateway
  | none =>
    let ledger := sweepSide settings gateway.store env .ledger
    { ledger with count := gateway.count + ledger.count }

/-- `sweep_once`. An error of demo retention is logged and dropped. -/
def sweepOnce (settings : SweepSettings) (s : Store) (env : PassEnv) : Swept :=
  let swept := sweepSides settings s env
  match swept.raised, env.retention with
  | none, some (now, order) =>
    { swept with store := (sweepDemoAccounts swept.store settings.batchLimit
        settings.demoRetentionHours now order).store }
  | _, _ => swept

/-- The loop over the candidates, were it to skip those whose transaction raises: the store, and of each
    candidate whether its own transaction succeeds. -/
def attemptRows (config : MatchConfig) (s : Store) (env : ℕ → RowEnv) :
    List TxnFacts → Store × List (TxnFacts × Bool)
  | [] => (s, [])
  | candidate :: rest =>
    match rowTransaction config s (env 0) candidate with
    | .error _ =>
      let attempted := attemptRows config s (fun i => env (i + 1)) rest
      (attempted.1, (candidate, false) :: attempted.2)
    | .ok persisted =>
      let attempted := attemptRows config persisted.1 (fun i => env (i + 1)) rest
      (attempted.1, (candidate, true) :: attempted.2)

/-- A pass that skips. -/
def attemptSides (settings : SweepSettings) (s : Store) (env : PassEnv) :
    Store × List (TxnFacts × Bool) :=
  match scan settings s env .gateway with
  | .error _ => (s, [])
  | .ok gateway =>
    let first := attemptRows settings.config s (env.row .gateway) gateway
    match scan settings first.1 env .ledger with
    | .error _ => first
    | .ok ledger =>
      let next := attemptRows settings.config first.1 (env.row .ledger) ledger
      (next.1, first.2 ++ next.2)

/-- The backlog of a side: rows pending since before the cutoff. -/
def stalePending (s : Store) (side : IngestSource) (cutoff : Datetime) : List RawRow :=
  (s.raw side).filter fun row => row.pending && decide (row.receivedAt < cutoff)

/-- What sweeping some rows of a side does: it writes one result for each, takes them out of the backlog
    of their side and adds nothing to the other. -/
structure Reconciled (s u : Store) (side : IngestSource) (ids drawn : List ℕ) : Prop where
  consistent : Consistent u
  rows : ∀ t, (u.raw t).map RawRow.eraseMark = (s.raw t).map RawRow.eraseMark
  own : ∀ cutoff, stalePending u side cutoff =
    (stalePending s side cutoff).filter fun row => decide (row.id ∉ ids)
  other : ∀ cutoff, (stalePending u side.other cutoff).Sublist (stalePending s side.other cutoff)
  results : u.reconciliationResults.map (·.id) = s.reconciliationResults.map (·.id) ++ drawn

section Rows
variable {config : MatchConfig} {s t u : Store} {side : IngestSource} {row : RawRow} {env : RowEnv}
  {ids ids' drawn drawn' : List ℕ} {waitedAt now : Datetime} {draws : Draws} {res : PersistResult}
  {counterparties : List TxnFacts} {candidate : TxnFacts} {cutoff : Datetime}

lemma Reconciled.refl (c : Consistent s) : Reconciled s s side [] [] where
  consistent := c
  rows _ := rfl
  own cutoff := by simp
  other _ := .refl _
  results := by simp

lemma Reconciled.trans (first : Reconciled s t side ids drawn) (next : Reconciled t u side ids' drawn') :
    Reconciled s u side (ids ++ ids') (drawn ++ drawn') where
  consistent := next.consistent
  rows side := (next.rows side).trans (first.rows side)
  own cutoff := by
    rw [next.own, first.own, List.filter_filter]
    refine List.filter_congr fun row _ => ?_
    simp [Bool.and_comm]
  other cutoff := (next.other cutoff).trans (first.other cutoff)
  results := by rw [next.results, first.results, List.append_assoc]

/-- Marking a row takes it out of the backlog. -/
lemma filter_markRows {rowId : Option ℕ} {at_ : Datetime} {rows : List RawRow} {p : RawRow → Bool} :
    (markRows rowId at_ rows).filter (fun r => r.pending && p r) =
      (rows.filter fun r => r.pending && p r).filter fun r => decide (rowId ≠ some r.id) := by
  cases rowId with
  | none => simp [markRows]
  | some id =>
    rw [markRows, filter_updateWhere_out rows fun r _ _ => by simp [RawRow.pending], List.filter_filter]
    refine List.filter_congr fun r _ => ?_
    by_cases here : r.id = id
    · cases r.pending <;> simp [here]
    · simp [here, Ne.symm here]

/-- The rows a sweep's decision is about are pending, and it is no duplicate marker. -/
lemma decideRow_pending (query : findCounterparties s (facts row side) config = .ok counterparties)
    (mem : row ∈ s.raw side) (pending : row.pending = true) (waitedAt : Datetime) :
    (decideRow (facts row side) counterparties config waitedAt).1.status ≠ .duplicate ∧
      (decideRow (facts row side) counterparties config waitedAt).1.rowId side = some row.id ∧
      ∀ t id, (decideRow (facts row side) counterparties config waitedAt).1.rowId t = some id →
        ∃ r ∈ s.raw t, r.id = id ∧ r.pending = true := by
  cases decided : Core.decide (facts row side) counterparties config with
  | none =>
    simp only [decideRow, decided]
    refine ⟨by cases side <;> simp [Core.decideUnmatched], by cases side <;> rfl, fun t id ref => ?_⟩
    have here : t = side ∧ id = row.id := by
      cases t <;> cases side <;> simp_all [Core.decideUnmatched, Decision.rowId]
    obtain ⟨rfl, rfl⟩ := here
    exact ⟨row, mem, rfl, pending⟩
  | some decision =>
    simp only [decideRow, decided]
    obtain ⟨best, memB, status, layer, verdict, rfl, _⟩ := Core.decide_spec decided
    obtain ⟨own, opposite⟩ := @Core.pairDecision_rowId (facts row side) config best status layer
    refine ⟨(Core.classifyPair_verdict verdict).ne_duplicate, own, fun t id ref => ?_⟩
    by_cases here : t = side
    · subst here
      exact ⟨row, mem, Option.some.inj (own.symm.trans ref), pending⟩
    · obtain rfl : t = side.other := IngestSource.eq_other_of_ne (Ne.symm here)
      obtain ⟨r, memR, pendingR, _, _, _, rfl⟩ := (mem_findCounterparties query).1 memB
      exact ⟨r, memR, Option.some.inj (opposite.symm.trans ref), pendingR⟩

/-- A row transaction on a pending row writes, or raises. -/
lemma sweepRow_reconciles (c : Consistent s) (mem : row ∈ s.raw side) (pending : row.pending = true)
    (fresh : ∀ r ∈ s.reconciliationResults, r.id ≠ draws.resultId)
    (ok : sweepRow s (facts row side) config waitedAt now draws = .ok (t, res)) :
    res.written = true ∧ Reconciled s t side [row.id] [draws.resultId] := by
  obtain ⟨counterparties, query, persisted⟩ := sweepRow_ok ok
  obtain ⟨kind, own, open_⟩ := decideRow_pending query mem pending waitedAt
  -- the store as a system whose workers are idle
  let sys : System.Sys := { store := s, drawn := fun t => (s.raw t).map RawRow.id }
  have inv : sys.Inv config := ⟨c, fun t r memR => List.mem_map_of_mem memR, fun w => trivial⟩
  have sound : (System.afterFind (.sweep []) (facts row side) counterparties config waitedAt).Sound
      config sys.Knows :=
    inv.afterFind (inv.knows mem) (fun f memF => absurd memF List.not_mem_nil) query (.refl _)
  have consistent := inv.persist sound.1 sound.2.1 fresh persisted
  rcases applyDecision_ok persisted with ⟨held, _, _⟩ | ⟨free, _, _, settled, written⟩
  · -- a result of the kind on one of the rows would have marked it
    exfalso
    obtain ⟨r, memR, _, active, t', id, ref, ref'⟩ := conflicts_iff.1 held
    obtain ⟨row', mem', rfl, pending'⟩ := open_ t' id (by cases t' <;> exact ref)
    have marked := (c.marked t' row' mem').2 ⟨r, memR, active.trans ?_, ref'⟩
    · simp [marked] at pending'
    · simpa [ReconciliationResult.active, resultRow] using kind
  · have raw (t' : IngestSource) : t.raw t' = markRows
        ((decideRow (facts row side) counterparties config waitedAt).1.rowId t') (draws.markedAt t')
        (s.raw t') := by
      rw [settled, settle_raw, if_neg kind]
    refine ⟨written, consistent, fun t' => ?_, fun cutoff => ?_, fun cutoff => ?_, ?_⟩
    · rw [raw]
      exact map_markRows fun _ => rfl
    · rw [stalePending, raw, filter_markRows, own, stalePending]
      refine List.filter_congr fun r _ => ?_
      simp [eq_comm]
    · rw [stalePending, raw, filter_markRows, stalePending]
      exact List.filter_sublist
    · rw [settled, settle_results, List.map_append]
      rfl

end Rows

/-- Identity values of row transactions: distinct, and new to the table. -/
structure FreshRows (s : Store) (env : ℕ → RowEnv) : Prop where
  injective : Function.Injective fun i => (env i).draws.resultId
  unused : ∀ r ∈ s.reconciliationResults, ∀ i, r.id ≠ (env i).draws.resultId

section Loop
variable {config : MatchConfig} {s t u : Store} {side : IngestSource} {rows : List RawRow}
  {env : ℕ → RowEnv} {cutoff : Datetime} {ids drawn : List ℕ} {row : RawRow} {res : PersistResult}

lemma FreshRows.shift (fresh : FreshRows s env) : FreshRows s fun i => env (i + 1) where
  injective _ _ eq := Nat.succ_injective (fresh.injective eq)
  unused r mem i := fresh.unused r mem (i + 1)

/-- What a transaction drew is not drawn again. -/
lemma FreshRows.next (fresh : FreshRows s env)
    (did : Reconciled s t side [row.id] [(env 0).draws.resultId]) :
    FreshRows t fun i => env (i + 1) where
  injective := fresh.shift.injective
  unused r mem i eq := by
    have listed : r.id ∈ t.reconciliationResults.map (·.id) := List.mem_map_of_mem mem
    rw [did.results] at listed
    rcases List.mem_append.1 listed with old | new
    · obtain ⟨r', mem', same⟩ := List.mem_map.1 old
      exact fresh.unused r' mem' (i + 1) (same.trans eq)
    · have same : (env 0).draws.resultId = (env (i + 1)).draws.resultId :=
        (List.mem_singleton.1 new).symm.trans eq
      exact absurd (fresh.injective same) (Nat.succ_ne_zero i).symm

/-- A row transaction that returns is that of `sweep_once`, undisturbed. -/
lemma rowTransaction_ok {rowEnv : RowEnv} {candidate : TxnFacts}
    (ok : rowTransaction config s rowEnv candidate = .ok (t, res)) :
    sweepRow s candidate config rowEnv.waitedAt rowEnv.now rowEnv.draws = .ok (t, res) := by
  simp only [rowTransaction] at ok
  split at ok
  · cases ok
  · exact ok

/-- Candidates that are left stay in the backlog. -/
lemma Reconciled.left (did : Reconciled s t side ids drawn) (mem : row ∈ stalePending s side cutoff)
    (other : row.id ∉ ids) : row ∈ stalePending t side cutoff := by
  rw [did.own]
  exact List.mem_filter.2 ⟨mem, by simpa using other⟩

/-- How the loop over the candidates of some rows ends: it has taken the first of them out of the
    backlog, each with a result, and if others are left the next transaction raises. Up to there the
    skipping loop does the same. -/
structure Stopped (config : MatchConfig) (s : Store) (env : ℕ → RowEnv) (side : IngestSource)
    (rows : List RawRow) (swept : Swept) (done rest : List RawRow) (drawn : List ℕ) : Prop where
  split : rows = done ++ rest
  count : swept.count = done.length
  reconciled : Reconciled s swept.store side (done.map RawRow.id) drawn
  length : drawn.length = done.length
  drawn : ∀ id ∈ drawn, ∃ i, id = (env i).draws.resultId
  fresh : FreshRows swept.store fun i => env (i + done.length)
  attempted : attemptRows config s env (rows.map fun row => facts row side) =
    let later := attemptRows config swept.store (fun i => env (i + done.length))
      (rest.map fun row => facts row side)
    (later.1, (done.map fun row => (facts row side, true)) ++ later.2)
  raised : (rest = [] ∧ swept.raised = none) ∨ ∃ row tail e, rest = row :: tail ∧
    swept.raised = some e ∧
      rowTransaction config swept.store (env done.length) (facts row side) = .error e

lemma sweepRows_stopped (c : Consistent s) (fresh : FreshRows s env)
    (stale : ∀ row ∈ rows, row ∈ stalePending s side cutoff) (nodup : (rows.map RawRow.id).Nodup) :
    ∃ done rest drawn, Stopped config s env side rows
      (sweepRows config s env (rows.map fun row => facts row side)) done rest drawn := by
  induction rows generalizing s env with
  | nil =>
    exact ⟨[], [], [], rfl, rfl, .refl c, rfl, by rintro _ ⟨⟩, fresh, rfl, .inl ⟨rfl, rfl⟩⟩
  | cons row rows ih =>
    obtain ⟨new, nodup⟩ := List.nodup_cons.1 nodup
    rw [List.map_cons]
    cases tx : rowTransaction config s (env 0) (facts row side) with
    | error e =>
      have ended : sweepRows config s env (facts row side :: rows.map fun row => facts row side) =
          { store := s, count := 0, raised := some e } := by
        simp only [sweepRows, tx]
      rw [ended]
      exact ⟨[], row :: rows, [], rfl, rfl, .refl c, rfl, by rintro _ ⟨⟩, fresh, rfl,
        .inr ⟨row, rows, e, rfl, rfl, tx⟩⟩
    | ok persisted =>
      obtain ⟨t, res⟩ := persisted
      obtain ⟨mem, awaits⟩ := List.mem_filter.1 (stale row List.mem_cons_self)
      rw [Bool.and_eq_true] at awaits
      obtain ⟨written, did⟩ := sweepRow_reconciles c mem awaits.1 (fun r memR => fresh.unused r memR 0)
        (rowTransaction_ok tx)
      have left : ∀ r ∈ rows, r ∈ stalePending t side cutoff := fun r memR =>
        did.left (stale r (List.mem_cons_of_mem _ memR)) fun same =>
          new (List.mem_singleton.1 same ▸ List.mem_map_of_mem memR)
      obtain ⟨done, rest, drawn, loop⟩ := ih did.consistent (fresh.next did) left nodup
      have ended : sweepRows config s env (facts row side :: rows.map fun row => facts row side) =
          let swept := sweepRows config t (fun i => env (i + 1)) (rows.map fun row => facts row side)
          { swept with count := swept.count + 1 } := by
        simp only [sweepRows, tx, written, if_true]
      rw [ended]
      refine ⟨row :: done, rest, (env 0).draws.resultId :: drawn, by rw [loop.split]; rfl, ?_,
        did.trans loop.reconciled, ?_, ?_, loop.fresh, ?_, ?_⟩
      · rw [List.length_cons, ← loop.count]
      · rw [List.length_cons, List.length_cons, loop.length]
      · intro id memId
        rcases List.mem_cons.1 memId with rfl | memId
        · exact ⟨0, rfl⟩
        · obtain ⟨i, rfl⟩ := loop.drawn id memId
          exact ⟨i + 1, rfl⟩
      · rw [List.map_cons, attemptRows, tx]
        simp only [loop.attempted, List.map_cons, List.cons_append, List.length_cons]
        rfl
      · rcases loop.raised with ⟨none, quiet⟩ | ⟨row', tail, e, some_, raised, failed⟩
        · exact .inl ⟨none, quiet⟩
        · exact .inr ⟨row', tail, e, some_, raised, failed⟩

/-- The skipping loop is about the candidates it is given. -/
lemma attemptRows_fst {batch : List TxnFacts} :
    (attemptRows config s env batch).2.map Prod.fst = batch := by
  induction batch generalizing s env with
  | nil => rfl
  | cons candidate batch ih =>
    rw [attemptRows]
    split <;> rw [List.map_cons, ih]

/-- The skipping loop takes rows out of the backlog only. -/
lemma attemptRows_reconciled (c : Consistent s) (fresh : FreshRows s env)
    (stale : ∀ row ∈ rows, row ∈ stalePending s side cutoff) (nodup : (rows.map RawRow.id).Nodup) :
    ∃ ids drawn, Reconciled s (attemptRows config s env (rows.map fun row => facts row side)).1 side ids
      drawn := by
  induction rows generalizing s env with
  | nil => exact ⟨[], [], .refl c⟩
  | cons row rows ih =>
    obtain ⟨new, nodup⟩ := List.nodup_cons.1 nodup
    rw [List.map_cons, attemptRows]
    cases tx : rowTransaction config s (env 0) (facts row side) with
    | error e => exact ih c fresh.shift (fun r memR => stale r (List.mem_cons_of_mem _ memR)) nodup
    | ok persisted =>
      obtain ⟨t, res⟩ := persisted
      obtain ⟨mem, awaits⟩ := List.mem_filter.1 (stale row List.mem_cons_self)
      rw [Bool.and_eq_true] at awaits
      obtain ⟨_, did⟩ := sweepRow_reconciles c mem awaits.1 (fun r memR => fresh.unused r memR 0)
        (rowTransaction_ok tx)
      obtain ⟨ids, drawn, later⟩ := ih did.consistent (fresh.next did)
        (fun r memR => did.left (stale r (List.mem_cons_of_mem _ memR)) fun same =>
          new (List.mem_singleton.1 same ▸ List.mem_map_of_mem memR)) nodup
      exact ⟨_, _, did.trans later⟩

end Loop

/-- Identity values of a pass: distinct, and new to the table. -/
structure PassEnv.Fresh (env : PassEnv) (s : Store) : Prop where
  injective : ∀ side i side' j,
    (env.row side i).draws.resultId = (env.row side' j).draws.resultId → side = side' ∧ i = j
  unused : ∀ r ∈ s.reconciliationResults, ∀ side i, r.id ≠ (env.row side i).draws.resultId

/-- The scans of a pass look for rows received before some instants, in whatever order of the tables. -/
structure PassEnv.Scans (env : PassEnv) (settings : SweepSettings) (cutoff : IngestSource → Datetime) :
    Prop where
  cutoff : ∀ side, (env.scannedAt side).sub settings.window = .ok (cutoff side)
  reorders : ∀ side rows, (env.order side rows).Perm rows

/-- A row is still there, and no longer pending. -/
def Settled (s : Store) (side : IngestSource) (row : RawRow) : Prop :=
  ∃ r ∈ s.raw side, r.eraseMark = row.eraseMark ∧ r.pending = false

/-- No row with the candidate's id is pending. -/
def Terminal (s : Store) (candidate : TxnFacts) : Prop :=
  ∀ row ∈ s.raw candidate.side, row.id = candidate.rowId → row.pending = false

section Sides
variable {settings : SweepSettings} {s t u : Store} {side : IngestSource} {env : PassEnv}
  {cutoff : IngestSource → Datetime} {rows done rest : List RawRow} {drawn drawn' ids ids' : List ℕ}
  {row : RawRow}

lemma PassEnv.Fresh.ofSide (fresh : env.Fresh s) (side : IngestSource) : FreshRows s (env.row side) where
  injective _ _ eq := (fresh.injective _ _ _ _ eq).2
  unused r mem i := fresh.unused r mem side i

/-- After one side of a pass the identity values of the other are still new. -/
lemma PassEnv.Fresh.other (fresh : env.Fresh s) (did : Reconciled s t .gateway ids drawn)
    (from_ : ∀ id ∈ drawn, ∃ i, id = (env.row .gateway i).draws.resultId) :
    FreshRows t (env.row .ledger) where
  injective := (fresh.ofSide .ledger).injective
  unused r mem i eq := by
    have listed : r.id ∈ t.reconciliationResults.map (·.id) := List.mem_map_of_mem mem
    rw [did.results] at listed
    rcases List.mem_append.1 listed with old | new
    · obtain ⟨r', mem', same⟩ := List.mem_map.1 old
      exact fresh.unused r' mem' .ledger i (same.trans eq)
    · obtain ⟨j, idEq⟩ := from_ _ new
      exact absurd (fresh.injective _ _ _ _ (idEq.symm.trans eq)).1 (by decide)

lemma nodup_stalePending (c : Consistent s) {at_ : Datetime} :
    ((stalePending s side at_).map RawRow.id).Nodup :=
  (List.filter_sublist.map RawRow.id).nodup (c.rawIds side)

/-- The scan of a side reads the oldest rows of its backlog. -/
lemma scan_earliest (scans : env.Scans settings cutoff) :
    ∃ rows, scan settings s env side = .ok (rows.map fun row => facts row side) ∧
      Earliest RawRow.receivedAt settings.batchLimit (stalePending s side (cutoff side)) rows := by
  refine ⟨_, ?_, earliest_spec ((scans.reorders side (s.raw side)).filter _)⟩
  simp only [scan, findStalePending, scans.cutoff side, Store.raw_setRaw]
  rfl

/-- The scan of a table that is in order of receipt already. -/
lemma scan_of_sorted (cut : (env.scannedAt side).sub settings.window = .ok (cutoff side))
    (inOrder : env.order side = id)
    (sorted : (stalePending s side (cutoff side)).Pairwise fun a b => a.receivedAt ≤ b.receivedAt) :
    scan settings s env side = .ok (((stalePending s side (cutoff side)).take settings.batchLimit).map
      fun row => facts row side) := by
  rw [← earliest_of_sorted sorted]
  simp only [scan, findStalePending, cut, Store.raw_setRaw, inOrder, id_eq]
  rfl

/-- Where a candidate's row has left the backlog, it is settled. -/
lemma settled_of_cleared (c : Consistent s) (same : (t.raw side).map RawRow.eraseMark =
      (s.raw side).map RawRow.eraseMark) {at_ : Datetime} (mem : row ∈ stalePending s side at_)
    (cleared : ∀ r ∈ stalePending t side at_, r.id ≠ row.id) :
    Settled t side row ∧ Terminal t (facts row side) := by
  obtain ⟨stored, stale⟩ := List.mem_filter.1 mem
  rw [Bool.and_eq_true] at stale
  have settled (r : RawRow) (memR : r ∈ t.raw side) (erased : r.eraseMark = row.eraseMark) :
      r.pending = false := by
    by_contra pending
    have receipt := RawRow.receivedAt_of_eraseMark erased
    have left : r ∈ stalePending t side at_ := by
      refine List.mem_filter.2 ⟨memR, ?_⟩
      rw [receipt, stale.2, Bool.and_true]
      simpa using pending
    exact cleared r left (RawRow.id_of_eraseMark erased)
  constructor
  · obtain ⟨r, memR, erased⟩ := List.mem_map.1 (same ▸ List.mem_map_of_mem stored :
      row.eraseMark ∈ (t.raw side).map RawRow.eraseMark)
    exact ⟨r, memR, erased, settled r memR erased⟩
  · intro r memR idEq
    obtain ⟨r₀, mem₀, erased⟩ := List.mem_map.1 (same ▸ List.mem_map_of_mem memR :
      r.eraseMark ∈ (s.raw side).map RawRow.eraseMark)
    have id₀ := (RawRow.id_of_eraseMark erased).trans idEq
    obtain rfl := eq_of_key (c.rawIds side) mem₀ stored id₀
    exact settled r memR erased.symm

/-- A row that a side of a pass took is settled after it. -/
lemma Reconciled.settled (did : Reconciled s t side ids drawn) (c : Consistent s) {at_ : Datetime}
    (mem : row ∈ stalePending s side at_) (taken : row.id ∈ ids) :
    Settled t side row ∧ Terminal t (facts row side) := by
  refine settled_of_cleared c (did.rows side) mem fun r left idEq => ?_
  rw [did.own] at left
  exact of_decide_eq_true (List.mem_filter.1 left).2 (idEq ▸ taken)

/-- It stays so while the pass is about the other side. -/
lemma Reconciled.settled_after (did : Reconciled s t side ids drawn)
    (next : Reconciled t u side.other ids' drawn') (c : Consistent s) {at_ : Datetime}
    (mem : row ∈ stalePending s side at_) (taken : row.id ∈ ids) :
    Settled u side row ∧ Terminal u (facts row side) := by
  refine settled_of_cleared c ((next.rows side).trans (did.rows side)) mem fun r memR idEq => ?_
  have left := next.other at_
  rw [side.other_other, did.own] at left
  exact of_decide_eq_true (List.mem_filter.1 (left.subset memR)).2 (idEq ▸ taken)

/-- A row in the backlog is not in a terminal state. -/
lemma not_terminal {at_ : Datetime} (mem : row ∈ stalePending s side at_) :
    ¬Terminal s (facts row side) := by
  obtain ⟨stored, stale⟩ := List.mem_filter.1 mem
  rw [Bool.and_eq_true] at stale
  intro terminal
  have done : row.pending = false := terminal row stored rfl
  simp [done] at stale

/-- One side of a pass. -/
lemma sweepSide_stopped (c : Consistent s) (scans : env.Scans settings cutoff)
    (fresh : FreshRows s (env.row side)) :
    ∃ rows done rest drawn, scan settings s env side = .ok (rows.map fun row => facts row side) ∧
      Earliest RawRow.receivedAt settings.batchLimit (stalePending s side (cutoff side)) rows ∧
      Stopped settings.config s (env.row side) side rows (sweepSide settings s env side) done rest
        drawn := by
  obtain ⟨rows, scanned, oldest⟩ := @scan_earliest settings s side env cutoff scans
  obtain ⟨done, rest, drawn, stopped⟩ := @sweepRows_stopped settings.config s side _ _ _ c fresh
    oldest.subset (oldest.nodup (nodup_stalePending c))
  refine ⟨rows, done, rest, drawn, scanned, oldest, ?_⟩
  simp only [sweepSide, scanned]
  exact stopped

end Sides

end Sweeper
end LedgerLoop
