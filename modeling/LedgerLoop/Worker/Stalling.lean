import LedgerLoop.Worker.Draining
import LedgerLoop.Worker.Window

/-!
# A row that stalls the sweep

Each candidate of `sweep_once` has a transaction of its own, "so one contended row cannot stall the
whole sweep", but nothing catches what that transaction raises: the error ends the pass, and the next
pass meets the same oldest row first. `sweep_spares_iff` compares the pass with one that skips the rows
whose transaction raises: they reach the same rows iff those that raise stand last.
-/

set_option autoImplicit false

namespace LedgerLoop
open LedgerLoop.Library

namespace Sweeper

/-- No attempt that fails stands before one that succeeds. -/
def FailuresLast (attempts : List (TxnFacts × Bool)) : Prop :=
  attempts.Pairwise fun a b => b.2 = true → a.2 = true

/-- How a pass leaves the attempts of one that skips: those before the first failure are settled, those
    behind it are not. -/
inductive Halted (t : Store) : List (TxnFacts × Bool) → Prop
  | clear {done} :
    (∀ p ∈ done, p.2 = true ∧ Terminal t p.1) →
    Halted t done
  | stopped {done candidate others} :
    (∀ p ∈ done, p.2 = true ∧ Terminal t p.1) →
    (∀ p ∈ others, ¬Terminal t p.1) →
    Halted t (done ++ (candidate, false) :: others)

lemma Halted.spares_iff {t : Store} {attempts : List (TxnFacts × Bool)} (halted : Halted t attempts) :
    (∀ p ∈ attempts, p.2 = true → Terminal t p.1) ↔ FailuresLast attempts := by
  cases halted with
  | clear settled =>
    refine iff_of_true (fun p mem _ => (settled p mem).2) ?_
    exact List.pairwise_of_forall_mem_list fun a memA _ _ _ => (settled a memA).1
  | stopped settled left =>
    rename_i done candidate others
    constructor
    · intro spares
      have fails (p) (mem : p ∈ others) : ¬p.2 = true := fun good =>
        left p mem (spares p (List.mem_append_right _ (List.mem_cons_of_mem _ mem)) good)
      refine List.pairwise_append.2 ⟨?_, List.pairwise_cons.2 ⟨?_, ?_⟩, fun a memA _ _ _ =>
        (settled a memA).1⟩
      · exact List.pairwise_of_forall_mem_list fun a memA _ _ _ => (settled a memA).1
      · exact fun p mem good => absurd good (fails p mem)
      · exact List.pairwise_of_forall_mem_list fun _ _ b memB good => absurd good (fails b memB)
    · intro last p mem good
      rcases List.mem_append.1 mem with mem | mem
      · exact (settled p mem).2
      · have behind := (List.pairwise_append.1 last).2.1
        rcases List.mem_cons.1 mem with rfl | mem
        · cases good
        · exact absurd ((List.pairwise_cons.1 behind).1 p mem good) Bool.false_ne_true

section Pass
variable {settings : SweepSettings} {s t : Store} {env : PassEnv} {side : IngestSource}
  {cutoff : IngestSource → Datetime} {rows done rest : List RawRow} {drawn : List ℕ}
  {candidate : TxnFacts} {e : PyError}

lemma Terminal.without {ids : List ℕ} (terminal : Terminal s candidate) :
    Terminal (without s ids) candidate :=
  fun row mem => terminal row (raw_without_sublist.subset mem)

/-- A pass that an error ends does not reach demo retention. -/
lemma sweepOnce_of_raised (raised : (sweepSides settings s env).raised = some e) :
    sweepOnce settings s env = sweepSides settings s env := by
  simp only [sweepOnce, raised]

/-- The rows a loop took are settled after it, the rows behind the one that stopped it are not. -/
lemma Stopped.settled {swept : Swept} {batch : ℕ → RowEnv}
    (stopped : Stopped settings.config s batch side rows swept done rest drawn) (c : Consistent s)
    (oldest : Earliest RawRow.receivedAt settings.batchLimit (stalePending s side (cutoff side)) rows) :
    (∀ row ∈ done, Terminal swept.store (facts row side)) ∧
      ∀ row ∈ rest, row ∈ stalePending swept.store side (cutoff side) := by
  have split := stopped.split
  subst split
  constructor
  · intro row mem
    exact (stopped.reconciled.settled c (oldest.subset row (List.mem_append_left _ mem))
      (List.mem_map_of_mem mem)).2
  · intro row mem
    refine stopped.reconciled.left (oldest.subset row (List.mem_append_right _ mem)) fun taken => ?_
    have nodup := oldest.nodup (nodup_stalePending c)
    rw [List.map_append, List.nodup_append] at nodup
    exact nodup.2.2 row.id taken row.id (List.mem_map_of_mem mem) rfl

/-- The skipping loop is about the candidates it is given. -/
lemma exists_row_of_attempt {config : MatchConfig} {batch : ℕ → RowEnv} {p : TxnFacts × Bool}
    (mem : p ∈ (attemptRows config s batch (rows.map fun row => facts row side)).2) :
    ∃ row ∈ rows, facts row side = p.1 := by
  have listed := List.mem_map_of_mem (f := Prod.fst) mem
  rw [attemptRows_fst] at listed
  exact List.mem_map.1 listed

/-- A candidate whose transaction raises is skipped. -/
lemma attemptRows_cons_of_error {config : MatchConfig} {batch : ℕ → RowEnv} {later : List TxnFacts}
    (failed : rowTransaction config s (batch 0) candidate = .error e) :
    attemptRows config s batch (candidate :: later) =
      let attempted := attemptRows config s (fun i => batch (i + 1)) later
      (attempted.1, (candidate, false) :: attempted.2) := by
  rw [attemptRows, failed]

/-- What a loop that stopped on a row would have gone on with. -/
lemma Stopped.attempted_behind {swept : Swept} {batch : ℕ → RowEnv} {row : RawRow} {tail : List RawRow}
    (stopped : Stopped settings.config s batch side rows swept done (row :: tail) drawn)
    (failed : rowTransaction settings.config swept.store (batch done.length) (facts row side) =
      .error e) :
    attemptRows settings.config s batch (rows.map fun row => facts row side) =
      let later := attemptRows settings.config swept.store (fun i => batch (i + 1 + done.length))
        (tail.map fun row => facts row side)
      (later.1, (done.map fun row => (facts row side, true)) ++ (facts row side, false) :: later.2) := by
  have first : rowTransaction settings.config swept.store (batch (0 + done.length)) (facts row side) =
      .error e := by rwa [Nat.zero_add]
  rw [stopped.attempted, List.map_cons, attemptRows_cons_of_error first]

/-- A loop that nothing stopped attempts what it does. -/
lemma Stopped.attempted_all {swept : Swept} {batch : ℕ → RowEnv}
    (stopped : Stopped settings.config s batch side rows swept done [] drawn) :
    attemptRows settings.config s batch (rows.map fun row => facts row side) =
      (swept.store, done.map fun row => (facts row side, true)) := by
  simp only [stopped.attempted, List.map_nil, attemptRows, List.append_nil]

lemma mem_succeeded {p : TxnFacts × Bool} (mem : p ∈ done.map fun row => (facts row side, true))
    (settled : ∀ row ∈ done, Terminal t (facts row side)) : p.2 = true ∧ Terminal t p.1 := by
  obtain ⟨row, memRow, rfl⟩ := List.mem_map.1 mem
  exact ⟨rfl, settled row memRow⟩

lemma attemptSides_eq {gateway ledger : List TxnFacts} {first : Store × List (TxnFacts × Bool)}
    (scanned : scan settings s env .gateway = .ok gateway)
    (attempted : attemptRows settings.config s (env.row .gateway) gateway = first)
    (scanned' : scan settings first.1 env .ledger = .ok ledger) :
    (attemptSides settings s env).2 =
      first.2 ++ (attemptRows settings.config first.1 (env.row .ledger) ledger).2 := by
  subst attempted
  simp only [attemptSides, scanned, scanned']

/-- The first half of a pass raises: neither the rows behind nor the other half are reached. -/
lemma halted_of_raised (scans : env.Scans settings cutoff) (c : Consistent s) {row : RawRow}
    {tail : List RawRow}
    (scanned : scan settings s env .gateway = .ok (rows.map fun row => facts row .gateway))
    (oldest : Earliest RawRow.receivedAt settings.batchLimit
      (stalePending s .gateway (cutoff .gateway)) rows)
    (stopped : Stopped settings.config s (env.row .gateway) .gateway rows
      (sweepSide settings s env .gateway) done (row :: tail) drawn)
    (raised : (sweepSide settings s env .gateway).raised = some e)
    (failed : rowTransaction settings.config (sweepSide settings s env .gateway).store
      (env.row .gateway done.length) (facts row .gateway) = .error e) :
    Halted (sweepOnce settings s env).store (attemptSides settings s env).2 := by
  obtain ⟨settled, left⟩ := stopped.settled c oldest
  have sides : sweepSides settings s env = sweepSide settings s env .gateway := by
    simp only [sweepSides, raised]
  rw [sweepOnce_of_raised (sides ▸ raised), sides]
  -- the skipping pass goes on from here, and takes rows out of the backlog only
  have nodup : (tail.map RawRow.id).Nodup := by
    have all := oldest.nodup (nodup_stalePending c)
    rw [stopped.split, List.map_append, List.map_cons, List.nodup_append] at all
    exact (List.nodup_cons.1 all.2.1).2
  obtain ⟨ids, drawn', did⟩ := @attemptRows_reconciled settings.config _ .gateway _ _ _
    stopped.reconciled.consistent stopped.fresh.shift
    (fun r memR => left r (List.mem_cons_of_mem _ memR)) nodup
  have attempted := stopped.attempted_behind failed
  obtain ⟨rows', scanned', oldest'⟩ := @scan_earliest settings _ .ledger env cutoff scans
  rw [attemptSides_eq scanned attempted scanned', List.append_assoc, List.cons_append]
  refine .stopped (fun p mem => mem_succeeded mem settled) fun p mem => ?_
  rcases List.mem_append.1 mem with mem | mem
  · obtain ⟨r, memR, same⟩ := exists_row_of_attempt mem
    exact same ▸ not_terminal (left r (List.mem_cons_of_mem _ memR))
  · obtain ⟨r, memR, same⟩ := exists_row_of_attempt mem
    exact same ▸ not_terminal ((did.other _).subset (oldest'.subset r memR))

/-- How any pass ends. -/
lemma sweepOnce_halted (scans : env.Scans settings cutoff) (c : Consistent s) (fresh : env.Fresh s) :
    Halted (sweepOnce settings s env).store (attemptSides settings s env).2 := by
  obtain ⟨rows, done, rest, drawn, scanned, oldest, stopped⟩ :=
    sweepSide_stopped c scans (fresh.ofSide .gateway)
  rcases stopped.raised with ⟨rfl, quiet⟩ | ⟨row, tail, e, rfl, raised, failed⟩
  · obtain ⟨rows', done', rest', drawn', scanned', oldest', stopped'⟩ := sweepSide_stopped
      stopped.reconciled.consistent scans (fresh.other stopped.reconciled stopped.drawn)
    have sides : sweepSides settings s env =
        let ledger := sweepSide settings (sweepSide settings s env .gateway).store env .ledger
        { ledger with count := (sweepSide settings s env .gateway).count + ledger.count } := by
      simp only [sweepSides, quiet]
    obtain ⟨settled', left⟩ := stopped'.settled stopped.reconciled.consistent oldest'
    have settled : ∀ row ∈ done, Terminal (sweepSides settings s env).store (facts row .gateway) := by
      intro row mem
      rw [sides]
      exact (stopped.reconciled.settled_after stopped'.reconciled c
        (oldest.subset row (stopped.split ▸ List.mem_append_left _ mem)) (List.mem_map_of_mem mem)).2
    have both : ∀ p ∈ (done.map fun row => (facts row .gateway, true)) ++
        done'.map fun row => (facts row .ledger, true),
        p.2 = true ∧ Terminal (sweepSides settings s env).store p.1 := by
      intro p mem
      rcases List.mem_append.1 mem with mem | mem
      · exact mem_succeeded mem settled
      · exact mem_succeeded mem (by rw [sides]; exact settled')
    rw [attemptSides_eq scanned stopped.attempted_all scanned']
    rcases stopped'.raised with ⟨rfl, quiet'⟩ | ⟨row, tail, e, rfl, raised, failed⟩
    · rw [stopped'.attempted_all]
      refine .clear fun p mem => ⟨(both p mem).1, ?_⟩
      have consistent : Consistent (sweepSides settings s env).store := by
        rw [sides]
        exact stopped'.reconciled.consistent
      rcases sweepOnce_store consistent with same | ⟨ids, same⟩
      · rw [same]
        exact (both p mem).2
      · rw [same]
        exact (both p mem).2.without
    · have raised' : (sweepSides settings s env).raised = some e := by
        rw [sides]
        exact raised
      rw [sweepOnce_of_raised raised', stopped'.attempted_behind failed, ← List.append_assoc]
      refine .stopped both fun p mem => ?_
      obtain ⟨r, memR, same⟩ := exists_row_of_attempt mem
      rw [sides]
      exact same ▸ not_terminal (left r (List.mem_cons_of_mem _ memR))
  · exact halted_of_raised scans c scanned oldest stopped raised failed

end Pass

/-- A pass brings every row it reads whose own transaction succeeds to a terminal state iff none whose
    transaction raises stands before one of them. -/
theorem sweep_spares_iff {settings : SweepSettings} {hashKey : String → String} {refreshAfterS : ℤ}
    {tr : List (System.Sys × System.Live.Event)} {u : System.Sys} {env : PassEnv}
    {cutoff : IngestSource → Datetime} {config : MatchConfig}
    (run : Run (System.Live.Step config hashKey refreshAfterS) System.Sys.initial tr u)
    (scans : env.Scans settings cutoff) (fresh : env.Fresh u.store) :
    (∀ p ∈ (attemptSides settings u.store env).2, p.2 = true →
        Terminal (sweepOnce settings u.store env).store p.1) ↔
      FailuresLast (attemptSides settings u.store env).2 :=
  (sweepOnce_halted scans (System.Live.Inv.reached run).system.consistent fresh).spares_iff

/-! A payment dated half a minute before the end of the calendar, and one behind it. -/

namespace Sample

def behind : RawRow :=
  Ingest.gatewayRow 1 Ingest.Sample.payload "key-2" "null" (.newYear 0) (Ingest.Sample.drawsAfter 1)

def stalledFirst : Store :=
  Ingest.enqueue { accounts := [Ingest.Sample.account]
                   gatewayTransactions := [Persist.Sample.lastRow] } .gateway
    [Ingest.firstReceipt Persist.Sample.lastRow] Ingest.Sample.draws

def stalledStore : Store :=
  Ingest.enqueue { stalledFirst with gatewayTransactions := [Persist.Sample.lastRow, behind] } .gateway
    [Ingest.firstReceipt behind] (Ingest.Sample.drawsAfter 1)

def received : System.Sys := (opened.commit stalledFirst).draw .gateway [1]

def stalled : System.Sys := (received.commit stalledStore).draw .gateway [2]

lemma stalled_run : Run (System.Live.Step .shipped id 60) System.Sys.initial
    [(System.Sys.initial, .work (.openAccount Ingest.Sample.account)),
      (opened, .work (.ingest (.gateway 1 Persist.Sample.lastPayload "key-1" "null")
        Ingest.Sample.draws)),
      (received, .work (.ingest (.gateway 1 Ingest.Sample.payload "key-2" "null")
        (Ingest.Sample.drawsAfter 1)))] stalled :=
  .snoc (.snoc (.snoc .nil (.work (.openAccount rfl))) (.work (.ingest (by decide) rfl)))
    (.work (.ingest (by decide) rfl))

lemma stalled_backlog :
    stalePending stalledStore .gateway (.newYear 100) = [Persist.Sample.lastRow, behind] := by
  decide +kernel

lemma stalled_fresh : (env 0).Fresh stalled.store where
  injective := by
    rintro (_ | _) i (_ | _) j eq <;> simp [env, draws] at eq ⊢ <;> omega
  unused := by rintro _ ⟨⟩

lemma stalled_scan : scan settings stalledStore (env 0) .gateway =
    .ok [facts Persist.Sample.lastRow .gateway, facts behind .gateway] := by
  rw [@scan_of_sorted settings stalledStore .gateway (env 0) (fun _ => .newYear 100) rfl rfl
    (stalled_backlog ▸ by decide), stalled_backlog]
  rfl

/-- The second row would be resolved, and is left. -/
lemma stalled_behind : (facts behind .gateway, true) ∈ (attemptSides settings stalledStore (env 0)).2 ∧
    ¬Terminal (sweepOnce settings stalledStore (env 0)).store (facts behind .gateway) := by
  have first : sweepSide settings stalledStore (env 0) .gateway =
      { store := stalledStore, count := 0, raised := some .dateRange } := by
    simp only [sweepSide, stalled_scan]
    rfl
  have sides : sweepSides settings stalledStore (env 0) =
      { store := stalledStore, count := 0, raised := some .dateRange } := by
    simp only [sweepSides, first]
  constructor
  · obtain ⟨rows, scanned', _⟩ := @scan_earliest settings (attemptRows settings.config stalledStore
      ((env 0).row .gateway) [facts Persist.Sample.lastRow .gateway, facts behind .gateway]).1 .ledger
      (env 0) (fun _ => .newYear 100) (scans 0)
    rw [attemptSides_eq stalled_scan rfl scanned']
    refine List.mem_append_left _ ?_
    decide +kernel
  · rw [sweepOnce_of_raised (e := .dateRange) (by rw [sides]), sides]
    exact not_terminal (stalled_backlog ▸ List.mem_cons_of_mem _ List.mem_cons_self)

end Sample

/-- The pass ends on the first row, and the second stays pending. -/
theorem bad_row_stalls_sweep : ∃ tr u settings env cutoff,
    Run (System.Live.Step .shipped id 60) System.Sys.initial tr u ∧
      PassEnv.Scans env settings cutoff ∧ env.Fresh u.store ∧
      ¬∀ p ∈ (attemptSides settings u.store env).2, p.2 = true →
        Terminal (sweepOnce settings u.store env).store p.1 := by
  refine ⟨_, _, _, _, _, Sample.stalled_run, Sample.scans 0, Sample.stalled_fresh, fun spares => ?_⟩
  exact Sample.stalled_behind.2 (spares _ Sample.stalled_behind.1 rfl)

theorem sweep_spares_iff_sample :
    ¬FailuresLast (attemptSides Sample.settings Sample.stalled.store (Sample.env 0)).2 := by
  intro last
  have spares := (sweep_spares_iff Sample.stalled_run (Sample.scans 0) Sample.stalled_fresh).2 last
  exact Sample.stalled_behind.2 (spares _ Sample.stalled_behind.1 rfl)

end Sweeper
end LedgerLoop
