import LedgerLoop.Library.LockOrder
import LedgerLoop.Services.LedgerBatch

/-!
# What two ledger batches wait for

The locks of `ingest_ledger_batch`. The insert goes through the keys in the order of their first
occurrence: a key that is stored is passed over without a lock, a key another transaction has inserted
and not committed is waited for. The updates then lock the rows of the counted keys in the same order.
What is inserted or locked stays so until the transaction ends.

A batch that cannot be stored sends no insert and takes no lock.

The order is the client's, so two batches of a tenant can take the same keys in two orders.
`batches_deadlock_iff` says which do: those whose first contested key differs.
-/

set_option autoImplicit false

namespace LedgerLoop
open LedgerLoop.Library

namespace Ingest

/-- A batch of storable entries, whose insert is sent. -/
structure Batch (tenantId : ℕ) where
  entries : List LedgerEntryIn
  draws : IngestDraws
  tuples : List RawRow
  sendable : Sendable entries
  encoded : ledgerRows tenantId (Dict.firstBy (·.idempotencyKey) entries) draws = .ok tuples

/-- Where the transaction of a batch is. -/
inductive BatchPhase where
  /-- In the insert: the tuples to come, and the rows inserted so far. -/
  | inserting (left inserted : List RawRow)
  /-- In the updates: the increments to come, the rows inserted, and the keys whose rows it has updated. -/
  | updating (left : List (String × ℕ)) (inserted : List RawRow) (updated : List String)
  | ended

/-- The keys a transaction has inserted and not committed. -/
def BatchPhase.insertedKeys : BatchPhase → List String
  | .inserting _ inserted => inserted.map (·.idempotencyKey)
  | .updating _ inserted _ => inserted.map (·.idempotencyKey)
  | .ended => []

/-- The keys whose rows a transaction has updated and not committed. -/
def BatchPhase.updatedKeys : BatchPhase → List String
  | .updating _ _ updated => updated
  | _ => []

/-- Two transactions over the committed store. -/
structure BatchRace where
  store : Store
  phase : Party → BatchPhase

namespace BatchRace

/-- Both transactions have sent their insert. -/
def start {tenantId : ℕ} (s : Store) (batch : Party → Batch tenantId) : BatchRace where
  store := s
  phase p := .inserting (batch p).tuples []

def goOn (d : BatchRace) (p : Party) (phase : BatchPhase) : BatchRace :=
  { d with phase := Function.update d.phase p phase }

/-- A transaction waits for the other. -/
def Waits (tenantId : ℕ) (d : BatchRace) (p : Party) : Prop :=
  match d.phase p with
  | .inserting (row :: _) _ => stored d.store .ledger tenantId row.idempotencyKey = false ∧
      row.idempotencyKey ∈ (d.phase p.other).insertedKeys
  | .updating ((key, _) :: _) _ _ => key ∈ (d.phase p.other).updatedKeys
  | _ => False

/-- Each of the two waits for the other. -/
def Deadlocked (tenantId : ℕ) (d : BatchRace) : Prop := ∀ p, d.Waits tenantId p

/-- One step of a transaction. The outbox rows, which nobody waits for, are left out. -/
inductive Step {tenantId : ℕ} (batch : Party → Batch tenantId) :
    BatchRace → Party → BatchRace → Prop where
  /-- `ON CONFLICT DO NOTHING`. -/
  | conflict {d : BatchRace} {p row left inserted} :
    d.phase p = .inserting (row :: left) inserted →
    stored d.store .ledger tenantId row.idempotencyKey = true →
    Step batch d p (d.goOn p (.inserting left inserted))
  | insert {d : BatchRace} {p row left inserted} :
    d.phase p = .inserting (row :: left) inserted →
    stored d.store .ledger tenantId row.idempotencyKey = false →
    row.idempotencyKey ∉ (d.phase p.other).insertedKeys →
    Step batch d p (d.goOn p (.inserting left (inserted ++ [row])))
  /-- The insert returns, and `increments` is computed. -/
  | returning {d : BatchRace} {p inserted} :
    d.phase p = .inserting [] inserted →
    Step batch d p (d.goOn p (.updating (incrementsOf (batch p).entries inserted) inserted []))
  | update {d : BatchRace} {p key delta left inserted updated} :
    d.phase p = .updating ((key, delta) :: left) inserted updated →
    key ∉ (d.phase p.other).updatedKeys →
    Step batch d p (d.goOn p (.updating left inserted (updated ++ [key])))
  | commit {d : BatchRace} {p inserted updated} :
    d.phase p = .updating [] inserted updated →
    Step batch d p (goOn
      { d with
        store := d.store.setRaw .ledger (tableOf d.store tenantId (batch p).entries inserted) } p .ended)
  | abort {d : BatchRace} {p} :
    Step batch d p (d.goOn p .ended)

end BatchRace

/-- What a transaction of a batch can hold: a key it inserts, or the row of a key it updates. -/
inductive BatchLock where
  | insert (key : String)
  | update (key : String)
deriving DecidableEq, Repr

/-- The locks of a batch, in the order in which it takes them if the store does not change. -/
def locksOf {tenantId : ℕ} (s : Store) (b : Batch tenantId) : List BatchLock :=
  (newRows s tenantId b.tuples).map (fun row => .insert row.idempotencyKey) ++
    (incrementsOf b.entries (newRows s tenantId b.tuples)).map fun p => .update p.1

namespace BatchRace
variable {tenantId : ℕ} {batch : Party → Batch tenantId} {s : Store} {d d' : BatchRace}
  {a : Locking BatchLock} {p q : Party}

/-- A transaction seen as a party that takes locks, on a store that has not changed. -/
def Takes (s : Store) (b : Batch tenantId) (left held : List BatchLock) : BatchPhase → Prop
  | .inserting rows inserted =>
    inserted ++ newRows s tenantId rows = newRows s tenantId b.tuples ∧
      held = inserted.map (fun row => .insert row.idempotencyKey) ∧
      left = (newRows s tenantId rows).map (fun row => .insert row.idempotencyKey) ++
        (incrementsOf b.entries (newRows s tenantId b.tuples)).map fun p => .update p.1
  | .updating increments inserted updated =>
    inserted = newRows s tenantId b.tuples ∧
      held = inserted.map (fun row => .insert row.idempotencyKey) ++ updated.map .update ∧
      left = increments.map fun p => .update p.1
  | .ended => False

/-- Both transactions, seen so. -/
structure Sees (s : Store) (batch : Party → Batch tenantId) (d : BatchRace) (a : Locking BatchLock) :
    Prop where
  store : d.store = s
  takes : ∀ p, Takes s (batch p) (a.left p) (a.held p) (d.phase p)

@[simp] lemma goOn_phase {phase : BatchPhase} : (d.goOn p phase).phase p = phase :=
  Function.update_self ..

lemma goOn_phase_ne {phase : BatchPhase} (ne : q ≠ p) : (d.goOn p phase).phase q = d.phase q :=
  Function.update_of_ne ne ..

/-- The keys a transaction has inserted, as locks. -/
lemma Takes.insert_mem {b : Batch tenantId} {left held : List BatchLock} {phase : BatchPhase}
    (takes : Takes s b left held phase) {key : String} :
    BatchLock.insert key ∈ held ↔ key ∈ phase.insertedKeys := by
  cases phase with
  | inserting => simp [takes.2.1, BatchPhase.insertedKeys]
  | updating => simp [takes.2.1, BatchPhase.insertedKeys]
  | ended => exact takes.elim

/-- The keys a transaction has updated, as locks. -/
lemma Takes.update_mem {b : Batch tenantId} {left held : List BatchLock} {phase : BatchPhase}
    (takes : Takes s b left held phase) {key : String} :
    BatchLock.update key ∈ held ↔ key ∈ phase.updatedKeys := by
  cases phase with
  | inserting => simp [takes.2.1, BatchPhase.updatedKeys]
  | updating => simp [takes.2.1, BatchPhase.updatedKeys]
  | ended => exact takes.elim

lemma Sees.start : Sees s batch (start s batch) (.start fun p => locksOf s (batch p)) where
  store := rfl
  takes _ := ⟨rfl, rfl, rfl⟩

/-- One transaction goes on, the other is where it was. -/
lemma Sees.goOn {a' : Locking BatchLock} {phase : BatchPhase} (sees : Sees s batch d a)
    (takes : Takes s (batch p) (a'.left p) (a'.held p) phase)
    (left : a'.left p.other = a.left p.other) (held : a'.held p.other = a.held p.other) :
    Sees s batch (d.goOn p phase) a' where
  store := sees.store
  takes q := by
    rcases p.eq_or q with rfl | rfl
    · rwa [goOn_phase]
    · rw [goOn_phase_ne p.other_ne, left, held]
      exact sees.takes _

lemma newRows_cons {row : RawRow} {rows : List RawRow} : newRows s tenantId (row :: rows) =
    if stored s .ledger tenantId row.idempotencyKey = true then newRows s tenantId rows
    else row :: newRows s tenantId rows := by
  rw [newRows, List.filter_cons]
  cases stored s .ledger tenantId row.idempotencyKey <;> rfl

/-- Passing over a stored key takes no lock. -/
lemma Sees.conflict {row : RawRow} {left inserted : List RawRow} (sees : Sees s batch d a)
    (phase : d.phase p = .inserting (row :: left) inserted)
    (held : stored s .ledger tenantId row.idempotencyKey = true) :
    Sees s batch (d.goOn p (.inserting left inserted)) a := by
  have takes := sees.takes p
  rw [phase, Takes, newRows_cons, if_pos held] at takes
  exact sees.goOn takes rfl rfl

/-- Inserting a new key takes its lock. -/
lemma Sees.insert {row : RawRow} {left inserted : List RawRow} (sees : Sees s batch d a)
    (phase : d.phase p = .inserting (row :: left) inserted)
    (new : stored s .ledger tenantId row.idempotencyKey = false) :
    ∃ rest, a.left p = .insert row.idempotencyKey :: rest ∧
      Sees s batch (d.goOn p (.inserting left (inserted ++ [row])))
        (a.took p (.insert row.idempotencyKey) rest) := by
  have takes := sees.takes p
  rw [phase, Takes, newRows_cons, if_neg (by simp [new])] at takes
  obtain ⟨rows, held, next⟩ := takes
  refine ⟨_, next, sees.goOn ⟨?_, ?_, ?_⟩ (Locking.took_left_ne p.other_ne)
    (Locking.took_held_ne p.other_ne)⟩
  · rw [List.append_assoc]
    exact rows
  · rw [Locking.took_held, held, List.map_append]
    rfl
  · exact Locking.took_left

/-- The end of the insert takes no lock. -/
lemma Sees.returning {inserted : List RawRow} (sees : Sees s batch d a)
    (phase : d.phase p = .inserting [] inserted) :
    Sees s batch
      (d.goOn p (.updating (incrementsOf (batch p).entries inserted) inserted [])) a := by
  have takes := sees.takes p
  simp only [phase, Takes, newRows, List.filter_nil, List.append_nil, List.map_nil,
    List.nil_append] at takes
  obtain ⟨rows, held, next⟩ := takes
  refine sees.goOn ⟨rows, ?_, ?_⟩ rfl rfl
  · rw [held, List.map_nil, List.append_nil]
  · rw [next, rows]

/-- An update takes its lock. -/
lemma Sees.update {increment : String × ℕ} {left : List (String × ℕ)} {inserted : List RawRow}
    {updated : List String} (sees : Sees s batch d a)
    (phase : d.phase p = .updating (increment :: left) inserted updated) :
    ∃ rest, a.left p = .update increment.1 :: rest ∧
      Sees s batch (d.goOn p (.updating left inserted (updated ++ [increment.1])))
        (a.took p (.update increment.1) rest) := by
  have takes := sees.takes p
  rw [phase, Takes] at takes
  obtain ⟨rows, held, next⟩ := takes
  refine ⟨_, next, sees.goOn ⟨rows, ?_, ?_⟩ (Locking.took_left_ne p.other_ne)
    (Locking.took_held_ne p.other_ne)⟩
  · rw [Locking.took_held, held, List.map_append, List.append_assoc]
    rfl
  · exact Locking.took_left

/-- A step takes a lock that is free, or none, or ends its transaction. -/
lemma Step.sees (sees : Sees s batch d a) (st : Step batch d p d') :
    d'.phase p = .ended ∨ Sees s batch d' a ∨
      ∃ a', Locking.Step a p a' ∧ Sees s batch d' a' := by
  cases st with
  | conflict phase held => exact .inr (.inl (sees.conflict phase (sees.store ▸ held)))
  | insert phase new free =>
    obtain ⟨rest, next, sees'⟩ := sees.insert phase (sees.store ▸ new)
    exact .inr (.inr ⟨_, .take next (mt (sees.takes p.other).insert_mem.1 free), sees'⟩)
  | returning phase => exact .inr (.inl (sees.returning phase))
  | update phase free =>
    obtain ⟨rest, next, sees'⟩ := sees.update phase
    exact .inr (.inr ⟨_, .take next (mt (sees.takes p.other).update_mem.1 free), sees'⟩)
  | commit => exact .inl goOn_phase
  | abort => exact .inl goOn_phase

/-- A transaction that has ended stays so. -/
lemma Step.ended (st : Step batch d p d') (ended : d.phase q = .ended) : d'.phase q = .ended := by
  by_cases same : q = p
  · subst same
    cases st with
    | conflict phase | insert phase | returning phase | update phase | commit phase =>
      rw [ended] at phase
      cases phase
    | abort => exact goOn_phase
  · cases st <;> exact (goOn_phase_ne same).trans ended

/-- While neither transaction has ended, the two are parties that take locks. -/
lemma sees_of_run {tr} (run : Run (Step batch) (start s batch) tr d) :
    (∃ p, d.phase p = .ended) ∨ ∃ tr' a,
      Run Locking.Step (.start fun p => locksOf s (batch p)) tr' a ∧ Sees s batch d a := by
  induction run with
  | nil => exact .inr ⟨[], _, .nil, .start⟩
  | snoc _ st ih =>
    rcases ih with ⟨p, ended⟩ | ⟨tr', a, run', sees⟩
    · exact .inl ⟨p, st.ended ended⟩
    · rcases st.sees sees with ended | sees' | ⟨a', next, sees'⟩
      · exact .inl ⟨_, ended⟩
      · exact .inr ⟨tr', a, run', sees'⟩
      · exact .inr ⟨_, a', run'.snoc next, sees'⟩

/-- A transaction that waits is a party that waits. -/
lemma Sees.waits (sees : Sees s batch d a) (waits : d.Waits tenantId p) : a.Waits p := by
  simp only [Waits] at waits
  split at waits
  · rename_i row left inserted phase
    obtain ⟨rest, next, _⟩ := sees.insert phase (sees.store ▸ waits.1)
    exact ⟨_, rest, next, (sees.takes p.other).insert_mem.2 waits.2⟩
  · rename_i key delta left inserted updated phase
    obtain ⟨rest, next, _⟩ := sees.update phase
    exact ⟨_, rest, next, (sees.takes p.other).update_mem.2 waits⟩
  · exact waits.elim

/-- The transaction is at a lock: a new key, or an update. -/
def AtLock (s : Store) (tenantId : ℕ) : BatchPhase → Prop
  | .inserting (row :: _) _ => stored s .ledger tenantId row.idempotencyKey = false
  | .updating (_ :: _) _ _ => True
  | _ => False

/-- A transaction that has locks to take comes to the next one, whatever the other does. -/
lemma Sees.advance (sees : Sees s batch d a) (more : a.left p ≠ []) :
    ∃ tr d', Run (Step batch) d tr d' ∧ Sees s batch d' a ∧
      d'.phase p.other = d.phase p.other ∧ AtLock s tenantId (d'.phase p) := by
  have updates {d : BatchRace} (sees : Sees s batch d a) {increments inserted updated}
      (phase : d.phase p = .updating increments inserted updated) :
      AtLock s tenantId (d.phase p) := by
    have takes := sees.takes p
    rw [phase] at takes ⊢
    cases increments with
    | nil => exact absurd takes.2.2 more
    | cons => trivial
  cases phase : d.phase p with
  | inserting rows inserted =>
    induction rows generalizing d with
    | nil =>
      exact ⟨_, _, .snoc .nil (.returning phase), sees.returning phase, goOn_phase_ne p.other_ne,
        updates (sees.returning phase) goOn_phase⟩
    | cons row rows ih =>
      cases held : stored s .ledger tenantId row.idempotencyKey with
      | false => exact ⟨[], d, .nil, sees, rfl, by rw [phase]; exact held⟩
      | true =>
        obtain ⟨tr, d', run, sees', other, here⟩ := ih (sees.conflict phase held) goOn_phase
        exact ⟨_, d', run.cons (.conflict phase (sees.store ▸ held)), sees',
          other.trans (goOn_phase_ne p.other_ne), here⟩
  | updating increments inserted updated => exact ⟨[], d, .nil, sees, rfl, updates sees phase⟩
  | ended =>
    have takes := sees.takes p
    rw [phase] at takes
    exact takes.elim

/-- The transactions follow the parties. -/
lemma Sees.follow {a' : Locking BatchLock} (sees : Sees s batch d a) (st : Locking.Step a p a') :
    ∃ tr d', Run (Step batch) d tr d' ∧ Sees s batch d' a' := by
  cases st with
  | take next free =>
    obtain ⟨tr, d', run, sees', other, here⟩ := @advance _ _ _ _ _ p sees (by simp [next])
    cases phase : d'.phase p with
    | inserting rows inserted =>
      cases rows with
      | nil => simp [phase, AtLock] at here
      | cons row rows =>
        rw [phase] at here
        obtain ⟨rest, next', sees''⟩ := sees'.insert phase here
        obtain ⟨rfl, rfl⟩ := List.cons.inj (next.symm.trans next')
        exact ⟨_, _, run.snoc (.insert phase (sees'.store ▸ here)
          (mt (sees'.takes p.other).insert_mem.2 free)), sees''⟩
    | updating increments inserted updated =>
      cases increments with
      | nil => simp [phase, AtLock] at here
      | cons increment increments =>
        obtain ⟨rest, next', sees''⟩ := sees'.update phase
        obtain ⟨rfl, rfl⟩ := List.cons.inj (next.symm.trans next')
        exact ⟨_, _, run.snoc (.update phase (mt (sees'.takes p.other).update_mem.2 free)), sees''⟩
    | ended => simp [phase, AtLock] at here

/-- A transaction at a lock that its party waits for waits. -/
lemma Sees.waits_of (sees : Sees s batch d a) (here : AtLock s tenantId (d.phase p))
    (waits : a.Waits p) : d.Waits tenantId p := by
  obtain ⟨lock, rest, next, held⟩ := waits
  cases phase : d.phase p with
  | inserting rows inserted =>
    cases rows with
    | nil => simp [phase, AtLock] at here
    | cons row rows =>
      rw [phase] at here
      obtain ⟨rest, next', _⟩ := sees.insert phase here
      obtain ⟨rfl, rfl⟩ := List.cons.inj (next.symm.trans next')
      simp only [Waits, phase]
      exact ⟨sees.store ▸ here, (sees.takes p.other).insert_mem.1 held⟩
  | updating increments inserted updated =>
    cases increments with
    | nil => simp [phase, AtLock] at here
    | cons increment increments =>
      obtain ⟨rest, next', _⟩ := sees.update phase
      obtain ⟨rfl, rfl⟩ := List.cons.inj (next.symm.trans next')
      simp only [Waits, phase]
      exact (sees.takes p.other).update_mem.1 held
  | ended => simp [phase, AtLock] at here

/-- What the parties do, the transactions can do. -/
lemma exists_run {tr} (run : Run Locking.Step (.start fun p => locksOf s (batch p)) tr a) :
    ∃ tr' d, Run (Step batch) (start s batch) tr' d ∧ Sees s batch d a := by
  induction run with
  | nil => exact ⟨[], _, .nil, .start⟩
  | snoc _ st ih =>
    obtain ⟨_, d, run, sees⟩ := ih
    obtain ⟨_, d', run', sees'⟩ := sees.follow st
    exact ⟨_, d', run.append run', sees'⟩

/-- Two transactions can come to wait for each other iff two parties that take their locks can. -/
lemma exists_deadlock_iff :
    (∃ tr d, Run (Step batch) (start s batch) tr d ∧ d.Deadlocked tenantId) ↔
      ∃ tr a, Run Locking.Step (.start fun p => locksOf s (batch p)) tr a ∧ a.Deadlocked := by
  constructor
  · rintro ⟨tr, d, run, deadlocked⟩
    rcases sees_of_run run with ⟨p, ended⟩ | ⟨tr', a, run', sees⟩
    · have waits := deadlocked p
      simp [Waits, ended] at waits
    · exact ⟨tr', a, run', fun p => sees.waits (deadlocked p)⟩
  · rintro ⟨tr, a, run, deadlocked⟩
    have more (p : Party) : a.left p ≠ [] := by
      obtain ⟨lock, rest, next, _⟩ := deadlocked p
      simp [next]
    obtain ⟨_, d, run, sees⟩ := exists_run run
    obtain ⟨_, d₁, run₁, sees₁, _, here₁⟩ := sees.advance (more .one)
    obtain ⟨_, d₂, run₂, sees₂, same, here₂⟩ := sees₁.advance (more .two)
    refine ⟨_, d₂, (run.append run₁).append run₂, fun p => ?_⟩
    cases p with
    | one => exact sees₂.waits_of (same ▸ here₁) (deadlocked .one)
    | two => exact sees₂.waits_of here₂ (deadlocked .two)

end BatchRace

/-- The keys of some entries, in the order of their first occurrence. -/
def keysOf (entries : List LedgerEntryIn) : List String :=
  (Dict.firstBy (·.idempotencyKey) entries).map Prod.fst

section Contested
variable {tenantId : ℕ} (s : Store) (batch : Party → Batch tenantId)

/-- A key both batches carry. -/
def sharedKey (key : String) : Bool :=
  decide (key ∈ keysOf (batch .one).entries) && decide (key ∈ keysOf (batch .two).entries)

/-- Some key that both batches carry is not stored. -/
def sharesNew : Bool :=
  (keysOf (batch .one).entries).any fun key =>
    sharedKey batch key && !stored s .ledger tenantId key

/-- The keys the batches contend for: the new ones they share, or, if they share none, the stored ones. -/
def contested (key : String) : Bool :=
  sharedKey batch key && (!sharesNew s batch || !stored s .ledger tenantId key)

/-- The first contested key of a batch, in the order of its entries. -/
def firstContested (p : Party) : Option String :=
  (keysOf (batch p).entries).find? (contested s batch)

end Contested

section Keys
variable {tenantId : ℕ} {s : Store} {batch : Party → Batch tenantId} {b : Batch tenantId}
  {entries : List LedgerEntryIn} {new : List RawRow} {key : String} {p : Party}

lemma sharedKey_iff : sharedKey batch key = true ↔
    key ∈ keysOf (batch p).entries ∧ key ∈ keysOf (batch p.other).entries := by
  simp only [sharedKey, Bool.and_eq_true, decide_eq_true_eq]
  cases p
  · exact Iff.rfl
  · exact and_comm

lemma sharesNew_iff : sharesNew s batch = true ↔
    ∃ key, sharedKey batch key = true ∧ stored s .ledger tenantId key = false := by
  simp only [sharesNew, List.any_eq_true, Bool.and_eq_true, Bool.not_eq_true']
  constructor
  · rintro ⟨key, _, both⟩
    exact ⟨key, both⟩
  · rintro ⟨key, shared, new⟩
    exact ⟨key, ((@sharedKey_iff _ batch key .one).1 shared).1, shared, new⟩

/-- The tuples of a batch carry its keys. -/
lemma keys_tuples : b.tuples.map (·.idempotencyKey) = keysOf b.entries := by
  have pointwise : List.Forall₂ (fun (p : String × LedgerEntryIn) (row : RawRow) =>
      p.2.idempotencyKey = row.idempotencyKey)
      ((Dict.firstBy (·.idempotencyKey) b.entries).zipIdx.map Prod.fst) b.tuples := by
    rw [List.forall₂_map_left_iff]
    refine (ledgerRows_ok b.encoded).imp fun x row h => ?_
    obtain ⟨occurredAt, _, rfl⟩ := h
    rfl
  rw [List.zipIdx_map_fst] at pointwise
  have keys : (Dict.firstBy (·.idempotencyKey) b.entries).map (·.2.idempotencyKey) =
      b.tuples.map (·.idempotencyKey) := by
    rwa [← List.forall₂_eq_eq_eq, List.forall₂_map_left_iff, List.forall₂_map_right_iff]
  rw [← keys]
  exact List.map_congr_left fun p mem => (Dict.of_mem_firstBy mem).2

lemma contested_of_new (new : sharesNew s batch = true) :
    contested s batch = fun key => sharedKey batch key && !stored s .ledger tenantId key := by
  funext key
  simp [contested, new]

lemma contested_of_old (old : sharesNew s batch = false) : contested s batch = sharedKey batch := by
  funext key
  simp [contested, old]

/-- Keys that no batch is to insert are stored. -/
lemma stored_of_shared (old : sharesNew s batch = false) (shared : sharedKey batch key = true) :
    stored s .ledger tenantId key = true := by
  by_contra absent
  exact Bool.false_ne_true (old.symm.trans (sharesNew_iff.2 ⟨key, shared, by simpa using absent⟩))

/-- The keys a batch inserts. -/
lemma keys_newRows : (newRows s tenantId b.tuples).map (·.idempotencyKey) =
    (keysOf b.entries).filter fun key => !stored s .ledger tenantId key := by
  rw [← keys_tuples, List.filter_map]
  rfl

/-- The keys a batch counts. -/
lemma keys_incrementsOf : (incrementsOf entries new).map Prod.fst =
    (keysOf entries).filter fun key => decide (0 < increment entries new key) := by
  rw [keysOf, ← Dict.firstBy_id_map, incrementsOf, Dict.counter, List.filterMap_map, List.map_filterMap,
    ← List.filterMap_eq_filter, List.filterMap_map]
  refine List.filterMap_congr fun p _ => ?_
  change Option.map Prod.fst (if 0 < increment entries new p.1 then
      some (p.1, increment entries new p.1) else none) =
    if decide (0 < increment entries new p.1) = true then some p.1 else none
  by_cases pos : 0 < increment entries new p.1
  · simp [pos]
  · simp [pos]

/-- A batch inserts the keys it has that are not stored, then counts those it owes an increment. -/
lemma locksOf_eq : locksOf s b =
    ((keysOf b.entries).filter fun key => !stored s .ledger tenantId key).map .insert ++
      ((keysOf b.entries).filter fun key =>
        decide (0 < increment b.entries (newRows s tenantId b.tuples) key)).map .update := by
  rw [locksOf, ← keys_newRows, ← keys_incrementsOf, List.map_map, List.map_map]
  rfl

lemma insert_mem_locksOf : BatchLock.insert key ∈ locksOf s b ↔
    key ∈ keysOf b.entries ∧ stored s .ledger tenantId key = false := by
  simp [locksOf_eq]

lemma update_mem_locksOf : BatchLock.update key ∈ locksOf s b ↔
    key ∈ keysOf b.entries ∧ 0 < increment b.entries (newRows s tenantId b.tuples) key := by
  simp [locksOf_eq]

/-- The entries of a stored key are all counted. -/
lemma increment_pos (held : stored s .ledger tenantId key = true) (mem : key ∈ keysOf entries) :
    0 < increment entries (newRows s tenantId b.tuples) key := by
  rw [increment, lookup_insertedOf_of_stored held]
  simpa using occurrences_pos.2 (Dict.mem_firstBy_fst.1 mem)

/-- The first lock of a batch that the other takes too. -/
lemma find?_locksOf :
    (locksOf s (batch p)).find? (fun lock => decide (lock ∈ locksOf s (batch p.other))) =
      (firstContested s batch p).map fun key =>
        if sharesNew s batch then .insert key else .update key := by
  have inserts : ((keysOf (batch p).entries).filter fun key => !stored s .ledger tenantId key).find?
      (fun key => decide (BatchLock.insert key ∈ locksOf s (batch p.other))) =
      (keysOf (batch p).entries).find? fun key =>
        sharedKey batch key && !stored s .ledger tenantId key := by
    rw [List.find?_filter]
    refine List.find?_congr fun key mem => ?_
    rw [Bool.eq_iff_iff, Bool.and_eq_true, @sharedKey_iff _ batch key p, decide_eq_true_eq,
      decide_eq_true_eq, insert_mem_locksOf, Bool.not_eq_true']
    tauto
  have split : (locksOf s (batch p)).find? (fun lock => decide (lock ∈ locksOf s (batch p.other))) =
      (((keysOf (batch p).entries).find? fun key =>
        sharedKey batch key && !stored s .ledger tenantId key).map .insert).or
      ((((keysOf (batch p).entries).filter fun key => decide (0 < increment (batch p).entries
          (newRows s tenantId (batch p).tuples) key)).find? fun key =>
        decide (BatchLock.update key ∈ locksOf s (batch p.other))).map .update) := by
    rw [@locksOf_eq _ s (batch p), List.find?_append, List.find?_map, List.find?_map, ← inserts]
    rfl
  rw [split, firstContested]
  cases new : sharesNew s batch with
  | true =>
    obtain ⟨key, shared, absent⟩ := sharesNew_iff.1 new
    have found : ((keysOf (batch p).entries).find? fun key =>
        sharedKey batch key && !stored s .ledger tenantId key).isSome = true :=
      List.find?_isSome.2 ⟨key, (sharedKey_iff.1 shared).1, by simp [shared, absent]⟩
    rw [Option.or_of_isSome (by simpa using found), contested_of_new new]
    rfl
  | false =>
    have none : ((keysOf (batch p).entries).find? fun key =>
        sharedKey batch key && !stored s .ledger tenantId key) = none := by
      refine List.find?_eq_none.2 fun key _ both => ?_
      rw [Bool.and_eq_true] at both
      simp [stored_of_shared new both.1] at both
    rw [none, Option.map_none, Option.none_or, List.find?_filter, contested_of_old new]
    refine congrArg _ (List.find?_congr fun key mem => ?_)
    rw [Bool.eq_iff_iff, @sharedKey_iff _ batch key p, decide_eq_true_eq, decide_eq_true_eq,
      decide_eq_true_eq, update_mem_locksOf]
    constructor
    · exact fun both => ⟨mem, both.2.1⟩
    · intro shared
      have held := stored_of_shared new (sharedKey_iff.2 shared)
      exact ⟨increment_pos held shared.1, shared.2, increment_pos held shared.2⟩

/-- Two concurrent batches of a tenant can come to a state in which each waits for the other iff the
    first key they contend for is not the same one in both. -/
theorem batches_deadlock_iff {tenantId : ℕ} (s : Store) (batch : Party → Batch tenantId) :
    (∃ tr d, Run (BatchRace.Step batch) (BatchRace.start s batch) tr d ∧ d.Deadlocked tenantId) ↔
      firstContested s batch .one ≠ firstContested s batch .two := by
  have injective : Function.Injective fun key =>
      if sharesNew s batch then BatchLock.insert key else BatchLock.update key := by
    intro key key' eq
    split_ifs at eq
    · exact BatchLock.insert.inj eq
    · exact BatchLock.update.inj eq
  rw [BatchRace.exists_deadlock_iff, Locking.deadlock_iff]
  have one : ((locksOf s (batch .one)).find? fun lock => decide (lock ∈ locksOf s (batch .two))) = _ :=
    @find?_locksOf _ s batch .one
  have two : ((locksOf s (batch .two)).find? fun lock => decide (lock ∈ locksOf s (batch .one))) = _ :=
    @find?_locksOf _ s batch .two
  rw [one, two]
  exact (Option.map_injective injective).ne_iff

end Keys

namespace Sample

/-- The same two entries, one way round and the other. -/
def crossed : Party → Batch 1
  | .one => ⟨[entry, secondEntry], draws, _, ⟨by decide, by decide⟩, rfl⟩
  | .two => ⟨[secondEntry, entry], laterDraws, _, ⟨by decide, by decide⟩, rfl⟩

end Sample

/-- A client that sends the same two new entries in two orders: each transaction inserts the first key of
    its batch, and waits for the other at the second. -/
theorem crossed_batches_deadlock : ∃ tr d,
    Run (BatchRace.Step Sample.crossed) (BatchRace.start Sample.store Sample.crossed) tr d ∧
      tr.map Prod.snd = [.one, .two] ∧ d.Deadlocked 1 := by
  refine ⟨_, _, .snoc (.snoc .nil (.insert rfl ?_ ?_)) (.insert rfl ?_ ?_), rfl, fun p => ?_⟩
  · decide
  · decide
  · decide
  · decide
  · cases p with
    | one => exact ⟨by decide, by decide⟩
    | two => exact ⟨by decide, by decide⟩

end Ingest
end LedgerLoop
