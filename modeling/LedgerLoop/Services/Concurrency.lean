import LedgerLoop.Library.Run
import LedgerLoop.Services.Ingest

/-!
# Concurrent submissions

The statements of `ingest_gateway` as READ COMMITTED runs them, transactions interleaved in any order
and aborted at any point.

An insert waits for the uncommitted insert of its key, and answers nothing once the key is committed. An
update waits for the uncommitted update of its row, and reads the version the holder leaves. Neither can
happen while it waits: its step has no instance. The matcher's update of a gateway row and the relay's
update of an outbox row commit in between.

The key of a `Submission` fits its column, as `gateway_webhook` has checked it; a provider's key may be
longer, and then a retry of it is answered by an error (`ingestGateway`).

A commit leaves what an atomic `ingestGateway` makes of the committed tables (`Step.commit_atomic`), so
the transactions are serialised by their commits.
-/

set_option autoImplicit false

namespace LedgerLoop
open LedgerLoop.Library

namespace Concurrency
open Ingest

/-- The arguments of `ingest_gateway`, with a key that its column stores as it is. -/
structure Submission where
  tenantId : ℕ
  payload : GatewayWebhookIn
  idempotencyKey : String
  rawBody : String
  idempotencyKey_length : idempotencyKey.length ≤ 255

/-- An uncommitted version of a gateway row. -/
inductive Version where
  | insert (row : RawRow)
  | update (existing : RawRow)

/-- How far a transaction is: nothing done, insert answered nothing, row written, event written. -/
inductive Stage where
  | begun
  | conflicted
  | wrote (version : Version)
  | enqueued (version : Version)

/-- The version a transaction holds. -/
def Stage.version : Stage → Option Version
  | .begun | .conflicted => none
  | .wrote version | .enqueued version => some version

structure Txn where
  submission : Submission
  draws : IngestDraws
  stage : Stage

/-- The committed tables, the open transactions and the row ids handed out. -/
structure Sys where
  store : Store
  active : List Txn := []
  drawn : List ℕ := []

inductive Event where
  | begin (submission : Submission) (draws : IngestDraws)
  | insert (t : Txn)
  | bump (t : Txn)
  | enqueue (t : Txn)
  | commit (t : Txn) (outcome : IngestOutcome)
  | abort (t : Txn)
  | reconcile (rowId : ℕ) (at_ : Datetime)
  | relay (eventId : ℕ) (publishedAt : Option Datetime) (attempts : ℕ)

/-- The row a version is of. -/
def Version.row : Version → RawRow
  | .insert row | .update row => row

/-- The outcome of a version. -/
def Version.outcome (txnId : String) : Version → IngestOutcome
  | .insert row => firstReceipt row
  | .update existing => retry existing txnId

/-- The gateway table once a version is committed. -/
def Version.install (rows : List RawRow) : Version → List RawRow
  | .insert row => rows ++ [row]
  | .update existing => updateWhere (·.id == existing.id) (fun _ => existing) rows

/-- The committed row of a key, if any. -/
def rowsOf (s : Store) (tenantId : ℕ) (key : String) : List RawRow :=
  (s.raw .gateway).filter (holdsKey tenantId key)

/-- A transaction holds an uncommitted insert of a key. -/
def Txn.Inserting (t : Txn) (tenantId : ℕ) (key : String) : Prop :=
  t.submission.tenantId = tenantId ∧ t.submission.idempotencyKey = key ∧
    ∃ row, t.stage.version = some (.insert row)

/-- A transaction holds the lock of a row. -/
def Txn.Locks (t : Txn) (rowId : ℕ) : Prop :=
  ∃ existing, t.stage.version = some (.update existing) ∧ existing.id = rowId

def Txn.withStage (t : Txn) (stage : Stage) : Txn := { t with stage := stage }

/-- The tables after a commit. -/
def Txn.committed (t : Txn) (version : Version) (s : Store) : Store :=
  enqueue (s.setRaw .gateway (version.install (s.raw .gateway))) .gateway
    [version.outcome t.submission.payload.txnId] t.draws

/-- A row with one submission more. -/
def counted (row : RawRow) : RawRow := { row with duplicateCount := row.duplicateCount + 1 }

/-- The row a transaction inserts. -/
def Txn.row (t : Txn) (occurredAt : Datetime) : RawRow :=
  gatewayRow t.submission.tenantId t.submission.payload t.submission.idempotencyKey
    t.submission.rawBody occurredAt t.draws

/-- The matcher's `UPDATE gateway_transactions SET reconciled_at = .. WHERE id = ..`. -/
def reconciled (rowId : ℕ) (at_ : Datetime) (s : Store) : Store :=
  s.setRaw .gateway (updateWhere (·.id == rowId) (fun row => { row with reconciledAt := some at_ })
    (s.raw .gateway))

def handed (publishedAt : Option Datetime) (attempts : ℕ) (e : OutboxEvent) : OutboxEvent :=
  { e with publishedAt := publishedAt, attempts := attempts }

/-- The relay's `UPDATE outbox_events SET published_at = .., attempts = .. WHERE id = ..`. -/
def relayed (eventId : ℕ) (publishedAt : Option Datetime) (attempts : ℕ) (s : Store) : Store :=
  { s with outboxEvents :=
      updateWhere (·.id == eventId) (handed publishedAt attempts) s.outboxEvents }

/-- The arguments can be encoded. -/
def Submission.Encodable (sub : Submission) (occurredAt : Datetime) : Prop :=
  sub.payload.occurredAt.toUtc = .ok occurredAt ∧
    [sub.idempotencyKey, sub.payload.txnId, sub.payload.gatewayRef].any hasNul = false

/-- One statement of one transaction, its commit or its abort, or a commit of another component. -/
inductive Step : Sys → Event → Sys → Prop where
  | begin {s : Sys} {submission draws} :
    draws.rowId 0 ∉ s.drawn →
    Step s (.begin submission draws)
      { s with active := ⟨submission, draws, .begun⟩ :: s.active, drawn := s.drawn ++ [draws.rowId 0] }
  | conflict {s : Sys} {t rest occurredAt} :
    s.active.Perm (t :: rest) → t.stage = .begun →
    t.submission.Encodable occurredAt →
    (∀ o ∈ rest, ¬o.Inserting t.submission.tenantId t.submission.idempotencyKey) →
    stored s.store .gateway t.submission.tenantId t.submission.idempotencyKey = true →
    Step s (.insert t) { s with active := t.withStage .conflicted :: rest }
  | insert {s : Sys} {t rest occurredAt} :
    s.active.Perm (t :: rest) → t.stage = .begun →
    t.submission.Encodable occurredAt →
    (∀ o ∈ rest, ¬o.Inserting t.submission.tenantId t.submission.idempotencyKey) →
    stored s.store .gateway t.submission.tenantId t.submission.idempotencyKey = false →
    s.store.hasAccount t.submission.tenantId = true →
    Step s (.insert t)
      { s with active := t.withStage (.wrote (.insert (t.row occurredAt))) :: rest }
  | bump {s : Sys} {t rest row} :
    s.active.Perm (t :: rest) → t.stage = .conflicted →
    rowsOf s.store t.submission.tenantId t.submission.idempotencyKey = [row] →
    (∀ o ∈ rest, ¬o.Locks row.id) →
    Step s (.bump t)
      { s with active := t.withStage (.wrote (.update (counted row))) :: rest }
  | enqueue {s : Sys} {t rest version} :
    s.active.Perm (t :: rest) → t.stage = .wrote version →
    Step s (.enqueue t) { s with active := t.withStage (.enqueued version) :: rest }
  | commit {s : Sys} {t rest version} :
    s.active.Perm (t :: rest) → t.stage = .enqueued version →
    Step s (.commit t (version.outcome t.submission.payload.txnId))
      { s with store := t.committed version s.store, active := rest }
  | abort {s : Sys} {t rest} :
    s.active.Perm (t :: rest) →
    Step s (.abort t) { s with active := rest }
  | reconcile {s : Sys} {rowId at_} :
    (∀ o ∈ s.active, ¬o.Locks rowId) →
    Step s (.reconcile rowId at_)
      { s with store := reconciled rowId at_ s.store }
  | relay {s : Sys} {eventId publishedAt attempts} :
    Step s (.relay eventId publishedAt attempts)
      { s with store := relayed eventId publishedAt attempts s.store }

/-- Tables without gateway rows, nothing under way. -/
def Sys.initial (accounts : List Account) : Sys where
  store := { accounts := accounts }

/-- Two open transactions do not hold the insert of one key or the lock of one row. -/
def Apart (t o : Txn) : Prop :=
  (∀ tenantId key, ¬(t.Inserting tenantId key ∧ o.Inserting tenantId key)) ∧
    ∀ rowId, ¬(t.Locks rowId ∧ o.Locks rowId)

/-- What the version of a transaction is, against the committed tables: the new row of a key that is not
    stored, or the one row of the key with one submission more. -/
def Version.Pending (t : Txn) (s : Store) : Version → Prop
  | .insert row => rowsOf s t.submission.tenantId t.submission.idempotencyKey = [] ∧
      s.hasAccount t.submission.tenantId = true ∧
      ∃ occurredAt, t.submission.Encodable occurredAt ∧ row = t.row occurredAt
  | .update existing => ∃ row, existing = counted row ∧
      rowsOf s t.submission.tenantId t.submission.idempotencyKey = [row]

/-- What holds of an open transaction. -/
structure Txn.Valid (t : Txn) (s : Store) : Prop where
  encodable : t.stage ≠ .begun → ∃ occurredAt, t.submission.Encodable occurredAt
  pending : ∀ version, t.stage.version = some version → version.Pending t s

/-- Row ids are handed out once, keys are unique, events point at rows, and the open transactions are
    valid and apart. -/
structure Inv (s : Sys) : Prop where
  ids : ((s.store.raw .gateway).map RawRow.id ++ s.active.map (·.draws.rowId 0)).Nodup
  drawn : ∀ id ∈ (s.store.raw .gateway).map RawRow.id ++ s.active.map (·.draws.rowId 0), id ∈ s.drawn
  events : ∀ e ∈ s.store.outboxEvents, e.source = .gateway →
    e.rowId ∈ (s.store.raw .gateway).map RawRow.id
  apart : s.active.Pairwise Apart
  valid : ∀ t ∈ s.active, t.Valid s.store

section Frame
variable {s : Store} {t o : Txn} {version : Version} {rows : List RawRow} {row : RawRow}
  {tenantId rowId : ℕ} {key : String}

lemma stored_eq : stored s .gateway tenantId key = true ↔ rowsOf s tenantId key ≠ [] := by
  simp [stored, rowsOf, List.any_eq_true]

/-- A bump counts the row of the key. -/
lemma filter_bump : (bump tenantId key 1 rows).filter (holdsKey tenantId key) =
    (rows.filter (holdsKey tenantId key)).map counted := by
  have keep : ∀ r : RawRow, holdsKey tenantId key (counted r) = holdsKey tenantId key r := fun _ => rfl
  exact (filter_updateWhere_comm rows keep).trans
    (updateWhere_eq_map fun r mem => (List.mem_filter.1 mem).2)

/-- Installing the counted row of a key is a bump of the key. -/
lemma install_update (ids : ((s.raw .gateway).map RawRow.id).Nodup) (one : rowsOf s tenantId key = [row]) :
    (Version.update (counted row)).install (s.raw .gateway) =
      bump tenantId key 1 (s.raw .gateway) := by
  have own : row ∈ s.raw .gateway ∧ holdsKey tenantId key row = true := by
    have mem : row ∈ rowsOf s tenantId key := by simp [one]
    exact List.mem_filter.1 mem
  refine List.map_congr_left fun r mem => ?_
  by_cases held : holdsKey tenantId key r = true
  · have same : r ∈ rowsOf s tenantId key := List.mem_filter.2 ⟨mem, held⟩
    rw [one, List.mem_singleton] at same
    simp [same, own.2, counted]
  · have other : r.id ≠ row.id := fun same => held (eq_of_key ids mem own.1 same ▸ own.2)
    simp [held, counted, other]

/-- Another key's rows are not touched by a commit. -/
lemma rowsOf_committed_ne (ids : ((s.raw .gateway).map RawRow.id).Nodup)
    (pending : version.Pending t s)
    (ne : ¬(t.submission.tenantId = tenantId ∧ t.submission.idempotencyKey = key)) :
    rowsOf (t.committed version s) tenantId key = rowsOf s tenantId key := by
  simp only [rowsOf, Txn.committed, raw_enqueue, Store.raw_setRaw]
  cases version with
  | insert row =>
    obtain ⟨_, _, occurredAt, _, rfl⟩ := pending
    have other : holdsKey tenantId key (t.row occurredAt) = false := by
      simpa [holdsKey, Txn.row, gatewayRow] using ne
    simp [Version.install, List.filter_append, other]
  | update existing =>
    obtain ⟨row, rfl, one⟩ := pending
    rw [install_update ids one]
    refine filter_updateWhere _ (fun _ => rfl) fun r _ held => ?_
    simp only [holdsKey, Bool.and_eq_true, beq_iff_eq] at held
    simpa [holdsKey, held.1, held.2] using ne

/-- The rows of the key of a commit. -/
lemma rowsOf_committed_self (ids : ((s.raw .gateway).map RawRow.id).Nodup)
    (pending : version.Pending t s) :
    rowsOf (t.committed version s) t.submission.tenantId t.submission.idempotencyKey =
      [version.row] := by
  simp only [rowsOf, Txn.committed, raw_enqueue, Store.raw_setRaw]
  cases version with
  | insert row =>
    obtain ⟨free, _, occurredAt, _, rfl⟩ := pending
    have own : holdsKey t.submission.tenantId t.submission.idempotencyKey (t.row occurredAt) = true := by
      simp [holdsKey, Txn.row, gatewayRow]
    rw [Version.install, List.filter_append, ← rowsOf, free]
    simp [own, Version.row]
  | update existing =>
    obtain ⟨row, rfl, one⟩ := pending
    rw [install_update ids one, filter_bump, ← rowsOf, one]
    rfl

lemma hasAccount_committed (id : ℕ) : (t.committed version s).hasAccount id = s.hasAccount id := by
  simp [Store.hasAccount, Txn.committed]

/-- A commit is an atomic call on the committed tables. -/
lemma committed_atomic (ids : ((s.raw .gateway).map RawRow.id).Nodup)
    (pending : version.Pending t s) {occurredAt : Datetime}
    (encodable : t.submission.Encodable occurredAt) :
    ingestGateway s t.submission.tenantId t.submission.payload t.submission.idempotencyKey
        t.submission.rawBody t.draws =
      .ok (t.committed version s, version.outcome t.submission.payload.txnId) := by
  obtain ⟨utc, clean⟩ := encodable
  have held : varchar 255 t.submission.idempotencyKey = some t.submission.idempotencyKey :=
    varchar_of_fits t.submission.idempotencyKey_length
  cases version with
  | insert row =>
    obtain ⟨free, account, occurredAt', ⟨utc', _⟩, rfl⟩ := pending
    have new : stored s .gateway t.submission.tenantId t.submission.idempotencyKey = false := by
      rw [← Bool.not_eq_true, stored_eq, not_not, free]
    simp only [ingestGateway, utc', bind, Except.bind, clean, held, new, account, Bool.false_eq_true,
      Bool.true_eq_false, if_false]
    rfl
  | update existing =>
    obtain ⟨row, rfl, one⟩ := pending
    have old : stored s .gateway t.submission.tenantId t.submission.idempotencyKey = true := by
      rw [stored_eq, one]
      exact List.cons_ne_nil _ _
    have again : (bump t.submission.tenantId t.submission.idempotencyKey 1 (s.raw .gateway)).filter
        (holdsKey t.submission.tenantId t.submission.idempotencyKey) = [counted row] := by
      rw [filter_bump, ← rowsOf, one]
      rfl
    simp only [ingestGateway, utc, bind, Except.bind, clean, held, old, again, ne_eq, not_true_eq_false,
      Bool.false_eq_true, if_true, if_false]
    rw [Txn.committed, install_update ids one]
    rfl

end Frame

section Invariant
variable {s u : Sys} {e : Event} {t o : Txn} {l rest : List Txn} {stage : Stage} {version : Version}
  {accounts : List Account}

lemma Apart.symm (apart : Apart t o) : Apart o t :=
  ⟨fun tenantId key both => apart.1 tenantId key both.symm, fun rowId both => apart.2 rowId both.symm⟩

/-- A transaction without a version is apart from every other. -/
lemma Apart.of_none (none : t.stage.version = none) : Apart t o := by
  refine ⟨?_, ?_⟩
  · rintro tenantId key ⟨⟨_, _, row, holds⟩, _⟩
    simp [none] at holds
  · rintro rowId ⟨⟨existing, holds, _⟩, _⟩
    simp [none] at holds

/-- The order of the open transactions does not matter. -/
lemma Inv.perm (inv : Inv s) (perm : s.active.Perm l) : Inv { s with active := l } where
  ids := ((perm.map _).append_left _).nodup_iff.1 inv.ids
  drawn id mem := inv.drawn id (((perm.map _).append_left _).mem_iff.2 mem)
  events := inv.events
  apart := (perm.pairwise_iff Apart.symm).1 inv.apart
  valid t mem := inv.valid t (perm.mem_iff.2 mem)

/-- A transaction goes on without a commit. -/
lemma Inv.advance (inv : Inv { s with active := t :: rest })
    (valid : (t.withStage stage).Valid s.store) (apart : ∀ o ∈ rest, Apart (t.withStage stage) o) :
    Inv { s with active := t.withStage stage :: rest } where
  ids := inv.ids
  drawn := inv.drawn
  events := inv.events
  apart := List.pairwise_cons.2 ⟨apart, (List.pairwise_cons.1 inv.apart).2⟩
  valid o mem := by
    rcases List.mem_cons.1 mem with rfl | mem
    · exact valid
    · exact inv.valid o (List.mem_cons_of_mem _ mem)

/-- A transaction leaves. -/
lemma Inv.leave (inv : Inv { s with active := t :: rest }) : Inv { s with active := rest } where
  ids := inv.ids.sublist ((List.sublist_cons_self _ _).append_left _)
  drawn id mem := inv.drawn id (((List.sublist_cons_self _ _).append_left _).subset mem)
  events := inv.events
  apart := (List.pairwise_cons.1 inv.apart).2
  valid o mem := inv.valid o (List.mem_cons_of_mem _ mem)

lemma Inv.rowIds (inv : Inv s) : ((s.store.raw .gateway).map RawRow.id).Nodup :=
  (List.nodup_append.1 inv.ids).1

/-- What a version is depends on the rows of its key and on the accounts. -/
lemma Version.Pending.congr {store store' : Store} (pending : version.Pending t store)
    (rows : rowsOf store' t.submission.tenantId t.submission.idempotencyKey =
      rowsOf store t.submission.tenantId t.submission.idempotencyKey)
    (account : store'.hasAccount t.submission.tenantId = store.hasAccount t.submission.tenantId) :
    version.Pending t store' := by
  cases version with
  | insert row => simpa only [Version.Pending, rows, account] using pending
  | update existing => simpa only [Version.Pending, rows] using pending

/-- A commit leaves what the others hold pending. -/
lemma Version.Pending.committed {store : Store} {held : Version}
    (ids : ((store.raw .gateway).map RawRow.id).Nodup)
    (own : t.stage.version = some version) (pending : version.Pending t store)
    (other : o.stage.version = some held) (waits : held.Pending o store) (apart : Apart t o) :
    held.Pending o (t.committed version store) := by
  refine waits.congr (rowsOf_committed_ne ids pending ?_) (hasAccount_committed _)
  rintro ⟨tenant, key⟩
  -- of one key, both are inserts, or both count the one row
  cases version with
  | insert row =>
    cases held with
    | insert row' => exact apart.1 _ _ ⟨⟨tenant, key, row, own⟩, rfl, rfl, row', other⟩
    | update existing =>
      obtain ⟨row', _, one⟩ := waits
      have free := pending.1
      rw [tenant, key, one] at free
      cases free
  | update existing =>
    obtain ⟨row, rfl, one⟩ := pending
    cases held with
    | insert row' =>
      have free := waits.1
      rw [← tenant, ← key, one] at free
      cases free
    | update existing' =>
      obtain ⟨row', rfl, one'⟩ := waits
      rw [tenant, key, one'] at one
      obtain rfl := (List.cons.inj one).1
      exact apart.2 row'.id ⟨⟨_, own, rfl⟩, _, other, rfl⟩

lemma outboxEvents_committed {store : Store} : (t.committed version store).outboxEvents =
    store.outboxEvents ++
      [outboxRow .gateway t.draws (version.outcome t.submission.payload.txnId) 0] := by
  simp [Txn.committed, Store.outboxEvents_setRaw]

lemma outcome_rowId {txnId : String} : (version.outcome txnId).rowId = version.row.id := by
  cases version <;> rfl

/-- The ids of the table after a commit: an insert adds the one the transaction drew. -/
lemma ids_committed {store : Store} (ids : ((store.raw .gateway).map RawRow.id).Nodup)
    (pending : version.Pending t store) :
    ((t.committed version store).raw .gateway).map RawRow.id = (store.raw .gateway).map RawRow.id ∨
      ((t.committed version store).raw .gateway).map RawRow.id =
        (store.raw .gateway).map RawRow.id ++ [t.draws.rowId 0] := by
  rw [Txn.committed, raw_enqueue, Store.raw_setRaw]
  cases version with
  | insert row =>
    obtain ⟨_, _, _, _, rfl⟩ := pending
    exact .inr (by simp [Version.install, Txn.row, gatewayRow])
  | update existing =>
    obtain ⟨row, rfl, one⟩ := pending
    rw [install_update ids one]
    exact .inl (map_bump fun _ _ => rfl)

/-- The row of a commit is in the table it leaves. -/
lemma row_mem_committed {store : Store} (ids : ((store.raw .gateway).map RawRow.id).Nodup)
    (pending : version.Pending t store) : version.row ∈ (t.committed version store).raw .gateway := by
  have own : version.row ∈ rowsOf (t.committed version store) t.submission.tenantId
      t.submission.idempotencyKey := by simp [rowsOf_committed_self ids pending]
  exact (List.mem_filter.1 own).1

/-- A commit keeps the invariant. -/
lemma Inv.commit (inv : Inv { s with active := t :: rest }) (holds : t.stage = .enqueued version) :
    Inv { s with store := t.committed version s.store, active := rest } := by
  have own : t.stage.version = some version := by rw [holds]; rfl
  have pending : version.Pending t s.store := (inv.valid t List.mem_cons_self).pending version own
  have ids : ((s.store.raw .gateway).map RawRow.id).Nodup := inv.rowIds
  have apart := (List.pairwise_cons.1 inv.apart).1
  have sub : (((t.committed version s.store).raw .gateway).map RawRow.id ++
      rest.map (·.draws.rowId 0)).Sublist ((s.store.raw .gateway).map RawRow.id ++
        (t :: rest).map (·.draws.rowId 0)) := by
    rcases ids_committed ids pending with same | added
    · rw [same]
      exact (List.sublist_cons_self _ _).append_left _
    · rw [added, List.append_assoc]
      exact List.Sublist.refl _
  exact
    { ids := inv.ids.sublist sub
      drawn := fun id mem => inv.drawn id (sub.subset mem)
      events := fun e mem source => by
        rw [outboxEvents_committed] at mem
        rcases List.mem_append.1 mem with old | new
        · rcases ids_committed ids pending with same | added
          · exact same ▸ inv.events e old source
          · exact added ▸ List.mem_append_left _ (inv.events e old source)
        · obtain rfl := List.mem_singleton.1 new
          have mem := List.mem_map_of_mem (f := RawRow.id) (row_mem_committed ids pending)
          rwa [← outcome_rowId] at mem
      apart := (List.pairwise_cons.1 inv.apart).2
      valid := fun o mem =>
        { encodable := (inv.valid o (List.mem_cons_of_mem _ mem)).encodable
          pending := fun held other => pending.committed ids own other
            ((inv.valid o (List.mem_cons_of_mem _ mem)).pending held other) (apart o mem) } }

lemma rowsOf_reconciled {store : Store} {rowId tenantId : ℕ} {at_ : Datetime} {key : String} :
    rowsOf (reconciled rowId at_ store) tenantId key =
      updateWhere (·.id == rowId) (fun row => { row with reconciledAt := some at_ })
        (rowsOf store tenantId key) := by
  rw [rowsOf, reconciled, Store.raw_setRaw]
  exact filter_updateWhere_comm _ fun _ => rfl

/-- The matcher's update of a row that is not locked keeps the invariant. -/
lemma Inv.reconcile (inv : Inv s) {rowId : ℕ} {at_ : Datetime}
    (free : ∀ o ∈ s.active, ¬o.Locks rowId) :
    Inv { s with store := reconciled rowId at_ s.store } := by
  have ids : ((reconciled rowId at_ s.store).raw .gateway).map RawRow.id =
      (s.store.raw .gateway).map RawRow.id := by
    rw [reconciled, Store.raw_setRaw]
    exact map_updateWhere _ fun _ => rfl
  refine ⟨ids ▸ inv.ids, ids ▸ inv.drawn, ?_, inv.apart, fun o mem => ⟨(inv.valid o mem).encodable, ?_⟩⟩
  · intro e mem source
    rw [ids]
    exact inv.events e (by simpa [reconciled] using mem) source
  · intro held other
    have waits := (inv.valid o mem).pending held other
    refine waits.congr ?_ (by simp [Store.hasAccount, reconciled])
    rw [rowsOf_reconciled]
    refine updateWhere_eq_self fun row memRow => ?_
    cases held with
    | insert row' =>
      rw [waits.1] at memRow
      cases memRow
    | update existing =>
      obtain ⟨row', rfl, one⟩ := waits
      rw [one, List.mem_singleton] at memRow
      subst memRow
      exact beq_eq_false_iff_ne.2 fun same => free o mem ⟨_, other, same⟩

/-- What holds of a transaction does not depend on its other stages. -/
lemma Version.Pending.withStage {store : Store} (pending : version.Pending t store) :
    version.Pending (t.withStage stage) store := pending

/-- Every step keeps the invariant. -/
lemma Step.inv (inv : Inv s) (st : Step s e u) : Inv u := by
  cases st with
  | @begin submission draws new =>
    have fresh : draws.rowId 0 ∉ (s.store.raw .gateway).map RawRow.id ++
        s.active.map (·.draws.rowId 0) := fun mem => new (inv.drawn _ mem)
    refine ⟨?_, ?_, inv.events, ?_, ?_⟩
    · exact (List.perm_middle.nodup_iff).2 (List.nodup_cons.2 ⟨fresh, inv.ids⟩)
    · intro id mem
      rcases List.mem_cons.1 (List.perm_middle.mem_iff.1 mem) with rfl | mem
      · exact List.mem_append_right _ (List.mem_singleton_self _)
      · exact List.mem_append_left _ (inv.drawn id mem)
    · exact List.pairwise_cons.2 ⟨fun o _ => .of_none rfl, inv.apart⟩
    · intro o mem
      rcases List.mem_cons.1 mem with rfl | mem
      · exact ⟨fun begun => absurd rfl begun, by rintro _ ⟨⟩⟩
      · exact inv.valid o mem
  | conflict perm begun encodable _ _ =>
    refine (inv.perm perm).advance ⟨fun _ => ⟨_, encodable⟩, by rintro _ ⟨⟩⟩ fun o _ => .of_none rfl
  | @insert t rest occurredAt perm begun encodable waits new account =>
    refine (inv.perm perm).advance ⟨fun _ => ⟨_, encodable⟩, ?_⟩ fun o mem => ⟨?_, ?_⟩
    · rintro _ ⟨⟩
      rw [← Bool.not_eq_true, stored_eq, not_not] at new
      exact ⟨new, account, occurredAt, encodable, rfl⟩
    · rintro tenantId key ⟨⟨rfl, rfl, _⟩, inserting⟩
      exact waits o mem inserting
    · rintro rowId ⟨⟨_, ⟨⟩, _⟩, _⟩
  | @bump t rest row perm conflicted one waits =>
    have valid := (inv.perm perm).valid t List.mem_cons_self
    refine (inv.perm perm).advance ⟨fun _ => valid.encodable (by simp [conflicted]), ?_⟩
      fun o mem => ⟨?_, ?_⟩
    · rintro _ ⟨⟩
      exact ⟨row, rfl, one⟩
    · rintro tenantId key ⟨⟨_, _, _, ⟨⟩⟩, _⟩
    · rintro rowId ⟨⟨_, ⟨⟩, rfl⟩, locks⟩
      exact waits o mem locks
  | @enqueue t rest version perm wrote =>
    have valid := (inv.perm perm).valid t List.mem_cons_self
    have apart := (List.pairwise_cons.1 (inv.perm perm).apart).1
    have same : (t.withStage (.enqueued version)).stage.version = t.stage.version := by
      rw [wrote]
      rfl
    refine (inv.perm perm).advance ⟨fun _ => valid.encodable (by simp [wrote]), ?_⟩ fun o mem => ⟨?_, ?_⟩
    · intro held holds
      exact (valid.pending held (same ▸ holds)).withStage
    · rintro tenantId key ⟨⟨tenant, own, row, holds⟩, inserting⟩
      exact (apart o mem).1 tenantId key ⟨⟨tenant, own, row, same ▸ holds⟩, inserting⟩
    · rintro rowId ⟨⟨existing, holds, id⟩, locks⟩
      exact (apart o mem).2 rowId ⟨⟨existing, same ▸ holds, id⟩, locks⟩
  | commit perm holds => exact (inv.perm perm).commit holds
  | abort perm => exact (inv.perm perm).leave
  | reconcile free => exact inv.reconcile free
  | relay =>
    refine ⟨inv.ids, inv.drawn, fun e mem source => ?_, inv.apart, fun o mem =>
      ⟨(inv.valid o mem).encodable, fun held other => ?_⟩⟩
    · rcases mem_updateWhere.1 mem with ⟨e0, mem0, _, rfl⟩ | ⟨mem0, _⟩
      · exact inv.events e0 mem0 source
      · exact inv.events e mem0 source
    · exact ((inv.valid o mem).pending held other).congr rfl rfl

/-- The invariant holds in every reachable state. -/
lemma Inv.reached {tr : List (Sys × Event)} (run : Run Step (.initial accounts) tr u) : Inv u := by
  refine run.invariant ?_ fun inv st => st.inv inv
  exact ⟨List.nodup_nil, by rintro _ ⟨⟩, by rintro _ ⟨⟩, .nil, by rintro _ ⟨⟩⟩

/-- A commit leaves the tables as an atomic call would. -/
lemma Step.commit_atomic {outcome : IngestOutcome} (inv : Inv s) (st : Step s (.commit t outcome) u) :
    ingestGateway s.store t.submission.tenantId t.submission.payload t.submission.idempotencyKey
      t.submission.rawBody t.draws = .ok (u.store, outcome) := by
  cases st with
  | @commit _ _ version perm holds =>
    have valid := (inv.perm perm).valid t List.mem_cons_self
    obtain ⟨occurredAt, encodable⟩ := valid.encodable (by simp [holds])
    exact committed_atomic inv.rowIds (valid.pending version (by rw [holds]; rfl)) encodable

end Invariant

end Concurrency
end LedgerLoop
