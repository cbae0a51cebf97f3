import LedgerLoop.Library.Run
import LedgerLoop.Services.Pages

/-!
# Operators resolving exceptions

`resolve_exception` of any number of requests under READ COMMITTED, one statement a step. The conditional
`UPDATE` finds the row in the snapshot it starts with, waits for the row's lock, and evaluates its `WHERE`
again on the version it then finds (`start`, `lock`); the row it updates is seen by others from the commit
on. The read that tells 404 from 409, and the one that answers 200, are statements of their own.

A request that raises or whose connection is lost is `failed`: before its commit it leaves no trace.
-/

set_option autoImplicit false

namespace LedgerLoop.Queries
open LedgerLoop.Library

/-- A request to close an exception; `now` is the `now()` of its transaction. -/
structure ResolveRequest where
  tenantId : ℕ
  exceptionId : ℕ
  notes : String
  now : Datetime

/-- Where a request is in `resolve_exception`. -/
inductive Phase where
  | ready
  /-- The `UPDATE` has found an open row and waits for its lock. -/
  | waiting
  /-- The row is updated and locked. -/
  | holding (closed : Exception_)
  /-- The `UPDATE` has updated nothing. -/
  | missed
  /-- The transaction has committed; the read of the answer is outstanding. -/
  | committed
  | answered (answer : ResolveAnswer)
  | failed
deriving DecidableEq, Repr

/-- The update of the request is committed. -/
def Phase.applied : Phase → Bool
  | .committed | .answered (.ok _) => true
  | _ => false

/-- The committed tables, who holds the lock of which exception, and the requests. -/
structure Desk where
  store : Store
  locks : ℕ → Option ℕ := fun _ => none
  phase : ℕ → Phase := fun _ => .ready

inductive DeskEvent where
  | start (i : ℕ)
  | lock (i : ℕ)
  | commit (i : ℕ)
  | answer (i : ℕ)
  | abort (i : ℕ)
deriving DecidableEq, Repr

/-- The request an event is a statement of. -/
def DeskEvent.request : DeskEvent → ℕ
  | .start i | .lock i | .commit i | .answer i | .abort i => i

namespace Desk

/-- Request `i` goes on to `phase`. -/
def goto (d : Desk) (i : ℕ) (phase : Phase) : Desk :=
  { d with phase := Function.update d.phase i phase }

/-- The lock of an exception is taken or given back. -/
def setLock (d : Desk) (exceptionId : ℕ) (holder : Option ℕ) : Desk :=
  { d with locks := Function.update d.locks exceptionId holder }

/-- A row version becomes visible. -/
def publish (d : Desk) (closed : Exception_) : Desk :=
  let exceptions := updateWhere (fun e => e.id == closed.id) (fun _ => closed) d.store.exceptions
  { d with store := { d.store with exceptions := exceptions } }

end Desk

/-- What the read after an `UPDATE` that updated nothing is answered with. -/
def missAnswer (s : Store) (r : ResolveRequest) : ResolveAnswer :=
  if (fetchException s r.tenantId r.exceptionId).isSome then .conflict else .notFound

/-- What a committed request is answered with. -/
def committedAnswer (s : Store) (r : ResolveRequest) : Phase :=
  match fetchException s r.tenantId r.exceptionId with
  | some (e, result) => .answered (.ok (exceptionOut s e result))
  -- `assert found is not None`
  | none => .failed

open Desk in
/-- One statement of a request. -/
inductive DeskStep (req : ℕ → ResolveRequest) : Desk → DeskEvent → Desk → Prop where
  | start {d : Desk} {i} :
    d.phase i = .ready →
    DeskStep req d (.start i) (d.goto i
      (if d.store.exceptions.any (isOpen (req i).tenantId (req i).exceptionId) then .waiting
        else .missed))
  | lock {d : Desk} {i store closed} :
    d.phase i = .waiting →
    d.locks (req i).exceptionId = none →
    closeException d.store (req i).tenantId (req i).exceptionId (req i).notes (req i).now =
      .ok (store, some closed) →
    DeskStep req d (.lock i) ((d.setLock (req i).exceptionId (some i)).goto i (.holding closed))
  | lockMissed {d : Desk} {i store} :
    d.phase i = .waiting →
    d.locks (req i).exceptionId = none →
    closeException d.store (req i).tenantId (req i).exceptionId (req i).notes (req i).now =
      .ok (store, none) →
    DeskStep req d (.lock i) (d.goto i .missed)
  | lockRefused {d : Desk} {i error} :
    d.phase i = .waiting →
    d.locks (req i).exceptionId = none →
    closeException d.store (req i).tenantId (req i).exceptionId (req i).notes (req i).now =
      .error error →
    DeskStep req d (.lock i) (d.goto i .failed)
  | commit {d : Desk} {i closed} :
    d.phase i = .holding closed →
    DeskStep req d (.commit i)
      (((d.publish closed).setLock (req i).exceptionId none).goto i .committed)
  | answerMissed {d : Desk} {i} :
    d.phase i = .missed →
    DeskStep req d (.answer i) (d.goto i (.answered (missAnswer d.store (req i))))
  | answerCommitted {d : Desk} {i} :
    d.phase i = .committed →
    DeskStep req d (.answer i) (d.goto i (committedAnswer d.store (req i)))
  | abort {d : Desk} {i} :
    (∀ closed, d.phase i ≠ .holding closed) →
    (∀ answer, d.phase i ≠ .answered answer) →
    DeskStep req d (.abort i) (d.goto i .failed)
  | rollback {d : Desk} {i closed} :
    d.phase i = .holding closed →
    DeskStep req d (.abort i) ((d.setLock (req i).exceptionId none).goto i .failed)

section Reads
variable {s : Store} {r : ResolveRequest} {e : Exception_} {result : ReconciliationResult}

/-- The exception a request names is its tenant's. -/
def ResolveRequest.Names (r : ResolveRequest) (e : Exception_) : Prop :=
  e.id = r.exceptionId ∧ e.tenantId = r.tenantId

/-- The tenant of a request has the exception it names. -/
def Owned (s : Store) (r : ResolveRequest) : Prop := ∃ e ∈ s.exceptions, r.Names e

/-- The exception is closed, with the instant and the notes of the request. -/
def ClosedBy (s : Store) (r : ResolveRequest) : Prop :=
  ∃ e ∈ s.exceptions, r.Names e ∧ e.closedAt = some r.now ∧ e.resolutionNotes = some r.notes

/-- A read of an exception finds the one that is named. -/
lemma fetchException_some (found : fetchException s r.tenantId r.exceptionId = some (e, result)) :
    e ∈ s.exceptions ∧ r.Names e := by
  have mem := List.mem_of_mem_head? (Option.mem_def.2 found)
  obtain ⟨e', memE, joined⟩ := List.mem_filterMap.1 mem
  obtain ⟨result', _, eq⟩ := Option.map_eq_some_iff.1 joined
  obtain ⟨rfl, _⟩ := Prod.mk.inj eq
  obtain ⟨here, names⟩ := List.mem_filter.1 memE
  simp only [Bool.and_eq_true, beq_iff_eq] at names
  exact ⟨here, names.2, names.1⟩

lemma isSome_fetchException (keyed : Keyed s) :
    (fetchException s r.tenantId r.exceptionId).isSome = true ↔ Owned s r := by
  constructor
  · intro found
    obtain ⟨⟨e, result⟩, eq⟩ := Option.isSome_iff_exists.1 found
    obtain ⟨mem, names⟩ := fetchException_some eq
    exact ⟨e, mem, names⟩
  · rintro ⟨e, mem, names⟩
    obtain ⟨result, joined⟩ := keyed.exists_withResult mem
    have listed : e ∈ s.exceptions.filter fun e =>
        e.tenantId == r.tenantId && e.id == r.exceptionId :=
      List.mem_filter.2 ⟨mem, by simp [names.1, names.2]⟩
    rw [fetchException, List.isSome_head?]
    exact List.ne_nil_of_mem (List.mem_filterMap.2 ⟨e, listed, joined⟩)

/-- A closing that takes closes an open row of the request. -/
lemma closed_of_closeException {store : Store} {closed : Exception_}
    (ok : closeException s r.tenantId r.exceptionId r.notes r.now = .ok (store, some closed)) :
    ∃ e ∈ s.exceptions, r.Names e ∧ e.closedAt = none ∧ closed = close r.now r.notes e := by
  have head := (closeException_ok ok).2
  have mem := List.mem_of_mem_head? (Option.mem_def.2 head.symm)
  obtain ⟨e, memE, rfl⟩ := List.mem_map.1 mem
  obtain ⟨here, isOpen_⟩ := List.mem_filter.1 memE
  simp only [isOpen, Bool.and_eq_true, beq_iff_eq, Option.isNone_iff_eq_none] at isOpen_
  exact ⟨e, here, ⟨isOpen_.1.2, isOpen_.1.1⟩, isOpen_.2, rfl⟩

/-- An `UPDATE` that selects no row updates none. -/
lemma closeException_none (missing : ∀ e ∈ s.exceptions, isOpen r.tenantId r.exceptionId e = false) :
    ∃ store, closeException s r.tenantId r.exceptionId r.notes r.now = .ok (store, none) := by
  have none : s.exceptions.filter (isOpen r.tenantId r.exceptionId) = [] :=
    List.filter_eq_nil_iff.2 fun e mem => Bool.not_eq_true _ ▸ missing e mem
  simp [closeException, none]

/-- The `UPDATE` of a request selects the open row it names. -/
lemma isOpen_of_names (names : r.Names e) (unclosed : e.closedAt = none) :
    isOpen r.tenantId r.exceptionId e = true := by
  simp [isOpen, names.1, names.2, unclosed]

/-- An exception that a request closed is not open. -/
lemma ClosedBy.ne (closed : ClosedBy s r) (keyed : Keyed s) (mem : e ∈ s.exceptions)
    (isOpen : e.closedAt = none) : e.id ≠ r.exceptionId := by
  intro same
  obtain ⟨e', mem', names, at_, _⟩ := closed
  obtain rfl := eq_of_key keyed.exceptionIds mem' mem (names.1.trans same.symm)
  cases at_.symm.trans isOpen

/-- Who has which exception is a matter of two columns. -/
lemma owned_iff : Owned s r ↔ (r.exceptionId, r.tenantId) ∈ s.exceptions.map fun e => (e.id, e.tenantId) := by
  simp [Owned, ResolveRequest.Names]

end Reads

/-- What the phase of request `i` says of the tables and the locks. -/
def Sound (s : Store) (locks : ℕ → Option ℕ) (i : ℕ) (r : ResolveRequest) : Phase → Prop
  | .ready | .missed | .failed => True
  | .waiting => Owned s r
  | .holding closed => locks r.exceptionId = some i ∧
    ∃ e ∈ s.exceptions, r.Names e ∧ e.closedAt = none ∧ closed = close r.now r.notes e
  | .committed => ClosedBy s r
  | .answered (.ok out) => ClosedBy s r ∧
    out.id = r.exceptionId ∧ out.closedAt = some r.now ∧ out.resolutionNotes = some r.notes
  | .answered .conflict => Owned s r
  | .answered .notFound => ¬Owned s r

/-- The invariant of the requests. -/
structure Desk.Inv (req : ℕ → ResolveRequest) (start : Store) (d : Desk) : Prop where
  keyed : Keyed d.store
  columns : (d.store.exceptions.map fun e => (e.id, e.tenantId)) =
    start.exceptions.map fun e => (e.id, e.tenantId)
  sound : ∀ i, Sound d.store d.locks i (req i) (d.phase i)
  held : ∀ x i, d.locks x = some i → (req i).exceptionId = x ∧ ∃ closed, d.phase i = .holding closed

section Sound
variable {s : Store} {locks : ℕ → Option ℕ} {i j x : ℕ} {r r' : ResolveRequest} {phase : Phase}
  {e : Exception_}

/-- A lock that another request has does not matter. -/
lemma Sound.setLock {holder : Option ℕ} (sound : Sound s locks i r phase) (other : locks x ≠ some i) :
    Sound s (Function.update locks x holder) i r phase := by
  cases phase with
  | holding closed =>
    obtain ⟨held, row⟩ := sound
    have ne : r.exceptionId ≠ x := by
      rintro rfl
      exact other held
    exact ⟨by rwa [Function.update_of_ne ne], row⟩
  | answered a => cases a <;> exact sound
  | ready | waiting | missed | committed | failed => exact sound

lemma Sound.closedBy (sound : Sound s locks i r phase) (applied : phase.applied = true) :
    ClosedBy s r := by
  cases phase with
  | committed => exact sound
  | answered a => cases a with
    | ok out => exact sound.1
    | notFound | conflict => cases applied
  | ready | waiting | holding | missed | failed => cases applied

/-- A commit publishes the row that was locked. -/
lemma publish_exceptions {d : Desk} {now : Datetime} {notes : String} (keyed : Keyed d.store)
    (mem : e ∈ d.store.exceptions) :
    (d.publish (close now notes e)).store.exceptions =
      updateWhere (fun e' => e'.id == e.id) (close now notes) d.store.exceptions := by
  refine List.map_congr_left fun e' mem' => ?_
  by_cases same : e'.id = e.id
  · obtain rfl := eq_of_key keyed.exceptionIds mem' mem same
    rfl
  · simp [same, show (close now notes e).id = e.id from rfl]

/-- What another request has done or found out stays so when a row that was open is closed. -/
lemma Sound.update {s' : Store} {now : Datetime} {notes : String} (sound : Sound s locks i r phase)
    (keyed : Keyed s) (mem : e ∈ s.exceptions) (isOpen : e.closedAt = none) (other : locks e.id ≠ some i)
    (eq : s'.exceptions = updateWhere (fun e' => e'.id == e.id) (close now notes) s.exceptions) :
    Sound s' locks i r phase := by
  have columns : (s'.exceptions.map fun e => (e.id, e.tenantId)) =
      s.exceptions.map fun e => (e.id, e.tenantId) := by
    rw [eq]
    exact map_updateWhere _ fun _ => rfl
  have owned : Owned s' r ↔ Owned s r := by rw [owned_iff, owned_iff, columns]
  have kept {e' : Exception_} (mem' : e' ∈ s.exceptions) (ne : e'.id ≠ e.id) : e' ∈ s'.exceptions := by
    rw [eq]
    exact mem_updateWhere.2 (.inr ⟨mem', by simpa using ne⟩)
  have closed (closed : ClosedBy s r) : ClosedBy s' r := by
    have ne := closed.ne keyed mem isOpen
    obtain ⟨e', mem', names, rest⟩ := closed
    exact ⟨e', kept mem' fun same => ne (same.symm.trans names.1), names, rest⟩
  cases phase with
  | ready | missed | failed => trivial
  | waiting => exact owned.2 sound
  | holding version =>
    obtain ⟨held, e', mem', names, rest⟩ := sound
    refine ⟨held, e', kept mem' fun same => other ?_, names, rest⟩
    rwa [← same, names.1]
  | committed => exact closed sound
  | answered a => cases a with
    | ok out => exact ⟨closed sound.1, sound.2⟩
    | conflict => exact owned.2 sound
    | notFound => exact fun own => sound (owned.1 own)

end Sound

/-- All that is left for request `i` is to be answered `answer`: unless it fails, its next statement
    updates nothing or is that answer. -/
structure Desk.Left (req : ℕ → ResolveRequest) (d : Desk) (i : ℕ) (answer : ResolveAnswer) : Prop where
  answered : ∀ a, d.phase i = .answered a → a = answer
  enabled : (∀ a, d.phase i ≠ .answered a) → d.phase i ≠ .failed →
    ∃ event v, event.request = i ∧ event ≠ .abort i ∧ DeskStep req d event v
  step : ∀ {event v}, event.request = i → DeskStep req d event v → v.store = d.store ∧
    (event = .abort i ∨ (d.phase i ≠ .missed ∧ v.phase i = .missed) ∨ v.phase i = .answered answer)

section Steps
variable {req : ℕ → ResolveRequest} {start : Store} {d u : Desk} {event : DeskEvent} {i : ℕ}
  {phase : Phase}

/-- One request goes on, and what the others have found out stays so. -/
lemma Desk.Inv.move (inv : d.Inv req start) (keyed : Keyed u.store)
    (columns : (u.store.exceptions.map fun e => (e.id, e.tenantId)) =
      d.store.exceptions.map fun e => (e.id, e.tenantId))
    (phases : ∀ j, j ≠ i → u.phase j = d.phase j)
    (others : ∀ j, j ≠ i → Sound u.store u.locks j (req j) (d.phase j))
    (own : Sound u.store u.locks i (req i) (u.phase i))
    (locks : ∀ x j, j ≠ i → u.locks x = some j → d.locks x = some j)
    (lock : ∀ x, u.locks x = some i → (req i).exceptionId = x ∧ ∃ closed, u.phase i = .holding closed) :
    u.Inv req start where
  keyed := keyed
  columns := columns.trans inv.columns
  sound j := by
    by_cases same : j = i
    · exact same ▸ own
    · exact phases j same ▸ others j same
  held x j has := by
    by_cases same : j = i
    · subst same
      exact lock x has
    · exact phases j same ▸ inv.held x j (locks x j same has)

/-- A request that holds no lock goes on without touching tables or locks. -/
lemma Desk.Inv.goto (inv : d.Inv req start) (sound : Sound d.store d.locks i (req i) phase)
    (unheld : ∀ closed, d.phase i ≠ .holding closed) : (d.goto i phase).Inv req start := by
  have here : (d.goto i phase).phase i = phase := Function.update_self ..
  refine inv.move inv.keyed rfl (fun j ne => Function.update_of_ne ne _ _) (fun j _ => inv.sound j)
    (by rwa [here]) (fun x j _ has => has) fun x has => ?_
  obtain ⟨_, closed, holding⟩ := inv.held x i has
  exact absurd holding (unheld closed)

/-- A request takes the lock of its exception. -/
lemma Desk.Inv.take {closed : Exception_} (inv : d.Inv req start)
    (free : d.locks (req i).exceptionId = none) (waiting : d.phase i = .waiting)
    (sound : Sound d.store (Function.update d.locks (req i).exceptionId (some i)) i (req i)
      (.holding closed)) :
    ((d.setLock (req i).exceptionId (some i)).goto i (.holding closed)).Inv req start := by
  have here : ((d.setLock (req i).exceptionId (some i)).goto i (.holding closed)).phase i =
      .holding closed := Function.update_self ..
  refine inv.move inv.keyed rfl (fun j ne => Function.update_of_ne ne _ _)
    (fun j _ => (inv.sound j).setLock (by simp [free])) (by rwa [here]) (fun x j ne has => ?_)
    fun x has => ?_
  · by_cases same : x = (req i).exceptionId
    · subst same
      have mine : Function.update d.locks (req i).exceptionId (some i) (req i).exceptionId = some j := has
      rw [Function.update_self] at mine
      exact absurd (Option.some.inj mine).symm ne
    · exact (Function.update_of_ne same _ _).symm.trans has
  · by_cases same : x = (req i).exceptionId
    · exact ⟨same.symm, closed, here⟩
    · obtain ⟨_, closed', holding⟩ := inv.held x i ((Function.update_of_ne same _ _).symm.trans has)
      cases waiting.symm.trans holding

/-- A request gives its lock back. -/
lemma Desk.Inv.release {store : Store} (inv : d.Inv req start) (keyed : Keyed store)
    (columns : (store.exceptions.map fun e => (e.id, e.tenantId)) =
      d.store.exceptions.map fun e => (e.id, e.tenantId))
    (others : ∀ j, j ≠ i → Sound store d.locks j (req j) (d.phase j))
    (locked : d.locks (req i).exceptionId = some i)
    (sound : Sound store (Function.update d.locks (req i).exceptionId none) i (req i) phase) :
    ((({ d with store } : Desk).setLock (req i).exceptionId none).goto i phase).Inv req start := by
  have here : ((({ d with store } : Desk).setLock (req i).exceptionId none).goto i phase).phase i =
      phase := Function.update_self ..
  have kept (x j : ℕ) (has : Function.update d.locks (req i).exceptionId none x = some j) :
      x ≠ (req i).exceptionId ∧ d.locks x = some j := by
    by_cases same : x = (req i).exceptionId
    · rw [same, Function.update_self] at has
      cases has
    · exact ⟨same, by rwa [Function.update_of_ne same] at has⟩
  refine inv.move keyed columns (fun j ne => Function.update_of_ne ne _ _) (fun j ne => ?_)
    (by rwa [here]) (fun x j _ has => (kept x j has).2) fun x has => ?_
  · refine (others j ne).setLock fun other => ?_
    exact ne (Option.some.inj (other.symm.trans locked))
  · obtain ⟨ne, held⟩ := kept x i has
    exact absurd (inv.held x i held).1.symm ne

/-- What a committed request is answered with is its own resolution. -/
lemma sound_committedAnswer {s : Store} {locks : ℕ → Option ℕ} {r : ResolveRequest} (keyed : Keyed s)
    (closed : ClosedBy s r) : Sound s locks i r (committedAnswer s r) := by
  have own : Owned s r := by
    obtain ⟨e, mem, names, _⟩ := closed
    exact ⟨e, mem, names⟩
  obtain ⟨⟨e, result⟩, found⟩ := Option.isSome_iff_exists.1 ((isSome_fetchException keyed).2 own)
  obtain ⟨mem, names⟩ := fetchException_some found
  obtain ⟨e', mem', names', at_, notes⟩ := closed
  obtain rfl := eq_of_key keyed.exceptionIds mem' mem (names'.1.trans names.1.symm)
  rw [committedAnswer, found]
  exact ⟨⟨e', mem', names', at_, notes⟩, names.1, at_, notes⟩

/-- What the read after an `UPDATE` of no row is answered with tells whose exception it is. -/
lemma sound_missAnswer {s : Store} {locks : ℕ → Option ℕ} {r : ResolveRequest} (keyed : Keyed s) :
    Sound s locks i r (.answered (missAnswer s r)) := by
  have own := @isSome_fetchException s r keyed
  unfold missAnswer
  split_ifs with found
  · exact own.1 found
  · exact fun owned => found (own.2 owned)

/-- A commit closes an exception that nobody has closed. -/
lemma Desk.Inv.commit {e : Exception_} (inv : d.Inv req start) (mem : e ∈ d.store.exceptions)
    (names : (req i).Names e) (isOpen : e.closedAt = none)
    (locked : d.locks (req i).exceptionId = some i) :
    (((d.publish (close (req i).now (req i).notes e)).setLock (req i).exceptionId none).goto i
      .committed).Inv req start := by
  have eq := @publish_exceptions e d (req i).now (req i).notes inv.keyed mem
  have other {j : ℕ} (ne : j ≠ i) : d.locks (req i).exceptionId ≠ some j := fun held =>
    ne (Option.some.inj (held.symm.trans locked))
  have keep {β : Type} (g : Exception_ → β) (same : ∀ e, g (close (req i).now (req i).notes e) = g e) :
      (d.publish (close (req i).now (req i).notes e)).store.exceptions.map g =
        d.store.exceptions.map g := by
    rw [eq]
    exact map_updateWhere _ same
  refine inv.release ?_ (keep (fun e => (e.id, e.tenantId)) fun _ => rfl)
    (fun j ne => (inv.sound j).update inv.keyed mem isOpen (names.1 ▸ other ne) eq) locked ?_
  · refine ⟨inv.keyed.resultIds, ?_, fun l x memX => ?_, fun e' mem' => ?_⟩
    · exact (keep (·.id) fun _ => rfl) ▸ inv.keyed.exceptionIds
    · cases l with
      | transactions status => exact inv.keyed.bigint (.transactions status) x memX
      | exceptions status =>
        have same := keep (·.id) fun _ => rfl
        refine inv.keyed.bigint (.exceptions status) x ?_
        rwa [Listing.table, ← same]
    · have listed : e'.reconciliationResultId ∈
          d.store.exceptions.map (·.reconciliationResultId) := by
        rw [← keep (·.reconciliationResultId) fun _ => rfl]
        exact List.mem_map_of_mem mem'
      obtain ⟨e0, mem0, refers⟩ := List.mem_map.1 listed
      obtain ⟨r, memR, idEq⟩ := inv.keyed.references e0 mem0
      exact ⟨r, memR, idEq.trans refers⟩
  · have row : close (req i).now (req i).notes e ∈
        (d.publish (close (req i).now (req i).notes e)).store.exceptions := by
      rw [eq]
      exact mem_updateWhere.2 (.inl ⟨e, mem, by simp, rfl⟩)
    exact ⟨_, row, names, rfl, rfl⟩

/-- Every statement keeps the invariant. -/
lemma DeskStep.inv (inv : d.Inv req start) (st : DeskStep req d event u) : u.Inv req start := by
  cases st with
  | start ready =>
    refine inv.goto ?_ (by simp [ready])
    split_ifs with found
    · obtain ⟨e, mem, selected⟩ := List.any_eq_true.1 found
      simp only [isOpen, Bool.and_eq_true, beq_iff_eq] at selected
      exact ⟨e, mem, selected.1.2, selected.1.1⟩
    · trivial
  | lockMissed waiting | lockRefused waiting => exact inv.goto trivial (by simp [waiting])
  | abort unheld => exact inv.goto trivial unheld
  | lock waiting free ok =>
    obtain ⟨e, mem, names, isOpen, rfl⟩ := closed_of_closeException ok
    exact inv.take free waiting ⟨Function.update_self .., e, mem, names, isOpen, rfl⟩
  | @commit i closed holding =>
    have own := inv.sound i
    rw [holding] at own
    obtain ⟨locked, e, mem, names, isOpen, rfl⟩ := own
    exact inv.commit mem names isOpen locked
  | answerMissed missed => exact inv.goto (sound_missAnswer inv.keyed) (by simp [missed])
  | @answerCommitted i committed =>
    have closed := inv.sound i
    rw [committed] at closed
    exact inv.goto (sound_committedAnswer inv.keyed closed) (by simp [committed])
  | @rollback i closed holding =>
    have own := inv.sound i
    rw [holding] at own
    exact inv.release inv.keyed rfl (fun j _ => inv.sound j) own.1 trivial

/-- The update of a request is committed by its commit. -/
lemma DeskStep.applied (st : DeskStep req d event u) (applied : (u.phase i).applied = true) :
    (d.phase i).applied = true ∨ event = .commit i := by
  have others {k : ℕ} {next : Phase} (eq : u.phase = Function.update d.phase k next)
      (new : next.applied = true → (d.phase k).applied = true ∨ event = .commit k) :
      (d.phase i).applied = true ∨ event = .commit i := by
    by_cases same : i = k
    · subst same
      exact new (by rwa [eq, Function.update_self] at applied)
    · exact .inl (by rwa [eq, Function.update_of_ne same] at applied)
  cases st with
  | start => exact others rfl fun now => by split_ifs at now <;> cases now
  | lock | lockMissed | lockRefused | abort | rollback => exact others rfl nofun
  | commit => exact others rfl fun _ => .inr rfl
  | answerMissed =>
    refine others rfl fun now => ?_
    unfold missAnswer at now
    split_ifs at now <;> cases now
  | answerCommitted committed => exact others rfl fun _ => .inl (by rw [committed]; rfl)

/-- Whose update is committed has committed. -/
lemma commit_of_applied {s : Desk} {tr : List (Desk × DeskEvent)} (run : Run (DeskStep req) s tr u)
    (unapplied : (s.phase i).applied = false) (applied : (u.phase i).applied = true) :
    ∃ t, (t, .commit i) ∈ tr := by
  induction run with
  | nil => cases unapplied.symm.trans applied
  | @snoc tr t event u run st ih =>
    rcases st.applied applied with before | rfl
    · obtain ⟨t', mem⟩ := ih before
      exact ⟨t', List.mem_append_left _ mem⟩
    · exact ⟨t, by simp⟩

/-- What a request has closed stays as it closed it. -/
lemma DeskStep.closedBy {r : ResolveRequest} (inv : d.Inv req start) (st : DeskStep req d event u)
    (closed : ClosedBy d.store r) : ClosedBy u.store r := by
  cases st with
  | @commit i version holding =>
    have own := inv.sound i
    rw [holding] at own
    obtain ⟨_, e, mem, _, isOpen, rfl⟩ := own
    have ne := closed.ne inv.keyed mem isOpen
    obtain ⟨e', mem', names, rest⟩ := closed
    refine ⟨e', ?_, names, rest⟩
    change e' ∈ (d.publish (close (req i).now (req i).notes e)).store.exceptions
    rw [publish_exceptions inv.keyed mem]
    exact mem_updateWhere.2 (.inr ⟨mem', by simpa using fun same => ne (same.symm.trans names.1)⟩)
  | start | lock | lockMissed | lockRefused | answerMissed | answerCommitted | abort | rollback =>
    exact closed

/-- A request that finds no open row of its tenant updates nothing, and the next read answers it. -/
lemma DeskStep.refused (st : DeskStep req d event u)
    (missing : ∀ e ∈ d.store.exceptions,
      isOpen (req event.request).tenantId (req event.request).exceptionId e = false)
    (unheld : ∀ closed, d.phase event.request ≠ .holding closed)
    (uncommitted : d.phase event.request ≠ .committed) :
    u.store = d.store ∧ (event = .abort event.request ∨
      (d.phase event.request ≠ .missed ∧ u.phase event.request = .missed) ∨
      u.phase event.request = .answered (missAnswer d.store (req event.request))) := by
  have here (k : ℕ) (next : Phase) : (d.goto k next).phase k = next := Function.update_self ..
  cases st with
  | @start k ready =>
    have none : d.store.exceptions.any (isOpen (req k).tenantId (req k).exceptionId) = false :=
      List.any_eq_false.2 fun e mem => Bool.not_eq_true _ ▸ missing e mem
    refine ⟨rfl, .inr (.inl ⟨by simp [DeskEvent.request, ready], (here k _).trans ?_⟩)⟩
    simp [none]
  | lock _ _ ok =>
    obtain ⟨e, mem, names, unclosed, _⟩ := closed_of_closeException ok
    cases (missing e mem).symm.trans (isOpen_of_names names unclosed)
  | lockMissed waiting =>
    exact ⟨rfl, .inr (.inl ⟨by simp [DeskEvent.request, waiting], here _ _⟩)⟩
  | lockRefused _ _ raised =>
    obtain ⟨store, ok⟩ := closeException_none missing
    cases ok.symm.trans raised
  | commit holding | rollback holding => exact absurd holding (unheld _)
  | answerMissed => exact ⟨rfl, .inr (.inr (here _ _))⟩
  | answerCommitted committed => exact absurd committed uncommitted
  | abort => exact ⟨rfl, .inl rfl⟩

/-- After an exception is closed nobody commits a resolution of it. -/
lemma Desk.Inv.not_commit {r : ResolveRequest} {tr : List (Desk × DeskEvent)} {t : Desk}
    (inv : d.Inv req start) (closed : ClosedBy d.store r) (run : Run (DeskStep req) d tr u)
    (same : (req i).exceptionId = r.exceptionId) : (t, .commit i) ∉ tr := by
  intro mem
  obtain ⟨_, _, v, _, run0, st, _⟩ := run.split mem
  obtain ⟨invT, closedT⟩ := run0.invariant (I := fun d => d.Inv req start ∧ ClosedBy d.store r)
    ⟨inv, closed⟩ fun both st => ⟨st.inv both.1, st.closedBy both.1 both.2⟩
  cases st with
  | commit holding =>
    have own := invT.sound i
    rw [holding] at own
    obtain ⟨_, e, memE, names, isOpen, _⟩ := own
    exact closedT.ne invT.keyed memE isOpen (names.1.trans same)

/-- What a request commits stays, and nobody else commits a resolution of that exception. -/
lemma Desk.Inv.of_commit {tr : List (Desk × DeskEvent)} {t : Desk} (inv : d.Inv req start)
    (run : Run (DeskStep req) d tr u) (mem : (t, .commit i) ∈ tr) : ClosedBy u.store (req i) ∧
      ∀ j, j ≠ i → (req j).exceptionId = (req i).exceptionId → ∀ t', (t', .commit j) ∉ tr := by
  have after {k : ℕ} {t' v : Desk} (inv' : t'.Inv req start) (st : DeskStep req t' (.commit k) v) :
      v.Inv req start ∧ ClosedBy v.store (req k) := by
    have invV := st.inv inv'
    have sound := invV.sound k
    cases st with
    | commit => exact ⟨invV, sound.closedBy (by simp [Desk.goto, Phase.applied])⟩
  obtain ⟨tr0, tr1, v, rfl, run0, st, run1⟩ := run.split mem
  have invT := run0.invariant (I := fun d => d.Inv req start) inv fun inv st => st.inv inv
  obtain ⟨invV, closed⟩ := after invT st
  have both := run1.invariant (I := fun d => d.Inv req start ∧ ClosedBy d.store (req i))
    ⟨invV, closed⟩ fun both st => ⟨st.inv both.1, st.closedBy both.1 both.2⟩
  refine ⟨both.2, fun j ne same t' mem' => ?_⟩
  rcases List.mem_append.1 mem' with early | late
  · obtain ⟨_, tr2, v', eq, run2, st', run3⟩ := run0.split early
    have inv' := run2.invariant (I := fun d => d.Inv req start) inv fun inv st => st.inv inv
    obtain ⟨invV', closed'⟩ := after inv' st'
    exact invV'.not_commit (t := t) closed' (run3.snoc st) same.symm (by simp)
  · rcases List.mem_cons.1 late with here | late
    · exact ne (DeskEvent.commit.inj (Prod.mk.inj here).2)
    · exact invV.not_commit closed run1 same late

/-- A request that can close nothing is on its way to the answer of a miss. -/
lemma Desk.Inv.left (inv : d.Inv req start) {answer : ResolveAnswer}
    (missing : ∀ e ∈ d.store.exceptions, isOpen (req i).tenantId (req i).exceptionId e = false)
    (unapplied : (d.phase i).applied = false) (miss : missAnswer d.store (req i) = answer) :
    d.Left req i answer where
  answered a eq := by
    have own := inv.sound i
    rw [eq] at own unapplied
    have owned := @isSome_fetchException d.store (req i) inv.keyed
    rw [← miss, missAnswer]
    cases a with
    | ok out => cases unapplied
    | conflict => rw [if_pos (owned.2 own)]
    | notFound => rw [if_neg fun found => own (owned.1 found)]
  enabled going alive := by
    have own := inv.sound i
    cases eq : d.phase i with
    | ready => exact ⟨.start i, _, rfl, nofun, .start eq⟩
    | waiting =>
      have free : d.locks (req i).exceptionId = none := by
        by_contra taken
        obtain ⟨j, held⟩ := Option.ne_none_iff_exists'.1 taken
        obtain ⟨same, closed, holding⟩ := inv.held _ _ held
        have other := inv.sound j
        rw [holding] at other
        rw [eq] at own
        obtain ⟨_, e, mem, names, unclosed, _⟩ := other
        obtain ⟨e', mem', names'⟩ := own
        obtain rfl := eq_of_key inv.keyed.exceptionIds mem mem' (names.1.trans (same.trans names'.1.symm))
        cases (missing e mem).symm.trans (isOpen_of_names names' unclosed)
      obtain ⟨store, ok⟩ := closeException_none missing
      exact ⟨.lock i, _, rfl, nofun, .lockMissed eq free ok⟩
    | holding closed =>
      rw [eq] at own
      obtain ⟨_, e, mem, names, unclosed, _⟩ := own
      cases (missing e mem).symm.trans (isOpen_of_names names unclosed)
    | missed => exact ⟨.answer i, _, rfl, nofun, .answerMissed eq⟩
    | committed =>
      rw [eq] at unapplied
      cases unapplied
    | answered a => exact absurd eq (going a)
    | failed => exact absurd eq alive
  step {event _} own st := by
    subst own
    rw [← miss]
    refine st.refused missing (fun closed holding => ?_) fun committed => ?_
    · have sound := inv.sound event.request
      rw [holding] at sound
      obtain ⟨_, e, mem, names, unclosed, _⟩ := sound
      cases (missing e mem).symm.trans (isOpen_of_names names unclosed)
    · rw [committed] at unapplied
      cases unapplied

end Steps

namespace Race

def openBreak : Exception_ where
  id := 31
  tenantId := 8
  reconciliationResultId := 12
  openedAt := .newYear 0

def operators : ℕ → ResolveRequest
  | 0 => ⟨8, 31, "paid by wire", .newYear 1⟩
  | 1 => ⟨8, 31, "written off", .newYear 2⟩
  | _ => ⟨9, 31, "not ours", .newYear 3⟩

def result : ReconciliationResult where
  id := 12
  tenantId := 8
  gatewayTxnId := some 4
  ledgerEntryId := some 5
  status := .amountDrift
  matchLayer := .amountDrift
  resolvedAt := .newYear 0
  notes := none
  matchLatencyMs := none
  sourceMessageId := none

/-- The two sides of the payment, which is ten short. -/
def side (id : ℕ) (amount : Money) : RawRow where
  id := id
  tenantId := 8
  txnId := "t-1"
  amount := amount
  currency := "USD"
  occurredAt := .newYear 0
  ref := "ref"
  rawPayload := .body "null"
  idempotencyKey := "key-1"
  receivedAt := .newYear 0
  reconciledAt := some (.newYear 0)

def tables : Store where
  gatewayTransactions := [side 4 ⟨1000, by decide⟩]
  ledgerEntries := [side 5 ⟨2000, by decide⟩]
  reconciliationResults := [result]
  exceptions := [openBreak]

lemma keyed : Keyed tables where
  resultIds := by simp [tables]
  exceptionIds := by simp [tables]
  bigint l := by cases l <;> simp [Listing.table, tables, openBreak, result]
  references := by simp [tables, openBreak, result]

/-- All three start, the first gets the lock and commits, and the others are answered. -/
lemma run : ∃ tr u, Run (DeskStep operators) { store := tables } tr u ∧
    u.phase 0 = .committed ∧ u.phase 1 = .answered .conflict ∧ u.phase 2 = .answered .notFound := by
  have taken : ∃ store, closeException tables 8 31 "paid by wire" (.newYear 1) =
      .ok (store, some (close (.newYear 1) "paid by wire" openBreak)) := ⟨_, rfl⟩
  obtain ⟨store, taken⟩ := taken
  have started : Run (DeskStep operators) { store := tables } _ _ :=
    .snoc (.snoc (.snoc .nil (.start (i := 0) rfl)) (.start (i := 1) rfl)) (.start (i := 2) rfl)
  have committed := (started.snoc (.lock (i := 0) rfl rfl taken)).snoc (.commit (i := 0) rfl)
  have lost := (committed.snoc (.lockMissed (i := 1) rfl rfl rfl)).snoc (.answerMissed (i := 1) rfl)
  exact ⟨_, _, lost.snoc (.answerMissed (i := 2) rfl), rfl, rfl, rfl⟩

end Race

end LedgerLoop.Queries
