import LedgerLoop.Queue.NoLoss

/-!
# Relays partition the outbox

While no relay crashes, the rows that relays hold are disjoint, a row is held by the relay that has it
locked, and nobody has published it. So an event is on the stream once if it is published, or if the
relay that holds it has sent it, and else not at all (`Inv.Partitioned.count`).

An `abort` breaks this: what it had sent is sent again.
-/

set_option autoImplicit false

namespace LedgerLoop
open LedgerLoop.Library

namespace Queue
open LedgerLoop.System

deriving instance DecidableEq for Relay

/-- The rows a relay holds. -/
def Relay.rows : Relay → List OutboxEvent
  | .idle => []
  | .publishing rows _ => rows
  | .marked rows => rows

/-- The rows a relay holds and has sent. -/
def Relay.sent : Relay → List OutboxEvent
  | .idle => []
  | .publishing rows sent => rows.take sent
  | .marked rows => rows

/-- How many times an event has been added to the stream. -/
def Delivery.timesAdded (d : Delivery) (event : ℕ) : ℕ :=
  d.stream.entries.countP fun entry => entry.event == event

/-- A relay is between two calls of `drain_once`, and the claim of the next one returns no rows. -/
def Delivery.SeesNothing (d : Delivery) (limit r : ℕ) : Prop :=
  d.relays r = .idle ∧ ∀ rows, ¬d.Claims limit rows

/-- The relay that takes a step. -/
def Event.relay : Event → Option ℕ
  | .claim r _ | .publish r | .mark r | .commit r _ | .abort r => some r
  | _ => none

/-- An event is added to the stream by a relay. -/
def Adds (r event : ℕ) (p : Delivery × Event) : Prop :=
  p.2 = .publish r ∧ ∃ rows sent row, p.1.relays r = .publishing rows sent ∧
    rows[sent]? = some row ∧ row.id = event

/-- A relay has added an event to the stream in the transaction it is in: since its last claim. -/
def AddedSinceClaim (r event : ℕ) (tr : List (Delivery × Event)) : Prop :=
  ∃ before p after, tr = before ++ p :: after ∧ Adds r event p ∧
    ∀ q ∈ after, ∀ rows, q.2 ≠ .claim r rows

/-- An event is published, or sent by the relay that holds it. -/
def Added (d : Delivery) (id : ℕ) : Prop :=
  (∃ event ∈ d.sys.store.outboxEvents, event.id = id ∧ event.publishedAt ≠ none) ∨
    ∃ r, id ∈ (d.relays r).sent.map (·.id)

/-- The rows relays hold: locked by their holders, held by one relay each, and unpublished. -/
structure Exclusive (d : Delivery) : Prop where
  locked : ∀ r id, (id, r) ∈ d.locks ↔ id ∈ (d.relays r).rows.map (·.id)
  single : ∀ r r' id, id ∈ (d.relays r).rows.map (·.id) → id ∈ (d.relays r').rows.map (·.id) → r = r'
  distinct : ∀ r, ((d.relays r).rows.map (·.id)).Nodup
  unpublished : ∀ r, ∀ row ∈ (d.relays r).rows, ∀ event ∈ d.sys.store.outboxEvents,
    event.id = row.id → event.publishedAt = none

/-- The invariant of relays that do not crash. -/
structure Partitioned (d : Delivery) : Prop where
  exclusive : Exclusive d
  once : ∀ id, Added d id → d.timesAdded id = 1
  never : ∀ id, ¬Added d id → d.timesAdded id = 0

section Steps
variable {config : MatchConfig} {settings : QueueSettings} {d d' : Delivery} {e : Event} {r id : ℕ}

lemma Relay.sent_subset {relay : Relay} : relay.sent ⊆ relay.rows := by
  cases relay with
  | idle => exact List.Subset.refl _
  | publishing => exact List.take_subset _ _
  | marked => exact List.Subset.refl _

@[simp] lemma setRelay_relays {relay : Relay} : (d.setRelay r relay).relays r = relay :=
  Function.update_self ..

lemma setRelay_relays_ne {relay : Relay} {r' : ℕ} (ne : r' ≠ r) :
    (d.setRelay r relay).relays r' = d.relays r' :=
  Function.update_of_ne ne ..

/-- A relay that is done holds nothing. -/
lemma rows_setRelay_idle {r' : ℕ} : ((d.setRelay r .idle).relays r').rows ⊆ (d.relays r').rows := by
  rcases eq_or_ne r' r with rfl | ne
  · rw [setRelay_relays]
    exact List.nil_subset _
  · rw [setRelay_relays_ne ne]
    exact List.Subset.refl _

/-- Relays that go on with the rows they hold, while unpublished events are appended. -/
lemma Exclusive.congr (ex : Exclusive d) (rows : ∀ r, (d'.relays r).rows = (d.relays r).rows)
    (locks : d'.locks = d.locks)
    (grown : ∃ new, d'.sys.store.outboxEvents = d.sys.store.outboxEvents ++ new ∧
      ∀ event ∈ new, event.publishedAt = none) : Exclusive d' where
  locked r id := by
    rw [rows, locks]
    exact ex.locked r id
  single r r' id := by
    rw [rows, rows]
    exact ex.single r r' id
  distinct r := by
    rw [rows]
    exact ex.distinct r
  unpublished r row memR event mem same := by
    obtain ⟨new, outbox, unpublished⟩ := grown
    rw [rows] at memR
    rw [outbox] at mem
    rcases List.mem_append.1 mem with mem | mem
    · exact ex.unpublished r row memR event mem same
    · exact unpublished event mem

/-- What has been added depends on the outbox and on what the relays have sent. -/
lemma added_congr (sent : ∀ r, (d'.relays r).sent = (d.relays r).sent)
    (grown : ∃ new, d'.sys.store.outboxEvents = d.sys.store.outboxEvents ++ new ∧
      ∀ event ∈ new, event.publishedAt = none) : Added d' id ↔ Added d id := by
  obtain ⟨new, outbox, unpublished⟩ := grown
  simp only [Added, sent, outbox]
  refine or_congr_left ⟨?_, ?_⟩
  · rintro ⟨event, mem, same, done⟩
    rcases List.mem_append.1 mem with mem | mem
    · exact ⟨event, mem, same, done⟩
    · exact absurd (unpublished event mem) done
  · rintro ⟨event, mem, same⟩
    exact ⟨event, List.mem_append_left _ mem, same⟩

/-- A step that adds nothing to the stream. -/
lemma Partitioned.congr (part : Partitioned d) (ex : Exclusive d')
    (entries : d'.stream.entries = d.stream.entries) (added : ∀ id, Added d' id ↔ Added d id) :
    Partitioned d' where
  exclusive := ex
  once id yes := by
    rw [Delivery.timesAdded, entries]
    exact part.once id ((added id).1 yes)
  never id no := by
    rw [Delivery.timesAdded, entries]
    exact part.never id (mt (added id).2 no)

/-- Rows a relay can claim are held by no relay. -/
lemma Exclusive.free (ex : Exclusive d) {limit : ℕ} {rows : List OutboxEvent}
    (claims : d.Claims limit rows) (mem : id ∈ rows.map (·.id)) :
    id ∉ (d.relays r).rows.map (·.id) := by
  obtain ⟨row, memRow, rfl⟩ := List.mem_map.1 mem
  have claimable := (List.mem_filter.1 (claims.2.2.2 row memRow)).2
  simp only [Bool.and_eq_true, Bool.not_eq_true', List.any_eq_false] at claimable
  intro held
  exact claimable.2 _ ((ex.locked r row.id).2 held) (by simp)

/-- Claimed rows are held by the relay alone. -/
lemma Exclusive.claim (ex : Exclusive d) (inv : Inv d) {limit : ℕ} {rows : List OutboxEvent}
    (idle : d.relays r = .idle) (claims : d.Claims limit rows) :
    Exclusive ((d.lock r rows).setRelay r (.publishing rows 0)) where
  locked r' id := by
    have old := ex.locked r' id
    rcases eq_or_ne r' r with rfl | ne
    · rw [idle] at old
      rw [setRelay_relays]
      simp only [Delivery.setRelay, Delivery.lock, List.mem_append, old]
      simp [Relay.rows]
    · rw [setRelay_relays_ne ne]
      simp only [Delivery.setRelay, Delivery.lock, List.mem_append, old]
      simp [ne.symm]
  single r' r'' id mem' mem'' := by
    by_cases eq' : r' = r <;> by_cases eq'' : r'' = r
    · rw [eq', eq'']
    · subst eq'
      rw [setRelay_relays] at mem'
      rw [setRelay_relays_ne eq''] at mem''
      exact absurd mem'' (ex.free claims mem')
    · subst eq''
      rw [setRelay_relays] at mem''
      rw [setRelay_relays_ne eq'] at mem'
      exact absurd mem' (ex.free claims mem'')
    · rw [setRelay_relays_ne eq'] at mem'
      rw [setRelay_relays_ne eq''] at mem''
      exact ex.single r' r'' id mem' mem''
  distinct r' := by
    rcases eq_or_ne r' r with rfl | ne
    · rw [setRelay_relays]
      exact List.pairwise_map.2 (claims.2.2.1.imp fun lt => lt.ne)
    · rw [setRelay_relays_ne ne]
      exact ex.distinct r'
  unpublished r' row memR event mem same := by
    rcases eq_or_ne r' r with rfl | ne
    · rw [setRelay_relays] at memR
      obtain ⟨memO, unpublished⟩ := List.mem_filter.1 (claims.2.2.2 row memR)
      obtain rfl := eq_of_key inv.ids mem memO same
      exact Option.isNone_iff_eq_none.1 (Bool.and_eq_true_iff.1 unpublished).1
    · rw [setRelay_relays_ne ne] at memR
      exact ex.unpublished r' row memR event mem same

/-- A commit publishes the rows of one relay and releases them. -/
lemma Exclusive.commit (ex : Exclusive d) {rows : List OutboxEvent} {now : Datetime}
    (marked : d.relays r = .marked rows) :
    Exclusive (({ d with sys := d.sys.commit (Delivery.published d.sys.store rows now) }.unlock r).setRelay
      r .idle) where
  locked r' id := by
    have old := ex.locked r' id
    rcases eq_or_ne r' r with rfl | ne
    · rw [setRelay_relays]
      simp [Delivery.setRelay, Delivery.unlock, Relay.rows]
    · rw [setRelay_relays_ne ne]
      simpa [Delivery.setRelay, Delivery.unlock, ne] using old
  single r' r'' id mem' mem'' :=
    ex.single r' r'' id (List.map_subset _ rows_setRelay_idle mem')
      (List.map_subset _ rows_setRelay_idle mem'')
  distinct r' := by
    rcases eq_or_ne r' r with rfl | ne
    · rw [setRelay_relays]
      exact List.nodup_nil
    · rw [setRelay_relays_ne ne]
      exact ex.distinct r'
  unpublished r' row memR event mem same := by
    rcases eq_or_ne r' r with rfl | ne
    · rw [setRelay_relays] at memR
      cases memR
    rw [setRelay_relays_ne ne] at memR
    rcases mem_updateWhere.1 mem with ⟨event₀, _, hit, rfl⟩ | ⟨mem₀, _⟩
    · -- the row would be held by both
      obtain ⟨row', memR', eq⟩ := List.any_eq_true.1 hit
      refine absurd (ex.single r' r row.id (List.mem_map_of_mem memR) ?_) ne
      rw [marked]
      exact List.mem_map.2 ⟨row', memR', (beq_iff_eq.1 eq).trans same⟩
    · exact ex.unpublished r' row memR event mem₀ same

/-- What a commit publishes had been sent. -/
lemma added_commit (inv : Inv d) {rows : List OutboxEvent} {now : Datetime}
    (marked : d.relays r = .marked rows) :
    Added (({ d with sys := d.sys.commit (Delivery.published d.sys.store rows now) }.unlock r).setRelay
      r .idle) id ↔ Added d id := by
  have sent : (d.relays r).sent = rows := by rw [marked, Relay.sent]
  constructor
  · rintro (⟨event, mem, rfl, done⟩ | ⟨r', mem⟩)
    · rcases mem_updateWhere.1 mem with ⟨event₀, _, hit, rfl⟩ | ⟨mem₀, _⟩
      · obtain ⟨row, memR, eq⟩ := List.any_eq_true.1 hit
        exact .inr ⟨r, List.mem_map.2 ⟨row, sent ▸ memR, beq_iff_eq.1 eq⟩⟩
      · exact .inl ⟨event, mem₀, rfl, done⟩
    · rcases eq_or_ne r' r with rfl | ne
      · rw [setRelay_relays] at mem
        cases mem
      · rw [setRelay_relays_ne ne] at mem
        exact .inr ⟨r', mem⟩
  · rintro (⟨event, mem, rfl, done⟩ | ⟨r', mem⟩)
    · by_cases hit : rows.any (·.id == event.id) = true
      · exact .inl ⟨_, mem_updateWhere.2 (.inl ⟨event, mem, hit, rfl⟩), rfl, by
          simp [Delivery.markPublished]⟩
      · exact .inl ⟨event, mem_updateWhere.2 (.inr ⟨mem, by simpa using hit⟩), rfl, done⟩
    · rcases eq_or_ne r' r with rfl | ne
      · rw [sent] at mem
        obtain ⟨row, memR, rfl⟩ := List.mem_map.1 mem
        have sound := inv.relays r'
        rw [marked] at sound
        obtain ⟨event, memE, same, _⟩ := (sound row memR).1
        have hit : rows.any (·.id == event.id) = true :=
          List.any_eq_true.2 ⟨row, memR, beq_iff_eq.2 same.symm⟩
        exact .inl ⟨_, mem_updateWhere.2 (.inl ⟨event, memE, hit, rfl⟩), same, by
          simp [Delivery.markPublished]⟩
      · exact .inr ⟨r', by rwa [setRelay_relays_ne ne]⟩

/-- A relay adds the next of its rows. -/
lemma Partitioned.publish (part : Partitioned d) {rows : List OutboxEvent} {sent : ℕ} {row : OutboxEvent}
    (publishing : d.relays r = .publishing rows sent) (next : rows[sent]? = some row) :
    Partitioned ({ d with stream := d.stream.xadd ⟨row.id, row.payload⟩ }.setRelay r
      (.publishing rows (sent + 1))) := by
  have distinct := part.exclusive.distinct r
  rw [publishing, Relay.rows] at distinct
  have memRow : row ∈ rows := List.mem_of_getElem? next
  have held : row.id ∈ (d.relays r).rows.map (·.id) := by
    rw [publishing]
    exact List.mem_map_of_mem memRow
  have fresh : ¬Added d row.id := by
    rintro (⟨event, mem, same, done⟩ | ⟨r', mem⟩)
    · refine done (part.exclusive.unpublished r row ?_ event mem same)
      rwa [publishing]
    · obtain rfl := part.exclusive.single r' r row.id (List.map_subset _ Relay.sent_subset mem) held
      rw [publishing, Relay.sent, List.map_take] at mem
      refine List.disjoint_take_drop distinct le_rfl mem (@List.mem_of_getElem? _ _ 0 _ ?_)
      simp [next]
  have added (id : ℕ) : Added ({ d with stream := d.stream.xadd ⟨row.id, row.payload⟩ }.setRelay r
      (.publishing rows (sent + 1))) id ↔ Added d id ∨ row.id = id := by
    rw [Added, Added, or_assoc]
    refine or_congr_right ⟨?_, ?_⟩
    · rintro ⟨r', mem⟩
      rcases eq_or_ne r' r with rfl | ne
      · rw [setRelay_relays, Relay.sent, List.take_add_one, next, List.map_append] at mem
        rcases List.mem_append.1 mem with mem | mem
        · exact .inl ⟨r', by rwa [publishing]⟩
        · exact .inr (by simpa [eq_comm] using mem)
      · rw [setRelay_relays_ne ne] at mem
        exact .inl ⟨r', mem⟩
    · rintro (⟨r', mem⟩ | rfl)
      · refine ⟨r', ?_⟩
        rcases eq_or_ne r' r with rfl | ne
        · rw [publishing] at mem
          rw [setRelay_relays, Relay.sent, List.take_add_one, List.map_append]
          exact List.mem_append_left _ mem
        · rwa [setRelay_relays_ne ne]
      · refine ⟨r, ?_⟩
        rw [setRelay_relays, Relay.sent, List.take_add_one, next]
        simp
  have times (id : ℕ) : Delivery.timesAdded ({ d with
      stream := d.stream.xadd ⟨row.id, row.payload⟩ }.setRelay r (.publishing rows (sent + 1))) id =
      d.timesAdded id + if row.id = id then 1 else 0 := by
    simp [Delivery.timesAdded, Delivery.setRelay, EventStream.xadd, List.countP_append,
      List.countP_singleton]
  refine ⟨part.exclusive.congr (fun r' => ?_) rfl ⟨[], by simp [Delivery.setRelay], by simp⟩,
    fun id yes => ?_, fun id no => ?_⟩
  · rcases eq_or_ne r' r with rfl | ne
    · rw [setRelay_relays, publishing]
      rfl
    · rw [setRelay_relays_ne ne]
  · rw [times]
    by_cases same : row.id = id
    · subst same
      rw [part.never _ fresh, if_pos rfl]
    · rw [part.once id (((added id).1 yes).resolve_right same), if_neg same]
  · rw [added, not_or] at no
    rw [times, part.never id no.1, if_neg no.2]

/-- Every step other than a commit only appends unpublished events to the outbox. -/
lemma Step.commits_or_grows (st : Step config settings d e d') :
    (∃ r now rows, e = .commit r now ∧ d.relays r = .marked rows ∧
      d' = ({ d with sys := d.sys.commit (Delivery.published d.sys.store rows now) }.unlock r).setRelay
        r .idle) ∨
      ∃ new, d'.sys.store.outboxEvents = d.sys.store.outboxEvents ++ new ∧
        ∀ event ∈ new, event.publishedAt = none := by
  cases st with
  | commit marked => exact .inl ⟨_, _, _, rfl, marked, rfl⟩
  | database _ step | load _ step | ack _ step | crash step => exact .inr (outbox_step step)
  | claim | publish | mark | abort | ensureGroup | dropGroup | claimStale | skipClaim | read
  | finish => exact .inr ⟨[], (List.append_nil _).symm, by simp⟩

/-- Relays that do not crash stay partitioned. -/
lemma Step.partitioned (inv : Inv d) (part : Partitioned d) (calm : ∀ r, e ≠ .abort r)
    (st : Step config settings d e d') : Partitioned d' := by
  have goOn (relays : d'.relays = d.relays) (locks : d'.locks = d.locks)
      (entries : d'.stream.entries = d.stream.entries)
      (grown : ∃ new, d'.sys.store.outboxEvents = d.sys.store.outboxEvents ++ new ∧
        ∀ event ∈ new, event.publishedAt = none) : Partitioned d' :=
    part.congr (part.exclusive.congr (fun r => by rw [relays]) locks grown) entries
      fun id => added_congr (fun r => by rw [relays]) grown
  have same : ∃ new, d.sys.store.outboxEvents = d.sys.store.outboxEvents ++ new ∧
      ∀ event ∈ new, event.publishedAt = none := ⟨[], (List.append_nil _).symm, by simp⟩
  cases st with
  | database _ step | load _ step | ack _ step | crash step => exact goOn rfl rfl rfl (outbox_step step)
  | @claim r rows idle claims =>
    refine part.congr (part.exclusive.claim inv idle claims) rfl fun id => added_congr (fun r' => ?_) same
    rcases eq_or_ne r' r with rfl | ne
    · rw [setRelay_relays, idle]
      rfl
    · rw [setRelay_relays_ne ne]
      rfl
  | publish publishing next => exact part.publish publishing next
  | @mark r rows publishing =>
    have rowsSame (r' : ℕ) : ((d.setRelay r (.marked rows)).relays r').rows = (d.relays r').rows ∧
        ((d.setRelay r (.marked rows)).relays r').sent = (d.relays r').sent := by
      rcases eq_or_ne r' r with rfl | ne
      · rw [setRelay_relays, publishing]
        exact ⟨rfl, List.take_length.symm⟩
      · rw [setRelay_relays_ne ne]
        exact ⟨rfl, rfl⟩
    exact part.congr (part.exclusive.congr (fun r' => (rowsSame r').1) rfl same) rfl
      fun id => added_congr (fun r' => (rowsSame r').2) same
  | commit marked => exact part.congr (part.exclusive.commit marked) rfl fun id => added_commit inv marked
  | abort => exact absurd rfl (calm _)
  | ensureGroup => exact goOn rfl rfl EventStream.entries_xgroupCreate same
  | dropGroup | skipClaim | finish => exact goOn rfl rfl rfl same
  | claimStale _ _ _ claim => exact goOn rfl rfl (EventStream.xautoclaim_spec claim).1 same
  | read _ _ read => exact goOn rfl rfl (EventStream.xreadgroup_spec read).1 same

/-- A relay that takes no step stays as it is. -/
lemma Step.relays_other (st : Step config settings d e d') (other : e.relay ≠ some r) :
    d'.relays r = d.relays r := by
  have ne {r' : ℕ} (other : some r' ≠ some r) : r ≠ r' := fun eq => other (congrArg some eq.symm)
  cases st with
  | claim | publish | mark | commit | abort => exact setRelay_relays_ne (ne other)
  | database | load | ack | crash | ensureGroup | dropGroup | claimStale | skipClaim | read
  | finish => rfl

/-- What a relay has sent, it has sent in this step, or before and it has not claimed since. -/
lemma Step.sent (st : Step config settings d e d') (mem : id ∈ (d'.relays r).sent.map (·.id)) :
    Adds r id (d, e) ∨ id ∈ (d.relays r).sent.map (·.id) ∧ ∀ rows, e ≠ .claim r rows := by
  cases st with
  | @claim r' rows =>
    rcases eq_or_ne r r' with rfl | ne
    · rw [setRelay_relays] at mem
      cases mem
    · rw [setRelay_relays_ne ne] at mem
      exact .inr ⟨mem, fun rows' eq => ne (Event.claim.inj eq).1.symm⟩
  | @publish r' rows sent row publishing next =>
    rcases eq_or_ne r r' with rfl | ne
    · rw [setRelay_relays, Relay.sent, List.take_add_one, next, List.map_append] at mem
      rcases List.mem_append.1 mem with mem | mem
      · exact .inr ⟨by rwa [publishing], by simp⟩
      · exact .inl ⟨rfl, rows, sent, row, publishing, next, by simpa [eq_comm] using mem⟩
    · rw [setRelay_relays_ne ne] at mem
      exact .inr ⟨mem, by simp⟩
  | @mark r' rows publishing =>
    rcases eq_or_ne r r' with rfl | ne
    · rw [setRelay_relays] at mem
      refine .inr ⟨?_, by simp⟩
      rwa [publishing, Relay.sent, List.take_length]
    · rw [setRelay_relays_ne ne] at mem
      exact .inr ⟨mem, by simp⟩
  | @commit r' | @abort r' =>
    rcases eq_or_ne r r' with rfl | ne
    · rw [setRelay_relays] at mem
      cases mem
    · rw [setRelay_relays_ne ne] at mem
      exact .inr ⟨mem, by simp⟩
  | database | load | ack | crash | ensureGroup | dropGroup | claimStale | skipClaim | read
  | finish =>
    exact .inr ⟨mem, by simp⟩

end Steps

section Runs
variable {config : MatchConfig} {settings : QueueSettings} {tr : List (Delivery × Event)}
  {d d' : Delivery} {e : Event} {r id : ℕ}

lemma Partitioned.initial : Partitioned Delivery.initial where
  exclusive := {
    locked := by simp [Delivery.initial, Relay.rows]
    single := by rintro _ _ _ ⟨⟩
    distinct := fun _ => List.nodup_nil
    unpublished := by rintro _ _ ⟨⟩ }
  once := by rintro id (⟨_, ⟨⟩, _⟩ | ⟨_, ⟨⟩⟩)
  never _ _ := rfl

/-- Relays that have not crashed are partitioned. -/
lemma Partitioned.reached (run : Run (Step config settings) Delivery.initial tr d)
    (calm : ∀ p ∈ tr, ∀ r, p.2 ≠ .abort r) : Inv d ∧ Partitioned d :=
  run.invariant_within (I := fun d => Inv d ∧ Partitioned d) (Q := fun _ => True)
    ⟨.reached (.nil : Run (Step config settings) _ _ _), .initial⟩ calm (fun _ _ => trivial) trivial
    fun both calm _ _ st => ⟨st.inv both.1, st.partitioned both.1 both.2 calm⟩

/-- What a relay has sent, it has added to the stream since its last claim. -/
lemma added_since_claim (run : Run (Step config settings) Delivery.initial tr d)
    (mem : id ∈ (d.relays r).sent.map (·.id)) : AddedSinceClaim r id tr := by
  induction run with
  | nil => cases mem
  | @snoc tr t e u _ st ih =>
    rcases st.sent mem with adds | ⟨before, other⟩
    · exact ⟨tr, (t, e), [], rfl, adds, by simp⟩
    · obtain ⟨pre, p, post, rfl, adds, since⟩ := ih before
      refine ⟨pre, p, post ++ [(t, e)], by simp, adds, fun q memQ => ?_⟩
      rcases List.mem_append.1 memQ with memQ | memQ
      · exact since q memQ
      · rw [List.mem_singleton.1 memQ]
        exact other

/-- An event that a step marks published is committed by the relay that has sent it. -/
lemma Step.marks (inv : Inv d) (st : Step config settings d e d') {event event' : OutboxEvent}
    (mem : event ∈ d.sys.store.outboxEvents) (unpublished : event.publishedAt = none)
    (mem' : event' ∈ d'.sys.store.outboxEvents) (same : event'.id = event.id)
    (published : event'.publishedAt ≠ none) :
    ∃ r now, e = .commit r now ∧ event.id ∈ (d.relays r).sent.map (·.id) := by
  rcases st.commits_or_grows with ⟨r, now, rows, rfl, marked, rfl⟩ | ⟨new, outbox, fresh⟩
  · refine ⟨r, now, rfl, ?_⟩
    rw [marked, Relay.sent]
    rcases mem_updateWhere.1 mem' with ⟨event₀, _, hit, rfl⟩ | ⟨mem₀, _⟩
    · obtain ⟨row, memR, eq⟩ := List.any_eq_true.1 hit
      exact List.mem_map.2 ⟨row, memR, (beq_iff_eq.1 eq).trans same⟩
    · obtain rfl := eq_of_key inv.ids mem₀ mem same
      exact absurd unpublished published
  · rw [outbox] at mem'
    rcases List.mem_append.1 mem' with mem' | mem'
    · obtain rfl := eq_of_key inv.ids mem' mem same
      exact absurd unpublished published
    · exact absurd (fresh event' mem') published

/-- Where no relay is within `drain_once` and a claim returns nothing, every event is published. -/
lemma Partitioned.published (part : Partitioned d) {limit : ℕ} (pos : 0 < limit)
    (nothing : ∀ r, d.SeesNothing limit r) {event : OutboxEvent}
    (mem : event ∈ d.sys.store.outboxEvents) : event.publishedAt ≠ none := by
  intro unpublished
  have unlocked : ∀ lock ∈ d.locks, lock.1 ≠ event.id := by
    intro lock memL
    have held := (part.exclusive.locked lock.2 lock.1).1 memL
    rw [(nothing lock.2).1] at held
    cases held
  refine (nothing 0).2 [event] ⟨by simp, pos, List.pairwise_singleton _ _, ?_⟩
  intro row memRow
  obtain rfl := List.mem_singleton.1 memRow
  exact List.mem_filter.2 ⟨mem, by simpa [unpublished] using unlocked⟩

/-- Relays partition the outbox: every event is added to the stream at most once, and once if it is
    published; the transaction that publishes it is the one that added it; and when all relays see an
    empty claim, every event is published. -/
theorem relays_partition_outbox (run : Run (Step config settings) Delivery.initial tr d)
    (calm : ∀ p ∈ tr, ∀ r, p.2 ≠ .abort r) :
    (∀ event ∈ d.sys.store.outboxEvents, d.timesAdded event.id ≤ 1 ∧
      (event.publishedAt ≠ none → d.timesAdded event.id = 1 ∧ OnStream d.stream event)) ∧
    (∀ e d', Step config settings d e d' → ∀ event ∈ d.sys.store.outboxEvents,
      event.publishedAt = none → ∀ event' ∈ d'.sys.store.outboxEvents, event'.id = event.id →
        event'.publishedAt ≠ none → ∃ r now, e = .commit r now ∧ AddedSinceClaim r event.id tr) ∧
    (0 < settings.outboxBatchSize → (∀ r, d.SeesNothing settings.outboxBatchSize r) →
      ∀ event ∈ d.sys.store.outboxEvents, event.publishedAt ≠ none ∧ d.timesAdded event.id = 1) := by
  obtain ⟨inv, part⟩ := Partitioned.reached run calm
  have once {event : OutboxEvent} (mem : event ∈ d.sys.store.outboxEvents)
      (done : event.publishedAt ≠ none) : d.timesAdded event.id = 1 :=
    part.once _ (.inl ⟨event, mem, rfl, done⟩)
  refine ⟨fun event mem => ⟨?_, fun done => ⟨once mem done, inv.published event mem done⟩⟩, ?_, ?_⟩
  · by_cases added : Added d event.id
    · exact (part.once _ added).le
    · exact (part.never _ added).le.trans zero_le_one
  · intro e d' st event mem unpublished event' mem' same done
    obtain ⟨r, now, eq, sent⟩ := st.marks inv mem unpublished mem' same done
    exact ⟨r, now, eq, added_since_claim run sent⟩
  · intro pos nothing event mem
    have done := part.published pos nothing mem
    exact ⟨done, once mem done⟩

/-- A relay that has taken no step is idle. -/
lemma relays_idle (run : Run (Step config settings) Delivery.initial tr d)
    (other : ∀ p ∈ tr, p.2.relay ≠ some r) : d.relays r = .idle :=
  run.invariant_within (I := fun d => d.relays r = .idle) (Q := fun _ => True)
    rfl other (fun _ _ => trivial) trivial fun idle other _ _ st => (st.relays_other other).trans idle

end Runs

/-! Two relays with overlapping transactions, and an event that is committed between their claims. -/

namespace Sample
open System.Sample

def overlapping : List Event :=
  [.database (.openAccount Ingest.Sample.account),
    .database (.ingest (.gateway 1 Ingest.Sample.payload "key-1" "null")
      (Ingest.Sample.drawsAfter 0)),
    .claim 0 [gatewayEvent],
    .database (.ingest (.ledger 1 [Ingest.Sample.entry]) (Ingest.Sample.drawsAfter 1)),
    .claim 1 [ledgerEvent], .publish 1, .publish 0, .mark 1, .commit 1 (.newYear 4),
    .mark 0, .commit 0 (.newYear 5)]

end Sample

theorem relays_partition_outbox_sample :
    ∃ tr d, replay (step .shipped Sample.settings) Delivery.initial Sample.overlapping = some (tr, d) ∧
      d.sys.store.outboxEvents.length = 2 ∧
      ∀ event ∈ d.sys.store.outboxEvents, event.publishedAt ≠ none ∧ d.timesAdded event.id = 1 := by
  have runs : ((replay (step .shipped Sample.settings) Delivery.initial Sample.overlapping).map fun p =>
      (p.2.sys.store.outboxEvents.length, p.2.claimable.length, p.2.relays 0, p.2.relays 1)) =
      some (2, 0, .idle, .idle) := by decide +kernel
  obtain ⟨⟨tr, d⟩, eq, outcome⟩ := Option.map_eq_some_iff.1 runs
  simp only [Prod.mk.injEq, List.length_eq_zero_iff] at outcome
  obtain ⟨two, none, first, second⟩ := outcome
  have run : Run (Step .shipped Sample.settings) Delivery.initial tr d := .of_replay Step.of_step eq
  have event_mem {p : Delivery × Event} (mem : p ∈ tr) : p.2 ∈ Sample.overlapping :=
    events_of_replay eq ▸ List.mem_map_of_mem mem
  have calm : ∀ p ∈ tr, ∀ r, p.2 ≠ .abort r := fun p mem r abort => by
    have listed := event_mem mem
    simp [abort, Sample.overlapping] at listed
  have others (r : ℕ) (ne : r ≠ 0) (ne' : r ≠ 1) : ∀ p ∈ tr, p.2.relay ≠ some r := fun p mem => by
    have listed := event_mem mem
    simp only [Sample.overlapping, List.mem_cons, List.not_mem_nil, or_false] at listed
    rcases listed with h | h | h | h | h | h | h | h | h | h | h <;>
      simp [h, Event.relay, ne.symm, ne'.symm]
  refine ⟨tr, d, eq, two, (relays_partition_outbox run calm).2.2 (by decide) fun r => ⟨?_, ?_⟩⟩
  · by_cases zero : r = 0
    · exact zero ▸ first
    · by_cases one : r = 1
      · exact one ▸ second
      · exact relays_idle run (others r zero one)
  · intro rows claims
    obtain ⟨row, mem⟩ := List.exists_mem_of_ne_nil rows claims.1
    have claimable := claims.2.2.2 row mem
    rw [none] at claimable
    cases claimable

end Queue
end LedgerLoop
