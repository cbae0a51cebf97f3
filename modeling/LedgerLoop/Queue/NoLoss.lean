import LedgerLoop.Queue.Delivery
import LedgerLoop.Worker.Invariant

/-!
# No event is lost

Whatever crashes, a committed outbox event is unpublished, or it is on the stream and the group has not
acked it, or a `process` call for it committed before an ack.

A published event is on the stream because a relay marks its rows only when all of them are there
(`Relay.Sound`), and the log shows that an ack is preceded by the commit of a call for the same message,
because a worker acks the entry in its hand after `process` has returned (`Inv.returned`).
-/

set_option autoImplicit false

namespace LedgerLoop
open LedgerLoop.Library

namespace Queue
open LedgerLoop.System

/-- An event is on the stream. -/
def OnStream (stream : EventStream Entry) (event : OutboxEvent) : Prop :=
  ∃ (id : ℕ) (entry : Entry), stream.entries[id]? = some entry ∧ entry.event = event.id ∧
    entry.message = event.payload

/-- A `process` call for the message of an entry committed before an ack of the entry. -/
def ProcessedBeforeAck (d : Delivery) (id : ℕ) : Prop :=
  ∃ entry before after, d.stream.entries[id]? = some entry ∧
    d.log = before ++ .acked id :: after ∧ .processed id entry.message ∈ before

/-- A row a relay has read is still in the outbox, up to its publication columns. -/
def Committed (store : Store) (row : OutboxEvent) : Prop :=
  ∃ event ∈ store.outboxEvents, event.id = row.id ∧ event.payload = row.payload

/-- What a relay holds is committed, and what it has sent is on the stream. -/
def Relay.Sound (store : Store) (stream : EventStream Entry) : Relay → Prop
  | .idle => True
  | .publishing rows sent =>
    (∀ row ∈ rows, Committed store row) ∧ ∀ row ∈ rows.take sent, OnStream stream row
  | .marked rows => ∀ row ∈ rows, Committed store row ∧ OnStream stream row

/-- The entries a consumer holds. -/
def Consumer.entries : Consumer → List (ℕ × IngestMessage)
  | .idle => []
  | .claimed entries | .working entries => entries

/-- A consumer's entries are entries of the stream. -/
def Consumer.Sound (stream : EventStream Entry) (c : Consumer) : Prop :=
  ∀ p ∈ c.entries, ∃ entry, stream.entries[p.1]? = some entry ∧ entry.message = p.2

/-- A consumer's worker that has returned from `process` did so for the entry in hand. -/
def Returned (log : List LogEntry) (activity : Activity) (c : Consumer) : Prop :=
  ∀ message found id m rest, activity = .returned message found → c = .working ((id, m) :: rest) →
    .processed id m ∈ log

/-- The invariant of delivery. -/
structure Inv (d : Delivery) : Prop where
  ids : (d.sys.store.outboxEvents.map (·.id)).Nodup
  published : ∀ event ∈ d.sys.store.outboxEvents, event.publishedAt ≠ none → OnStream d.stream event
  relays : ∀ r, (d.relays r).Sound d.sys.store d.stream
  consumers : ∀ w, (d.consumers w).Sound d.stream
  returned : ∀ w, Returned d.log (d.sys.workers w) (d.consumers w)
  acked : ∀ id, d.stream.Acked id → ProcessedBeforeAck d id

/-- How delivery grows: outbox rows, stream entries and the log stay. -/
structure Grows (d d' : Delivery) : Prop where
  committed : ∀ row, Committed d.sys.store row → Committed d'.sys.store row
  entries : ∀ {id : ℕ} {entry : Entry}, d.stream.entries[id]? = some entry → d'.stream.entries[id]? = some entry
  log : ∃ new, d'.log = d.log ++ new

section Monotone
variable {d d' : Delivery} (grows : Grows d d')
include grows

lemma OnStream.mono {event : OutboxEvent} (h : OnStream d.stream event) :
    OnStream d'.stream event := by
  obtain ⟨id, entry, found, same⟩ := h
  exact ⟨id, entry, grows.entries found, same⟩

lemma Relay.Sound.mono {r : Relay} (h : r.Sound d.sys.store d.stream) :
    r.Sound d'.sys.store d'.stream := by
  cases r with
  | idle => trivial
  | publishing rows sent =>
    exact ⟨fun row mem => grows.committed row (h.1 row mem), fun row mem => (h.2 row mem).mono grows⟩
  | marked rows =>
    exact fun row mem => ⟨grows.committed row (h row mem).1, (h row mem).2.mono grows⟩

lemma Consumer.Sound.mono {c : Consumer} (h : c.Sound d.stream) : c.Sound d'.stream := by
  intro p mem
  obtain ⟨entry, found, same⟩ := h p mem
  exact ⟨entry, grows.entries found, same⟩

lemma ProcessedBeforeAck.mono {id : ℕ} (h : ProcessedBeforeAck d id) : ProcessedBeforeAck d' id := by
  obtain ⟨entry, before, after, found, log, processed⟩ := h
  obtain ⟨new, eq⟩ := grows.log
  exact ⟨entry, before, after ++ new, grows.entries found, by simp [eq, log], processed⟩

end Monotone

section Steps
variable {config : MatchConfig} {settings : QueueSettings} {d d' : Delivery} {e : Event}

/-- A step of the database appends unpublished events to the outbox. -/
lemma outbox_step {s u : Sys} {e : System.Event} (st : System.Step config s e u) :
    ∃ new, u.store.outboxEvents = s.store.outboxEvents ++ new ∧
      ∀ event ∈ new, event.publishedAt = none := by
  have same : ∃ new, s.store.outboxEvents = s.store.outboxEvents ++ new ∧
      ∀ event ∈ new, event.publishedAt = none := ⟨[], by simp, by simp⟩
  cases st with
  | ingest _ ok => exact Ingest.run_outbox ok
  | apply _ _ ok =>
    rcases Persist.applyDecision_ok ok with ⟨_, rfl, _⟩ | ⟨_, _, _, rfl, _⟩
    · exact same
    · exact ⟨[], by simp [Sys.setWorker, Sys.commit], by simp⟩
  | closeException ok =>
    simp only [Queries.closeException] at ok
    split_ifs at ok
    obtain ⟨rfl, _⟩ := Prod.mk.inj (Except.ok.inj ok)
    exact same
  | openAccount | load | find | ack | scan | beginRow | abandon | deleteAccount => exact same

lemma committed_step {s u : Sys} {e : System.Event} (st : System.Step config s e u)
    {row : OutboxEvent} (h : Committed s.store row) : Committed u.store row := by
  obtain ⟨new, eq, _⟩ := outbox_step st
  obtain ⟨event, mem, same⟩ := h
  exact ⟨event, by rw [eq]; exact List.mem_append_left _ mem, same⟩

/-- Publishing keeps what a relay reads of the outbox. -/
lemma committed_published {store : Store} {rows : List OutboxEvent} {now : Datetime}
    {row : OutboxEvent} (h : Committed store row) :
    Committed (Delivery.published store rows now) row := by
  obtain ⟨event, mem, same⟩ := h
  by_cases hit : rows.any (·.id == event.id) = true
  · exact ⟨_, mem_updateWhere.2 (.inl ⟨event, mem, hit, rfl⟩), same⟩
  · exact ⟨event, mem_updateWhere.2 (.inr ⟨mem, by simpa using hit⟩), same⟩

/-- Every step lets delivery grow. -/
lemma Step.grows (st : Step config settings d e d') : Grows d d' := by
  cases st with
  | database _ step | load _ step =>
    exact ⟨fun _ => committed_step step, id, _, rfl⟩
  | crash step => exact ⟨fun _ => committed_step step, id, [], by simp [Delivery.setConsumer]⟩
  | ack _ step => exact ⟨fun _ => committed_step step, id, _, rfl⟩
  | publish =>
    exact ⟨fun _ => id, fun found => EventStream.getElem?_xadd found, [],
      by simp [Delivery.setRelay]⟩
  | commit => exact ⟨fun _ => committed_published, id, [], by simp [Delivery.setRelay, Delivery.unlock]⟩
  | ensureGroup => exact ⟨fun _ => id, fun found => by simpa using found, [], by simp⟩
  | claimStale _ _ _ claim =>
    exact ⟨fun _ => id, fun found => (EventStream.xautoclaim_spec claim).1 ▸ found, [],
      by simp [Delivery.setConsumer]⟩
  | read _ _ read =>
    exact ⟨fun _ => id, fun found => (EventStream.xreadgroup_spec read).1 ▸ found, [],
      by simp [Delivery.setConsumer]⟩
  | claim | mark | abort | dropGroup | skipClaim | finish =>
    exact ⟨fun _ => id, id, [],
      by simp [Delivery.setRelay, Delivery.setConsumer, Delivery.unlock, Delivery.lock]⟩

/-- Outbox ids stay distinct. -/
lemma Step.ids (inv : Inv d) (st : Step config settings d e d') :
    (d'.sys.store.outboxEvents.map (·.id)).Nodup := by
  cases st with
  | database _ _ nodup => exact nodup
  | @commit r rows now _ =>
    have same : (updateWhere (fun e => rows.any (·.id == e.id)) (Delivery.markPublished now)
        d.sys.store.outboxEvents).map OutboxEvent.id = d.sys.store.outboxEvents.map OutboxEvent.id :=
      map_updateWhere _ fun _ => rfl
    simpa [Delivery.setRelay, Delivery.unlock, Sys.commit, Delivery.published, same] using inv.ids
  | @load w id message rest sys _ step =>
    cases step
    exact inv.ids
  | ack _ step | crash step =>
    cases step
    exact inv.ids
  | claim | publish | mark | abort | ensureGroup | dropGroup | claimStale | skipClaim | read
  | finish => exact inv.ids

/-- A published event is on the stream. -/
lemma Step.published (inv : Inv d) (st : Step config settings d e d') :
    ∀ event ∈ d'.sys.store.outboxEvents, event.publishedAt ≠ none → OnStream d'.stream event := by
  have grows := st.grows
  have old : ∀ event ∈ d.sys.store.outboxEvents, event.publishedAt ≠ none →
      OnStream d'.stream event := fun event mem done => (inv.published event mem done).mono grows
  have of_step {s : Sys} {e : System.Event} (step : System.Step config d.sys e s) :
      ∀ event ∈ s.store.outboxEvents, event.publishedAt ≠ none → OnStream d'.stream event := by
    intro event mem done
    obtain ⟨new, eq, unpublished⟩ := outbox_step step
    rw [eq] at mem
    rcases List.mem_append.1 mem with mem | mem
    · exact old event mem done
    · exact absurd (unpublished event mem) done
  cases st with
  | database _ step | load _ step | ack _ step | crash step => exact of_step step
  | @commit r rows now marked =>
    intro event mem done
    have sound := inv.relays r
    rw [marked] at sound
    rcases mem_updateWhere.1 mem with ⟨event₀, mem₀, hit, rfl⟩ | ⟨mem₀, _⟩
    · -- the row the relay read under this id is the event's
      obtain ⟨row, memRow, idEq⟩ := List.any_eq_true.1 hit
      obtain ⟨⟨event₁, mem₁, idEq₁, payload⟩, id, entry, found, forEvent, message⟩ := sound row memRow
      obtain rfl := eq_of_key inv.ids mem₁ mem₀ (idEq₁.trans (by simpa using idEq))
      exact ⟨id, entry, found, forEvent.trans idEq₁.symm, message.trans payload.symm⟩
    · exact old event mem₀ done
  | claim | publish | mark | abort | ensureGroup | dropGroup | claimStale | skipClaim | read
  | finish => exact old

/-- What relays hold stays sound. -/
lemma Step.relays (inv : Inv d) (st : Step config settings d e d') :
    ∀ r, (d'.relays r).Sound d'.sys.store d'.stream := by
  have grows := st.grows
  have old : ∀ r, (d.relays r).Sound d'.sys.store d'.stream := fun r => (inv.relays r).mono grows
  cases st with
  | @claim r rows _ claims =>
    refine (Function.forall_update_iff _ fun _ (a : Relay) => a.Sound _ _).2 ⟨⟨?_, by simp⟩,
      fun r' _ => old r'⟩
    intro row mem
    exact ⟨row, (List.mem_filter.1 (claims.2.2.2 row mem)).1, rfl, rfl⟩
  | @publish r rows sent row publishing next =>
    refine (Function.forall_update_iff _ fun _ (a : Relay) => a.Sound _ _).2 ⟨?_, fun r' _ => old r'⟩
    have sound := old r
    rw [publishing] at sound
    refine ⟨sound.1, fun row' mem => ?_⟩
    rw [List.take_add_one, next] at mem
    rcases List.mem_append.1 mem with mem | mem
    · exact sound.2 row' mem
    · obtain rfl : row' = row := by simpa using mem
      exact ⟨d.stream.entries.length, _, EventStream.getElem?_xadd_length, rfl, rfl⟩
  | @mark r rows publishing =>
    refine (Function.forall_update_iff _ fun _ (a : Relay) => a.Sound _ _).2 ⟨?_, fun r' _ => old r'⟩
    have sound := old r
    rw [publishing] at sound
    rw [Relay.Sound, List.take_length] at sound
    exact fun row mem => ⟨sound.1 row mem, sound.2 row mem⟩
  | commit | abort =>
    exact (Function.forall_update_iff _ fun _ (a : Relay) => a.Sound _ _).2
      ⟨trivial, fun r' _ => old r'⟩
  | database | load | ack | crash | ensureGroup | dropGroup | claimStale | skipClaim | read
  | finish => exact old

/-- What consumers hold is on the stream. -/
lemma Step.consumers (inv : Inv d) (st : Step config settings d e d') :
    ∀ w, (d'.consumers w).Sound d'.stream := by
  have grows := st.grows
  have old : ∀ w, (d.consumers w).Sound d'.stream := fun w => (inv.consumers w).mono grows
  have update {w : ℕ} {c : Consumer} (sound : c.Sound d'.stream) :
      ∀ w', (Function.update d.consumers w c w').Sound d'.stream :=
    (Function.forall_update_iff _ fun _ (c : Consumer) => c.Sound _).2 ⟨sound, fun w' _ => old w'⟩
  -- entries a command returned are on the stream
  have fetched {entries : List (ℕ × Entry)}
      (spec : ∀ p ∈ entries, d.stream.entries[p.1]? = some p.2) :
      ∀ p ∈ Delivery.batchOf entries, ∃ entry, d'.stream.entries[p.1]? = some entry ∧
        entry.message = p.2 := by
    intro p mem
    obtain ⟨q, memQ, rfl⟩ := List.mem_map.1 mem
    exact ⟨q.2, grows.entries (spec q memQ), rfl⟩
  cases st with
  | claimStale _ _ _ claim => exact update (fetched (EventStream.xautoclaim_spec claim).2.1)
  | skipClaim | finish | crash => exact update (by simp [Consumer.Sound, Consumer.entries])
  | @read w batch _ _ claimed _ read =>
    refine update fun p mem => ?_
    have sound := old w
    rw [claimed] at sound
    rcases List.mem_append.1 mem with mem | mem
    · exact sound p mem
    · exact fetched (EventStream.xreadgroup_spec read).2.1 p mem
  | @ack w _ _ _ _ working _ =>
    have sound := old w
    rw [working] at sound
    exact update fun p mem => sound p (List.mem_cons_of_mem _ mem)
  | database | claim | publish | mark | commit | abort | ensureGroup | dropGroup | load => exact old

/-- A worker that has returned did so for the entry in its consumer's hand. -/
lemma Step.returned (inv : Inv d) (st : Step config settings d e d') :
    ∀ w, Returned d'.log (d'.sys.workers w) (d'.consumers w) := by
  obtain ⟨new, logEq⟩ := st.grows.log
  have old : ∀ w, Returned d'.log (d.sys.workers w) (d.consumers w) := by
    intro w message found id m rest returned working
    rw [logEq]
    exact List.mem_append_left _ (inv.returned w message found id m rest returned working)
  -- a worker that moves and returns is logged as it does
  have moved {worker : Option ℕ} {s : Sys}
      (others : ∀ w, worker ≠ some w → s.workers w = d.sys.workers w) :
      ∀ w, Returned (d.goOn worker s).log (s.workers w) (d.consumers w) := by
    intro w message found id m rest returned working
    by_cases eq : worker = some w
    · simp [Delivery.goOn, eq, Delivery.processedNow, returned, working]
    · rw [others w eq] at returned
      exact List.mem_append_left _ (inv.returned w message found id m rest returned working)
  have updated {w : ℕ} {c : Consumer}
      (h : Returned d'.log (d.sys.workers w) c) :
      ∀ w', Returned d'.log (d.sys.workers w') (Function.update d.consumers w c w') :=
    (Function.forall_update_iff _ fun w' (c : Consumer) =>
      Returned d'.log (d.sys.workers w') c).2 ⟨h, fun w' _ => old w'⟩
  cases st with
  | database _ step | load _ step => exact moved fun w other => step.others other
  | @ack w _ _ _ _ _ step =>
    intro w' message found id m rest returned working
    cases step
    by_cases eq : w' = w
    · subst eq
      simp [Delivery.xack, Delivery.setConsumer, Sys.setWorker] at returned
    · simp only [Delivery.xack, Delivery.setConsumer, Sys.setWorker, Function.update_of_ne eq] at *
      exact old w' message found id m rest returned working
  | @crash w _ step =>
    intro w' message found id m rest returned working
    cases step
    by_cases eq : w' = w
    · subst eq
      simp [Delivery.setConsumer, Sys.setWorker] at returned
    · simp only [Delivery.setConsumer, Sys.setWorker, Function.update_of_ne eq] at *
      exact old w' message found id m rest returned working
  | claimStale | skipClaim => exact updated fun _ _ _ _ _ _ claimed => by cases claimed
  | read _ idle =>
    refine updated fun _ _ _ _ _ returned _ => ?_
    rw [idle] at returned
    cases returned
  | finish => exact updated fun _ _ _ _ _ _ working => by cases working
  | claim | publish | mark | commit | abort | ensureGroup | dropGroup => exact old

/-- An acked entry was processed before. -/
lemma Step.acked (inv : Inv d) (st : Step config settings d e d') :
    ∀ id, d'.stream.Acked id → ProcessedBeforeAck d' id := by
  have grows := st.grows
  have old : ∀ id, d.stream.Acked id → ProcessedBeforeAck d' id := fun id acked =>
    (inv.acked id acked).mono grows
  cases st with
  | publish => exact fun id acked => old id (EventStream.acked_xadd.1 acked)
  | ensureGroup => exact fun id acked => old id (EventStream.acked_of_xgroupCreate acked)
  | dropGroup => exact fun id acked => absurd acked EventStream.not_acked_xgroupDestroy
  | claimStale _ _ _ claim =>
    exact fun id acked => old id ((EventStream.xautoclaim_spec claim).2.2 id acked)
  | read _ _ read => exact fun id acked => old id ((EventStream.xreadgroup_spec read).2.2 id acked)
  | @ack w id message rest _ working step =>
    intro n acked
    rcases EventStream.acked_of_xack acked with before | rfl
    · exact old n before
    -- the entry in hand, for which `process` has returned
    have sound := inv.consumers w
    rw [working] at sound
    obtain ⟨entry, found, same⟩ := sound _ List.mem_cons_self
    cases step with
    | ack returned =>
      refine ⟨entry, d.log, [], found, rfl, ?_⟩
      rw [same]
      exact inv.returned w _ _ _ _ _ returned working
  | database | claim | mark | commit | abort | skipClaim | load | finish | crash => exact old

/-- Every step keeps the invariant. -/
lemma Step.inv (inv : Inv d) (st : Step config settings d e d') : Inv d' where
  ids := st.ids inv
  published := st.published inv
  relays := st.relays inv
  consumers := st.consumers inv
  returned := st.returned inv
  acked := st.acked inv

/-- The database under delivery keeps the invariant of the interleaved system. -/
lemma Step.sysInv (inv : d.sys.Inv config) (st : Step config settings d e d') :
    d'.sys.Inv config := by
  cases st with
  | database _ step | load _ step | ack _ step | crash step => exact step.inv inv
  | @commit r rows now _ =>
    have raw : ∀ side,
        (Delivery.published d.sys.store rows now).raw side = d.sys.store.raw side :=
      fun side => by cases side <;> rfl
    have ext : d.sys.Extends (d.sys.commit (Delivery.published d.sys.store rows now)) :=
      .of_raw rfl raw
    exact ⟨inv.consistent.congr raw rfl rfl, fun side row mem => inv.drawn side row (raw side ▸ mem),
      fun w => (inv.workers w).mono fun f => Sys.Knows.mono ext⟩
  | claim | publish | mark | abort | ensureGroup | dropGroup | claimStale | skipClaim | read
  | finish => exact inv

end Steps

section Runs
variable {config : MatchConfig} {settings : QueueSettings} {tr : List (Delivery × Event)}
  {d : Delivery}

/-- The invariant holds in every state delivery reaches. -/
lemma Inv.reached (run : Run (Step config settings) Delivery.initial tr d) : Inv d := by
  refine run.invariant ⟨List.nodup_nil, ?_, fun _ => trivial, ?_, ?_, ?_⟩ fun inv st => st.inv inv
  · rintro event ⟨⟩
  · rintro w p ⟨⟩
  · rintro w message found id m rest ⟨⟩
  · rintro id ⟨g, ⟨⟩, _⟩

/-- The tables keep their promises while events are delivered. -/
theorem store_invariant_delivered (run : Run (Step config settings) Delivery.initial tr d) :
    StoreInvariant d.sys.store :=
  .of_consistent (run.invariant (I := fun d : Delivery => d.sys.Inv config) (Sys.Inv.initial config)
    fun inv st => st.sysInv inv).consistent

/-- Every committed event is unpublished, or has a stream entry that the group has not acked or that a
    committed `process` call preceded the ack of. -/
theorem no_event_lost (run : Run (Step config settings) Delivery.initial tr d) :
    ∀ event ∈ d.sys.store.outboxEvents, event.publishedAt = none ∨
      ∃ (id : ℕ) (entry : Entry), d.stream.entries[id]? = some entry ∧ entry.event = event.id ∧
        entry.message = event.payload ∧ (¬d.stream.Acked id ∨ ProcessedBeforeAck d id) := by
  have inv := Inv.reached run
  intro event mem
  by_cases unpublished : event.publishedAt = none
  · exact .inl unpublished
  · obtain ⟨id, entry, found, forEvent, message⟩ := inv.published event mem unpublished
    refine .inr ⟨id, entry, found, forEvent, message, ?_⟩
    by_cases acked : d.stream.Acked id
    · exact .inr (inv.acked id acked)
    · exact .inl acked

end Runs

/-! Two events. The relay crashes after the first `XADD` and publishes both again; the worker that
processes the first entry crashes before its ack, and another worker adopts it. -/

namespace Sample
open System.Sample

def settings : QueueSettings where
  outboxBatchSize := 2
  streamBatchSize := 2

def gatewayEvent : OutboxEvent :=
  Ingest.outboxRow .gateway (Ingest.Sample.drawsAfter 0) (Ingest.firstReceipt (gatewayRow 0 "key-1")) 0

def ledgerEvent : OutboxEvent :=
  Ingest.outboxRow .ledger (Ingest.Sample.drawsAfter 1)
    (Ingest.firstReceipt (ledgerRow 1 Ingest.Sample.entry)) 0

def events : List Event :=
  [.database (.openAccount Ingest.Sample.account),
    .database (.ingest (.gateway 1 Ingest.Sample.payload "key-1" "null")
      (Ingest.Sample.drawsAfter 0)),
    .database (.ingest (.ledger 1 [Ingest.Sample.entry]) (Ingest.Sample.drawsAfter 1)),
    .claim 0 [gatewayEvent, ledgerEvent], .publish 0, .abort 0,
    .claim 1 [gatewayEvent, ledgerEvent], .publish 1, .publish 1, .mark 1, .commit 1 (.newYear 4),
    .ensureGroup, .skipClaim 0, .read 0,
    .load 0, .database (.find 0 [facts (ledgerRow 1 Ingest.Sample.entry) .ledger] (.newYear 5)),
    .database (.apply 0 (.newYear 5) (drawsAt 1)), .crash 0,
    .claimStale 1 [0], .read 1,
    .load 1, .database (.find 1 [] (.newYear 6)), .ack 1]

end Sample

theorem no_event_lost_sample :
    ∃ tr d, replay (step .shipped Sample.settings) Delivery.initial Sample.events = some (tr, d) ∧
      d.log = [.processed 0 Sample.gatewayEvent.payload, .processed 0 Sample.gatewayEvent.payload,
        .acked 0] ∧
      ∀ event ∈ d.sys.store.outboxEvents, event.publishedAt = none ∨
        ∃ (id : ℕ) (entry : Entry), d.stream.entries[id]? = some entry ∧ entry.event = event.id ∧
          entry.message = event.payload ∧ (¬d.stream.Acked id ∨ ProcessedBeforeAck d id) := by
  have runs : ((replay (step .shipped Sample.settings) Delivery.initial Sample.events).map fun p =>
      p.2.log) = some [.processed 0 Sample.gatewayEvent.payload,
        .processed 0 Sample.gatewayEvent.payload, .acked 0] := by decide +kernel
  obtain ⟨⟨tr, d⟩, eq, log⟩ := Option.map_eq_some_iff.1 runs
  exact ⟨tr, d, eq, log, no_event_lost (.of_replay Step.of_step eq)⟩

end Queue
end LedgerLoop
