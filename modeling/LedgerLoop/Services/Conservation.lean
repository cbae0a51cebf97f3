import LedgerLoop.Services.Concurrency
import LedgerLoop.Services.IngestCall

/-!
# Gateway submissions are conserved

However the transactions of a key interleave and whichever abort, the committed ones are counted once
each: one row, the tallies 1 to N in the order of the commits, and one outbox event for each
(`submissions_conserved`).
-/

set_option autoImplicit false

namespace LedgerLoop
open LedgerLoop.Library

namespace Concurrency
open Ingest

/-- The outcome a commit answers a submission of a key with. -/
def outcomeOf (tenantId : ℕ) (key : String) : Event → Option IngestOutcome
  | .commit t outcome =>
    if t.submission.tenantId = tenantId ∧ t.submission.idempotencyKey = key then some outcome else none
  | _ => none

/-- The outcomes of the committed submissions of a key, in the order of their commits. -/
def outcomes (tenantId : ℕ) (key : String) (tr : List (Sys × Event)) : List IngestOutcome :=
  tr.filterMap fun p => outcomeOf tenantId key p.2

/-- The outbox events of a gateway row. -/
def eventsOf (s : Store) (rowId : ℕ) : List OutboxEvent :=
  s.outboxEvents.filter fun e => e.source == .gateway && e.rowId == rowId

/-- The row of a key and its events account for the submissions answered so far. -/
structure Accounts (s : Store) (outs : List IngestOutcome) (row : RawRow) : Prop where
  count : row.duplicateCount + 1 = outs.length
  tallies : outs.map IngestOutcome.submissions = List.range' 1 outs.length
  first : ∃ o rest, outs = o :: rest ∧ o.duplicate = false ∧ ∀ o' ∈ rest, o'.duplicate = true
  rowId : ∀ o ∈ outs, o.rowId = row.id
  events : (eventsOf s row.id).map OutboxEvent.payload = outs.map (message .gateway)

/-- What is stored of a key accounts for the submissions answered so far. -/
def Conserved (s : Store) (tenantId : ℕ) (key : String) (outs : List IngestOutcome) : Prop :=
  (rowsOf s tenantId key = [] ∧ outs = []) ∨
    ∃ row, rowsOf s tenantId key = [row] ∧ Accounts s outs row

section
variable {s u : Sys} {e : Event} {t : Txn} {version : Version} {tenantId : ℕ} {key : String}
  {outs : List IngestOutcome} {store store' : Store} {row : RawRow} {tr : List (Sys × Event)}
  {accounts : List Account}

/-- The events of a row after a commit. -/
lemma eventsOf_committed {rowId : ℕ} : eventsOf (t.committed version store) rowId =
    eventsOf store rowId ++ if version.row.id = rowId then
      [outboxRow .gateway t.draws (version.outcome t.submission.payload.txnId) 0] else [] := by
  rw [eventsOf, outboxEvents_committed, List.filter_append, ← eventsOf, List.filter_singleton]
  by_cases same : version.row.id = rowId
  · simp [outboxRow, outcome_rowId, same]
  · simp [outboxRow, outcome_rowId, beq_eq_false_iff_ne.2 same, same]

/-- A commit for another key. -/
lemma Conserved.other (conserved : Conserved store tenantId key outs)
    (ids : ((store.raw .gateway).map RawRow.id).Nodup) (pending : version.Pending t store)
    (ids' : (((t.committed version store).raw .gateway).map RawRow.id).Nodup)
    (ne : ¬(t.submission.tenantId = tenantId ∧ t.submission.idempotencyKey = key)) :
    Conserved (t.committed version store) tenantId key outs := by
  have rows := rowsOf_committed_ne ids pending ne
  rcases conserved with ⟨free, none⟩ | ⟨row, one, acc⟩
  · exact .inl ⟨rows.trans free, none⟩
  refine .inr ⟨row, rows.trans one, acc.count, acc.tallies, acc.first, acc.rowId, ?_⟩
  have other : version.row.id ≠ row.id := by
    intro same
    have mem : row ∈ rowsOf (t.committed version store) tenantId key := by simp [rows, one]
    obtain ⟨stored, held⟩ := List.mem_filter.1 mem
    have own : version.row ∈ rowsOf (t.committed version store) t.submission.tenantId
        t.submission.idempotencyKey := by simp [rowsOf_committed_self ids pending]
    obtain ⟨stored', held'⟩ := List.mem_filter.1 own
    rw [eq_of_key ids' stored' stored same] at held'
    simp only [holdsKey, Bool.and_eq_true, beq_iff_eq] at held held'
    exact ne ⟨held'.1.symm.trans held.1, held'.2.symm.trans held.2⟩
  rw [eventsOf_committed, if_neg other, List.append_nil]
  exact acc.events

/-- The first commit for a key. -/
lemma Accounts.single {txnId : String} (count : row.duplicateCount = 0)
    (events : (eventsOf store' row.id).map OutboxEvent.payload =
      [message .gateway ((Version.insert row).outcome txnId)]) :
    Accounts store' [(Version.insert row).outcome txnId] row where
  count := by simp [count]
  tallies := rfl
  first := ⟨_, [], rfl, rfl, by simp⟩
  rowId := by simp [Version.outcome, firstReceipt]
  events := events

/-- One more commit for a key. -/
lemma Accounts.snoc {txnId : String} (acc : Accounts store outs row)
    (events : (eventsOf store' row.id).map OutboxEvent.payload =
      (eventsOf store row.id).map OutboxEvent.payload ++
        [message .gateway ((Version.update (counted row)).outcome txnId)]) :
    Accounts store' (outs ++ [(Version.update (counted row)).outcome txnId]) (counted row) where
  count := by simp [counted, ← acc.count]
  tallies := by
    have tally : ((Version.update (counted row)).outcome txnId).submissions = 1 + outs.length := by
      simp [Version.outcome, retry, counted, ← acc.count, Nat.add_comm]
    simp [List.range'_concat, acc.tallies, tally]
  first := by
    obtain ⟨o, rest, rfl, fresh, again⟩ := acc.first
    refine ⟨o, rest ++ [_], rfl, fresh, fun o' mem => ?_⟩
    rcases List.mem_append.1 mem with old | new
    · exact again o' old
    · exact List.mem_singleton.1 new ▸ rfl
  rowId o mem := by
    rcases List.mem_append.1 mem with old | new
    · exact acc.rowId o old
    · exact List.mem_singleton.1 new ▸ rfl
  events := by
    rw [List.map_append, ← acc.events]
    exact events

/-- A commit for the key. -/
lemma Conserved.own (inv : Inv s)
    (conserved : Conserved s.store t.submission.tenantId t.submission.idempotencyKey outs)
    (pending : version.Pending t s.store) (fresh : t.draws.rowId 0 ∉ (s.store.raw .gateway).map RawRow.id) :
    Conserved (t.committed version s.store) t.submission.tenantId t.submission.idempotencyKey
      (outs ++ [version.outcome t.submission.payload.txnId]) := by
  have one := rowsOf_committed_self inv.rowIds pending
  refine .inr ⟨version.row, one, ?_⟩
  have events : (eventsOf (t.committed version s.store) version.row.id).map OutboxEvent.payload =
      (eventsOf s.store version.row.id).map OutboxEvent.payload ++
        [message .gateway (version.outcome t.submission.payload.txnId)] := by
    rw [eventsOf_committed, if_pos rfl, List.map_append]
    rfl
  cases version with
  | insert row =>
    obtain ⟨free, _, occurredAt, _, rfl⟩ := pending
    rcases conserved with ⟨_, rfl⟩ | ⟨row', one', _⟩
    · -- no event points at an id that was not in the table
      have none : eventsOf s.store (t.row occurredAt).id = [] := by
        refine List.filter_eq_nil_iff.2 fun e mem both => ?_
        rw [Bool.and_eq_true, beq_iff_eq, beq_iff_eq] at both
        have id : e.rowId = t.draws.rowId 0 := both.2
        exact fresh (id ▸ inv.events e mem both.1)
      rw [Version.row, none] at events
      have new : (t.row occurredAt).duplicateCount = 0 := rfl
      exact .single new events
    · rw [free] at one'
      cases one'
  | update existing =>
    obtain ⟨row, rfl, one'⟩ := pending
    rcases conserved with ⟨free, _⟩ | ⟨row', one'', acc⟩
    · rw [one'] at free
      cases free
    · obtain rfl := List.singleton_inj.1 (one'.symm.trans one'')
      exact acc.snoc events

/-- The matcher's update of a gateway row. -/
lemma Conserved.reconciled {rowId : ℕ} {at_ : Datetime} (conserved : Conserved store tenantId key outs) :
    Conserved (reconciled rowId at_ store) tenantId key outs := by
  have events (id : ℕ) : eventsOf (Concurrency.reconciled rowId at_ store) id = eventsOf store id := by
    simp [eventsOf, Concurrency.reconciled]
  rcases conserved with ⟨free, none⟩ | ⟨row, one, acc⟩
  · exact .inl ⟨by rw [rowsOf_reconciled, free]; rfl, none⟩
  · by_cases same : row.id = rowId
    · exact .inr ⟨{ row with reconciledAt := some at_ },
        by simp [rowsOf_reconciled, one, updateWhere, same],
        acc.count, acc.tallies, acc.first, acc.rowId, (events row.id).symm ▸ acc.events⟩
    · exact .inr ⟨row, by simp [rowsOf_reconciled, one, updateWhere, same],
        acc.count, acc.tallies, acc.first, acc.rowId, (events row.id).symm ▸ acc.events⟩

/-- The relay's update of an outbox row. -/
lemma Conserved.relayed {eventId attempts : ℕ} {publishedAt : Option Datetime}
    (conserved : Conserved store tenantId key outs) :
    Conserved (relayed eventId publishedAt attempts store) tenantId key outs := by
  rcases conserved with ⟨free, none⟩ | ⟨row, one, acc⟩
  · exact .inl ⟨free, none⟩
  · refine .inr ⟨row, one, acc.count, acc.tallies, acc.first, acc.rowId, ?_⟩
    have kept : ∀ e, (handed publishedAt attempts e).payload = e.payload := fun _ => rfl
    rw [← acc.events, eventsOf, Concurrency.relayed,
      filter_updateWhere_comm (f := handed publishedAt attempts) _ fun _ => rfl, map_updateWhere _ kept,
      eventsOf]

/-- What a step adds to the outcomes of a key is accounted for. -/
lemma Step.conserved (inv : Inv s) (conserved : Conserved s.store tenantId key outs) (st : Step s e u) :
    Conserved u.store tenantId key (outs ++ (outcomeOf tenantId key e).toList) := by
  have inv' := st.inv inv
  cases st with
  | @commit t rest version perm holds =>
    have here := inv.perm perm
    have pending : version.Pending t s.store :=
      (here.valid t List.mem_cons_self).pending version (by rw [holds]; rfl)
    by_cases own : t.submission.tenantId = tenantId ∧ t.submission.idempotencyKey = key
    · obtain ⟨rfl, rfl⟩ := own
      have fresh : t.draws.rowId 0 ∉ (s.store.raw .gateway).map RawRow.id :=
        fun mem => (List.nodup_append.1 here.ids).2.2 _ mem _ List.mem_cons_self rfl
      simpa [outcomeOf] using conserved.own inv pending fresh
    · simpa [outcomeOf, own] using conserved.other inv.rowIds pending inv'.rowIds own
  | reconcile => simpa [outcomeOf] using conserved.reconciled
  | relay => simpa [outcomeOf] using conserved.relayed
  | begin | conflict | insert | bump | enqueue | abort => simpa [outcomeOf] using conserved

lemma outcomes_snoc : outcomes tenantId key (tr ++ [(s, e)]) =
    outcomes tenantId key tr ++ (outcomeOf tenantId key e).toList := by
  cases answered : outcomeOf tenantId key e <;> simp [outcomes, answered]

/-- However `ingest_gateway` transactions interleave and abort: once one has committed for a key, the key
    has one row, which counts the committed submissions but the first; exactly the first to commit is
    answered `duplicate = false`; their tallies are 1, 2, ..., all of them name the row, and the row has
    one outbox event for each, with the same flag and tally. -/
theorem submissions_conserved (run : Run Step (.initial accounts) tr u)
    (some_ : outcomes tenantId key tr ≠ []) :
    ∃ row, rowsOf u.store tenantId key = [row] ∧
      row.duplicateCount = (outcomes tenantId key tr).length - 1 ∧
      (outcomes tenantId key tr).countP (fun o => !o.duplicate) = 1 ∧
      (outcomes tenantId key tr).map IngestOutcome.submissions =
        List.range' 1 (outcomes tenantId key tr).length ∧
      (∀ o ∈ outcomes tenantId key tr, o.rowId = row.id) ∧
      (eventsOf u.store row.id).map OutboxEvent.payload =
        (outcomes tenantId key tr).map (message .gateway) := by
  have conserved : Conserved u.store tenantId key (outcomes tenantId key tr) := by
    clear some_
    induction run with
    | nil => exact .inl ⟨rfl, rfl⟩
    | @snoc tr t e u run st ih =>
      rw [outcomes_snoc]
      exact st.conserved (Inv.reached run) ih
  rcases conserved with ⟨_, none⟩ | ⟨row, one, acc⟩
  · exact absurd none some_
  refine ⟨row, one, by simp [← acc.count], ?_, acc.tallies, acc.rowId, acc.events⟩
  obtain ⟨o, rest, eq, fresh, again⟩ := acc.first
  rw [eq, List.countP_cons, if_pos (by simp [fresh]), countP_eq_zero_of fun o' mem => by
    simp [again o' mem]]

end

/-! Three submissions of one key: the first inserts and aborts while the second waits for it, the third
finds the key committed. -/

namespace Sample

def submission : Submission where
  tenantId := 1
  payload := Ingest.Sample.payload
  idempotencyKey := "key-1"
  rawBody := "body"
  idempotencyKey_length := by decide

/-- The `n`-th transaction. -/
def txn (n : ℕ) (stage : Stage) : Txn := ⟨submission, Ingest.Sample.drawsAfter n, stage⟩

def begins (n : ℕ) : Event := .begin submission (Ingest.Sample.drawsAfter n)

/-- The row the `n`-th transaction inserts. -/
def row (n : ℕ) : RawRow := (txn n .begun).row (.newYear 0)

lemma encodable : submission.Encodable (.newYear 0) :=
  ⟨AwareDatetime.toUtc_utc (.newYear 0), by decide⟩

/-- A transaction that has done nothing blocks nobody. -/
lemma idle {n : ℕ} {tenantId : ℕ} {key : String} :
    ∀ o ∈ [txn n .begun], ¬o.Inserting tenantId key := by
  intro o mem
  obtain rfl := List.mem_singleton.1 mem
  rintro ⟨_, _, _, ⟨⟩⟩

end Sample

open Sample in
theorem submissions_conserved_sample :
    ∃ tr u row, Run Step (.initial [Ingest.Sample.account]) tr u ∧
      outcomes 1 "key-1" tr = [firstReceipt (Sample.row 1), retry (counted (Sample.row 1)) "txn-1"] ∧
      rowsOf u.store 1 "key-1" = [row] ∧
      row.duplicateCount = (outcomes 1 "key-1" tr).length - 1 := by
  have run : Run Step (.initial [Ingest.Sample.account])
      [(_, begins 0), (_, begins 1), (_, .insert (txn 0 .begun)),
        (_, .abort (txn 0 (.wrote (.insert (Sample.row 0))))), (_, .insert (txn 1 .begun)),
        (_, .enqueue (txn 1 (.wrote (.insert (Sample.row 1))))),
        (_, .commit (txn 1 (.enqueued (.insert (Sample.row 1)))) (firstReceipt (Sample.row 1))),
        (_, begins 2), (_, .insert (txn 2 .begun)), (_, .bump (txn 2 .conflicted)),
        (_, .enqueue (txn 2 (.wrote (.update (counted (Sample.row 1)))))),
        (_, .commit (txn 2 (.enqueued (.update (counted (Sample.row 1)))))
          (retry (counted (Sample.row 1)) "txn-1"))] _ :=
    .cons (.begin (by decide)) <|
    .cons (.begin (by decide)) <|
    .cons (.insert (.swap _ _ _) rfl encodable idle rfl rfl) <|
    .cons (.abort (.refl _)) <|
    .cons (.insert (.refl _) rfl encodable (by rintro _ ⟨⟩) rfl rfl) <|
    .cons (.enqueue (.refl _) rfl) <|
    .cons (@Step.commit _ _ _ (.insert (Sample.row 1)) (.refl _) rfl) <|
    .cons (.begin (by decide)) <|
    .cons (.conflict (.refl _) rfl encodable (by rintro _ ⟨⟩) rfl) <|
    .cons (.bump (.refl _) rfl rfl (by rintro _ ⟨⟩)) <|
    .cons (.enqueue (.refl _) rfl) <|
    .cons (@Step.commit _ _ _ (.update (counted (Sample.row 1))) (.refl _) rfl) .nil
  obtain ⟨row, one, count, _⟩ :=
    @submissions_conserved _ 1 "key-1" _ _ run (List.cons_ne_nil (firstReceipt (Sample.row 1)) _)
  exact ⟨_, _, row, run, rfl, one, count⟩

end Concurrency
end LedgerLoop
