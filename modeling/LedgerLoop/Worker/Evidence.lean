import LedgerLoop.Worker.Invariant

/-!
# Evidence is append-only

A stored raw row is the record of what arrived. No writer but retention removes it, and the columns of
a row that any writer touches are its `duplicate_count`, which only grows, and its `reconciled_at`,
which is set once (`RawRow.Follows`). Results are never touched after their insert.

`FirstSubmission` says where the other columns come from: the first accepted call that submitted the
row's key, and within a batch the first entry with the key.
-/

set_option autoImplicit false

namespace LedgerLoop
open LedgerLoop.Library

/-- The columns of a raw row that are evidence of what arrived. -/
structure Evidence where
  tenantId : ℕ
  txnId : String
  amount : Money
  currency : String
  occurredAt : Datetime
  ref : String
  rawPayload : RawPayload
  idempotencyKey : String
  receivedAt : Datetime
deriving DecidableEq, Repr

namespace RawRow

/-- The evidence a row holds. -/
def evidence (row : RawRow) : Evidence where
  tenantId := row.tenantId
  txnId := row.txnId
  amount := row.amount
  currency := row.currency
  occurredAt := row.occurredAt
  ref := row.ref
  rawPayload := row.rawPayload
  idempotencyKey := row.idempotencyKey
  receivedAt := row.receivedAt

/-- `later` is `row` at a later time: same id and evidence, a tally that did not shrink, and a
    `reconciled_at` that was not changed once set. -/
structure Follows (row later : RawRow) : Prop where
  id : later.id = row.id
  evidence : later.evidence = row.evidence
  duplicateCount : row.duplicateCount ≤ later.duplicateCount
  reconciledAt : ∀ d, row.reconciledAt = some d → later.reconciledAt = some d

lemma Follows.refl (row : RawRow) : row.Follows row := ⟨rfl, rfl, le_rfl, fun _ eq => eq⟩

lemma Follows.trans {a b c : RawRow} (ab : a.Follows b) (bc : b.Follows c) : a.Follows c where
  id := bc.id.trans ab.id
  evidence := bc.evidence.trans ab.evidence
  duplicateCount := ab.duplicateCount.trans bc.duplicateCount
  reconciledAt d eq := bc.reconciledAt d (ab.reconciledAt d eq)

end RawRow

/-- Every row of one table is followed by one of the other. -/
def Kept (rows rows' : List RawRow) : Prop := ∀ row ∈ rows, ∃ later ∈ rows', row.Follows later

namespace Kept
variable {rows rows' rows'' new : List RawRow}

lemma refl (rows : List RawRow) : Kept rows rows := fun row mem => ⟨row, mem, .refl row⟩

lemma trans (first : Kept rows rows') (second : Kept rows' rows'') : Kept rows rows'' := by
  intro row mem
  obtain ⟨mid, memMid, follows⟩ := first row mem
  obtain ⟨later, memLater, follows'⟩ := second mid memMid
  exact ⟨later, memLater, follows.trans follows'⟩

/-- An insert keeps the rows that are there. -/
lemma append (rows new : List RawRow) : Kept rows (rows ++ new) :=
  fun row mem => ⟨row, List.mem_append_left _ mem, .refl row⟩

/-- An update keeps the rows if it leaves each of them in a state that follows. -/
lemma updateWhere {p : RawRow → Bool} {f : RawRow → RawRow}
    (follows : ∀ row, p row = true → row.Follows (f row)) : Kept rows (updateWhere p f rows) := by
  intro row mem
  cases selected : p row with
  | true => exact ⟨f row, mem_updateWhere.2 (.inl ⟨row, mem, selected, rfl⟩), follows row selected⟩
  | false => exact ⟨row, mem_updateWhere.2 (.inr ⟨mem, selected⟩), .refl row⟩

end Kept

/-- The first submission of its key in a call: what the row it makes is evidence of. -/
inductive IngestCall.Submits (draws : IngestDraws) : IngestCall → Evidence → Prop where
  | gateway {tenantId payload idempotencyKey rawBody occurredAt} :
    payload.occurredAt.toUtc = .ok occurredAt →
    Submits draws (.gateway tenantId payload idempotencyKey rawBody)
      { tenantId := tenantId, txnId := payload.txnId, amount := payload.amount
        currency := payload.currency, occurredAt := occurredAt, ref := payload.gatewayRef
        rawPayload := .body rawBody, idempotencyKey := Ingest.columnOf idempotencyKey
        receivedAt := draws.now }
  | ledger {tenantId entries entry occurredAt} :
    entries.find? (·.idempotencyKey == entry.idempotencyKey) = some entry →
    entry.occurredAt.toUtc = .ok occurredAt →
    Submits draws (.ledger tenantId entries)
      { tenantId := tenantId, txnId := entry.txnId, amount := entry.amount
        currency := entry.currency, occurredAt := occurredAt, ref := entry.entryId
        rawPayload := .modelDump entry, idempotencyKey := entry.idempotencyKey
        receivedAt := draws.now }

/-- A call submits a key of a tenant, as its column holds it. -/
def IngestCall.HasKey (tenantId : ℕ) (key : String) : IngestCall → Prop
  | .gateway tenant _ idempotencyKey _ => tenant = tenantId ∧ Ingest.columnOf idempotencyKey = key
  | .ledger tenant entries => tenant = tenantId ∧ ∃ entry ∈ entries, entry.idempotencyKey = key

namespace Ingest
variable {s s' : Store} {side : IngestSource} {tenantId delta : ℕ} {key : String}
  {rows new : List RawRow} {row : RawRow} {entries : List LedgerEntryIn} {draws : IngestDraws}
  {call : IngestCall} {outcomes : List IngestOutcome}

/-- Counting a retry keeps every row. -/
lemma kept_bump : Kept rows (bump tenantId key delta rows) :=
  Kept.updateWhere fun _ _ => ⟨rfl, rfl, Nat.le_add_right _ _, fun _ eq => eq⟩

/-- A batch keeps every row. -/
lemma kept_tableOf : Kept (s.raw .ledger) (tableOf s tenantId entries new) := by
  have fold (incs : List (String × ℕ)) (rows : List RawRow) :
      Kept rows (incs.foldl (fun rows inc => bump tenantId inc.1 inc.2 rows) rows) := by
    induction incs generalizing rows with
    | nil => exact .refl rows
    | cons inc incs ih => exact kept_bump.trans (ih _)
  exact (Kept.append _ _).trans (fold _ _)

/-- Every call keeps every row. -/
lemma run_kept (ok : run s draws call = .ok (s', outcomes)) : Kept (s.raw side) (s'.raw side) := by
  cases call with
  | gateway tenantId payload idempotencyKey rawBody =>
    simp only [run, Except.map] at ok
    split at ok
    · cases ok
    rename_i result eq
    obtain ⟨s1, outcome⟩ := result
    obtain ⟨rfl, _⟩ := Prod.mk.inj (Except.ok.inj ok)
    obtain ⟨_, _, _, _, _, ⟨_, _, _, _, rfl⟩ | ⟨_, _, _, rfl⟩⟩ := ingestGateway_ok eq <;> rw [raw_enqueue]
    · cases side with
      | gateway => simpa using kept_bump
      | ledger => exact .refl _
    · cases side with
      | gateway => simpa using Kept.append _ _
      | ledger => exact .refl _
  | ledger tenantId entries =>
    by_cases ne : entries = []
    · subst ne
      obtain ⟨rfl, _⟩ := Prod.mk.inj (Except.ok.inj ok)
      exact .refl _
    obtain ⟨tuples, announced, _, _, _, _, rfl⟩ := ingestLedgerBatch_ok ne ok
    rw [raw_enqueue]
    cases side with
    | gateway => exact .refl _
    | ledger => simpa using kept_tableOf

/-- A tuple of the batch insert is the first submission of its key. -/
lemma submits_of_mem_ledgerRows {tuples : List RawRow}
    (ok : ledgerRows tenantId (Dict.firstBy (·.idempotencyKey) entries) draws = .ok tuples)
    (mem : row ∈ tuples) : (IngestCall.ledger tenantId entries).Submits draws row.evidence := by
  obtain ⟨⟨⟨key, entry⟩, i⟩, memX, occurredAt, utc, rfl⟩ :=
    exists_of_mem_forall₂ (ledgerRows_ok ok) mem
  have listed := List.mem_of_getElem? (List.mem_zipIdx_iff_getElem?.1 memX)
  have first := Dict.find?_of_mem_firstBy listed
  rw [← (Dict.of_mem_firstBy listed).2] at first
  exact .ledger first utc

/-- A row after a call was there before, up to its tally, or is the first submission of a key that
    was not stored. -/
lemma run_row (ok : run s draws call = .ok (s', outcomes)) (mem : row ∈ s'.raw side) :
    (∃ r0 ∈ s.raw side, row.evidence = r0.evidence) ∨
      (side = call.side ∧ stored s side row.tenantId row.idempotencyKey = false ∧
        call.Submits draws row.evidence) := by
  cases call with
  | gateway tenantId payload idempotencyKey rawBody =>
    simp only [run, Except.map] at ok
    split at ok
    · cases ok
    rename_i result eq
    obtain ⟨s1, outcome⟩ := result
    obtain ⟨rfl, _⟩ := Prod.mk.inj (Except.ok.inj ok)
    obtain ⟨column, occurredAt, held, _, utc, ⟨_, _, _, _, rfl⟩ | ⟨absent, _, _, rfl⟩⟩ :=
      ingestGateway_ok eq <;> rw [raw_enqueue] at mem
    · cases side with
      | gateway =>
        rw [Store.raw_setRaw] at mem
        obtain ⟨r0, mem0, erased⟩ := of_mem_bump mem
        exact .inl ⟨r0, mem0, by rw [erased]; rfl⟩
      | ledger => exact .inl ⟨row, mem, rfl⟩
    · cases side with
      | gateway =>
        rw [Store.raw_setRaw, List.mem_append, List.mem_singleton] at mem
        rcases mem with old | rfl
        · exact .inl ⟨row, old, rfl⟩
        · obtain rfl := columnOf_eq held
          exact .inr ⟨rfl, absent, .gateway utc⟩
      | ledger => exact .inl ⟨row, mem, rfl⟩
  | ledger tenantId entries =>
    by_cases ne : entries = []
    · subst ne
      obtain ⟨rfl, _⟩ := Prod.mk.inj (Except.ok.inj ok)
      exact .inl ⟨row, mem, rfl⟩
    obtain ⟨tuples, announced, rowsOk, _, _, _, rfl⟩ := ingestLedgerBatch_ok ne ok
    rw [raw_enqueue] at mem
    cases side with
    | gateway => exact .inl ⟨row, mem, rfl⟩
    | ledger =>
      rw [Store.raw_setRaw] at mem
      obtain ⟨r0, mem0, erased⟩ := of_mem_tableOf mem
      have same : row.evidence = r0.evidence := by rw [erased]; rfl
      rcases List.mem_append.1 mem0 with old | fresh
      · exact .inl ⟨r0, old, same⟩
      · obtain ⟨memT, absent⟩ := List.mem_filter.1 fresh
        have tenant : r0.tenantId = tenantId := by
          obtain ⟨_, _, _, _, eq⟩ := mem_ledgerRows rowsOk memT
          exact eq
        have keyEq : row.idempotencyKey = r0.idempotencyKey := congrArg Evidence.idempotencyKey same
        have tenantEq : row.tenantId = r0.tenantId := congrArg Evidence.tenantId same
        refine .inr ⟨rfl, ?_, same ▸ submits_of_mem_ledgerRows rowsOk memT⟩
        rw [keyEq, tenantEq, tenant]
        simpa using absent

lemma stored_iff : stored s side tenantId key = true ↔
    ∃ row ∈ s.raw side, row.tenantId = tenantId ∧ row.idempotencyKey = key := by
  simp [stored, holdsKey]

/-- A key is stored once it was. -/
lemma stored_of_kept (kept : Kept (s.raw side) (s'.raw side))
    (held : stored s side tenantId key = true) : stored s' side tenantId key = true := by
  obtain ⟨row, mem, tenant, keyEq⟩ := stored_iff.1 held
  obtain ⟨later, memLater, follows⟩ := kept row mem
  refine stored_iff.2 ⟨later, memLater, ?_, ?_⟩
  · exact (congrArg Evidence.tenantId follows.evidence).trans tenant
  · exact (congrArg Evidence.idempotencyKey follows.evidence).trans keyEq

/-- Every key a call submits is stored after it. -/
lemma stored_of_hasKey (ok : run s draws call = .ok (s', outcomes))
    (has : call.HasKey tenantId key) : stored s' call.side tenantId key = true := by
  cases call with
  | gateway tenant payload idempotencyKey rawBody =>
    obtain ⟨rfl, rfl⟩ := has
    have kept : Kept (s.raw .gateway) (s'.raw .gateway) := run_kept ok
    simp only [run, Except.map] at ok
    split at ok
    · cases ok
    rename_i result eq
    obtain ⟨s1, outcome⟩ := result
    obtain ⟨rfl, _⟩ := Prod.mk.inj (Except.ok.inj ok)
    obtain ⟨column, occurredAt, fits, _, _, ⟨held, _⟩ | ⟨_, _, _, rfl⟩⟩ := ingestGateway_ok eq
    · exact stored_of_kept kept (columnOf_eq fits ▸ held)
    · refine stored_iff.2 ⟨gatewayRow tenant payload column rawBody occurredAt draws, ?_, rfl,
        (columnOf_eq fits).symm⟩
      rw [IngestCall.side, raw_enqueue, Store.raw_setRaw]
      exact List.mem_append_right _ (List.mem_singleton_self _)
  | ledger tenant entries =>
    obtain ⟨rfl, entry, memE, rfl⟩ := has
    have kept : Kept (s.raw .ledger) (s'.raw .ledger) := run_kept ok
    have ne : entries ≠ [] := List.ne_nil_of_mem memE
    obtain ⟨tuples, announced, rowsOk, _, _, _, rfl⟩ := ingestLedgerBatch_ok ne ok
    obtain ⟨r, memT, keyEq⟩ := exists_ledgerRow rowsOk memE
    by_cases held : stored s .ledger tenant entry.idempotencyKey = true
    · exact stored_of_kept kept held
    · obtain ⟨_, _, _, _, tenantEq⟩ := mem_ledgerRows rowsOk memT
      have fresh : r ∈ newRows s tenant tuples := by simp [newRows, memT, keyEq, held]
      have listed : (r.tenantId, r.idempotencyKey) ∈
          (tableOf s tenant entries (newRows s tenant tuples)).map
            fun r => (r.tenantId, r.idempotencyKey) := by
        rw [map_tableOf fun _ _ => rfl]
        exact List.mem_map_of_mem (List.mem_append_right _ fresh)
      obtain ⟨row, mem, pair⟩ := List.mem_map.1 listed
      obtain ⟨tenantRow, keyRow⟩ := Prod.mk.inj pair
      refine stored_iff.2 ⟨row, ?_, tenantRow.trans tenantEq, keyRow.trans keyEq⟩
      rwa [IngestCall.side, raw_enqueue, Store.raw_setRaw]

end Ingest

namespace System
open Persist

section Steps
variable {config : MatchConfig} {s u : Sys} {e : Event} {side : IngestSource} {row : RawRow}

/-- Marking the rows of a decision keeps every row. -/
lemma kept_settle {store : Store} {d : Decision} {r : ReconciliationResult} {draws : Draws} :
    Kept (store.raw side) ((settle store d r draws).1.raw side) := by
  rw [settle_raw]
  split_ifs
  · exact .refl _
  cases d.rowId side with
  | none => exact .refl _
  | some id =>
    refine Kept.updateWhere fun row selected => ⟨rfl, rfl, le_rfl, fun d eq => ?_⟩
    simp [RawRow.pending, eq] at selected

/-- What a step leaves of the evidence: every row and every result, and nothing a deletion does. -/
structure Sys.Appends (s u : Sys) : Prop where
  rows : ∀ side, Kept (s.store.raw side) (u.store.raw side)
  results : ∀ r ∈ s.store.reconciliationResults, r ∈ u.store.reconciliationResults

lemma Sys.Appends.refl (s : Sys) : s.Appends s := ⟨fun _ => .refl _, fun _ mem => mem⟩

lemma Sys.Appends.trans {s t u : Sys} (st : s.Appends t) (tu : t.Appends u) : s.Appends u :=
  ⟨fun side => (st.rows side).trans (tu.rows side), fun r mem => tu.results r (st.results r mem)⟩

/-- Every step but a deletion appends. -/
lemma Step.appends (st : Step config s e u) (kept : ∀ accountId, e ≠ .deleteAccount accountId) :
    s.Appends u := by
  cases st with
  | openAccount => exact ⟨fun side => by cases side <;> exact .refl _, fun _ mem => mem⟩
  | ingest fresh ok =>
    refine ⟨fun _ => Ingest.run_kept ok, fun r mem => ?_⟩
    exact (Ingest.run_effect ok).results.symm ▸ mem
  | load | find | ack | scan | beginRow | abandon => exact ⟨fun _ => .refl _, fun _ mem => mem⟩
  | apply writing fresh ok =>
    obtain ⟨r, _, ⟨_, rfl⟩ | ⟨_, _, rfl⟩⟩ := persist_ok ok
    · exact ⟨fun _ => .refl _, fun _ mem => mem⟩
    · refine ⟨fun _ => kept_settle, fun r' mem => ?_⟩
      change r' ∈ (settle _ _ _ _).1.reconciliationResults
      rw [settle_results]
      exact List.mem_append_left _ mem
  | deleteAccount => exact absurd rfl (kept _)
  | closeException ok =>
    simp only [Queries.closeException] at ok
    split_ifs at ok
    obtain ⟨rfl, _⟩ := Prod.mk.inj (Except.ok.inj ok)
    exact ⟨fun side => by cases side <;> exact .refl _, fun _ mem => mem⟩

/-- Evidence a step adds to a table is the first submission of a key that was not stored. -/
lemma Step.of_mem_raw (st : Step config s e u) (mem : row ∈ u.store.raw side) :
    (∃ r0 ∈ s.store.raw side, row.evidence = r0.evidence) ∨
      ∃ call draws, e = .ingest call draws ∧ side = call.side ∧
        Ingest.stored s.store side row.tenantId row.idempotencyKey = false ∧
        call.Submits draws row.evidence := by
  cases st with
  | openAccount => exact .inl ⟨row, by cases side <;> exact mem, rfl⟩
  | ingest fresh ok =>
    rcases Ingest.run_row ok mem with old | ⟨rfl, absent, submits⟩
    · exact .inl old
    · exact .inr ⟨_, _, rfl, rfl, absent, submits⟩
  | load | find | ack | scan | beginRow | abandon => exact .inl ⟨row, mem, rfl⟩
  | apply writing fresh ok =>
    obtain ⟨r, _, ⟨_, rfl⟩ | ⟨_, _, rfl⟩⟩ := persist_ok ok
    · exact .inl ⟨row, mem, rfl⟩
    · obtain ⟨r0, mem0, eq, _⟩ := Consistent.of_mem_settle mem
      exact .inl ⟨r0, mem0, by rw [eq]; rfl⟩
  | deleteAccount =>
    rename_i accountId
    have mem' : row ∈ (Sweeper.deleteAccount s.store accountId).raw side := mem
    rw [Sweeper.raw_deleteAccount] at mem'
    exact .inl ⟨row, (mem_deleteWhere.1 mem').1, rfl⟩
  | closeException ok =>
    simp only [Queries.closeException] at ok
    split_ifs at ok
    obtain ⟨rfl, _⟩ := Prod.mk.inj (Except.ok.inj ok)
    exact .inl ⟨row, by cases side <;> exact mem, rfl⟩

end Steps

/-- `ev` is what the first accepted call of a trace that submitted its key on a side submitted. -/
def FirstSubmission (tr : List (Sys × Event)) (side : IngestSource) (ev : Evidence) : Prop :=
  ∃ tr0 t call draws tr1, tr = tr0 ++ (t, .ingest call draws) :: tr1 ∧ call.side = side ∧
    call.Submits draws ev ∧
    ∀ t' call' draws', (t', .ingest call' draws') ∈ tr0 → call'.side = side →
      ¬call'.HasKey ev.tenantId ev.idempotencyKey

section Runs
variable {config : MatchConfig} {tr : List (Sys × Event)} {u : Sys} {side : IngestSource}
  {row : RawRow}

lemma FirstSubmission.snoc {p : Sys × Event} {ev : Evidence} (first : FirstSubmission tr side ev) :
    FirstSubmission (tr ++ [p]) side ev := by
  obtain ⟨tr0, t, call, draws, tr1, rfl, sideEq, submits, earlier⟩ := first
  exact ⟨tr0, t, call, draws, tr1 ++ [p], by simp, sideEq, submits, earlier⟩

/-- A key that an accepted call of the trace submitted is stored. -/
lemma stored_of_trace (run : Run (Step config) Sys.initial tr u)
    (kept : ∀ p ∈ tr, ∀ accountId, p.2 ≠ .deleteAccount accountId) {t call draws tenantId key}
    (mem : (t, .ingest call draws) ∈ tr) (has : IngestCall.HasKey tenantId key call) :
    Ingest.stored u.store call.side tenantId key = true := by
  obtain ⟨tr0, tr1, v, eq, _, st, rest⟩ := run.split mem
  have appends : v.Appends u := by
    have later : ∀ p ∈ tr1, ∀ accountId, p.2 ≠ .deleteAccount accountId :=
      fun p memP => kept p (eq ▸ by simp [memP])
    exact (rest.restrict later).grows Sys.Appends.refl Sys.Appends.trans
      fun st => st.1.appends st.2
  refine Ingest.stored_of_kept (appends.rows _) ?_
  cases st with
  | ingest fresh ok => exact Ingest.stored_of_hasKey ok has

/-- Every stored row is the first accepted submission of its key. -/
lemma firstSubmission (run : Run (Step config) Sys.initial tr u)
    (kept : ∀ p ∈ tr, ∀ accountId, p.2 ≠ .deleteAccount accountId) (mem : row ∈ u.store.raw side) :
    FirstSubmission tr side row.evidence := by
  induction run generalizing row with
  | nil => cases side <;> cases mem
  | @snoc tr t e u run st ih =>
    have before : ∀ p ∈ tr, ∀ accountId, p.2 ≠ .deleteAccount accountId :=
      fun p memP => kept p (List.mem_append_left _ memP)
    rcases st.of_mem_raw mem with ⟨r0, mem0, same⟩ | ⟨call, draws, rfl, rfl, absent, submits⟩
    · rw [same]
      exact (ih before mem0).snoc
    · refine ⟨tr, t, call, draws, [], rfl, rfl, submits, ?_⟩
      intro t' call' draws' mem' sideEq has
      have held := stored_of_trace run before mem' has
      rw [sideEq] at held
      exact absurd held (by rw [Bool.not_eq_true]; exact absent)

/-- Along every run without account deletions: whatever row is stored at some time, the row with its id
    at any later time follows it; every row holds what the first accepted submission of its key
    submitted; and every result written at some time is there unchanged at any later time. -/
theorem evidence_append_only (run : Run (Step config) Sys.initial tr u)
    (kept : ∀ p ∈ tr, ∀ accountId, p.2 ≠ .deleteAccount accountId) :
    (∀ p ∈ tr, ∀ side, ∀ row ∈ p.1.store.raw side,
      (∃ later ∈ u.store.raw side, later.id = row.id) ∧
        ∀ later ∈ u.store.raw side, later.id = row.id → row.Follows later) ∧
    (∀ side, ∀ row ∈ u.store.raw side, FirstSubmission tr side row.evidence) ∧
    (∀ p ∈ tr, ∀ r ∈ p.1.store.reconciliationResults,
      r ∈ u.store.reconciliationResults ∧
        ∀ later ∈ u.store.reconciliationResults, later.id = r.id → later = r) := by
  have consistent := (Sys.Inv.reached run).consistent
  have appends : ∀ p ∈ tr, p.1.Appends u :=
    (run.restrict kept).grows_from Sys.Appends.refl Sys.Appends.trans fun st => st.1.appends st.2
  refine ⟨fun p memP side row mem => ?_, fun side row => firstSubmission run kept,
    fun p memP r memR => ?_⟩
  · obtain ⟨later, memLater, follows⟩ := (appends p memP).rows side row mem
    refine ⟨⟨later, memLater, follows.id⟩, fun later' memLater' same => ?_⟩
    obtain rfl := eq_of_key (consistent.rawIds side) memLater' memLater (same.trans follows.id.symm)
    exact follows
  · have still := (appends p memP).results r memR
    exact ⟨still, fun later mem same => eq_of_key consistent.resultIds mem still same⟩

end Runs

/-- The deletions of retention. -/
def Event.deletes : Event → Bool
  | .deleteAccount _ => true
  | _ => false

namespace Sample

def otherAmount : GatewayWebhookIn :=
  { Ingest.Sample.payload with
    amount := ⟨20000, by decide⟩
    amount_nonzero := by decide }

/-- The payment's key comes again, with another amount and another body. -/
def retried : List Event :=
  events ++ [.ingest (.gateway 1 otherAmount "key-1" "{}") (Ingest.Sample.drawsAfter 1)]

end Sample

/-- The row counts the retry and keeps what it had. -/
theorem evidence_append_only_sample :
    ∃ tr u, replay (step .shipped) Sys.initial Sample.retried = some (tr, u) ∧
      (u.store.raw .gateway).map (fun row => (row.amount.minor, row.rawPayload, row.duplicateCount)) =
        [(10000, .body "null", 1)] ∧
      (∀ side, ∀ row ∈ u.store.raw side, FirstSubmission tr side row.evidence) ∧
      ∀ p ∈ tr, ∀ r ∈ p.1.store.reconciliationResults, r ∈ u.store.reconciliationResults := by
  have runs : ((replay (step .shipped) Sys.initial Sample.retried).map fun p =>
      ((p.2.store.raw .gateway).map fun row => (row.amount.minor, row.rawPayload, row.duplicateCount),
        p.1.all fun q => !q.2.deletes)) = some ([(10000, .body "null", 1)], true) := by decide +kernel
  obtain ⟨⟨tr, u⟩, eq, facts⟩ := Option.map_eq_some_iff.1 runs
  obtain ⟨rows, events⟩ := Prod.mk.inj facts
  obtain ⟨_, first, results⟩ := evidence_append_only (.of_replay step_iff.1 eq) fun p mem accountId deleted =>
    by simpa [deleted, Event.deletes] using List.all_eq_true.1 events p mem
  exact ⟨tr, u, eq, rows, first, fun p mem r memR => (results p mem r memR).1⟩

end System
end LedgerLoop
