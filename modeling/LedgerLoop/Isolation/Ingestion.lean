import LedgerLoop.Isolation.Alone

/-!
# Ingestion in isolation

Every statement of an ingestion transaction names the tenant: the conflict target and the bump of the
duplicate count by `(tenant_id, idempotency_key)`, the read-back by `tenant_id`. So a call of the tenant
does the same in the store it has by itself, up to the ids it draws, whatever keys the others use, and
a call of another tenant leaves its slice alone.
-/

set_option autoImplicit false

namespace LedgerLoop
open LedgerLoop.Library

namespace Isolation
open Ingest

section Rows
variable {ρ : Renaming} {A tenantId : ℕ} {s s' : Store} {side : IngestSource} {key : String}
  {delta : ℕ} {rows rows' new : List RawRow} {incs : List (String × ℕ)}

/-- Replacing a raw table on both sides. -/
lemma Alone.setRaw (alone : Alone ρ A s s')
    (slice : Slice (ownRow A) (RawRow.rename ρ side) rows rows')
    (ids : ∀ row ∈ rows, row.id ∈ Set.range (ρ.row side) → row.tenantId = A) :
    Alone ρ A (s.setRaw side rows) (s'.setRaw side rows') where
  accounts := by simp [alone.accounts]
  rows t := by
    by_cases eq : side = t
    · subst eq
      rwa [Store.raw_setRaw, Store.raw_setRaw]
    · rw [Store.raw_setRaw_ne _ _ _ _ eq, Store.raw_setRaw_ne _ _ _ _ eq]
      exact alone.rows t
  results := by simpa using alone.results
  exceptions := by simpa using alone.exceptions
  rowIds t row mem := by
    by_cases eq : side = t
    · subst eq
      exact ids row (by rwa [Store.raw_setRaw] at mem)
    · rw [Store.raw_setRaw_ne _ _ _ _ eq] at mem
      exact alone.rowIds t row mem
  resultIds := by simpa using alone.resultIds
  exceptionResults := by simpa using alone.exceptionResults

/-- Replacing a raw table by one with the same slice. -/
lemma Alone.setRaw_foreign (alone : Alone ρ A s s')
    (slice : Slice (ownRow A) (RawRow.rename ρ side) rows (s'.raw side))
    (ids : ∀ row ∈ rows, row.id ∈ Set.range (ρ.row side) → row.tenantId = A) :
    Alone ρ A (s.setRaw side rows) s' := by
  have same : s'.setRaw side (s'.raw side) = s' := by cases side <;> rfl
  exact same ▸ alone.setRaw slice ids

/-- Events in the outbox are nobody's rows. -/
lemma Alone.enqueue (alone : Alone ρ A s s') {source source' : IngestSource}
    {outcomes outcomes' : List IngestOutcome} {draws draws' : IngestDraws} :
    Alone ρ A (enqueue s source outcomes draws) (enqueue s' source' outcomes' draws') :=
  ⟨alone.accounts, fun side => by simpa using alone.rows side, alone.results, alone.exceptions,
    fun side => by simpa using alone.rowIds side, alone.resultIds, alone.exceptionResults⟩

lemma Alone.enqueue_foreign (alone : Alone ρ A s s') {source : IngestSource}
    {outcomes : List IngestOutcome} {draws : IngestDraws} :
    Alone ρ A (Ingest.enqueue s source outcomes draws) s' :=
  ⟨alone.accounts, fun side => by simpa using alone.rows side, alone.results, alone.exceptions,
    fun side => by simpa using alone.rowIds side, alone.resultIds, alone.exceptionResults⟩

/-- The index on `(tenant_id, idempotency_key)` is probed for the tenant's own keys. -/
lemma Alone.stored (alone : Alone ρ A s s') : stored s side A key = stored s' side A key :=
  (alone.rows side).any (fun r _ sel => by simp_all [holdsKey, ownRow]) fun _ _ => rfl

lemma bump_own (slice : Slice (ownRow A) (RawRow.rename ρ side) rows rows') :
    Slice (ownRow A) (RawRow.rename ρ side) (bump A key delta rows) (bump A key delta rows') :=
  slice.update (fun _ => rfl) (fun _ _ => rfl) fun _ => rfl

lemma bump_foreign (foreign : tenantId ≠ A)
    (slice : Slice (ownRow A) (RawRow.rename ρ side) rows rows') :
    Slice (ownRow A) (RawRow.rename ρ side) (bump tenantId key delta rows) rows' := by
  refine slice.update_foreign (fun _ => rfl) fun r _ sel => ?_
  have tenant : r.tenantId = tenantId := by simp_all [holdsKey]
  simp [ownRow, tenant, foreign]

/-- The updates of a batch, one for each incremented key. -/
lemma bumps_own (slice : Slice (ownRow A) (RawRow.rename ρ side) rows rows') :
    Slice (ownRow A) (RawRow.rename ρ side)
      (incs.foldl (fun rows inc => bump A inc.1 inc.2 rows) rows)
      (incs.foldl (fun rows inc => bump A inc.1 inc.2 rows) rows') := by
  induction incs generalizing rows rows' with
  | nil => exact slice
  | cons inc incs ih => exact ih (bump_own slice)

lemma bumps_foreign (foreign : tenantId ≠ A)
    (slice : Slice (ownRow A) (RawRow.rename ρ side) rows rows') :
    Slice (ownRow A) (RawRow.rename ρ side)
      (incs.foldl (fun rows inc => bump tenantId inc.1 inc.2 rows) rows) rows' := by
  induction incs generalizing rows with
  | nil => exact slice
  | cons inc incs ih => exact ih (bump_foreign foreign slice)

/-- The ids of a table that has been bumped are still the tenant's. -/
lemma rowIds_bump (ids : ∀ row ∈ rows, row.id ∈ Set.range (ρ.row side) → row.tenantId = A) :
    ∀ row ∈ bump tenantId key delta rows, row.id ∈ Set.range (ρ.row side) → row.tenantId = A := by
  intro row mem range
  obtain ⟨r0, mem0, eq⟩ := of_mem_bump mem
  rw [eq] at range ⊢
  exact ids r0 mem0 range

end Rows

section Gateway
variable {ρ : Renaming} {A tenantId : ℕ} {s s' t : Store} {payload : GatewayWebhookIn}
  {idempotencyKey rawBody : String} {draws draws' : IngestDraws} {outcome : IngestOutcome}

/-- A webhook of the tenant. -/
lemma Alone.ingestGateway (alone : Alone ρ A s s') (now : draws.now = draws'.now)
    (drawn : draws.rowId 0 = ρ.row .gateway (draws'.rowId 0))
    (ok : ingestGateway s A payload idempotencyKey rawBody draws = .ok (t, outcome)) :
    ∃ t' outcome', ingestGateway s' A payload idempotencyKey rawBody draws' = .ok (t', outcome') ∧
      outcome = outcome'.rename ρ .gateway ∧ Alone ρ A t t' := by
  have clean := clean_of_ingestGateway ok
  obtain ⟨column, occurredAt, held, fits, utc, did⟩ := ingestGateway_ok ok
  simp only [Ingest.ingestGateway, utc, bind, Except.bind, clean, held, Bool.false_eq_true, if_false]
  rw [alone.stored] at fits did
  rcases did with ⟨old, existing, one, rfl, rfl⟩ | ⟨new, account, rfl, rfl⟩
  · obtain rfl := fits old
    have slice : Slice (ownRow A) (RawRow.rename ρ .gateway)
        (bump A column 1 (s.raw .gateway)) (bump A column 1 (s'.raw .gateway)) :=
      bump_own (alone.rows .gateway)
    have read : (bump A column 1 (s.raw .gateway)).filter (holdsKey A column) =
        ((bump A column 1 (s'.raw .gateway)).filter (holdsKey A column)).map (RawRow.rename ρ .gateway) :=
      slice.filter (fun r _ sel => by simp_all [holdsKey, ownRow]) fun _ _ => rfl
    rw [one, eq_comm, List.map_eq_singleton_iff] at read
    obtain ⟨existing', one', rfl⟩ := read
    simp only [old, one', if_true, ne_eq, not_true_eq_false, if_false]
    exact ⟨_, _, rfl, rfl, (alone.setRaw slice (rowIds_bump (alone.rowIds .gateway))).enqueue⟩
  · rw [alone.hasAccount] at account
    simp only [new, account, Bool.true_eq_false, Bool.false_eq_true, if_false]
    have row : gatewayRow A payload column rawBody occurredAt draws =
        (gatewayRow A payload column rawBody occurredAt draws').rename ρ .gateway := by
      simp [gatewayRow, RawRow.rename, drawn, now]
    rw [row]
    refine ⟨_, _, rfl, rfl, (alone.setRaw ?_ fun r mem range => ?_).enqueue⟩
    · exact (alone.rows .gateway).concat (by simp [ownRow, RawRow.rename, gatewayRow])
    · rcases List.mem_append.1 mem with old | new
      · exact alone.rowIds .gateway r old range
      · obtain rfl := List.mem_singleton.1 new
        rfl

/-- A webhook of another tenant. -/
lemma Alone.ingestGateway_foreign (alone : Alone ρ A s s') (foreign : tenantId ≠ A)
    (fresh : draws.rowId 0 ∉ Set.range (ρ.row .gateway))
    (ok : Ingest.ingestGateway s tenantId payload idempotencyKey rawBody draws = .ok (t, outcome)) :
    Alone ρ A t s' := by
  obtain ⟨_, occurredAt, _, _, _, ⟨_, existing, _, _, rfl⟩ | ⟨_, _, _, rfl⟩⟩ := ingestGateway_ok ok
  · exact (alone.setRaw_foreign (bump_foreign foreign (alone.rows .gateway))
      (rowIds_bump (alone.rowIds .gateway))).enqueue_foreign
  · refine (alone.setRaw_foreign ?_ fun r mem range => ?_).enqueue_foreign
    · exact (alone.rows .gateway).append_foreign (by simp [ownRow, gatewayRow, foreign])
    · rcases List.mem_append.1 mem with old | new
      · exact alone.rowIds .gateway r old range
      · obtain rfl := List.mem_singleton.1 new
        exact absurd range fresh

end Gateway

section Ledger
variable {ρ : Renaming} {A tenantId : ℕ} {s s' t : Store} {entries : List LedgerEntryIn}
  {keys : List (String × LedgerEntryIn)} {new new' tuples : List RawRow} {key : String}
  {draws draws' : IngestDraws} {outcomes : List IngestOutcome}

/-- The tuples of a batch of the tenant. -/
lemma ledgerRows_rename (now : draws.now = draws'.now)
    (drawn : ∀ i < keys.length, draws.rowId i = ρ.row .ledger (draws'.rowId i))
    (ok : ledgerRows A keys draws = .ok tuples) :
    ∃ tuples', ledgerRows A keys draws' = .ok tuples' ∧
      tuples = tuples'.map (RawRow.rename ρ .ledger) := by
  refine mapM_ok_map ok fun x mem row eq => ?_
  obtain ⟨below, _⟩ := List.getElem?_eq_some_iff.1 (List.mem_zipIdx_iff_getElem?.1 mem)
  simp only [bind, Except.bind, pure, Except.pure] at eq ⊢
  cases utc : x.1.2.occurredAt.toUtc with
  | error e => simp [utc] at eq
  | ok occurredAt =>
    simp only [utc] at eq ⊢
    obtain rfl := Except.ok.inj eq
    refine ⟨_, rfl, ?_⟩
    simp [ledgerRow, RawRow.rename, drawn x.2 below, now]

lemma Alone.newRows (alone : Alone ρ A s s') :
    newRows s A (new'.map (RawRow.rename ρ .ledger)) =
      (newRows s' A new').map (RawRow.rename ρ .ledger) := by
  simp only [Ingest.newRows, List.filter_map, alone.stored]
  rfl

lemma insertedOf_rename :
    insertedOf (new'.map (RawRow.rename ρ .ledger)) =
      (insertedOf new').map fun p => (p.1, ρ.row .ledger p.2) := by
  simp only [insertedOf, List.map_map]
  rfl

/-- By how much counters move does not depend on ids. -/
lemma incrementsOf_rename :
    incrementsOf entries (new'.map (RawRow.rename ρ .ledger)) = incrementsOf entries new' := by
  simp only [incrementsOf, insertedOf_rename, Dict.lookup_map, Option.isSome_map]

/-- The table after a batch of the tenant. -/
lemma Alone.tableOf (alone : Alone ρ A s s') (own : ∀ r ∈ new', r.tenantId = A) :
    Slice (ownRow A) (RawRow.rename ρ .ledger)
      (tableOf s A entries (new'.map (RawRow.rename ρ .ledger))) (tableOf s' A entries new') := by
  rw [Ingest.tableOf, Ingest.tableOf, incrementsOf_rename]
  exact bumps_own ((alone.rows .ledger).append fun r mem => by simp [ownRow, own r mem])

/-- A batch reads back rows of the tenant. -/
lemma Alone.readBack (alone : Alone ρ A s s') (own : ∀ r ∈ new', r.tenantId = A) :
    readBack s A entries (new'.map (RawRow.rename ρ .ledger)) =
      (readBack s' A entries new').map (RawRow.rename ρ .ledger) := by
  rw [Ingest.readBack, Ingest.readBack, incrementsOf_rename]
  exact (alone.tableOf own).filter (fun r _ sel => by simp_all [ownRow]) fun _ _ => rfl

/-- The row id under each key. -/
lemma Alone.rowIdsOf (alone : Alone ρ A s s') (own : ∀ r ∈ new', r.tenantId = A) :
    (rowIdsOf s A entries (new'.map (RawRow.rename ρ .ledger))).lookup key =
      ((rowIdsOf s' A entries new').lookup key).map (ρ.row .ledger) := by
  simp only [Ingest.rowIdsOf, Dict.lookup_foldl_setdefault, alone.readBack own, insertedOf_rename,
    Dict.lookup_map, List.find?_map]
  cases (insertedOf new').lookup key with
  | some id => rfl
  | none =>
    simp only [Option.map_none, Option.none_or, Option.map_map]
    rfl

/-- The counters read back. -/
lemma Alone.countsOf (alone : Alone ρ A s s') (own : ∀ r ∈ new', r.tenantId = A) :
    countsOf s A entries (new'.map (RawRow.rename ρ .ledger)) = countsOf s' A entries new' := by
  simp only [Ingest.countsOf, alone.readBack own, List.map_map]
  rfl

/-- The outcomes of a batch of the tenant. -/
lemma Alone.outcomesOf (alone : Alone ρ A s s') (own : ∀ r ∈ new', r.tenantId = A)
    (ok : outcomesOf s A entries (new'.map (RawRow.rename ρ .ledger)) = .ok outcomes) :
    ∃ outcomes', outcomesOf s' A entries new' = .ok outcomes' ∧
      outcomes = outcomes'.map (IngestOutcome.rename ρ .ledger) := by
  refine mapM_ok_map ok fun x _ outcome eq => ?_
  simp only [alone.rowIdsOf own, incrementsOf_rename, alone.countsOf own] at eq
  cases found : (Ingest.rowIdsOf s' A entries new').lookup x.1 with
  | none => simp [found] at eq
  | some rowId =>
    simp only [found, Option.map_some] at eq ⊢
    obtain rfl := Except.ok.inj eq
    exact ⟨_, rfl, rfl⟩

/-- The answers of a batch of the tenant. -/
lemma answers_rename {rowIds rowIds' : List (String × ℕ)} {outcomes' results : List IngestOutcome}
    (ids : ∀ key, rowIds.lookup key = (rowIds'.lookup key).map (ρ.row .ledger))
    (ok : answers entries rowIds (outcomes'.map (IngestOutcome.rename ρ .ledger)) = .ok results) :
    ∃ results', answers entries rowIds' outcomes' = .ok results' ∧
      results = results'.map (IngestOutcome.rename ρ .ledger) := by
  refine mapM_ok_map ok fun entry _ outcome eq => ?_
  simp only [ids] at eq
  cases found : rowIds'.lookup entry.idempotencyKey with
  | none => simp [found] at eq
  | some rowId =>
    have same : (outcomes'.map (IngestOutcome.rename ρ .ledger)).reverse.find?
          (fun o => o.rowId == ρ.row .ledger rowId) =
        (outcomes'.reverse.find? fun o => o.rowId == rowId).map (IngestOutcome.rename ρ .ledger) := by
      rw [← List.map_reverse, List.find?_map]
      congr 2
      funext o
      rw [Bool.eq_iff_iff, Function.comp_apply, beq_iff_eq, beq_iff_eq]
      exact (ρ.row_mono .ledger).injective.eq_iff
    simp only [found, Option.map_some, same] at eq ⊢
    cases last : outcomes'.reverse.find? fun o => o.rowId == rowId with
    | none => simp [last] at eq
    | some o =>
      simp only [last, Option.map_some] at eq ⊢
      exact ⟨o, rfl, (Except.ok.inj eq).symm⟩

/-- The tuples of a batch are of its tenant, with ids it draws. -/
lemma of_mem_newRows (ok : ledgerRows tenantId (Dict.firstBy (·.idempotencyKey) entries) draws =
      .ok tuples) {r : RawRow} (mem : r ∈ Ingest.newRows s tenantId tuples) :
    r.tenantId = tenantId ∧ ∃ i < (Dict.firstBy (·.idempotencyKey) entries).length,
      r.id = draws.rowId i := by
  obtain ⟨i, entry, at_i, idEq, tenant⟩ := mem_ledgerRows ok (List.mem_of_mem_filter mem)
  obtain ⟨below, _⟩ := List.getElem?_eq_some_iff.1 at_i
  exact ⟨tenant, i, below, idEq⟩

/-- The ids of the table after a batch are the tenant's. -/
lemma rowIds_tableOf
    (old : ∀ row ∈ s.raw .ledger, row.id ∈ Set.range (ρ.row .ledger) → row.tenantId = A)
    (fresh : ∀ row ∈ new, row.id ∈ Set.range (ρ.row .ledger) → row.tenantId = A) :
    ∀ row ∈ Ingest.tableOf s tenantId entries new, row.id ∈ Set.range (ρ.row .ledger) →
      row.tenantId = A := by
  intro row mem range
  obtain ⟨r0, mem0, eq⟩ := of_mem_tableOf mem
  rw [eq] at range ⊢
  rcases List.mem_append.1 mem0 with mem0 | mem0
  · exact old r0 mem0 range
  · exact fresh r0 mem0 range

/-- A ledger batch of the tenant. -/
lemma Alone.ingestLedgerBatch (alone : Alone ρ A s s') (now : draws.now = draws'.now)
    (drawn : ∀ i < (Dict.firstBy (·.idempotencyKey) entries).length,
      draws.rowId i = ρ.row .ledger (draws'.rowId i))
    (ok : ingestLedgerBatch s A entries draws = .ok (t, outcomes)) :
    ∃ t' outcomes', ingestLedgerBatch s' A entries draws' = .ok (t', outcomes') ∧
      outcomes = outcomes'.map (IngestOutcome.rename ρ .ledger) ∧ Alone ρ A t t' := by
  by_cases ne : entries = []
  · subst ne
    obtain ⟨rfl, rfl⟩ := Prod.mk.inj (Except.ok.inj ok)
    exact ⟨s', [], rfl, rfl, alone⟩
  have sent := sendable_of_ok ne ok
  obtain ⟨tuples, announced, rowsOk, account, outcomesOk, answersOk, rfl⟩ := ingestLedgerBatch_ok ne ok
  obtain ⟨tuples', rowsOk', rfl⟩ := ledgerRows_rename now drawn rowsOk
  have own : ∀ r ∈ Ingest.newRows s' A tuples', r.tenantId = A := fun r mem =>
    (of_mem_newRows rowsOk' mem).1
  simp only [alone.newRows] at account outcomesOk answersOk ⊢
  obtain ⟨announced', outcomesOk', rfl⟩ := alone.outcomesOf own outcomesOk
  obtain ⟨results', answersOk', rfl⟩ := answers_rename (fun key => alone.rowIdsOf own) answersOk
  have account' (some_new : Ingest.newRows s' A tuples' ≠ []) : s'.hasAccount A = true := by
    have present := account (by simpa using some_new)
    rwa [alone.hasAccount] at present
  refine ⟨_, results',
    ingestLedgerBatch_eq ne sent rowsOk' account' outcomesOk' answersOk', rfl, ?_⟩
  refine (alone.setRaw (alone.tableOf own) ?_).enqueue
  refine rowIds_tableOf (alone.rowIds .ledger) fun r mem _ => ?_
  obtain ⟨r', mem', rfl⟩ := List.mem_map.1 mem
  exact own r' mem'

/-- A ledger batch of another tenant. -/
lemma Alone.ingestLedgerBatch_foreign (alone : Alone ρ A s s') (foreign : tenantId ≠ A)
    (fresh : ∀ i < (Dict.firstBy (·.idempotencyKey) entries).length,
      draws.rowId i ∉ Set.range (ρ.row .ledger))
    (ok : Ingest.ingestLedgerBatch s tenantId entries draws = .ok (t, outcomes)) :
    Alone ρ A t s' := by
  by_cases ne : entries = []
  · subst ne
    obtain ⟨rfl, _⟩ := Prod.mk.inj (Except.ok.inj ok)
    exact alone
  obtain ⟨tuples, announced, rowsOk, _, _, _, rfl⟩ := ingestLedgerBatch_ok ne ok
  refine (alone.setRaw_foreign ?_ ?_).enqueue_foreign
  · refine bumps_foreign foreign ((alone.rows .ledger).append_foreign fun r mem => ?_)
    simp [ownRow, (of_mem_newRows rowsOk mem).1, foreign]
  · refine rowIds_tableOf (alone.rowIds .ledger) fun r mem range => ?_
    obtain ⟨_, i, below, idEq⟩ := of_mem_newRows rowsOk mem
    exact absurd (idEq ▸ range) (fresh i below)

end Ledger

section Call
variable {ρ : Renaming} {A : ℕ} {s s' t : Store} {call : IngestCall} {draws draws' : IngestDraws}
  {outcomes : List IngestOutcome}

/-- An ingestion call of the tenant. -/
lemma Alone.ingest (alone : Alone ρ A s s') (own : call.tenantId = A) (now : draws.now = draws'.now)
    (drawn : ∀ i < call.tuples, draws.rowId i = ρ.row call.side (draws'.rowId i))
    (ok : Ingest.run s draws call = .ok (t, outcomes)) :
    ∃ t' outcomes', Ingest.run s' draws' call = .ok (t', outcomes') ∧
      outcomes = outcomes'.map (IngestOutcome.rename ρ call.side) ∧ Alone ρ A t t' := by
  cases call with
  | gateway tenantId payload idempotencyKey rawBody =>
    obtain rfl : tenantId = A := own
    simp only [Ingest.run, Except.map] at ok ⊢
    split at ok
    · cases ok
    rename_i result eq
    obtain ⟨rfl, rfl⟩ := Prod.mk.inj (Except.ok.inj ok)
    obtain ⟨t', outcome', ok', same, alone'⟩ := alone.ingestGateway now (drawn 0 one_pos) eq
    exact ⟨t', [outcome'], by rw [ok'], by rw [same]; rfl, alone'⟩
  | ledger tenantId entries =>
    obtain rfl : tenantId = A := own
    exact alone.ingestLedgerBatch now drawn ok

/-- An ingestion call of another tenant. -/
lemma Alone.ingest_foreign (alone : Alone ρ A s s') (foreign : call.tenantId ≠ A)
    (fresh : ∀ i < call.tuples, draws.rowId i ∉ Set.range (ρ.row call.side))
    (ok : Ingest.run s draws call = .ok (t, outcomes)) : Alone ρ A t s' := by
  cases call with
  | gateway tenantId payload idempotencyKey rawBody =>
    simp only [Ingest.run, Except.map] at ok
    split at ok
    · cases ok
    rename_i result eq
    obtain ⟨rfl, _⟩ := Prod.mk.inj (Except.ok.inj ok)
    exact alone.ingestGateway_foreign foreign (fresh 0 one_pos) eq
  | ledger tenantId entries => exact alone.ingestLedgerBatch_foreign foreign fresh ok

end Call

end Isolation
end LedgerLoop
