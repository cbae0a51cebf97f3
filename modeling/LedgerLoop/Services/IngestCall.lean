import LedgerLoop.Services.Ingest

/-!
# What an ingestion call does

Either path keeps the rows that are there, up to their `duplicate_count`, and appends pending rows with
the identity values it drew (`run_effect`).

A row is announced to the matcher by an outbox event with `is_duplicate = false`, written in the
transaction that stores the row. The gateway path announces every row it stores. The ledger path
derives the flag from the tally of the key within the batch, so that a key which is new and occurs
twice in one batch is stored and then announced as a duplicate only (`announced_iff`).
-/

set_option autoImplicit false

namespace LedgerLoop
open LedgerLoop.Library

/-- An ingestion transaction. -/
inductive IngestCall where
  | gateway (tenantId : ℕ) (payload : GatewayWebhookIn) (idempotencyKey rawBody : String)
  | ledger (tenantId : ℕ) (entries : List LedgerEntryIn)

/-- The tenant of an ingestion call. -/
def IngestCall.tenantId : IngestCall → ℕ
  | .gateway tenantId .. => tenantId
  | .ledger tenantId .. => tenantId

/-- The side a call inserts into. -/
def IngestCall.side : IngestCall → IngestSource
  | .gateway .. => .gateway
  | .ledger .. => .ledger

/-- The number of tuples a call inserts. -/
def IngestCall.tuples : IngestCall → ℕ
  | .gateway .. => 1
  | .ledger _ entries => (Dict.firstBy (·.idempotencyKey) entries).length

/-- The identity values a call draws for them. -/
def IngestCall.rowIds (call : IngestCall) (draws : IngestDraws) : List ℕ :=
  (List.range call.tuples).map draws.rowId

namespace Ingest

/-- Run a call against a store. -/
def run (s : Store) (draws : IngestDraws) : IngestCall → Except PyError (Store × List IngestOutcome)
  | .gateway tenantId payload idempotencyKey rawBody =>
    (ingestGateway s tenantId payload idempotencyKey rawBody draws).map fun (s', o) => (s', [o])
  | .ledger tenantId entries => ingestLedgerBatch s tenantId entries draws

/-- The identity column of a side hands out distinct values that no row of its table has. -/
structure Fresh (draws : IngestDraws) (s : Store) (side : IngestSource) : Prop where
  injective : Function.Injective draws.rowId
  unused : ∀ row ∈ s.raw side, ∀ i, row.id ≠ draws.rowId i

/-- A first-receipt event of a row. -/
def announces (side : IngestSource) (rowId : ℕ) (e : OutboxEvent) : Bool :=
  e.source == side && e.rowId == rowId && e.payload.source == side && e.payload.rowId == rowId &&
    !e.payload.isDuplicate

/-- Every row that is in `s'` and not in `s` has exactly one first-receipt event among the events
    added between the two. -/
def Announced (s s' : Store) : Prop :=
  ∀ side, ∀ row ∈ s'.raw side, (∀ r ∈ s.raw side, r.id ≠ row.id) →
    (s'.outboxEvents.drop s.outboxEvents.length).countP (announces side row.id) = 1

/-- No key the tenant has not stored yet is repeated within a ledger batch. -/
def NewKeysOnce (s : Store) : IngestCall → Prop
  | .gateway .. => True
  | .ledger tenantId entries => ∀ entry ∈ entries,
      stored s .ledger tenantId entry.idempotencyKey = false →
        (entries.map (·.idempotencyKey)).count entry.idempotencyKey = 1

section Gateway
variable {s s' : Store} {tenantId : ℕ} {payload : GatewayWebhookIn} {idempotencyKey rawBody : String}
  {draws : IngestDraws} {outcome : IngestOutcome}

/-- The gateway path announces every row it stores. -/
lemma ingestGateway_announced
    (run : ingestGateway s tenantId payload idempotencyKey rawBody draws = .ok (s', outcome)) :
    Announced s s' := by
  obtain ⟨_, occurredAt, _, _, _, ⟨_, existing, _, _, rfl⟩ | ⟨_, _, rfl, rfl⟩⟩ := ingestGateway_ok run
  · -- a retry stores nothing
    intro side row mem new
    exfalso
    cases side with
    | gateway =>
      simp only [raw_enqueue, Store.raw_setRaw] at mem
      obtain ⟨r0, mem0, eq⟩ := of_mem_bump mem
      exact new r0 mem0 (congrArg RawRow.id eq).symm
    | ledger =>
      have mem' : row ∈ s.raw .ledger := by
        simpa [Store.raw_setRaw_ne s .gateway .ledger _ (by decide)] using mem
      exact new row mem' rfl
  · intro side row mem new
    cases side with
    | gateway =>
      simp only [raw_enqueue, Store.raw_setRaw, List.mem_append, List.mem_singleton] at mem
      rcases mem with old | rfl
      · exact absurd rfl (new row old)
      · simp [outboxRow, message, firstReceipt, announces]
    | ledger =>
      have mem' : row ∈ s.raw .ledger := by
        simpa [Store.raw_setRaw_ne s .gateway .ledger _ (by decide)] using mem
      exact absurd rfl (new row mem')

end Gateway

section Ledger
variable {s s' : Store} {tenantId : ℕ} {entries : List LedgerEntryIn} {draws : IngestDraws}
  {tuples new : List RawRow} {r r' row : RawRow} {outcomes announced : List IngestOutcome}

/-- A tuple of the insert carries its key and the identity value of its position. -/
lemma mem_ledgerRows
    (ok : ledgerRows tenantId (Dict.firstBy (·.idempotencyKey) entries) draws = .ok tuples)
    (mem : r ∈ tuples) :
    ∃ i entry, (Dict.firstBy (·.idempotencyKey) entries)[i]? = some (r.idempotencyKey, entry) ∧
      r.id = draws.rowId i ∧ r.tenantId = tenantId := by
  obtain ⟨⟨⟨key, entry⟩, i⟩, memX, occurredAt, _, rfl⟩ :=
    exists_of_mem_forall₂ (ledgerRows_ok ok) mem
  have at_i := List.mem_zipIdx_iff_getElem?.1 memX
  have keyEq := (Dict.of_mem_firstBy (List.mem_of_getElem? at_i)).2
  simp only at keyEq
  exact ⟨i, entry, by simp [ledgerRow, keyEq, at_i], rfl, rfl⟩

/-- Tuples with one identity value have one key. -/
lemma key_of_id
    (ok : ledgerRows tenantId (Dict.firstBy (·.idempotencyKey) entries) draws = .ok tuples)
    (injective : Function.Injective draws.rowId) (mem : r ∈ tuples) (mem' : r' ∈ tuples)
    (eq : r.id = r'.id) : r.idempotencyKey = r'.idempotencyKey := by
  obtain ⟨i, entry, at_i, idEq, _⟩ := mem_ledgerRows ok mem
  obtain ⟨j, entry', at_j, idEq', _⟩ := mem_ledgerRows ok mem'
  obtain rfl : i = j := injective (idEq.symm.trans (eq.trans idEq'))
  exact (Prod.mk.inj (Option.some.inj (at_i.symm.trans at_j))).1

/-- Tuples with one key have one identity value. -/
lemma id_of_key
    (ok : ledgerRows tenantId (Dict.firstBy (·.idempotencyKey) entries) draws = .ok tuples)
    (mem : r ∈ tuples) (mem' : r' ∈ tuples) (eq : r.idempotencyKey = r'.idempotencyKey) :
    r.id = r'.id := by
  obtain ⟨i, entry, at_i, idEq, _⟩ := mem_ledgerRows ok mem
  obtain ⟨j, entry', at_j, idEq', _⟩ := mem_ledgerRows ok mem'
  let keys := (Dict.firstBy (·.idempotencyKey) entries).map Prod.fst
  have key_i : keys[i]? = some r.idempotencyKey := by simp [keys, at_i]
  have key_j : keys[j]? = some r.idempotencyKey := by simp [keys, at_j, eq]
  obtain ⟨bound, _⟩ := List.getElem?_eq_some_iff.1 key_i
  have same : i = j :=
    (List.getElem?_inj bound (Dict.nodup_firstBy _ entries)).1 (key_i.trans key_j.symm)
  rw [idEq, idEq', same]

/-- Every key of the batch has a tuple. -/
lemma exists_ledgerRow {entry : LedgerEntryIn}
    (ok : ledgerRows tenantId (Dict.firstBy (·.idempotencyKey) entries) draws = .ok tuples)
    (mem : entry ∈ entries) : ∃ r ∈ tuples, r.idempotencyKey = entry.idempotencyKey := by
  have listed : entry.idempotencyKey ∈ (Dict.firstBy (·.idempotencyKey) entries).map Prod.fst :=
    Dict.mem_firstBy_fst.2 ⟨entry, mem, rfl⟩
  obtain ⟨⟨key, first⟩, memK, keyEq⟩ := List.mem_map.1 listed
  obtain ⟨i, at_i⟩ := List.mem_iff_getElem?.1 memK
  have memX : ((key, first), i) ∈ (Dict.firstBy (·.idempotencyKey) entries).zipIdx :=
    List.mem_zipIdx_iff_getElem?.2 at_i
  obtain ⟨r, memR, _, _, rfl⟩ := exists_forall₂_of_mem (ledgerRows_ok ok) memX
  exact ⟨_, memR, (Dict.of_mem_firstBy memK).2.trans keyEq⟩

/-- The row id a key ends up with: that of its new row, or else that of a row read back. -/
lemma lookup_rowIdsOf {key : String} {id : ℕ}
    (h : (rowIdsOf s tenantId entries new).lookup key = some id) :
    (key, id) ∈ insertedOf new ∨ ((insertedOf new).lookup key = none ∧
      ∃ row ∈ readBack s tenantId entries new, row.idempotencyKey = key ∧ row.id = id) := by
  rw [rowIdsOf, Dict.lookup_foldl_setdefault] at h
  cases found : (insertedOf new).lookup key with
  | some id' =>
    rw [found, Option.some_or] at h
    exact .inl (Option.some.inj h ▸ Dict.mem_of_lookup found)
  | none =>
    rw [found, Option.none_or, Option.map_eq_some_iff] at h
    obtain ⟨row, first, rfl⟩ := h
    exact .inr ⟨rfl, row, List.mem_of_find?_eq_some first, by simpa using List.find?_some first, rfl⟩

/-- A new row's key is announced as a duplicate iff the batch repeats it. -/
lemma isDuplicate_iff (mem : r ∈ new)
    (keyMem : r.idempotencyKey ∈ entries.map (·.idempotencyKey)) :
    ((incrementsOf entries new).lookup r.idempotencyKey).isSome = true ↔
      1 < (entries.map (·.idempotencyKey)).count r.idempotencyKey := by
  have inserted : ((insertedOf new).lookup r.idempotencyKey).isSome = true :=
    Dict.lookup_isSome.2 ⟨r.id, List.mem_map.2 ⟨r, mem, rfl⟩⟩
  rw [Dict.lookup_isSome]
  simp only [incrementsOf, List.mem_filterMap]
  constructor
  · rintro ⟨delta, ⟨key, count⟩, memC, eq⟩
    obtain ⟨_, countEq⟩ := Dict.mem_counter.1 memC
    simp only at eq countEq
    split_ifs at eq <;> obtain ⟨rfl, rfl⟩ := Prod.mk.inj (Option.some.inj eq) <;> simp_all
  · intro many
    let count := (entries.map (·.idempotencyKey)).count r.idempotencyKey
    refine ⟨count - 1, (r.idempotencyKey, count), Dict.mem_counter.2 ⟨keyMem, rfl⟩, ?_⟩
    simp only [inserted, if_true]
    rw [if_pos (Nat.sub_pos_of_lt many)]

/-- The events of a batch that announce a new row: one, unless the batch repeats its key. -/
lemma countP_announces (fresh : Fresh draws s .ledger)
    (ok : ledgerRows tenantId (Dict.firstBy (·.idempotencyKey) entries) draws = .ok tuples)
    (announcedOk : outcomesOf s tenantId entries (newRows s tenantId tuples) = .ok announced)
    (mem : r ∈ newRows s tenantId tuples) :
    announced.countP (fun o => o.rowId == r.id && !o.duplicate) =
      if (entries.map (·.idempotencyKey)).count r.idempotencyKey = 1 then 1 else 0 := by
  have memT : r ∈ tuples := List.mem_of_mem_filter mem
  obtain ⟨i, entry, at_i, idEq, _⟩ := mem_ledgerRows ok memT
  have keyMem : r.idempotencyKey ∈ entries.map (·.idempotencyKey) := by
    obtain ⟨memE, keyEq⟩ := Dict.of_mem_firstBy (List.mem_of_getElem? at_i)
    exact List.mem_map.2 ⟨entry, memE, keyEq⟩
  -- an outcome has the id of `r` iff it is the one of `r`'s key
  have id_iff : ∀ x ∈ Dict.firstBy (·.idempotencyKey) entries, ∀ o : IngestOutcome,
      (rowIdsOf s tenantId entries (newRows s tenantId tuples)).lookup x.1 = some o.rowId →
        (o.rowId = r.id ↔ x.1 = r.idempotencyKey) := by
    intro x _ o found
    constructor
    · intro eq
      rcases lookup_rowIdsOf found with inserted | ⟨absent, row, memRow, keyEq, rowEq⟩
      · obtain ⟨r', mem', pair⟩ := List.mem_map.1 inserted
        obtain ⟨key', id'⟩ := Prod.mk.inj pair
        rw [← key']
        exact key_of_id ok fresh.injective (List.mem_of_mem_filter mem') memT (id'.trans eq)
      · exfalso
        obtain ⟨r0, mem0, erased⟩ := of_mem_tableOf (List.mem_of_mem_filter memRow)
        rcases List.mem_append.1 mem0 with old | mem0
        · refine fresh.unused r0 old i ?_
          rw [← idEq, ← eq, ← rowEq, erased]
        · have : ((insertedOf (newRows s tenantId tuples)).lookup x.1).isSome = true := by
            refine Dict.lookup_isSome.2 ⟨r0.id, List.mem_map.2 ⟨r0, mem0, ?_⟩⟩
            rw [← keyEq, erased]
          simp [absent] at this
    · intro eq
      rcases lookup_rowIdsOf found with inserted | ⟨absent, _⟩
      · obtain ⟨r', mem', pair⟩ := List.mem_map.1 inserted
        obtain ⟨key', id'⟩ := Prod.mk.inj pair
        rw [← id']
        exact id_of_key ok (List.mem_of_mem_filter mem') memT (key'.trans eq)
      · have : ((insertedOf (newRows s tenantId tuples)).lookup x.1).isSome = true :=
          Dict.lookup_isSome.2 ⟨r.id, List.mem_map.2 ⟨r, mem, by rw [eq]⟩⟩
        simp [absent] at this
  let repeated (key : String) : Bool :=
    ((incrementsOf entries (newRows s tenantId tuples)).lookup key).isSome
  have count_keys : (Dict.firstBy (·.idempotencyKey) entries).countP
      (fun x => x.1 == r.idempotencyKey) = 1 := by
    have listed : r.idempotencyKey ∈ (Dict.firstBy (·.idempotencyKey) entries).map Prod.fst :=
      List.mem_map.2 ⟨_, List.mem_of_getElem? at_i, rfl⟩
    have once := List.count_eq_one_of_mem (Dict.nodup_firstBy _ entries) listed
    rwa [List.count, List.countP_map] at once
  calc announced.countP (fun o => o.rowId == r.id && !o.duplicate)
      = (Dict.firstBy (·.idempotencyKey) entries).countP
          (fun x => x.1 == r.idempotencyKey && !repeated x.1) := by
        refine (countP_forall₂ (outcomesOf_ok announcedOk) ?_).symm
        rintro x memX o ⟨found, _, dup⟩
        rw [dup, Bool.eq_iff_iff]
        simp [repeated, id_iff x memX o found]
    _ = if repeated r.idempotencyKey then 0 else 1 := by
        split_ifs with dup
        · refine List.countP_eq_zero.2 fun x _ => ?_
          by_cases eq : x.1 = r.idempotencyKey <;> simp [eq, dup]
        · rw [← count_keys]
          refine List.countP_congr fun x _ => ?_
          by_cases eq : x.1 = r.idempotencyKey <;> simp [eq, dup]
    _ = if (entries.map (·.idempotencyKey)).count r.idempotencyKey = 1 then 1 else 0 := by
        have pos := List.count_pos_iff.2 keyMem
        have dup_iff : repeated r.idempotencyKey = true ↔ _ := isDuplicate_iff mem keyMem
        split_ifs with dup one one <;> first | rfl | (rw [dup_iff] at dup; omega)

/-- The announcing events of a row among those a call enqueues, counted on its outcomes. -/
lemma countP_outboxRow {source : IngestSource} {rowId : ℕ} :
    (announced.zipIdx.map fun (outcome, i) => outboxRow source draws outcome i).countP
        (announces source rowId) =
      announced.countP (fun o => o.rowId == rowId && !o.duplicate) := by
  rw [List.countP_map]
  have fst : announced.countP (fun o => o.rowId == rowId && !o.duplicate) =
      announced.zipIdx.countP ((fun o => o.rowId == rowId && !o.duplicate) ∘ Prod.fst) := by
    rw [← List.countP_map, List.zipIdx_map_fst]
  rw [fst]
  refine List.countP_congr fun x _ => ?_
  by_cases eq : x.1.rowId = rowId <;> simp [announces, outboxRow, message, eq]

/-- The ledger path announces what it stores iff no new key is repeated within the batch. -/
lemma ingestLedgerBatch_announced (fresh : Fresh draws s .ledger)
    (run : ingestLedgerBatch s tenantId entries draws = .ok (s', outcomes)) :
    Announced s s' ↔ NewKeysOnce s (.ledger tenantId entries) := by
  by_cases ne : entries = []
  · subst ne
    obtain ⟨rfl, rfl⟩ := Prod.mk.inj (Except.ok.inj run)
    simp only [NewKeysOnce, List.not_mem_nil, false_imp_iff, implies_true, iff_true]
    exact fun side row mem new => absurd rfl (new row mem)
  obtain ⟨tuples, announced, ok, _, announcedOk, _, rfl⟩ := ingestLedgerBatch_ok ne run
  have count := fun r mem => countP_announces (r := r) fresh ok announcedOk mem
  simp only [Announced, NewKeysOnce, raw_enqueue, outboxEvents_enqueue, Store.outboxEvents_setRaw,
    List.drop_left]
  constructor
  · -- the row of a new key is in the table afterwards, and its events are counted
    intro all entry memE notStored
    obtain ⟨r, memT, keyEq⟩ := exists_ledgerRow ok memE
    have mem : r ∈ newRows s tenantId tuples := by simp [newRows, memT, keyEq, notStored]
    obtain ⟨i, _, _, idEq, _⟩ := mem_ledgerRows ok memT
    have ids : (tableOf s tenantId entries (newRows s tenantId tuples)).map RawRow.id = _ :=
      map_tableOf fun _ _ => rfl
    obtain ⟨row, memRow, rowId⟩ := List.mem_map.1
      (ids ▸ List.mem_map_of_mem (List.mem_append_right _ mem) :
        r.id ∈ (tableOf s tenantId entries (newRows s tenantId tuples)).map RawRow.id)
    have one := all .ledger row (by simpa using memRow)
      fun r' mem' => by rw [rowId, idEq]; exact fresh.unused r' mem' i
    rw [rowId, countP_outboxRow, count r mem, keyEq] at one
    by_contra many
    simp [many] at one
  · intro once side row memRow new
    cases side with
    | gateway =>
      refine absurd rfl (new row ?_)
      simpa [Store.raw_setRaw_ne s .ledger .gateway _ (by decide)] using memRow
    | ledger =>
      rw [Store.raw_setRaw] at memRow
      obtain ⟨r, mem, erased⟩ := of_mem_tableOf memRow
      have idEq : row.id = r.id := by rw [erased]
      rcases List.mem_append.1 mem with old | mem
      · exact absurd idEq.symm (new r old)
      rw [idEq, countP_outboxRow, count r mem, if_pos]
      -- the row's key belongs to an entry, and was not stored
      obtain ⟨memT, notStored⟩ := List.mem_filter.1 mem
      obtain ⟨i, entry, at_i, _⟩ := mem_ledgerRows ok memT
      obtain ⟨memE, keyEq⟩ := Dict.of_mem_firstBy (List.mem_of_getElem? at_i)
      have := once entry memE (by rw [keyEq]; simpa using notStored)
      rwa [keyEq] at this

end Ledger

/-- What a call does to the store besides its outbox events: old rows keep everything but their
    `duplicate_count`, and new rows are appended to one table, pending and with drawn ids. -/
structure Effect (s s' : Store) (side : IngestSource) (ids : List ℕ) : Prop where
  rows : ∃ new : List RawRow, (∀ r ∈ new, r.pending = true) ∧ (new.map RawRow.id).Sublist ids ∧
    (s'.raw side).map RawRow.eraseCount = (s.raw side ++ new).map RawRow.eraseCount
  other : s'.raw side.other = s.raw side.other
  accounts : s'.accounts = s.accounts
  results : s'.reconciliationResults = s.reconciliationResults
  exceptions : s'.exceptions = s.exceptions

/-- The tuples of the batch insert have the drawn ids, in order. -/
lemma map_id_ledgerRows {tenantId : ℕ} {keys : List (String × LedgerEntryIn)} {draws : IngestDraws}
    {tuples : List RawRow} (ok : ledgerRows tenantId keys draws = .ok tuples) :
    tuples.map RawRow.id = (List.range keys.length).map draws.rowId := by
  have pointwise : List.Forall₂ (fun x y => draws.rowId x = y) (keys.zipIdx.map Prod.snd)
      (tuples.map RawRow.id) := by
    rw [List.forall₂_map_left_iff, List.forall₂_map_right_iff]
    refine (ledgerRows_ok ok).imp fun x row h => ?_
    obtain ⟨_, _, rfl⟩ := h
    rfl
  rw [List.zipIdx_map_snd, ← List.range_eq_range'] at pointwise
  symm
  rw [← List.forall₂_eq_eq_eq, List.forall₂_map_left_iff]
  exact pointwise

/-- Every successful call has this effect. -/
lemma run_effect {s s' : Store} {call : IngestCall} {draws : IngestDraws}
    {outcomes : List IngestOutcome} (ok : run s draws call = .ok (s', outcomes)) :
    Effect s s' call.side (call.rowIds draws) := by
  cases call with
  | gateway tenantId payload idempotencyKey rawBody =>
    simp only [run, Except.map] at ok
    split at ok
    · cases ok
    rename_i result eq
    obtain ⟨s1, outcome⟩ := result
    obtain ⟨rfl, _⟩ := Prod.mk.inj (Except.ok.inj ok)
    obtain ⟨_, occurredAt, _, _, _, ⟨_, existing, _, _, rfl⟩ | ⟨_, _, rfl, rfl⟩⟩ := ingestGateway_ok eq
    · refine ⟨⟨[], by simp, by simp, ?_⟩, by simp [IngestCall.side], rfl, rfl, rfl⟩
      simp only [IngestCall.side, raw_enqueue, Store.raw_setRaw, List.append_nil]
      exact map_bump fun _ _ => rfl
    · refine ⟨⟨[_], by simp [gatewayRow, RawRow.pending], ?_, rfl⟩, by simp [IngestCall.side], rfl,
        rfl, rfl⟩
      simp [IngestCall.rowIds, IngestCall.tuples, gatewayRow]
  | ledger tenantId entries =>
    by_cases ne : entries = []
    · subst ne
      obtain ⟨rfl, rfl⟩ := Prod.mk.inj (Except.ok.inj ok)
      exact ⟨⟨[], by simp, by simp, by simp⟩, rfl, rfl, rfl, rfl⟩
    obtain ⟨tuples, announced, rowsOk, _, _, _, rfl⟩ := ingestLedgerBatch_ok ne ok
    refine ⟨⟨newRows s tenantId tuples, ?_, ?_, ?_⟩, by simp [IngestCall.side], ?_, ?_, ?_⟩
    · intro r mem
      obtain ⟨_, _, _, _, rfl⟩ :=
        exists_of_mem_forall₂ (ledgerRows_ok rowsOk) (List.mem_of_mem_filter mem)
      rfl
    · rw [IngestCall.rowIds, IngestCall.tuples, ← map_id_ledgerRows rowsOk]
      exact List.filter_sublist.map _
    · simp only [IngestCall.side, raw_enqueue, Store.raw_setRaw]
      exact map_tableOf fun _ _ => rfl
    all_goals simp

/-- A call appends unpublished events to the outbox. -/
lemma run_outbox {s s' : Store} {call : IngestCall} {draws : IngestDraws}
    {outcomes : List IngestOutcome} (ok : run s draws call = .ok (s', outcomes)) :
    ∃ new, s'.outboxEvents = s.outboxEvents ++ new ∧ ∀ e ∈ new, e.publishedAt = none := by
  have enqueued {side rows os} :
      ∃ new, (enqueue (s.setRaw side rows) side os draws).outboxEvents = s.outboxEvents ++ new ∧
        ∀ e ∈ new, e.publishedAt = none := by
    refine ⟨_, by rw [outboxEvents_enqueue, Store.outboxEvents_setRaw], fun e mem => ?_⟩
    obtain ⟨x, _, rfl⟩ := List.mem_map.1 mem
    rfl
  cases call with
  | gateway tenantId payload idempotencyKey rawBody =>
    simp only [run, Except.map] at ok
    split at ok
    · cases ok
    rename_i result eq
    obtain ⟨s1, outcome⟩ := result
    obtain ⟨rfl, _⟩ := Prod.mk.inj (Except.ok.inj ok)
    obtain ⟨_, _, _, _, _, ⟨_, _, _, _, rfl⟩ | ⟨_, _, _, rfl⟩⟩ := ingestGateway_ok eq
    · exact enqueued
    · exact enqueued
  | ledger tenantId entries =>
    by_cases ne : entries = []
    · subst ne
      obtain ⟨rfl, rfl⟩ := Prod.mk.inj (Except.ok.inj ok)
      exact ⟨[], by simp, by simp⟩
    obtain ⟨tuples, announced, _, _, _, _, rfl⟩ := ingestLedgerBatch_ok ne ok
    exact enqueued

/-- Every row a call stores is announced iff the call does not repeat a new ledger key within its
    batch. -/
theorem announced_iff {s s' : Store} {call : IngestCall} {draws : IngestDraws}
    {outcomes : List IngestOutcome} (fresh : Fresh draws s call.side)
    (ok : run s draws call = .ok (s', outcomes)) :
    Announced s s' ↔ NewKeysOnce s call := by
  cases call with
  | gateway tenantId payload idempotencyKey rawBody =>
    simp only [run, Except.map] at ok
    split at ok
    · cases ok
    rename_i result eq
    obtain ⟨rfl, _⟩ := Prod.mk.inj (Except.ok.inj ok)
    simp only [NewKeysOnce, iff_true]
    exact ingestGateway_announced eq
  | ledger tenantId entries => exact ingestLedgerBatch_announced fresh ok

/-! A merchant merging two pages of its retry queue: one new key, twice in one batch. -/

namespace Sample

def entry : LedgerEntryIn where
  entryId := "entry-1"
  txnId := "txn-1"
  amount := ⟨10000, by decide⟩
  currency := "USD"
  occurredAt := .utc (.newYear 0)
  idempotencyKey := "key-1"
  entryId_length := by decide
  txnId_length := by decide
  amount_nonzero := by decide
  currency_iso := by decide
  idempotencyKey_length := by decide

def payload : GatewayWebhookIn where
  txnId := "txn-1"
  amount := ⟨10000, by decide⟩
  currency := "USD"
  occurredAt := .utc (.newYear 0)
  gatewayRef := "ref-1"
  txnId_length := by decide
  amount_nonzero := by decide
  currency_iso := by decide
  gatewayRef_length := by decide

def account : Account where
  id := 1
  name := "acme"
  kind := .real
  createdAt := .newYear 0
  lastSeenAt := .newYear 0

/-- One tenant, nothing stored. -/
def store : Store where
  accounts := [account]

/-- Identity columns whose next value is `n + 1`. -/
def drawsAfter (n : ℕ) : IngestDraws where
  rowId i := n + i + 1
  eventId i := n + i + 1
  now := .newYear 5

def draws : IngestDraws := drawsAfter 0

/-- A payment stored, under the id that the ledger's sequence hands out next. -/
def paid : Store := store.setRaw .gateway [gatewayRow 1 payload "key-1" "body" (.newYear 0) draws]

lemma draws_fresh : Fresh draws paid .ledger where
  injective a b h := by simpa [draws, drawsAfter] using h
  unused := by rintro row ⟨⟩

end Sample

/-- The row of a new key that its batch repeats is stored, and no event announces it. -/
theorem repeated_new_key_unannounced :
    ∃ s' outcomes, run Sample.store Sample.draws (.ledger 1 [Sample.entry, Sample.entry]) =
        .ok (s', outcomes) ∧
      (s'.raw .ledger).map RawRow.id = [1] ∧
      (s'.outboxEvents.map fun e => (e.rowId, e.payload.isDuplicate)) = [(1, true)] ∧
      ¬Announced Sample.store s' := by
  refine ⟨_, _, rfl, by decide, by decide, fun all => ?_⟩
  have one := all .ledger _ List.mem_cons_self (by rintro _ ⟨⟩)
  revert one
  decide

theorem announced_iff_sample :
    ∃ s' outcomes, run Sample.paid Sample.draws (.ledger 1 [Sample.entry, Sample.entry]) =
        .ok (s', outcomes) ∧
      (Sample.paid.raw .gateway).map RawRow.id = [Sample.draws.rowId 0] ∧
      (Announced Sample.paid s' ↔
        NewKeysOnce Sample.paid (.ledger 1 [Sample.entry, Sample.entry])) :=
  ⟨_, _, rfl, rfl, announced_iff Sample.draws_fresh rfl⟩

end Ingest
end LedgerLoop
