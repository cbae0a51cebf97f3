import LedgerLoop.Services.LedgerBatch

/-!
# What the outbox says of the tallies

Every event a call writes names a row the call leaves, and an event with `is_duplicate` a row with a positive
tally. Conversely a row whose tally is positive had one before the call, or the call writes an event with
`is_duplicate` for it (`run_tallies`).
-/

set_option autoImplicit false

namespace LedgerLoop
open LedgerLoop.Library

namespace Ingest

/-- Rows are known by tenant and key. -/
def Keyed (rows : List RawRow) : Prop :=
  ∀ a ∈ rows, ∀ b ∈ rows, a.tenantId = b.tenantId → a.idempotencyKey = b.idempotencyKey → a = b

/-- A message that says its row was submitted again. -/
def repeats (side : IngestSource) (rowId : ℕ) (m : IngestMessage) : Bool :=
  m.source == side && m.rowId == rowId && m.isDuplicate

/-- What the events of a call say of the rows it leaves. -/
structure Tallies (s s' : Store) (new : List OutboxEvent) : Prop where
  outbox : s'.outboxEvents = s.outboxEvents ++ new
  names : ∀ e ∈ new, ∃ row ∈ s'.raw e.payload.source, row.id = e.payload.rowId ∧
    (e.payload.isDuplicate = true → 0 < row.duplicateCount)
  repeated : ∀ side, ∀ row ∈ s'.raw side, 0 < row.duplicateCount →
    (∃ r0 ∈ s.raw side, r0.id = row.id ∧ 0 < r0.duplicateCount) ∨
      ∃ e ∈ new, repeats side row.id e.payload = true

lemma repeats_iff {side : IngestSource} {rowId : ℕ} {m : IngestMessage} :
    repeats side rowId m = true ↔ m.source = side ∧ m.rowId = rowId ∧ m.isDuplicate = true := by
  simp [repeats, and_assoc]

section Calls
variable {s s' : Store} {call : IngestCall} {draws : IngestDraws} {outcome : IngestOutcome}
  {outcomes announced : List IngestOutcome} {tenantId : ℕ} {payload : GatewayWebhookIn}
  {idempotencyKey rawBody key : String} {entries : List LedgerEntryIn} {tuples rows : List RawRow}
  {side : IngestSource} {row : RawRow}

/-- What a call leaves of the table of the other side. -/
lemma Tallies.of_side {new : List OutboxEvent} (side : IngestSource)
    (outbox : s'.outboxEvents = s.outboxEvents ++ new) (other : s'.raw side.other = s.raw side.other)
    (names : ∀ e ∈ new, e.payload.source = side ∧ ∃ row ∈ s'.raw side, row.id = e.payload.rowId ∧
      (e.payload.isDuplicate = true → 0 < row.duplicateCount))
    (repeated : ∀ row ∈ s'.raw side, 0 < row.duplicateCount →
      (∃ r0 ∈ s.raw side, r0.id = row.id ∧ 0 < r0.duplicateCount) ∨
        ∃ e ∈ new, e.payload.rowId = row.id ∧ e.payload.isDuplicate = true) : Tallies s s' new where
  outbox := outbox
  names e mem := by
    obtain ⟨source, row, memRow, same⟩ := names e mem
    exact ⟨row, source ▸ memRow, same⟩
  repeated t row mem pos := by
    by_cases eq : t = side
    · subst eq
      rcases repeated row mem pos with old | ⟨e, memE, same⟩
      · exact .inl old
      · exact .inr ⟨e, memE, repeats_iff.2 ⟨(names e memE).1, same⟩⟩
    · obtain rfl : t = side.other := IngestSource.eq_other_of_ne (Ne.symm eq)
      exact .inl ⟨row, other ▸ mem, rfl, pos⟩

/-- A gateway call writes one event, with `is_duplicate` if it found the key. -/
lemma ingestGateway_tallies
    (ok : ingestGateway s tenantId payload idempotencyKey rawBody draws = .ok (s', outcome)) :
    ∃ new, Tallies s s' new := by
  obtain ⟨column, _, _, _, _, ⟨_, existing, one, rfl, rfl⟩ | ⟨_, _, rfl, rfl⟩⟩ := ingestGateway_ok ok
  · obtain ⟨memE, holds⟩ := List.mem_filter.1 (one ▸ List.mem_singleton_self existing)
    have bumped {row : RawRow} (mem : row ∈ bump tenantId column 1 (s.raw .gateway))
        (own : holdsKey tenantId column row = true) : row = existing ∧ 0 < row.duplicateCount := by
      have same := List.mem_singleton.1 (one ▸ List.mem_filter.2 ⟨mem, own⟩)
      refine ⟨same, ?_⟩
      rcases mem_updateWhere.1 mem with ⟨r0, _, _, rfl⟩ | ⟨_, other⟩
      · exact Nat.succ_pos _
      · rw [own] at other
        cases other
    refine ⟨_, .of_side .gateway (outboxEvents_enqueue ..) (by simp) ?_ ?_⟩
    · intro e mem
      obtain rfl := List.mem_singleton.1 mem
      rw [raw_enqueue, Store.raw_setRaw]
      exact ⟨rfl, existing, memE, rfl, fun _ => (bumped memE holds).2⟩
    · intro row mem pos
      rw [raw_enqueue, Store.raw_setRaw] at mem
      by_cases own : holdsKey tenantId column row = true
      · obtain rfl := (bumped mem own).1
        exact .inr ⟨_, List.mem_singleton_self _, rfl, rfl⟩
      · rcases mem_updateWhere.1 mem with ⟨r0, _, held, rfl⟩ | ⟨old, _⟩
        · exact absurd held own
        · exact .inl ⟨row, old, rfl, pos⟩
  · refine ⟨_, .of_side .gateway (outboxEvents_enqueue ..) (by simp) ?_ ?_⟩
    · intro e mem
      obtain rfl := List.mem_singleton.1 mem
      rw [raw_enqueue, Store.raw_setRaw]
      exact ⟨rfl, _, List.mem_append_right _ (List.mem_singleton_self _), rfl, fun again => by cases again⟩
    · intro row mem pos
      rw [raw_enqueue, Store.raw_setRaw] at mem
      rcases List.mem_append.1 mem with old | new
      · exact .inl ⟨row, old, rfl, pos⟩
      · rw [List.mem_singleton.1 new] at pos
        cases pos

/-- Whether a call counts a key. -/
lemma lookup_incrementsOf_isSome {new : List RawRow} :
    ((incrementsOf entries new).lookup key).isSome = true ↔ 0 < increment entries new key := by
  rw [lookup_incrementsOf]
  split_ifs with pos <;> simp [pos]

/-- The rows of a batch whose tally moved are those of the keys it counts. -/
lemma tally_of_mem_tableOf
    (ok : ledgerRows tenantId (Dict.firstBy (·.idempotencyKey) entries) draws = .ok tuples)
    (mem : row ∈ tableOf s tenantId entries (newRows s tenantId tuples)) :
    (row.tenantId = tenantId ∧ 0 < increment entries (newRows s tenantId tuples) row.idempotencyKey →
      0 < row.duplicateCount) ∧
    (0 < row.duplicateCount → (∃ r0 ∈ s.raw .ledger, r0.id = row.id ∧ 0 < r0.duplicateCount) ∨
      row.tenantId = tenantId ∧ 0 < increment entries (newRows s tenantId tuples) row.idempotencyKey) := by
  rw [tableOf_eq ok] at mem
  rcases List.mem_append.1 mem with old | new
  · obtain ⟨r0, mem0, rfl⟩ := List.mem_map.1 old
    by_cases own : r0.tenantId = tenantId
    · have held : stored s .ledger tenantId r0.idempotencyKey = true :=
        List.any_eq_true.2 ⟨r0, mem0, holdsKey_iff.2 ⟨own, rfl⟩⟩
      have counted : increment entries (newRows s tenantId tuples) r0.idempotencyKey =
          occurrences entries r0.idempotencyKey := by
        rw [increment, lookup_insertedOf_of_stored held]
        simp
      simp only [tallied, own, if_true, counted]
      refine ⟨fun moved => by omega, fun pos => ?_⟩
      by_cases before : 0 < r0.duplicateCount
      · exact .inl ⟨r0, mem0, rfl, before⟩
      · exact .inr ⟨trivial, by omega⟩
    · simp only [tallied, own, if_false, false_and, false_implies, or_false, true_and]
      exact fun pos => ⟨r0, mem0, rfl, pos⟩
  · obtain ⟨r0, mem0, rfl⟩ := List.mem_map.1 new
    obtain ⟨own, _, _, inserted⟩ := of_mem_newRows ok mem0
    have counted : increment entries (newRows s tenantId tuples) r0.idempotencyKey =
        occurrences entries r0.idempotencyKey - 1 := by
      rw [increment, inserted, if_pos rfl]
    simp only [own, counted]
    exact ⟨fun moved => moved.2, fun pos => .inr ⟨trivial, pos⟩⟩

/-- A ledger call writes one event for each key, with `is_duplicate` if it counted the key. -/
lemma ingestLedgerBatch_tallies (keyed : Keyed (s'.raw .ledger))
    (ok : ingestLedgerBatch s tenantId entries draws = .ok (s', outcomes)) : ∃ new, Tallies s s' new := by
  by_cases none_ : entries = []
  · subst none_
    obtain ⟨rfl, rfl⟩ := Prod.mk.inj (Except.ok.inj ok)
    exact ⟨[], by simp, by simp, fun side row mem pos => .inl ⟨row, mem, rfl, pos⟩⟩
  obtain ⟨tuples, announced, rowsOk, _, announcedOk, _, rfl⟩ := ingestLedgerBatch_ok none_ ok
  rw [raw_enqueue, Store.raw_setRaw] at keyed
  -- the event of a key names the key's row
  have named {p : String × LedgerEntryIn} {o : IngestOutcome}
      (found : (rowIdsOf s tenantId entries (newRows s tenantId tuples)).lookup p.1 = some o.rowId)
      {row : RawRow} (mem : row ∈ tableOf s tenantId entries (newRows s tenantId tuples))
      (holds : holdsKey tenantId p.1 row = true) : row.id = o.rowId := by
    obtain ⟨row', mem', holds', idEq⟩ := exists_row_of_lookup rowsOk found
    obtain ⟨tenant, keyEq⟩ := holdsKey_iff.1 holds
    obtain ⟨tenant', keyEq'⟩ := holdsKey_iff.1 holds'
    rw [keyed row mem row' mem' (tenant.trans tenant'.symm) (keyEq.trans keyEq'.symm), idEq]
  refine ⟨_, .of_side .ledger (outboxEvents_enqueue ..) (by simp) ?_ ?_⟩
  · intro e mem
    obtain ⟨⟨o, i⟩, memO, rfl⟩ := List.mem_map.1 mem
    have listed : o ∈ announced := List.mem_of_getElem? (List.mem_zipIdx_iff_getElem?.1 memO)
    obtain ⟨p, _, found, _, dup⟩ := exists_of_mem_forall₂ (outcomesOf_ok announcedOk) listed
    obtain ⟨row, memRow, holds, idEq⟩ := exists_row_of_lookup rowsOk found
    obtain ⟨tenant, keyEq⟩ := holdsKey_iff.1 holds
    rw [raw_enqueue, Store.raw_setRaw]
    refine ⟨rfl, row, memRow, idEq, fun again => ?_⟩
    have counted : o.duplicate = true := again
    rw [dup, lookup_incrementsOf_isSome, ← keyEq] at counted
    exact (tally_of_mem_tableOf rowsOk memRow).1 ⟨tenant, counted⟩
  · intro row mem pos
    rw [raw_enqueue, Store.raw_setRaw] at mem
    rcases (tally_of_mem_tableOf rowsOk mem).2 pos with old | ⟨tenant, moved⟩
    · exact .inl old
    right
    have occurs : ∃ entry ∈ entries, entry.idempotencyKey = row.idempotencyKey :=
      occurrences_pos.1 (lt_of_lt_of_le moved (Nat.sub_le _ _))
    obtain ⟨p, memP, keyEq⟩ := List.mem_map.1 (Dict.mem_firstBy_fst.2 occurs)
    obtain ⟨o, memO, found, _, dup⟩ := exists_forall₂_of_mem (outcomesOf_ok announcedOk) memP
    obtain ⟨i, at_i⟩ := List.mem_iff_getElem?.1 memO
    have listed : (o, i) ∈ announced.zipIdx := List.mem_zipIdx_iff_getElem?.2 at_i
    refine ⟨_, List.mem_map_of_mem listed, ?_, ?_⟩
    · exact (named found mem (holdsKey_iff.2 ⟨tenant, keyEq.symm⟩)).symm
    · change o.duplicate = true
      rw [dup, lookup_incrementsOf_isSome, keyEq]
      exact moved

/-- The events of a call and the tallies it leaves. -/
lemma run_tallies (keyed : Keyed (s'.raw call.side)) (ok : run s draws call = .ok (s', outcomes)) :
    ∃ new, Tallies s s' new := by
  cases call with
  | gateway tenantId payload idempotencyKey rawBody =>
    simp only [run, Except.map] at ok
    split at ok
    · cases ok
    rename_i result eq
    obtain ⟨s1, outcome⟩ := result
    obtain ⟨rfl, _⟩ := Prod.mk.inj (Except.ok.inj ok)
    exact ingestGateway_tallies eq
  | ledger tenantId entries => exact ingestLedgerBatch_tallies keyed ok

end Calls

end Ingest
end LedgerLoop
