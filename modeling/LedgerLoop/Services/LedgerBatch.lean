import LedgerLoop.Services.IngestCall

/-!
# Ledger batches

What a call of `ingest_ledger_batch` leaves of the ledger table and answers, and the answer of
`ledger_sync` in `api/routes_ingest.py`.

`ledgerAfter` says what submitting entries is for, one entry at a time: the first under a new key is
stored, every other is counted. It is a function of the sequence of entries alone
(`ledgerAfter_append`), and the bulk statements of a batch compute it (`ingestLedgerBatch_spec`), so
that only `id` and `received_at`, which the database generates, tell how the sequence was cut.
-/

set_option autoImplicit false

namespace LedgerLoop
open LedgerLoop.Library

/-- A row without what the database generates. -/
def RawRow.eraseReceipt (row : RawRow) : RawRow := { row with id := 0, receivedAt := row.occurredAt }

/-- `occurred_at` as the column holds it, if it can. -/
def LedgerEntryIn.instant (entry : LedgerEntryIn) : Datetime :=
  match entry.occurredAt.toUtc with
  | .ok occurredAt => occurredAt
  | .error _ => entry.occurredAt.wall

lemma LedgerEntryIn.instant_eq {entry : LedgerEntryIn} {occurredAt : Datetime}
    (ok : entry.occurredAt.toUtc = .ok occurredAt) : entry.instant = occurredAt := by
  simp [LedgerEntryIn.instant, ok]

/-- `occurred_at` and the texts fit their columns. -/
def LedgerEntryIn.Storable (entry : LedgerEntryIn) : Prop :=
  entry.occurredAt.toUtc = .ok entry.instant ∧ (Ingest.entryTexts entry).any hasNul = false

/-- `LedgerSyncAccepted`. -/
structure LedgerSyncAccepted where
  accepted : ℕ
  duplicates : ℕ
  results : List IngestOutcome
deriving DecidableEq, Repr

namespace Ingest

/-- `ledger_sync`. -/
def ledgerSync (s : Store) (tenantId : ℕ) (entries : List LedgerEntryIn) (draws : IngestDraws) :
    Except PyError (Store × LedgerSyncAccepted) := do
  let (s', outcomes) ← ingestLedgerBatch s tenantId entries draws
  let duplicates := outcomes.countP (·.duplicate)
  .ok (s', { accepted := outcomes.length - duplicates, duplicates := duplicates, results := outcomes })

/-- The batches of a sequence, one call after the other. -/
def ingestLedgerBatches (s : Store) (tenantId : ℕ) :
    List (IngestDraws × List LedgerEntryIn) → Except PyError (Store × List (List IngestOutcome))
  | [] => .ok (s, [])
  | (draws, entries) :: calls => do
    let (s', outcomes) ← ingestLedgerBatch s tenantId entries draws
    let (u, rest) ← ingestLedgerBatches s' tenantId calls
    .ok (u, outcomes :: rest)

/-- The unique index on `(tenant_id, idempotency_key)`. -/
def UniqueKeys (rows : List RawRow) : Prop :=
  (rows.map fun row => (row.tenantId, row.idempotencyKey)).Nodup

/-- How many entries carry a key. -/
def occurrences (entries : List LedgerEntryIn) (key : String) : ℕ :=
  (entries.map (·.idempotencyKey)).count key

/-- How many keys a batch has. -/
def distinctKeys (entries : List LedgerEntryIn) : ℕ :=
  (entries.map (·.idempotencyKey)).toFinset.card

/-- A stored row after more entries of a tenant: those that carry its key are counted. -/
def tallied (tenantId : ℕ) (entries : List LedgerEntryIn) (row : RawRow) : RawRow :=
  if row.tenantId = tenantId then
    { row with duplicateCount := row.duplicateCount + occurrences entries row.idempotencyKey }
  else row

/-- The content of the row of a new key: its first entry, and how many more carry the key. -/
def entryRow (tenantId : ℕ) (entry : LedgerEntryIn) (further : ℕ) : RawRow where
  id := 0
  tenantId := tenantId
  txnId := entry.txnId
  amount := entry.amount
  currency := entry.currency
  occurredAt := entry.instant
  ref := entry.entryId
  rawPayload := .modelDump entry
  idempotencyKey := entry.idempotencyKey
  duplicateCount := further
  receivedAt := entry.instant

/-- The first entries of the keys that a table does not hold. -/
def firstEntries (rows : List RawRow) (tenantId : ℕ) (entries : List LedgerEntryIn) :
    List (String × LedgerEntryIn) :=
  (Dict.firstBy (·.idempotencyKey) entries).filter fun p => !rows.any (holdsKey tenantId p.1)

/-- What submitting entries leaves of a ledger table, up to what the database generates. -/
def ledgerAfter (rows : List RawRow) (tenantId : ℕ) (entries : List LedgerEntryIn) : List RawRow :=
  rows.map (tallied tenantId entries) ++
    (firstEntries rows tenantId entries).map fun p =>
      entryRow tenantId p.2 (occurrences entries p.1 - 1)

/-- By how much a call moves the counter of a key: by the entries that carry it, less the one it stores. -/
def increment (entries : List LedgerEntryIn) (new : List RawRow) (key : String) : ℕ :=
  occurrences entries key - if ((insertedOf new).lookup key).isSome then 1 else 0

/-- The row stored under the key of an entry has the id an outcome names. -/
def Names (rows : List RawRow) (tenantId : ℕ) (entry : LedgerEntryIn) (outcome : IngestOutcome) :
    Prop :=
  ∃ row ∈ rows, holdsKey tenantId entry.idempotencyKey row = true ∧ row.id = outcome.rowId

section Keys
variable {rows rows' : List RawRow} {tenantId : ℕ} {entries first rest : List LedgerEntryIn}
  {key : String} {row : RawRow}

lemma holdsKey_iff {key : String} {row : RawRow} :
    holdsKey tenantId key row = true ↔ row.tenantId = tenantId ∧ row.idempotencyKey = key := by
  simp [holdsKey]

/-- With a unique index, one row at most holds a key. -/
lemma UniqueKeys.eq (unique : UniqueKeys rows) {row' : RawRow} (mem : row ∈ rows)
    (mem' : row' ∈ rows) (holds : holdsKey tenantId key row = true)
    (holds' : holdsKey tenantId key row' = true) : row = row' := by
  obtain ⟨tenant, keyEq⟩ := holdsKey_iff.1 holds
  obtain ⟨tenant', keyEq'⟩ := holdsKey_iff.1 holds'
  exact eq_of_key unique mem mem' (by rw [tenant, tenant', keyEq, keyEq'])

lemma occurrences_append : occurrences (first ++ rest) key =
    occurrences first key + occurrences rest key := by
  simp [occurrences, List.count_append]

lemma occurrences_pos : 0 < occurrences entries key ↔ ∃ entry ∈ entries, entry.idempotencyKey = key := by
  simp [occurrences, List.count_pos_iff]

@[simp] lemma tallied_id : (tallied tenantId entries row).id = row.id := by
  unfold tallied
  split_ifs <;> rfl

@[simp] lemma holdsKey_tallied {t : ℕ} :
    holdsKey t key (tallied tenantId entries row) = holdsKey t key row := by
  unfold tallied
  split_ifs <;> rfl

@[simp] lemma holdsKey_eraseReceipt {t : ℕ} :
    holdsKey t key row.eraseReceipt = holdsKey t key row := rfl

lemma tallied_eraseReceipt :
    (tallied tenantId entries row).eraseReceipt = tallied tenantId entries row.eraseReceipt := by
  by_cases own : row.tenantId = tenantId <;> simp [tallied, RawRow.eraseReceipt, own]

/-- Entries submitted one after the other are counted together. -/
lemma tallied_tallied :
    tallied tenantId rest (tallied tenantId first row) = tallied tenantId (first ++ rest) row := by
  by_cases own : row.tenantId = tenantId
  · simp [tallied, own, occurrences_append, Nat.add_assoc]
  · simp [tallied, own]

/-- The row of a new key counts what follows. -/
lemma tallied_entryRow {entry : LedgerEntryIn} {further : ℕ} :
    tallied tenantId rest (entryRow tenantId entry further) =
      entryRow tenantId entry (further + occurrences rest entry.idempotencyKey) := by
  simp [tallied, entryRow]

lemma mem_firstEntries {p : String × LedgerEntryIn} (mem : p ∈ firstEntries rows tenantId entries) :
    p.2 ∈ entries ∧ p.2.idempotencyKey = p.1 ∧ rows.any (holdsKey tenantId p.1) = false := by
  obtain ⟨mem, new⟩ := List.mem_filter.1 mem
  obtain ⟨memE, keyEq⟩ := Dict.of_mem_firstBy mem
  exact ⟨memE, keyEq, by simpa using new⟩

/-- Which keys a table holds after entries were submitted. -/
lemma any_ledgerAfter : (ledgerAfter rows tenantId entries).any (holdsKey tenantId key) =
    (rows.any (holdsKey tenantId key) || decide (∃ entry ∈ entries, entry.idempotencyKey = key)) := by
  rw [Bool.eq_iff_iff]
  simp only [ledgerAfter, List.any_append, List.any_map, Bool.or_eq_true, List.any_eq_true,
    Function.comp_apply, holdsKey_tallied, decide_eq_true_eq]
  constructor
  · rintro (held | ⟨p, mem, holds⟩)
    · exact .inl held
    · obtain ⟨memE, keyEq, _⟩ := mem_firstEntries mem
      exact .inr ⟨p.2, memE, (holdsKey_iff.1 holds).2⟩
  · rintro (held | ⟨entry, memE, keyEq⟩)
    · exact .inl held
    · by_cases held : ∃ row ∈ rows, holdsKey tenantId key row = true
      · exact .inl held
      · have listed : key ∈ (Dict.firstBy (·.idempotencyKey) entries).map Prod.fst :=
          Dict.mem_firstBy_fst.2 ⟨entry, memE, keyEq⟩
        obtain ⟨p, memP, rfl⟩ := List.mem_map.1 listed
        refine .inr ⟨p, List.mem_filter.2 ⟨memP, by simpa using held⟩, ?_⟩
        exact holdsKey_iff.2 ⟨rfl, (Dict.of_mem_firstBy memP).2⟩

/-- The first entries of a sequence that is cut in two. -/
lemma firstEntries_append : firstEntries rows tenantId (first ++ rest) =
    firstEntries rows tenantId first ++
      firstEntries (ledgerAfter rows tenantId first) tenantId rest := by
  simp only [firstEntries, Dict.firstBy_append, List.filter_append, List.filter_filter]
  congr 1
  refine List.filter_congr fun p _ => ?_
  rw [any_ledgerAfter, Bool.not_or, ← decide_not, Bool.and_comm]

/-- Submitting entries in two parts is submitting them all. -/
lemma ledgerAfter_append : ledgerAfter (ledgerAfter rows tenantId first) tenantId rest =
    ledgerAfter rows tenantId (first ++ rest) := by
  have new : ∀ p ∈ firstEntries (ledgerAfter rows tenantId first) tenantId rest,
      occurrences (first ++ rest) p.1 = occurrences rest p.1 := by
    intro p mem
    have absent := (mem_firstEntries mem).2.2
    rw [any_ledgerAfter, Bool.or_eq_false_iff, decide_eq_false_iff_not, ← occurrences_pos] at absent
    rw [occurrences_append]
    omega
  have old : ∀ p ∈ firstEntries rows tenantId first, occurrences first p.1 - 1 +
      occurrences rest p.2.idempotencyKey = occurrences (first ++ rest) p.1 - 1 := by
    intro p mem
    obtain ⟨memE, keyEq, _⟩ := mem_firstEntries mem
    have pos := occurrences_pos.2 ⟨p.2, memE, keyEq⟩
    rw [occurrences_append, keyEq]
    omega
  rw [ledgerAfter, ledgerAfter.eq_1 rows tenantId (first ++ rest), firstEntries_append,
    List.map_append, ← List.append_assoc]
  congr 1
  · rw [ledgerAfter, List.map_append, List.map_map, List.map_map]
    congr 1
    · exact List.map_congr_left fun row _ => tallied_tallied
    · refine List.map_congr_left fun p mem => ?_
      rw [Function.comp_apply, tallied_entryRow, old p mem]
  · refine List.map_congr_left fun p mem => ?_
    rw [new p mem]

/-- Submitting nothing. -/
lemma ledgerAfter_nil : ledgerAfter rows tenantId [] = rows := by
  have same : rows.map (tallied tenantId []) = rows := by
    refine (List.map_congr_left fun row _ => ?_).trans (List.map_id rows)
    simp [tallied, occurrences]
  simp [ledgerAfter, firstEntries, Dict.firstBy, same]

/-- What the database generates does not matter to what entries leave. -/
lemma ledgerAfter_congr (same : rows.map RawRow.eraseReceipt = rows'.map RawRow.eraseReceipt) :
    (ledgerAfter rows tenantId entries).map RawRow.eraseReceipt =
      (ledgerAfter rows' tenantId entries).map RawRow.eraseReceipt := by
  have held (key : String) : rows.any (holdsKey tenantId key) = rows'.any (holdsKey tenantId key) := by
    have := congrArg (List.any · (holdsKey tenantId key)) same
    simpa [List.any_map, Function.comp_def] using this
  have first : firstEntries rows tenantId entries = firstEntries rows' tenantId entries := by
    simp only [firstEntries, held]
  have counted := congrArg (List.map (tallied tenantId entries)) same
  simp only [List.map_map, Function.comp_def, ← tallied_eraseReceipt] at counted
  simp only [ledgerAfter, first, List.map_append, List.map_map, Function.comp_def, counted]

/-- The unique index holds afterwards. -/
lemma UniqueKeys.ledgerAfter (unique : UniqueKeys rows) :
    UniqueKeys (ledgerAfter rows tenantId entries) := by
  have old : (rows.map (tallied tenantId entries)).map (fun row => (row.tenantId, row.idempotencyKey)) =
      rows.map fun row => (row.tenantId, row.idempotencyKey) := by
    rw [List.map_map]
    refine List.map_congr_left fun row _ => ?_
    by_cases own : row.tenantId = tenantId <;> simp [tallied, own]
  have new : ((firstEntries rows tenantId entries).map fun p =>
      entryRow tenantId p.2 (occurrences entries p.1 - 1)).map
        (fun row => (row.tenantId, row.idempotencyKey)) =
      ((firstEntries rows tenantId entries).map Prod.fst).map (tenantId, ·) := by
    rw [List.map_map, List.map_map]
    refine List.map_congr_left fun p mem => ?_
    simp [entryRow, (mem_firstEntries mem).2.1]
  rw [UniqueKeys, Ingest.ledgerAfter, List.map_append, old, new]
  refine unique.append ?_ fun pair memOld memNew => ?_
  · have keys : ((firstEntries rows tenantId entries).map Prod.fst).Nodup :=
      (List.filter_sublist.map Prod.fst).nodup (Dict.nodup_firstBy _ entries)
    exact keys.map fun a b eq => (Prod.mk.inj eq).2
  · obtain ⟨row, mem, rfl⟩ := List.mem_map.1 memOld
    obtain ⟨key, memK, eq⟩ := List.mem_map.1 memNew
    obtain ⟨p, memP, rfl⟩ := List.mem_map.1 memK
    obtain ⟨tenant, keyEq⟩ := Prod.mk.inj eq
    have absent := (mem_firstEntries memP).2.2
    rw [List.any_eq_false] at absent
    exact absent row mem (holdsKey_iff.2 ⟨tenant.symm, keyEq.symm⟩)

/-- The unique index does not involve what the database generates. -/
lemma UniqueKeys.congr (unique : UniqueKeys rows)
    (same : rows'.map RawRow.eraseReceipt = rows.map RawRow.eraseReceipt) : UniqueKeys rows' := by
  have keys := congrArg (List.map fun row : RawRow => (row.tenantId, row.idempotencyKey)) same
  simp only [List.map_map, Function.comp_def] at keys
  have eq : (rows'.map fun row => (row.tenantId, row.idempotencyKey)) =
      rows.map fun row => (row.tenantId, row.idempotencyKey) := keys
  rw [UniqueKeys, eq]
  exact unique

end Keys

section Batch
variable {s s' : Store} {tenantId : ℕ} {entries : List LedgerEntryIn} {draws : IngestDraws}
  {tuples new rows : List RawRow} {outcomes announced : List IngestOutcome} {key : String} {row : RawRow}

/-- Every incremented key is listed once. -/
lemma nodup_incrementsOf : ((incrementsOf entries new).map Prod.fst).Nodup := by
  refine Dict.nodup_filterMap (fun p q eq => ?_) (Dict.nodup_counter _)
  simp only [Option.ite_none_right_eq_some] at eq
  exact (congrArg Prod.fst (Option.some.inj eq.2)).symm

/-- The keys that are counted, each with what the rule gives it. -/
lemma lookup_incrementsOf : (incrementsOf entries new).lookup key =
    if 0 < increment entries new key then some (increment entries new key) else none := by
  have listed {delta : ℕ} : (key, delta) ∈ incrementsOf entries new ↔
      0 < delta ∧ delta = increment entries new key := by
    simp only [incrementsOf, List.mem_filterMap]
    constructor
    · rintro ⟨p, mem, eq⟩
      simp only [Option.ite_none_right_eq_some] at eq
      obtain ⟨pos, eq⟩ := eq
      obtain ⟨rfl, rfl⟩ := Prod.mk.inj (Option.some.inj eq)
      refine ⟨pos, ?_⟩
      rw [(Dict.mem_counter.1 mem).2]
      rfl
    · rintro ⟨pos, rfl⟩
      have occurs : key ∈ entries.map (·.idempotencyKey) :=
        List.count_pos_iff.1 (lt_of_lt_of_le pos (Nat.sub_le _ _))
      exact ⟨(key, occurrences entries key), Dict.mem_counter.2 ⟨occurs, rfl⟩, if_pos pos⟩
  by_cases pos : 0 < increment entries new key
  · rw [if_pos pos]
    exact Dict.lookup_of_mem nodup_incrementsOf (listed.2 ⟨pos, rfl⟩)
  · rw [if_neg pos, ← Option.not_isSome_iff_eq_none, Dict.lookup_isSome]
    rintro ⟨delta, mem⟩
    obtain ⟨some_, rfl⟩ := listed.1 mem
    exact pos some_

/-- Updates under distinct keys, one after the other. -/
lemma foldl_bump {incs : List (String × ℕ)} (keys : (incs.map Prod.fst).Nodup) :
    incs.foldl (fun rows p => bump tenantId p.1 p.2 rows) rows = rows.map fun row =>
      if row.tenantId = tenantId then
        { row with duplicateCount := row.duplicateCount + (incs.lookup row.idempotencyKey).getD 0 }
      else row := by
  induction incs generalizing rows with
  | nil => simp
  | cons p incs ih =>
    obtain ⟨head, tail⟩ := List.nodup_cons.1 keys
    rw [List.foldl_cons, ih tail, bump, updateWhere, List.map_map]
    refine List.map_congr_left fun row _ => ?_
    obtain ⟨key, delta⟩ := p
    by_cases own : row.tenantId = tenantId <;> by_cases same : row.idempotencyKey = key
    · have absent : incs.lookup key = none := by
        rw [← Option.not_isSome_iff_eq_none, Dict.lookup_isSome]
        rintro ⟨v, mem⟩
        exact head (List.mem_map.2 ⟨(key, v), mem, rfl⟩)
      simp [holdsKey, own, same, absent]
    · simp [holdsKey, own, same, List.lookup_cons, beq_false_of_ne same]
    · simp [holdsKey, own]
    · simp [holdsKey, own]

/-- The rows a call inserts carry the keys the table does not hold, each the content of its first
    entry. -/
lemma newRows_eraseReceipt
    (ok : ledgerRows tenantId (Dict.firstBy (·.idempotencyKey) entries) draws = .ok tuples) :
    (newRows s tenantId tuples).map RawRow.eraseReceipt =
      (firstEntries (s.raw .ledger) tenantId entries).map fun p => entryRow tenantId p.2 0 := by
  have pointwise : List.Forall₂ (fun p (row : RawRow) => entryRow tenantId p.2 0 = row.eraseReceipt)
      ((Dict.firstBy (·.idempotencyKey) entries).zipIdx.map Prod.fst) tuples := by
    rw [List.forall₂_map_left_iff]
    refine (ledgerRows_ok ok).imp fun x row h => ?_
    obtain ⟨occurredAt, utc, rfl⟩ := h
    simp [entryRow, RawRow.eraseReceipt, ledgerRow, LedgerEntryIn.instant_eq utc]
  have content : (Dict.firstBy (·.idempotencyKey) entries).map (fun p => entryRow tenantId p.2 0) =
      tuples.map RawRow.eraseReceipt := by
    rw [← List.forall₂_eq_eq_eq, List.forall₂_map_left_iff, List.forall₂_map_right_iff]
    rwa [List.zipIdx_map_fst] at pointwise
  calc (newRows s tenantId tuples).map RawRow.eraseReceipt
      = (tuples.map RawRow.eraseReceipt).filter fun row =>
          !stored s .ledger tenantId row.idempotencyKey := by
        rw [List.filter_map]
        rfl
    _ = ((Dict.firstBy (·.idempotencyKey) entries).map fun p => entryRow tenantId p.2 0).filter
          fun row => !stored s .ledger tenantId row.idempotencyKey := by rw [content]
    _ = (firstEntries (s.raw .ledger) tenantId entries).map fun p => entryRow tenantId p.2 0 := by
        rw [List.filter_map]
        refine congrArg (List.map _) (List.filter_congr fun p mem => ?_)
        rw [← (Dict.of_mem_firstBy mem).2]
        rfl

/-- What the rows a call inserts hold. -/
lemma of_mem_newRows
    (ok : ledgerRows tenantId (Dict.firstBy (·.idempotencyKey) entries) draws = .ok tuples)
    (mem : row ∈ newRows s tenantId tuples) :
    row.tenantId = tenantId ∧ row.duplicateCount = 0 ∧
      stored s .ledger tenantId row.idempotencyKey = false ∧
      ((insertedOf (newRows s tenantId tuples)).lookup row.idempotencyKey).isSome = true := by
  obtain ⟨memT, new⟩ := List.mem_filter.1 mem
  obtain ⟨x, _, occurredAt, _, rfl⟩ := exists_of_mem_forall₂ (ledgerRows_ok ok) memT
  exact ⟨rfl, rfl, by simpa using new, Dict.lookup_isSome.2 ⟨_, List.mem_map.2 ⟨_, mem, rfl⟩⟩⟩

/-- No stored key is inserted. -/
lemma lookup_insertedOf_of_stored (held : stored s .ledger tenantId key = true) :
    (insertedOf (newRows s tenantId tuples)).lookup key = none := by
  rw [← Option.not_isSome_iff_eq_none, Dict.lookup_isSome]
  rintro ⟨id, mem⟩
  obtain ⟨row, memR, eq⟩ := List.mem_map.1 mem
  have new := (List.mem_filter.1 memR).2
  rw [(Prod.mk.inj eq).1, held] at new
  cases new

/-- The table after a batch: each old row with the entries under its key, then the new rows with the
    entries after the first. -/
lemma tableOf_eq
    (ok : ledgerRows tenantId (Dict.firstBy (·.idempotencyKey) entries) draws = .ok tuples) :
    tableOf s tenantId entries (newRows s tenantId tuples) =
      (s.raw .ledger).map (tallied tenantId entries) ++ (newRows s tenantId tuples).map fun row =>
        { row with duplicateCount := occurrences entries row.idempotencyKey - 1 } := by
  have tally : ∀ key, ((incrementsOf entries (newRows s tenantId tuples)).lookup key).getD 0 =
      increment entries (newRows s tenantId tuples) key := by
    intro key
    rw [lookup_incrementsOf]
    split_ifs with pos
    · rfl
    · exact (Nat.eq_zero_of_not_pos pos).symm
  refine Eq.trans (foldl_bump nodup_incrementsOf) ?_
  rw [List.map_append]
  congr 1
  · refine List.map_congr_left fun row mem => ?_
    by_cases own : row.tenantId = tenantId
    · have held : stored s .ledger tenantId row.idempotencyKey = true :=
        List.any_eq_true.2 ⟨row, mem, holdsKey_iff.2 ⟨own, rfl⟩⟩
      simp [tallied, own, tally, increment, lookup_insertedOf_of_stored held]
    · simp [tallied, own]
  · refine List.map_congr_left fun row mem => ?_
    obtain ⟨own, fresh, _, inserted⟩ := of_mem_newRows ok mem
    simp [own, fresh, tally, increment, inserted]

/-- What a call that returned left of the ledger table. -/
lemma ledger_of_ok (ok : ingestLedgerBatch s tenantId entries draws = .ok (s', outcomes)) :
    (∃ new, s'.raw .ledger = (s.raw .ledger).map (tallied tenantId entries) ++ new) ∧
      (s'.raw .ledger).map RawRow.eraseReceipt =
        (ledgerAfter (s.raw .ledger) tenantId entries).map RawRow.eraseReceipt := by
  by_cases none : entries = []
  · subst none
    obtain ⟨rfl, rfl⟩ := Prod.mk.inj (Except.ok.inj ok)
    rw [ledgerAfter_nil]
    have same := @ledgerAfter_nil (s.raw .ledger) tenantId
    exact ⟨⟨_, same.symm⟩, rfl⟩
  obtain ⟨tuples, announced, rowsOk, _, _, _, rfl⟩ := ingestLedgerBatch_ok none ok
  rw [raw_enqueue, Store.raw_setRaw, tableOf_eq rowsOk]
  refine ⟨⟨_, rfl⟩, ?_⟩
  have content := newRows_eraseReceipt (s := s) rowsOk
  rw [ledgerAfter, List.map_append, List.map_append]
  congr 1
  calc ((newRows s tenantId tuples).map fun row =>
          { row with duplicateCount := occurrences entries row.idempotencyKey - 1 }).map
            RawRow.eraseReceipt
      = ((newRows s tenantId tuples).map RawRow.eraseReceipt).map fun row =>
          { row with duplicateCount := occurrences entries row.idempotencyKey - 1 } := by
        rw [List.map_map, List.map_map]
        rfl
    _ = ((firstEntries (s.raw .ledger) tenantId entries).map fun p =>
          entryRow tenantId p.2 (occurrences entries p.1 - 1)).map RawRow.eraseReceipt := by
        rw [content, List.map_map, List.map_map]
        refine List.map_congr_left fun p mem => ?_
        simp [entryRow, RawRow.eraseReceipt, (mem_firstEntries mem).2.1]

/-- Entries whose `occurred_at` fits its column are encoded. -/
lemma ledgerRows_total (storable : ∀ entry ∈ entries, entry.Storable) :
    ∃ tuples, ledgerRows tenantId (Dict.firstBy (·.idempotencyKey) entries) draws = .ok tuples := by
  refine exists_mapM_ok fun x mem => ?_
  obtain ⟨⟨key, entry⟩, i⟩ := x
  have listed := List.mem_of_getElem? (List.mem_zipIdx_iff_getElem?.1 mem)
  have utc : entry.occurredAt.toUtc = .ok entry.instant :=
    (storable entry (Dict.of_mem_firstBy listed).1).1
  exact ⟨ledgerRow tenantId entry entry.instant i draws, by simp only [bind, Except.bind, utc]; rfl⟩

/-- Every key of a batch has a row id: that of its new row, or that of the row read back. -/
lemma lookup_rowIdsOf_isSome {entry : LedgerEntryIn}
    (ok : ledgerRows tenantId (Dict.firstBy (·.idempotencyKey) entries) draws = .ok tuples)
    (mem : entry ∈ entries) :
    ((rowIdsOf s tenantId entries (newRows s tenantId tuples)).lookup
      entry.idempotencyKey).isSome = true := by
  rw [rowIdsOf, Dict.lookup_foldl_setdefault, Option.isSome_or, Bool.or_eq_true]
  cases held : stored s .ledger tenantId entry.idempotencyKey with
  | false =>
    obtain ⟨r, memT, keyEq⟩ := exists_ledgerRow ok mem
    have new : r ∈ newRows s tenantId tuples := by simp [newRows, memT, keyEq, held]
    exact .inl (keyEq ▸ (of_mem_newRows ok new).2.2.2)
  | true =>
    -- the counter of a stored key moves, so that its row is read back
    obtain ⟨r, memR, holds⟩ := List.any_eq_true.1 held
    obtain ⟨tenant, keyEq⟩ := holdsKey_iff.1 holds
    have moves : ((incrementsOf entries (newRows s tenantId tuples)).lookup
        entry.idempotencyKey).isSome = true := by
      have pos := occurrences_pos.2 ⟨entry, mem, rfl⟩
      rw [lookup_incrementsOf, increment, lookup_insertedOf_of_stored held]
      simp [pos]
    have back : tallied tenantId entries r ∈ readBack s tenantId entries (newRows s tenantId tuples) := by
      rw [readBack, tableOf_eq ok]
      refine List.mem_filter.2 ⟨List.mem_append_left _ (List.mem_map_of_mem memR), ?_⟩
      simp [tallied, tenant, keyEq, moves]
    right
    rw [Option.isSome_map, List.find?_isSome]
    exact ⟨_, back, by simp [tallied, tenant, keyEq]⟩

/-- A row id found under a key is that of a row of the table afterwards with the key. -/
lemma exists_row_of_lookup {id : ℕ}
    (ok : ledgerRows tenantId (Dict.firstBy (·.idempotencyKey) entries) draws = .ok tuples)
    (found : (rowIdsOf s tenantId entries (newRows s tenantId tuples)).lookup key = some id) :
    ∃ row ∈ tableOf s tenantId entries (newRows s tenantId tuples),
      holdsKey tenantId key row = true ∧ row.id = id := by
  rcases lookup_rowIdsOf found with inserted | ⟨_, row, memRow, keyEq, idEq⟩
  · obtain ⟨r, mem, eq⟩ := List.mem_map.1 inserted
    obtain ⟨keyEq, idEq⟩ := Prod.mk.inj eq
    rw [tableOf_eq ok]
    refine ⟨_, List.mem_append_right _ (List.mem_map_of_mem mem), ?_, idEq⟩
    exact holdsKey_iff.2 ⟨(of_mem_newRows ok mem).1, keyEq⟩
  · obtain ⟨memT, own⟩ := List.mem_filter.1 memRow
    rw [Bool.and_eq_true, beq_iff_eq] at own
    exact ⟨row, memT, holdsKey_iff.2 ⟨own.1, keyEq⟩, idEq⟩

/-- The answer to each entry names the row under its key. -/
lemma names_of_ok (ok : ingestLedgerBatch s tenantId entries draws = .ok (s', outcomes)) :
    List.Forall₂ (Names (s'.raw .ledger) tenantId) entries outcomes := by
  by_cases none : entries = []
  · subst none
    obtain ⟨rfl, rfl⟩ := Prod.mk.inj (Except.ok.inj ok)
    exact .nil
  obtain ⟨tuples, announced, rowsOk, _, _, answersOk, rfl⟩ := ingestLedgerBatch_ok none ok
  rw [raw_enqueue, Store.raw_setRaw]
  refine (mapM_eq_ok.1 answersOk).imp fun entry outcome eq => ?_
  split at eq
  · cases eq
  rename_i rowId found
  split at eq
  · cases eq
  rename_i outcome' first
  obtain rfl := Except.ok.inj eq
  have idEq : outcome'.rowId = rowId := by simpa using List.find?_some first
  obtain ⟨row, mem, holds, rowEq⟩ := exists_row_of_lookup rowsOk found
  exact ⟨row, mem, holds, rowEq.trans idEq.symm⟩

/-- The driver sends the insert of a batch iff the batch has at most 4095 keys. -/
lemma maxArguments_iff : maxArguments < ledgerColumns.length *
    (Dict.firstBy (·.idempotencyKey) entries).length ↔ 4095 < distinctKeys entries := by
  rw [Dict.length_firstBy, distinctKeys, maxArguments, ledgerColumns]
  simp only [List.length_cons, List.length_nil]
  omega

/-- A batch with more keys is not sent. -/
lemma ingestLedgerBatch_crowded (many : 4095 < distinctKeys entries) :
    ingestLedgerBatch s tenantId entries draws = .error .interfaceError := by
  have some_ : entries ≠ [] := by
    rintro rfl
    cases many
  rw [ingestLedgerBatch, if_neg some_, if_pos (maxArguments_iff.2 many)]

/-- A batch of storable entries of a tenant with an account is stored. -/
lemma ingestLedgerBatch_total (account : s.hasAccount tenantId = true)
    (storable : ∀ entry ∈ entries, entry.Storable) (few : distinctKeys entries ≤ 4095) :
    ∃ s' outcomes, ingestLedgerBatch s tenantId entries draws = .ok (s', outcomes) := by
  by_cases none : entries = []
  · exact ⟨s, [], by simp [ingestLedgerBatch, none]⟩
  have clean : ((Dict.firstBy (·.idempotencyKey) entries).any fun p =>
      (entryTexts p.2).any hasNul) = false :=
    List.any_eq_false.2 fun p mem => by simp [(storable p.2 (Dict.of_mem_firstBy mem).1).2]
  obtain ⟨tuples, rowsOk⟩ := @ledgerRows_total tenantId _ draws storable
  have id_of (entry : LedgerEntryIn) (mem : entry ∈ entries) :=
    Option.isSome_iff_exists.1 (lookup_rowIdsOf_isSome (s := s) rowsOk mem)
  obtain ⟨announced, announcedOk⟩ :
      ∃ announced, outcomesOf s tenantId entries (newRows s tenantId tuples) = .ok announced := by
    refine exists_mapM_ok fun x mem => ?_
    obtain ⟨memE, keyEq⟩ := Dict.of_mem_firstBy mem
    obtain ⟨id, found⟩ := id_of x.2 memE
    exact ⟨_, by simp only [keyEq ▸ found]; rfl⟩
  obtain ⟨results, resultsOk⟩ : ∃ results, answers entries
      (rowIdsOf s tenantId entries (newRows s tenantId tuples)) announced = .ok results := by
    refine exists_mapM_ok fun entry mem => ?_
    obtain ⟨id, found⟩ := id_of entry mem
    have listed : entry.idempotencyKey ∈ (Dict.firstBy (·.idempotencyKey) entries).map Prod.fst :=
      Dict.mem_firstBy_fst.2 ⟨entry, mem, rfl⟩
    obtain ⟨p, memP, keyEq⟩ := List.mem_map.1 listed
    obtain ⟨outcome, memO, foundO, _⟩ := exists_forall₂_of_mem (outcomesOf_ok announcedOk) memP
    have idEq : outcome.rowId = id := by
      rw [keyEq, found] at foundO
      exact (Option.some.inj foundO).symm
    have some_outcome : (announced.reverse.find? (·.rowId == id)).isSome = true :=
      List.find?_isSome.2 ⟨outcome, List.mem_reverse.2 memO, by simp [idEq]⟩
    obtain ⟨answer, first⟩ := Option.isSome_iff_exists.1 some_outcome
    exact ⟨answer, by simp only [found, first]⟩
  exact ⟨_, _, ingestLedgerBatch_eq none ⟨fun many => absurd (maxArguments_iff.1 many) (not_lt.2 few), clean⟩
    rowsOk (fun _ => account) announcedOk resultsOk⟩

/-- A call leaves the accounts alone. -/
lemma hasAccount_of_ok (ok : ingestLedgerBatch s tenantId entries draws = .ok (s', outcomes)) {id : ℕ} :
    s'.hasAccount id = s.hasAccount id := by
  have ran : run s draws (.ledger tenantId entries) = .ok (s', outcomes) := ok
  have eff := run_effect ran
  rw [Store.hasAccount, Store.hasAccount, eff.accounts]

/-- Whatever way a sequence of entries is cut into calls, they leave what submitting the entries
    leaves, keep the rows they find, and answer with the rows of the keys. -/
lemma ingestLedgerBatches_spec {calls : List (IngestDraws × List LedgerEntryIn)}
    (account : s.hasAccount tenantId = true)
    (storable : ∀ entry ∈ calls.flatMap Prod.snd, entry.Storable)
    (few : ∀ call ∈ calls, distinctKeys call.2 ≤ 4095) :
    ∃ u answers, ingestLedgerBatches s tenantId calls = .ok (u, answers) ∧
      (∃ new, u.raw .ledger =
        (s.raw .ledger).map (tallied tenantId (calls.flatMap Prod.snd)) ++ new) ∧
      (u.raw .ledger).map RawRow.eraseReceipt =
        (ledgerAfter (s.raw .ledger) tenantId (calls.flatMap Prod.snd)).map RawRow.eraseReceipt ∧
      List.Forall₂ (fun call => List.Forall₂ (Names (u.raw .ledger) tenantId) call.2) calls answers := by
  induction calls generalizing s with
  | nil =>
    have same := @ledgerAfter_nil (s.raw .ledger) tenantId
    exact ⟨s, [], rfl, ⟨_, same.symm⟩, by rw [List.flatMap_nil, same], .nil⟩
  | cons call calls ih =>
    rw [List.flatMap_cons] at storable ⊢
    obtain ⟨s', outcomes, ok⟩ : ∃ s' outcomes,
        ingestLedgerBatch s tenantId call.2 call.1 = .ok (s', outcomes) :=
      ingestLedgerBatch_total account (fun entry mem => storable entry (List.mem_append_left _ mem))
        (few call List.mem_cons_self)
    obtain ⟨u, answers, rest, ⟨new', kept'⟩, after', names'⟩ := ih
      ((hasAccount_of_ok ok).trans account) (fun entry mem => storable entry (List.mem_append_right _ mem))
      fun call' mem => few call' (List.mem_cons_of_mem _ mem)
    obtain ⟨⟨new, kept⟩, after⟩ := ledger_of_ok ok
    refine ⟨u, outcomes :: answers, ?_, ?_, ?_, .cons ?_ names'⟩
    · simp only [ingestLedgerBatches, ok, rest, bind, Except.bind]
    · refine ⟨new.map (tallied tenantId (calls.flatMap Prod.snd)) ++ new', ?_⟩
      rw [kept', kept, List.map_append, List.map_map, List.append_assoc]
      congr 1
      exact List.map_congr_left fun row _ => tallied_tallied
    · rw [after', ledgerAfter_congr after, ledgerAfter_append]
    · -- later calls keep the rows that this one names
      refine (names_of_ok ok).imp fun entry outcome named => ?_
      obtain ⟨row, mem, holds, idEq⟩ := named
      refine ⟨tallied tenantId (calls.flatMap Prod.snd) row, ?_, by simpa using holds, by simpa using idEq⟩
      rw [kept']
      exact List.mem_append_left _ (List.mem_map_of_mem mem)

end Batch

namespace Sample

def secondEntry : LedgerEntryIn where
  entryId := "entry-b"
  txnId := "txn-b"
  amount := ⟨520, by decide⟩
  currency := "EUR"
  occurredAt := .utc (.newYear 1)
  idempotencyKey := "key-b"
  entryId_length := by decide
  txnId_length := by decide
  amount_nonzero := by decide
  currency_iso := by decide
  idempotencyKey_length := by decide

/-- An instant of the first day there is, read east of Greenwich. -/
def unstorableEntry : LedgerEntryIn where
  entryId := "entry-c"
  txnId := "txn-c"
  amount := ⟨540, by decide⟩
  currency := "GBP"
  occurredAt := ⟨⟨1, by decide, by decide⟩, Timedelta.seconds 5400, by decide⟩
  idempotencyKey := "key-c"
  entryId_length := by decide
  txnId_length := by decide
  amount_nonzero := by decide
  currency_iso := by decide
  idempotencyKey_length := by decide

/-- A NUL in the transaction id. -/
def nulEntry : LedgerEntryIn :=
  { secondEntry with txnId := "txn\x00", txnId_length := by decide }

/-- The `n`-th of 4096 keys. -/
def crowdKey (n : ℕ) : String := .ofList [.ofNat (0x1000 + n)]

/-- One entry under each of 4096 keys. -/
def crowd : List LedgerEntryIn :=
  (List.range 4096).map fun n =>
    { entry with idempotencyKey := crowdKey n, idempotencyKey_length := by simp [HasLength, crowdKey] }

/-- A later call, by a second. -/
def laterDraws : IngestDraws where
  rowId i := i + 2
  eventId i := i + 2
  now := .newYear 6

lemma entry_storable : ∀ e ∈ [entry, secondEntry], e.Storable := by
  intro e mem
  simp only [List.mem_cons, List.not_mem_nil, or_false] at mem
  rcases mem with rfl | rfl <;> exact ⟨rfl, by decide⟩

lemma distinctKeys_crowd : distinctKeys crowd = 4096 := by
  have valid {n : ℕ} (mem : n ∈ List.range 4096) : (Char.ofNat (0x1000 + n)).toNat = 0x1000 + n := by
    have bound := List.mem_range.1 mem
    rw [Char.ofNat, dif_pos (.inl (by omega))]
    rfl
  have keys : (crowd.map (·.idempotencyKey)).Nodup := by
    rw [crowd, List.map_map]
    refine List.Nodup.map_on (fun m memM n memN eq => ?_) List.nodup_range
    have same := congrArg (fun t : String => t.toList.map Char.toNat) eq
    simp only [Function.comp_apply, crowdKey, String.toList_ofList, List.map_cons, List.map_nil,
      valid memM, valid memN, List.cons.injEq, and_true] at same
    omega
  rw [distinctKeys, List.toFinset_card_of_nodup keys]
  simp [crowd]

end Sample

section Counts
variable {s s' : Store} {tenantId : ℕ} {entries : List LedgerEntryIn} {draws : IngestDraws}
  {tuples : List RawRow} {outcomes : List IngestOutcome} {answer : LedgerSyncAccepted}

/-- An entry that is not answered as a duplicate: it carries a new key that no other entry carries. -/
def Lone (s : Store) (tenantId : ℕ) (entries : List LedgerEntryIn) (key : String) : Bool :=
  !stored s .ledger tenantId key && occurrences entries key == 1

/-- The row ids of the table afterwards are distinct. -/
lemma nodup_id_tableOf (fresh : Fresh draws s .ledger) (ids : ((s.raw .ledger).map RawRow.id).Nodup)
    (ok : ledgerRows tenantId (Dict.firstBy (·.idempotencyKey) entries) draws = .ok tuples) :
    ((tableOf s tenantId entries (newRows s tenantId tuples)).map RawRow.id).Nodup := by
  rw [map_tableOf (g := RawRow.id) fun _ _ => rfl, List.map_append]
  have drawn : ((newRows s tenantId tuples).map RawRow.id).Sublist
      ((List.range _).map draws.rowId) := map_id_ledgerRows ok ▸ List.filter_sublist.map _
  refine ids.append (drawn.nodup (List.nodup_range.map fresh.injective)) fun id old new => ?_
  obtain ⟨i, _, rfl⟩ := List.mem_map.1 (drawn.subset new)
  obtain ⟨row, mem, eq⟩ := List.mem_map.1 old
  exact fresh.unused row mem i eq

/-- An entry is answered as a duplicate unless it is lone. -/
lemma answers_duplicate (fresh : Fresh draws s .ledger) (ids : ((s.raw .ledger).map RawRow.id).Nodup)
    (batchOk : ingestLedgerBatch s tenantId entries draws = .ok (s', outcomes)) :
    List.Forall₂ (fun entry outcome =>
      outcome.duplicate = !Lone s tenantId entries entry.idempotencyKey) entries outcomes := by
  by_cases none : entries = []
  · subst none
    obtain ⟨rfl, rfl⟩ := Prod.mk.inj (Except.ok.inj batchOk)
    exact .nil
  obtain ⟨tuples, announced, ok, _, announcedOk, answersOk, rfl⟩ := ingestLedgerBatch_ok none batchOk
  have paired := (List.forall₂_and_left entries outcomes).2
    ⟨fun entry mem => mem, mapM_eq_ok.1 answersOk⟩
  refine paired.imp fun entry outcome h => ?_
  obtain ⟨memE, eq⟩ := h
  split at eq
  · cases eq
  rename_i rowId found
  split at eq
  · cases eq
  rename_i outcome' first
  obtain rfl := Except.ok.inj eq
  have idEq : outcome'.rowId = rowId := by simpa using List.find?_some first
  -- the outcome found by its row id is that of the entry's key
  obtain ⟨x, memX, foundX, _, dup⟩ := exists_of_mem_forall₂ (outcomesOf_ok announcedOk)
    (List.mem_reverse.1 (List.mem_of_find?_eq_some first))
  obtain ⟨row, mem, holds, rowEq⟩ := exists_row_of_lookup ok found
  obtain ⟨row', mem', holds', rowEq'⟩ := exists_row_of_lookup ok foundX
  have same : row = row' := eq_of_key (nodup_id_tableOf fresh ids ok) mem mem'
    (by rw [rowEq, rowEq', idEq])
  have keyEq : x.1 = entry.idempotencyKey := by
    rw [← (holdsKey_iff.1 holds).2, same, (holdsKey_iff.1 holds').2]
  have inserted : ((insertedOf (newRows s tenantId tuples)).lookup entry.idempotencyKey).isSome =
      !stored s .ledger tenantId entry.idempotencyKey := by
    cases held : stored s .ledger tenantId entry.idempotencyKey with
    | true => simp [lookup_insertedOf_of_stored held]
    | false =>
      obtain ⟨r, memT, rKey⟩ := exists_ledgerRow ok memE
      have new : r ∈ newRows s tenantId tuples := by simp [newRows, memT, rKey, held]
      simpa [rKey] using (of_mem_newRows ok new).2.2.2
  have pos := occurrences_pos.2 ⟨entry, memE, rfl⟩
  rw [dup, keyEq, lookup_incrementsOf, increment, inserted, Lone]
  cases stored s .ledger tenantId entry.idempotencyKey with
  | true => simp [pos]
  | false =>
    by_cases once : occurrences entries entry.idempotencyKey = 1
    · simp [once]
    · have many : 0 < occurrences entries entry.idempotencyKey - 1 := by omega
      simp [once, many]

/-- The lone entries are the lone keys. -/
lemma countP_lone : entries.countP (fun entry => Lone s tenantId entries entry.idempotencyKey) =
    (firstEntries (s.raw .ledger) tenantId entries).countP fun p => occurrences entries p.1 == 1 := by
  let lone := Lone s tenantId entries
  have perm : ((entries.map (·.idempotencyKey)).filter lone).Perm
      (((Dict.firstBy (·.idempotencyKey) entries).map Prod.fst).filter lone) := by
    refine (List.perm_ext_iff_of_nodup ?_ ?_).2 fun key => ?_
    · rw [List.nodup_iff_count_le_one]
      intro key
      by_cases isLone : lone key = true
      · rw [List.count_filter isLone]
        simp only [lone, Lone, Bool.and_eq_true, beq_iff_eq] at isLone
        exact isLone.2.le
      · rw [List.count_eq_zero_of_not_mem fun mem => isLone (List.mem_filter.1 mem).2]
        exact Nat.zero_le _
    · exact (Dict.nodup_firstBy _ entries).filter _
    · rw [List.mem_filter, List.mem_filter, Dict.mem_firstBy_fst, List.mem_map]
  calc entries.countP (fun entry => lone entry.idempotencyKey)
      = ((entries.map (·.idempotencyKey)).filter lone).length := by
        rw [← List.countP_eq_length_filter, List.countP_map]
        rfl
    _ = (((Dict.firstBy (·.idempotencyKey) entries).map Prod.fst).filter lone).length :=
        perm.length_eq
    _ = (firstEntries (s.raw .ledger) tenantId entries).countP
          fun p => occurrences entries p.1 == 1 := by
        rw [← List.countP_eq_length_filter, List.countP_map, firstEntries, List.countP_filter]
        refine List.countP_congr fun p _ => ?_
        simp [lone, Lone, stored, and_comm]

/-- What `ledger_sync` counts: the lone keys, and all other entries. -/
lemma ledgerSync_counts (fresh : Fresh draws s .ledger) (ids : ((s.raw .ledger).map RawRow.id).Nodup)
    (ok : ledgerSync s tenantId entries draws = .ok (s', answer)) :
    (s'.raw .ledger).length =
        (s.raw .ledger).length + (firstEntries (s.raw .ledger) tenantId entries).length ∧
      answer.accepted = (firstEntries (s.raw .ledger) tenantId entries).countP
        (fun p => occurrences entries p.1 == 1) ∧
      answer.accepted + answer.duplicates = entries.length := by
  simp only [ledgerSync, bind, Except.bind] at ok
  split at ok
  · cases ok
  rename_i result batchOk
  obtain ⟨u, outcomes⟩ := result
  obtain ⟨rfl, rfl⟩ := Prod.mk.inj (Except.ok.inj ok)
  have stored := congrArg List.length (ledger_of_ok batchOk).2
  have length : outcomes.length = entries.length := (names_of_ok batchOk).length_eq.symm
  have split := List.length_eq_countP_add_countP (fun o : IngestOutcome => o.duplicate) (l := outcomes)
  have lone : outcomes.countP (fun o => ¬o.duplicate = true) =
      entries.countP fun entry => Lone s tenantId entries entry.idempotencyKey := by
    refine (countP_forall₂ (answers_duplicate fresh ids batchOk) ?_).symm
    intro entry _ outcome dup
    simp [dup]
  refine ⟨by simpa [ledgerAfter] using stored, ?_, ?_⟩
  · rw [← countP_lone, ← lone]
    simp only
    omega
  · simp only
    omega

/-- `ledger_sync` counts what it stored iff no new key is repeated within the batch. -/
theorem ledger_sync_counts_iff (fresh : Fresh draws s .ledger) (ids : ((s.raw .ledger).map RawRow.id).Nodup)
    (ok : ledgerSync s tenantId entries draws = .ok (s', answer)) :
    (answer.accepted = (s'.raw .ledger).length - (s.raw .ledger).length ∧
        answer.duplicates =
          entries.length - ((s'.raw .ledger).length - (s.raw .ledger).length)) ↔
      NewKeysOnce s (.ledger tenantId entries) := by
  obtain ⟨grown, accepted, total⟩ := ledgerSync_counts fresh ids ok
  have inserted : (s'.raw .ledger).length - (s.raw .ledger).length =
      (firstEntries (s.raw .ledger) tenantId entries).length := by omega
  have once : (∀ p ∈ firstEntries (s.raw .ledger) tenantId entries,
      (occurrences entries p.1 == 1) = true) ↔ NewKeysOnce s (.ledger tenantId entries) := by
    constructor
    · intro all entry memE new
      have listed : entry.idempotencyKey ∈ (Dict.firstBy (·.idempotencyKey) entries).map Prod.fst :=
        Dict.mem_firstBy_fst.2 ⟨entry, memE, rfl⟩
      obtain ⟨p, memP, keyEq⟩ := List.mem_map.1 listed
      have first := all p (List.mem_filter.2 ⟨memP, by simpa [keyEq, stored] using new⟩)
      simpa [keyEq, occurrences] using first
    · intro all p mem
      obtain ⟨memE, keyEq, new⟩ := mem_firstEntries mem
      have one := all p.2 memE (by rw [keyEq]; exact new)
      simpa [keyEq, occurrences] using one
  rw [inserted, ← once, ← List.countP_eq_length, ← accepted]
  constructor
  · exact fun h => h.1
  · intro h
    exact ⟨h, by omega⟩

end Counts

/-- Of a new key that its batch repeats one row is stored, and both entries are answered as
    duplicates. -/
theorem repeated_new_key_unaccepted :
    ∃ s' answer, ledgerSync Sample.store 1 [Sample.entry, Sample.entry] Sample.draws =
        .ok (s', answer) ∧
      (Sample.store.raw .ledger).length = 0 ∧ (s'.raw .ledger).length = 1 ∧
      answer.accepted = 0 ∧ answer.duplicates = 2 :=
  ⟨_, _, rfl, rfl, rfl, rfl, rfl⟩

theorem ledger_sync_counts_sample :
    ∃ s' answer, ledgerSync Sample.paid 1 [Sample.entry, Sample.secondEntry] Sample.draws =
        .ok (s', answer) ∧
      ((answer.accepted = (s'.raw .ledger).length - (Sample.paid.raw .ledger).length ∧
          answer.duplicates = [Sample.entry, Sample.secondEntry].length -
            ((s'.raw .ledger).length - (Sample.paid.raw .ledger).length)) ↔
        NewKeysOnce Sample.paid (.ledger 1 [Sample.entry, Sample.secondEntry])) :=
  ⟨_, _, rfl, ledger_sync_counts_iff Sample.draws_fresh List.nodup_nil rfl⟩

end Ingest
end LedgerLoop
