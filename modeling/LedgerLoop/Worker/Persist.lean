import LedgerLoop.Matching.Verdicts

/-!
# The persistence layer around the matcher

Port of `worker/persist.py`. Each function is one or more SQL statements over a `Store`; the caller owns
the transaction, so what a function returns is what a commit would make of the store it was given.

`INSERT .. ON CONFLICT DO NOTHING` without a conflict target refuses a row that any of the four partial
unique indexes already holds (`conflicts`). Arguments are encoded and `CHECK`s evaluated before the
indexes are probed, foreign keys after the row is in, which is the order of the branches of
`applyDecision`. Identity values and clock readings are handed in as `Draws`.
-/

set_option autoImplicit false

namespace LedgerLoop
open LedgerLoop.Library

/-- `_facts`. -/
def facts (row : RawRow) (side : IngestSource) : TxnFacts where
  side := side
  tenantId := row.tenantId
  rowId := row.id
  txnId := row.txnId
  amount := row.amount
  currency := row.currency
  occurredAt := row.occurredAt
  receivedAt := row.receivedAt

/-- `PersistResult`. -/
structure PersistResult where
  written : Bool
  resultId : Option ℕ
  exceptionOpened : Bool
deriving DecidableEq, Repr

/-- What the statements of `apply_decision` draw from outside the store. -/
structure Draws where
  /-- Next value of `reconciliation_results.id`, drawn also when the insert is refused. -/
  resultId : ℕ
  /-- Next value of `exceptions.id`. -/
  exceptionId : ℕ
  /-- `now()` of the transaction. -/
  now : Datetime
  /-- `datetime.now(UTC)` when `_mark_reconciled` reaches a side. -/
  markedAt : IngestSource → Datetime

namespace Persist

/-- `load_facts`. -/
def loadFacts (s : Store) (source : IngestSource) (rowId : ℕ) : Option TxnFacts :=
  ((s.raw source).find? fun row => row.id == rowId).map fun row => facts row source

/-- The `WHERE` clause of `find_counterparties`. -/
def isCounterparty (candidate : TxnFacts) (low high : Datetime) (row : RawRow) : Bool :=
  row.tenantId == candidate.tenantId && row.txnId == candidate.txnId &&
    decide (low ≤ row.occurredAt) && decide (row.occurredAt ≤ high) && row.pending

/-- `find_counterparties`: the other side's plausible partners. -/
def findCounterparties (s : Store) (candidate : TxnFacts) (config : MatchConfig) :
    Except PyError (List TxnFacts) := do
  let otherSide := candidate.side.other
  let low ← candidate.occurredAt.sub config.driftWindow
  let high ← candidate.occurredAt.add config.driftWindow
  return ((s.raw otherSide).filter (isCounterparty candidate low high)).map fun row =>
    facts row otherSide

/-- `max(fact.received_at for fact in sides)`. -/
def latestReceipt (first : TxnFacts) (rest : List TxnFacts) : Datetime :=
  (rest.map TxnFacts.receivedAt).foldl max first.receivedAt

/-- `compute_latency_ms`: the clock starts at the later arrival. -/
def computeLatencyMs (_decision : Decision) (sides : List TxnFacts) (now : Datetime) : ℤ :=
  match sides with
  | [] => 0
  | first :: rest =>
    let started := latestReceipt first rest
    max (Binary64.truncate
      (Binary64.nearest (Timedelta.totalSeconds (now.diff started) * 1000))) 0

/-- The range of an `Integer` column. -/
def FitsInteger (n : ℤ) : Prop := -2147483648 ≤ n ∧ n ≤ 2147483647

instance (n : ℤ) : Decidable (FitsInteger n) := inferInstanceAs (Decidable (_ ∧ _))

/-- The row `apply_decision` inserts. -/
def resultRow (decision : Decision) (tenantId : ℕ) (latencyMs : Option ℤ)
    (messageId : Option String) (draws : Draws) : ReconciliationResult where
  id := draws.resultId
  tenantId := tenantId
  gatewayTxnId := decision.gatewayRowId
  ledgerEntryId := decision.ledgerRowId
  status := decision.status
  matchLayer := decision.layer
  resolvedAt := draws.now
  notes := decision.notes
  matchLatencyMs := latencyMs
  sourceMessageId := messageId

/-- What refuses a result before its indexes are probed: argument encoding, then `CHECK`s. -/
def rowError (r : ReconciliationResult) : Option PyError :=
  if r.matchLatencyMs.any fun ms => ¬FitsInteger ms then
    some (.dataError "match_latency_ms")
  else if r.sourceMessageId.any fun id => 64 < id.length then
    some (.dataError "source_message_id")
  else if r.gatewayTxnId = none ∧ r.ledgerEntryId = none then
    some (.checkViolation "at_least_one_side")
  else if r.matchLatencyMs.any fun ms => ms < 0 then
    some (.checkViolation "latency_non_negative")
  else none

/-- Two results meet in a unique index of one side: same tenant, same raw row, both active or both
    duplicate markers. -/
def collides (r r' : ReconciliationResult) (side : IngestSource) : Bool :=
  (r.rawId side).isSome && r'.rawId side == r.rawId side && r'.tenantId == r.tenantId &&
    r'.active == r.active

/-- One of the four partial unique indexes already holds the row. -/
def conflicts (s : Store) (r : ReconciliationResult) : Bool :=
  s.reconciliationResults.any fun r' => collides r r' .gateway || collides r r' .ledger

/-- The raw row referenced on a side is missing. -/
def dangling (s : Store) (r : ReconciliationResult) (side : IngestSource) : Bool :=
  (r.rawId side).any fun id => !s.hasRaw side id

/-- The foreign keys of `reconciliation_results`. -/
def foreignKeyError (s : Store) (r : ReconciliationResult) : Option PyError :=
  if !s.hasAccount r.tenantId then some (.foreignKeyViolation "tenant_id")
  else if dangling s r .gateway then some (.foreignKeyViolation "gateway_txn_id")
  else if dangling s r .ledger then some (.foreignKeyViolation "ledger_entry_id")
  else none

/-- `UPDATE .. WHERE id = :row_id AND reconciled_at IS NULL`, skipped without a row id. -/
def markRows (rowId : Option ℕ) (at_ : Datetime) (rows : List RawRow) : List RawRow :=
  match rowId with
  | none => rows
  | some id =>
    updateWhere (fun row => row.id == id && row.pending)
      (fun row => { row with reconciledAt := some at_ }) rows

/-- `_mark_reconciled`. -/
def markReconciled (s : Store) (decision : Decision) (draws : Draws) : Store :=
  let s1 := s.setRaw .gateway
    (markRows decision.gatewayRowId (draws.markedAt .gateway) (s.raw .gateway))
  s1.setRaw .ledger (markRows decision.ledgerRowId (draws.markedAt .ledger) (s1.raw .ledger))

/-- The row inserted into `exceptions`. -/
def exceptionRow (tenantId resultId : ℕ) (draws : Draws) : Exception_ where
  id := draws.exceptionId
  tenantId := tenantId
  reconciliationResultId := resultId
  openedAt := draws.now

/-- The exception a decision opens, unless its result has one. -/
def openException (s : Store) (tenantId resultId : ℕ) (draws : Draws) : Store × Bool :=
  if s.exceptions.any (·.reconciliationResultId == resultId) then (s, false)
  else ({ s with exceptions := s.exceptions ++ [exceptionRow tenantId resultId draws] }, true)

/-- `apply_decision` past its insert. -/
def settle (s : Store) (decision : Decision) (result : ReconciliationResult) (draws : Draws) :
    Store × PersistResult :=
  let s1 := { s with reconciliationResults := s.reconciliationResults ++ [result] }
  -- a duplicate marker points at a row that still waits for its own counterparty
  let s2 := if decision.status = .duplicate then s1 else markReconciled s1 decision draws
  if decision.opensException then
    let (s3, opened) := openException s2 result.tenantId result.id draws
    (s3, { written := true, resultId := some result.id, exceptionOpened := opened })
  else (s2, { written := true, resultId := some result.id, exceptionOpened := false })

/-- `apply_decision`. -/
def applyDecision (s : Store) (decision : Decision) (tenantId : ℕ) (latencyMs : Option ℤ)
    (messageId : Option String) (draws : Draws) : Except PyError (Store × PersistResult) :=
  let result := resultRow decision tenantId latencyMs messageId draws
  match rowError result with
  | some e => .error e
  | none =>
    if conflicts s result then
      .ok (s, { written := false, resultId := none, exceptionOpened := false })
    else
      match foreignKeyError s result with
      | some e => .error e
      | none => .ok (settle s decision result draws)

/-- `find_stale_pending`: the backlog past the window, oldest first. -/
def findStalePending (s : Store) (source : IngestSource) (now : Datetime) (olderThan : Timedelta)
    (limit : ℕ) : Except PyError (List TxnFacts) := do
  let cutoff ← now.sub olderThan
  let stale := (s.raw source).filter fun row => row.pending && decide (row.receivedAt < cutoff)
  return ((stale.mergeSort fun a b => a.receivedAt ≤ b.receivedAt).take limit).map fun row =>
    facts row source

section Specs
variable {s s' : Store} {candidate f : TxnFacts} {config : MatchConfig} {side : IngestSource}

@[simp] lemma facts_side (row : RawRow) : (facts row side).side = side := rfl

@[simp] lemma facts_rowId (row : RawRow) : (facts row side).rowId = row.id := rfl

@[simp] lemma facts_tenantId (row : RawRow) : (facts row side).tenantId = row.tenantId := rfl

/-- Marking a row does not change what matching sees of it. -/
@[simp] lemma facts_mark (row : RawRow) (at_ : Option Datetime) :
    facts { row with reconciledAt := at_ } side = facts row side := rfl

/-- A loaded candidate is the facts of a stored row. -/
lemma loadFacts_eq_some {rowId : ℕ} (h : loadFacts s side rowId = some candidate) :
    ∃ row ∈ s.raw side, row.id = rowId ∧ candidate = facts row side := by
  simp only [loadFacts, Option.map_eq_some_iff] at h
  obtain ⟨row, found, rfl⟩ := h
  exact ⟨row, List.mem_of_find?_eq_some found, by simpa using List.find?_some found, rfl⟩

/-- A stored row is found. -/
lemma loadFacts_isSome {row : RawRow} (mem : row ∈ s.raw side) :
    ∃ f, loadFacts s side row.id = some f := by
  have found : ((s.raw side).find? fun r => r.id == row.id).isSome := by
    simp only [List.find?_isSome, beq_iff_eq]
    exact ⟨row, mem, rfl⟩
  obtain ⟨r, eq⟩ := Option.isSome_iff_exists.1 found
  exact ⟨facts r side, by simp [loadFacts, eq]⟩

/-- The query succeeds iff both ends of its window are instants. -/
lemma findCounterparties_isOk :
    (∃ cps, findCounterparties s candidate config = .ok cps) ↔
      (∃ low, candidate.occurredAt.sub config.driftWindow = .ok low) ∧
      (∃ high, candidate.occurredAt.add config.driftWindow = .ok high) := by
  simp only [findCounterparties]
  cases candidate.occurredAt.sub config.driftWindow with
  | error e => simp [bind, Except.bind]
  | ok low =>
    cases candidate.occurredAt.add config.driftWindow with
    | error e => simp [bind, Except.bind]
    | ok high => simp [bind, Except.bind, pure, Except.pure]

/-- The query returns the pending rows of the other side with the candidate's tenant and transaction
    id inside the drift window, and no others. -/
lemma mem_findCounterparties {cps : List TxnFacts}
    (h : findCounterparties s candidate config = .ok cps) :
    f ∈ cps ↔ ∃ row ∈ s.raw candidate.side.other, row.pending = true ∧
      row.tenantId = candidate.tenantId ∧ row.txnId = candidate.txnId ∧
      Core.timeDelta candidate f ≤ config.driftWindow ∧ f = facts row candidate.side.other := by
  simp only [findCounterparties, bind, Except.bind, pure, Except.pure] at h
  split at h
  · cases h
  rename_i low lowEq
  split at h
  · cases h
  rename_i high highEq
  obtain rfl := Except.ok.inj h
  rw [Datetime.sub, Datetime.ofUs_eq_ok] at lowEq
  rw [Datetime.add, Datetime.ofUs_eq_ok] at highEq
  simp only [List.mem_map, List.mem_filter, isCounterparty, Bool.and_eq_true, beq_iff_eq,
    decide_eq_true_eq, Datetime.le_iff]
  constructor
  · rintro ⟨row, ⟨mem, ⟨⟨⟨tenant, txn⟩, lo⟩, hi⟩, pending⟩, rfl⟩
    exact ⟨row, mem, pending, tenant, txn,
      Core.timeDelta_le.2 ⟨lowEq ▸ lo, highEq ▸ hi⟩, rfl⟩
  · rintro ⟨row, mem, pending, tenant, txn, near, rfl⟩
    obtain ⟨lo, hi⟩ := Core.timeDelta_le.1 near
    exact ⟨row, ⟨mem, ⟨⟨⟨tenant, txn⟩, lowEq ▸ lo⟩, highEq ▸ hi⟩, pending⟩, rfl⟩

/-- A pending row that has a verdict with the candidate is among the counterparties. -/
lemma viable_mem_findCounterparties {cps : List TxnFacts} {row : RawRow}
    {v : ReconStatus × MatchLayer} (windows : config.exactWindow ≤ config.driftWindow)
    (h : findCounterparties s candidate config = .ok cps)
    (mem : row ∈ s.raw candidate.side.other) (pending : row.pending = true)
    (viable : Core.classifyPair candidate (facts row candidate.side.other) config = some v) :
    facts row candidate.side.other ∈ cps := by
  have agree := Core.classifyPair_agree viable
  exact (mem_findCounterparties h).2 ⟨row, mem, pending, agree.tenantId.symm, agree.txnId.symm,
    Core.classifyPair_window windows viable, rfl⟩

end Specs

section Marking
variable {at_ : Datetime} {rows : List RawRow} {row : RawRow}

lemma mem_markRows {id : ℕ} :
    row ∈ markRows (some id) at_ rows ↔
      (∃ r0 ∈ rows, (r0.id = id ∧ r0.pending = true) ∧ row = { r0 with reconciledAt := some at_ }) ∨
      (row ∈ rows ∧ ¬(row.id = id ∧ row.pending = true)) := by
  simp [markRows, mem_updateWhere]

/-- Every row after marking is a row before it, up to `reconciled_at`. -/
lemma of_mem_markRows {rowId : Option ℕ} (mem : row ∈ markRows rowId at_ rows) :
    ∃ r0 ∈ rows, row = { r0 with reconciledAt := row.reconciledAt } := by
  cases rowId with
  | none => exact ⟨row, mem, rfl⟩
  | some id =>
    rcases mem_markRows.1 mem with ⟨r0, mem0, _, rfl⟩ | ⟨mem0, _⟩
    · exact ⟨r0, mem0, rfl⟩
    · exact ⟨row, mem0, rfl⟩

/-- A column that does not involve `reconciled_at` is unchanged by marking. -/
lemma map_markRows {β : Type*} {rowId : Option ℕ} {g : RawRow → β}
    (keep : ∀ r : RawRow, g { r with reconciledAt := some at_ } = g r) :
    (markRows rowId at_ rows).map g = rows.map g := by
  cases rowId with
  | none => rfl
  | some id => exact map_updateWhere rows keep

end Marking

section Settle
variable (s : Store) (d : Decision) (r : ReconciliationResult) (draws : Draws)

@[simp] lemma settle_written : (settle s d r draws).2.written = true := by
  simp only [settle]
  split_ifs <;> rfl

@[simp] lemma settle_accounts : (settle s d r draws).1.accounts = s.accounts := by
  simp only [settle, openException, markReconciled]
  split_ifs <;> simp

@[simp] lemma settle_apiKeys : (settle s d r draws).1.apiKeys = s.apiKeys := by
  simp only [settle, openException, markReconciled]
  split_ifs <;> simp

@[simp] lemma settle_outboxEvents : (settle s d r draws).1.outboxEvents = s.outboxEvents := by
  simp only [settle, openException, markReconciled]
  split_ifs <;> simp

@[simp] lemma settle_results :
    (settle s d r draws).1.reconciliationResults = s.reconciliationResults ++ [r] := by
  simp only [settle, openException, markReconciled]
  split_ifs <;> simp

/-- Both sides of a decision are marked, unless it is a duplicate marker. -/
lemma settle_raw (side : IngestSource) :
    (settle s d r draws).1.raw side =
      if d.status = .duplicate then s.raw side
      else markRows (d.rowId side) (draws.markedAt side) (s.raw side) := by
  simp only [settle, openException]
  split_ifs <;> cases side <;> rfl

/-- A result with a fresh id gets its exception iff its status opens one. -/
lemma settle_exceptions (fresh : ∀ e ∈ s.exceptions, e.reconciliationResultId ≠ r.id) :
    (settle s d r draws).1.exceptions = s.exceptions ++
      if d.opensException then [exceptionRow r.tenantId r.id draws] else [] := by
  have none_yet : (s.exceptions.any (·.reconciliationResultId == r.id)) = false := by
    simpa using fresh
  have open_eq (t : Store) (same : t.exceptions = s.exceptions) :
      (openException t r.tenantId r.id draws).1.exceptions =
        s.exceptions ++ [exceptionRow r.tenantId r.id draws] := by
    simp [openException, same, none_yet]
  simp only [settle]
  split_ifs
  · exact open_eq _ rfl
  · exact open_eq _ (by simp [markReconciled])
  · simp
  · simp [markReconciled]

end Settle

section Apply
variable {s s' : Store} {d : Decision} {tenantId : ℕ} {latencyMs : Option ℤ}
  {messageId : Option String} {draws : Draws} {res : PersistResult} {r : ReconciliationResult}

/-- An insert is refused iff a result of the same tenant and kind references one of its raw rows. -/
lemma conflicts_iff :
    conflicts s r = true ↔ ∃ r' ∈ s.reconciliationResults, r'.tenantId = r.tenantId ∧
      r'.active = r.active ∧ ∃ side id, r.rawId side = some id ∧ r'.rawId side = some id := by
  simp only [conflicts, collides, List.any_eq_true, Bool.or_eq_true, Bool.and_eq_true, beq_iff_eq,
    Option.isSome_iff_exists]
  constructor
  · rintro ⟨r', mem, ⟨⟨⟨⟨id, eq⟩, same⟩, tenant⟩, active⟩ | ⟨⟨⟨⟨id, eq⟩, same⟩, tenant⟩, active⟩⟩
    · exact ⟨r', mem, tenant, active, .gateway, id, eq, same.trans eq⟩
    · exact ⟨r', mem, tenant, active, .ledger, id, eq, same.trans eq⟩
  · rintro ⟨r', mem, tenant, active, side, id, eq, eq'⟩
    refine ⟨r', mem, ?_⟩
    cases side
    · exact .inl ⟨⟨⟨⟨id, eq⟩, eq'.trans eq.symm⟩, tenant⟩, active⟩
    · exact .inr ⟨⟨⟨⟨id, eq⟩, eq'.trans eq.symm⟩, tenant⟩, active⟩

lemma dangling_eq_false {side : IngestSource} :
    dangling s r side = false ↔ ∀ id, r.rawId side = some id → ∃ row ∈ s.raw side, row.id = id := by
  simp only [dangling, Option.any_eq_false, Bool.not_eq_eq_eq_not, Bool.not_false,
    Store.hasRaw_iff]

/-- No foreign key is violated iff the account and every referenced row exist. -/
lemma foreignKeyError_eq_none :
    foreignKeyError s r = none ↔ s.hasAccount r.tenantId = true ∧
      ∀ side id, r.rawId side = some id → ∃ row ∈ s.raw side, row.id = id := by
  unfold foreignKeyError
  constructor
  · intro h
    split_ifs at h with account gateway ledger
    refine ⟨by simpa using account, fun side => ?_⟩
    cases side
    · exact dangling_eq_false.1 (by simpa using gateway)
    · exact dangling_eq_false.1 (by simpa using ledger)
  · rintro ⟨account, rows⟩
    simp [account, dangling_eq_false.2 (rows .gateway), dangling_eq_false.2 (rows .ledger)]

/-- What a successful `apply_decision` did: nothing, because an index held the row, or the insert and
    its follow-up statements. -/
lemma applyDecision_ok (h : applyDecision s d tenantId latencyMs messageId draws = .ok (s', res)) :
    (conflicts s (resultRow d tenantId latencyMs messageId draws) = true ∧
      s' = s ∧ res.written = false) ∨
    (conflicts s (resultRow d tenantId latencyMs messageId draws) = false ∧
      foreignKeyError s (resultRow d tenantId latencyMs messageId draws) = none ∧
      rowError (resultRow d tenantId latencyMs messageId draws) = none ∧
      s' = (settle s d (resultRow d tenantId latencyMs messageId draws) draws).1 ∧
      res.written = true) := by
  simp only [applyDecision] at h
  split at h
  · cases h
  rename_i fits
  split_ifs at h with conflict
  · obtain ⟨rfl, rfl⟩ := Prod.mk.inj (Except.ok.inj h)
    exact .inl ⟨conflict, rfl, rfl⟩
  · split at h
    · cases h
    rename_i keys
    have eq := Except.ok.inj h
    refine .inr ⟨by simpa using conflict, keys, fits, ?_, ?_⟩
    · rw [eq]
    · have := settle_written s d (resultRow d tenantId latencyMs messageId draws) draws
      rwa [eq] at this

end Apply

end Persist
end LedgerLoop
