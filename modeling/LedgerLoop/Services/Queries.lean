import LedgerLoop.Db.Models

/-!
# The read path

Port of `services/queries.py` and of the answers `api/routes_read.py` makes of its rows: stats over a
window, the keyset pages of results and exceptions, and the closing of an exception.

`percentile_cont` interpolates in double arithmetic and skips nulls. A cursor is the integer the
client's string denotes; `next_cursor` is an id. `unmatched_after_s` is a setting and is left out.
-/

set_option autoImplicit false

namespace LedgerLoop
open LedgerLoop.Library

/-- `WindowName`. -/
inductive WindowName where
  | hour
  | day
  | week
deriving DecidableEq, Repr

/-- `WINDOW_SECONDS`. -/
def WindowName.seconds : WindowName → ℤ
  | .hour => 3600
  | .day => 86400
  | .week => 604800

/-- The `status` filter of the exception queue. -/
inductive ExceptionFilter where
  | open
  | closed
deriving DecidableEq, Repr

/-- `StatsRow`, with the latency percentiles as the float values they hold. -/
structure StatsRow where
  matched : ℕ
  unmatched : ℕ
  unmatchedGateway : ℕ
  unmatchedLedger : ℕ
  viaTimeDrift : ℕ
  duplicates : ℕ
  drift : ℕ
  p50 : Option ℚ
  p95 : Option ℚ
  p99 : Option ℚ
  openExceptions : ℕ
deriving DecidableEq, Repr

/-- `StatsOut`. -/
structure StatsOut where
  window : WindowName
  row : StatsRow
  total : ℕ
  matchRate : ℚ
  throughputTxPerSec : ℚ
deriving DecidableEq, Repr

/-- `ReconciliationResultOut`. -/
structure ReconciliationResultOut where
  id : ℕ
  gatewayTxnId : Option ℕ
  ledgerEntryId : Option ℕ
  status : ReconStatus
  matchLayer : MatchLayer
  resolvedAt : Datetime
  matchLatencyMs : Option ℤ
  notes : Option String
  txnId : Option String
  currency : Option String
  gatewayAmount : Option Money
  ledgerAmount : Option Money
  gatewayOccurredAt : Option Datetime
  ledgerOccurredAt : Option Datetime
deriving DecidableEq, Repr

/-- `ExceptionOut`. -/
structure ExceptionOut where
  id : ℕ
  reconciliationResultId : ℕ
  openedAt : Datetime
  closedAt : Option Datetime
  resolutionNotes : Option String
  status : ReconStatus
  matchLayer : MatchLayer
  gatewayTxnId : Option ℕ
  ledgerEntryId : Option ℕ
  notes : Option String
  txnId : Option String
  currency : Option String
  gatewayAmount : Option Money
  ledgerAmount : Option Money
  gatewayOccurredAt : Option Datetime
  ledgerOccurredAt : Option Datetime
deriving DecidableEq, Repr

/-- `TransactionPage` and `ExceptionPage`. -/
structure Page (α : Type) where
  items : List α
  nextCursor : Option ℕ
deriving DecidableEq, Repr

namespace Queries

/-- `percentile_cont(p) WITHIN GROUP (ORDER BY value)`. -/
def percentileCont (p : ℚ) (values : List ℤ) : Option ℚ :=
  let sorted := values.mergeSort
  let position := Binary64.nearest (Binary64.nearest p * (sorted.length - 1 : ℕ))
  let first := sorted[⌊position⌋.toNat]?
  let second := sorted[⌈position⌉.toNat]?
  match first, second with
  | some lo, some hi =>
    if ⌊position⌋ = ⌈position⌉ then some lo
    else
      let proportion := Binary64.nearest (position - ⌊position⌋)
      some (Binary64.nearest (lo + Binary64.nearest (proportion * (hi - lo))))
  | _, _ => none

/-- `fetch_stats` over the rows of one tenant inside the window, and its open exceptions. -/
def statsOf (rows : List ReconciliationResult) (openExceptions : ℕ) : StatsRow :=
  let latencies := (rows.filter (·.active)).filterMap (·.matchLatencyMs)
  { matched := rows.countP (·.status == .matched)
    unmatched := rows.countP fun r =>
      r.status == .unmatchedGatewayOnly || r.status == .unmatchedLedgerOnly
    unmatchedGateway := rows.countP (·.status == .unmatchedGatewayOnly)
    unmatchedLedger := rows.countP (·.status == .unmatchedLedgerOnly)
    viaTimeDrift := rows.countP (·.matchLayer == .timeDrift)
    duplicates := rows.countP (·.status == .duplicate)
    drift := rows.countP fun r => r.status == .amountDrift || r.status == .timeDrift
    p50 := percentileCont (50 / 100) latencies
    p95 := percentileCont (95 / 100) latencies
    p99 := percentileCont (99 / 100) latencies
    openExceptions := openExceptions }

/-- `fetch_stats`. -/
def fetchStats (s : Store) (tenantId : ℕ) (window : WindowName) (now : Datetime) : StatsRow :=
  statsOf
    (s.reconciliationResults.filter fun r => r.tenantId == tenantId &&
      decide ((now.us - Timedelta.seconds window.seconds : ℤ) ≤ r.resolvedAt.us))
    (s.exceptions.countP fun e => e.tenantId == tenantId && e.closedAt.isNone)

/-- `get_stats`. -/
def getStats (s : Store) (tenantId : ℕ) (window : WindowName) (now : Datetime) : StatsOut :=
  let row := fetchStats s tenantId window now
  let total := row.matched + row.unmatched + row.drift
  { window := window
    row := row
    total := total
    matchRate := if total = 0 then 0 else Binary64.nearest (row.matched / total)
    throughputTxPerSec := Binary64.nearest (total / window.seconds) }

/-- `_apply_keyset`, and the trim to `limit` with the cursor of the next page. -/
def keysetPage {α : Type} (id : α → ℕ) (rows : List α) (limit : ℕ) (cursor : Option ℤ) :
    List α × Option ℕ :=
  let below := rows.filter fun r => cursor.all fun c => (id r : ℤ) < c
  let page := (below.mergeSort fun a b => id b ≤ id a).take (limit + 1)
  if limit < page.length then (page.take limit, page[limit - 1]?.map id) else (page, none)

/-- The raw row joined to a result on one side. -/
def joined (s : Store) (r : ReconciliationResult) (side : IngestSource) : Option RawRow :=
  (r.rawId side).bind fun id => (s.raw side).find? (·.id == id)

/-- `_result_out`. -/
def resultOut (s : Store) (r : ReconciliationResult) : ReconciliationResultOut :=
  let gateway := joined s r .gateway
  let ledger := joined s r .ledger
  let present := gateway.or ledger
  { id := r.id
    gatewayTxnId := r.gatewayTxnId
    ledgerEntryId := r.ledgerEntryId
    status := r.status
    matchLayer := r.matchLayer
    resolvedAt := r.resolvedAt
    matchLatencyMs := r.matchLatencyMs
    notes := r.notes
    txnId := present.map (·.txnId)
    currency := present.map (·.currency)
    gatewayAmount := gateway.map (·.amount)
    ledgerAmount := ledger.map (·.amount)
    gatewayOccurredAt := gateway.map (·.occurredAt)
    ledgerOccurredAt := ledger.map (·.occurredAt) }

/-- `_exception_out`. -/
def exceptionOut (s : Store) (e : Exception_) (r : ReconciliationResult) : ExceptionOut :=
  let gateway := joined s r .gateway
  let ledger := joined s r .ledger
  let present := gateway.or ledger
  { id := e.id
    reconciliationResultId := e.reconciliationResultId
    openedAt := e.openedAt
    closedAt := e.closedAt
    resolutionNotes := e.resolutionNotes
    status := r.status
    matchLayer := r.matchLayer
    gatewayTxnId := r.gatewayTxnId
    ledgerEntryId := r.ledgerEntryId
    notes := r.notes
    txnId := present.map (·.txnId)
    currency := present.map (·.currency)
    gatewayAmount := gateway.map (·.amount)
    ledgerAmount := ledger.map (·.amount)
    gatewayOccurredAt := gateway.map (·.occurredAt)
    ledgerOccurredAt := ledger.map (·.occurredAt) }

/-- `fetch_results_page`. -/
def fetchResultsPage (s : Store) (tenantId : ℕ) (status : Option ReconStatus) (limit : ℕ)
    (cursor : Option ℤ) : List ReconciliationResult × Option ℕ :=
  keysetPage (·.id) (s.reconciliationResults.filter fun r =>
    r.tenantId == tenantId && status.all (r.status == ·)) limit cursor

/-- `list_transactions`. -/
def listTransactions (s : Store) (tenantId : ℕ) (status : Option ReconStatus) (limit : ℕ)
    (cursor : Option ℤ) : Page ReconciliationResultOut :=
  let (rows, next) := fetchResultsPage s tenantId status limit cursor
  { items := rows.map (resultOut s), nextCursor := next }

/-- The filter of the exception queue. -/
def ExceptionFilter.admits (filter : Option ExceptionFilter) (e : Exception_) : Bool :=
  match filter with
  | none => true
  | some .open => e.closedAt.isNone
  | some .closed => e.closedAt.isSome

/-- An exception and the result that opened it. -/
def withResult (s : Store) (e : Exception_) : Option (Exception_ × ReconciliationResult) :=
  (s.reconciliationResults.find? (·.id == e.reconciliationResultId)).map fun r => (e, r)

/-- `fetch_exceptions_page`. -/
def fetchExceptionsPage (s : Store) (tenantId : ℕ) (filter : Option ExceptionFilter) (limit : ℕ)
    (cursor : Option ℤ) : List (Exception_ × ReconciliationResult) × Option ℕ :=
  keysetPage (·.1.id) ((s.exceptions.filter fun e =>
    e.tenantId == tenantId && ExceptionFilter.admits filter e).filterMap (withResult s)) limit cursor

/-- `list_exceptions`. -/
def listExceptions (s : Store) (tenantId : ℕ) (filter : Option ExceptionFilter) (limit : ℕ)
    (cursor : Option ℤ) : Page ExceptionOut :=
  let (rows, next) := fetchExceptionsPage s tenantId filter limit cursor
  { items := rows.map fun (e, r) => exceptionOut s e r, nextCursor := next }

/-- `fetch_exception`. -/
def fetchException (s : Store) (tenantId exceptionId : ℕ) :
    Option (Exception_ × ReconciliationResult) :=
  ((s.exceptions.filter fun e => e.tenantId == tenantId && e.id == exceptionId).filterMap
    (withResult s)).head?

/-- The `WHERE` clause of `close_exception`. -/
def isOpen (tenantId exceptionId : ℕ) (e : Exception_) : Bool :=
  e.tenantId == tenantId && e.id == exceptionId && e.closedAt.isNone

/-- The `SET` clause of `close_exception`. -/
def close (now : Datetime) (notes : String) (e : Exception_) : Exception_ :=
  { e with closedAt := some now, resolutionNotes := some notes }

/-- `close_exception`: the store, and the closed row if the compare-and-set took. -/
def closeException (s : Store) (tenantId exceptionId : ℕ) (notes : String) (now : Datetime) :
    Except PyError (Store × Option Exception_) :=
  let targets := s.exceptions.filter (isOpen tenantId exceptionId)
  if targets.any fun e => now < e.openedAt then .error (.checkViolation "closed_after_opened")
  else
    .ok ({ s with exceptions :=
        updateWhere (isOpen tenantId exceptionId) (close now notes) s.exceptions },
      (targets.map (close now notes)).head?)

/-- A closing updates the row it selects and reads it back. -/
lemma closeException_ok {s s' : Store} {tenantId exceptionId : ℕ} {notes : String} {now : Datetime}
    {closed : Option Exception_}
    (ok : closeException s tenantId exceptionId notes now = .ok (s', closed)) :
    s' = { s with exceptions :=
        updateWhere (isOpen tenantId exceptionId) (close now notes) s.exceptions } ∧
      closed = ((s.exceptions.filter (isOpen tenantId exceptionId)).map (close now notes)).head? := by
  simp only [closeException] at ok
  split_ifs at ok
  obtain ⟨rfl, rfl⟩ := Prod.mk.inj (Except.ok.inj ok)
  exact ⟨rfl, rfl⟩

/-- What `resolve_exception` answers. -/
inductive ResolveAnswer where
  | ok (out : ExceptionOut)
  | notFound
  | conflict
deriving DecidableEq, Repr

/-- `resolve_exception`. -/
def resolveException (s : Store) (tenantId exceptionId : ℕ) (notes : String) (now : Datetime) :
    Except PyError (Store × ResolveAnswer) := do
  let (s', closed) ← closeException s tenantId exceptionId notes now
  let found := fetchException s' tenantId exceptionId
  match closed, found with
  | none, none => .ok (s', .notFound)
  | none, some _ => .ok (s', .conflict)
  | some _, some (e, r) => .ok (s', .ok (exceptionOut s' e r))
  -- the row just closed belongs to the tenant, so the second read finds it
  | some _, none => .error .noResultFound

end Queries
end LedgerLoop
