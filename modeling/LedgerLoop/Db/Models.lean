import LedgerLoop.Clock
import LedgerLoop.Library.Table

/-!
# Data model

Port of `db/enums.py`, `db/models.py`, the request models of `api/schemas.py` and the message of
`queue/messages.py`.

The two raw tables have one row type, `RawRow`: `gateway_transactions` and `ledger_entries` differ in
one column only, `gateway_ref` against `entry_id`, which is the field `ref`. As in `worker/persist.py`
the table is picked by an `IngestSource`. A `Store` is the committed contents of the tables; identity
columns are drawn from sequences outside it, so a function that inserts takes the ids it is handed,
as it takes the clock.

`numeric(18,2)` is `Money`, in hundredths. The bounds the request models check are fields of
`GatewayWebhookIn` and `LedgerEntryIn`. `raw_payload` is kept as the text of the body, or, on the
ledger side where it is `model_dump(mode="json")`, as the entry that is dumped.
-/

set_option autoImplicit false

namespace LedgerLoop
open LedgerLoop.Library

/-- Which side of the reconciliation a row came from (`IngestSource`). -/
inductive IngestSource where
  | gateway
  | ledger
deriving DecidableEq, Repr

/-- `worker/persist.py`, `_other`. -/
def IngestSource.other : IngestSource → IngestSource
  | .gateway => .ledger
  | .ledger => .gateway

@[simp] lemma IngestSource.other_other (side : IngestSource) : side.other.other = side := by
  cases side <;> rfl

@[simp] lemma IngestSource.other_ne (side : IngestSource) : side.other ≠ side := by
  cases side <;> decide

lemma IngestSource.eq_other_of_ne {a b : IngestSource} (ne : a ≠ b) : b = a.other := by
  cases a <;> cases b <;> first | rfl | exact absurd rfl ne

/-- Whether retention may delete a tenant (`AccountKind`). -/
inductive AccountKind where
  | real
  | demo
deriving DecidableEq, Repr

/-- Terminal classification of a reconciliation attempt (`ReconStatus`); `timeDrift` is reserved. -/
inductive ReconStatus where
  | matched
  | unmatchedGatewayOnly
  | unmatchedLedgerOnly
  | duplicate
  | amountDrift
  | timeDrift
deriving DecidableEq, Repr

/-- Which layer produced a result (`MatchLayer`). -/
inductive MatchLayer where
  | exact
  | timeDrift
  | amountDrift
  | duplicate
  | unmatchedSweep
deriving DecidableEq, Repr

/-- `EXCEPTION_STATUSES`: the statuses that open an exception. -/
def ReconStatus.opensException : ReconStatus → Bool
  | .amountDrift | .unmatchedGatewayOnly | .unmatchedLedgerOnly => true
  | .matched | .duplicate | .timeDrift => false

lemma ReconStatus.opensException_iff {status : ReconStatus} : status.opensException = true ↔
    status = .amountDrift ∨ status = .unmatchedGatewayOnly ∨ status = .unmatchedLedgerOnly := by
  cases status <;> simp [opensException]

/-- `numeric(18,2)`, in hundredths. -/
structure Money where
  minor : ℤ
  bounded : |minor| < 10 ^ 18
deriving DecidableEq, Repr

/-- The value the driver hands out: always two decimal places. -/
def Money.toDecimal (m : Money) : Decimal := ⟨m.minor, -2⟩

lemma Money.toRat_toDecimal (m : Money) : m.toDecimal.toRat = m.minor / 100 := by
  rw [toDecimal, Decimal.toRat, div_eq_mul_inv]
  norm_num

/-- A `Decimal` in `numeric(18,2)`: at most two decimal places and 16 digits before them. -/
def Money.ofDecimal (d : Decimal) : Option Money :=
  let hundredths := d.toRat * 100
  if h : hundredths.den = 1 ∧ |hundredths.num| < 10 ^ 18 then some ⟨hundredths.num, h.2⟩ else none

/-- The hundredths of an amount. -/
lemma Money.ofDecimal_eq_some {d : Decimal} {m : Money} :
    Money.ofDecimal d = some m ↔ d.toRat * 100 = m.minor := by
  simp only [Money.ofDecimal]
  constructor
  · intro made
    split_ifs at made with fits
    cases made
    exact (Rat.coe_int_num_of_den_eq_one fits.1).symm
  · intro value
    have fits : (d.toRat * 100).den = 1 ∧ |(d.toRat * 100).num| < 10 ^ 18 := by
      rw [value]
      exact ⟨Rat.den_intCast _, m.bounded⟩
    simp only [fits, and_self, dite_true, Option.some.injEq]
    cases m
    simp_all

/-- `^[A-Z]{3}$`. -/
def IsCurrency (s : String) : Prop :=
  s.toList.length = 3 ∧ ∀ c ∈ s.toList, 'A' ≤ c ∧ c ≤ 'Z'

instance (s : String) : Decidable (IsCurrency s) :=
  @instDecidableAnd _ _ _ (List.decidableBAll _ _)

/-- `Field(min_length=1, max_length=n)`. -/
def HasLength (n : ℕ) (s : String) : Prop := 1 ≤ s.length ∧ s.length ≤ n

instance (n : ℕ) (s : String) : Decidable (HasLength n s) := inferInstanceAs (Decidable (_ ∧ _))

/-- Whether PostgreSQL refuses the text for the code point 0 in it. -/
def hasNul (text : String) : Bool := text.toList.contains '\x00'

/-- A text as a `varchar(n)` column stores it: cut if all that is over is spaces, refused if it is not. -/
def varchar (n : ℕ) (text : String) : Option String :=
  if text.length ≤ n then some text
  else if (text.toList.drop n).all (· == ' ') then some (.ofList (text.toList.take n))
  else none

section Varchar
variable {n : ℕ} {text column : String}

/-- A text that fits is stored as it is. -/
lemma varchar_of_fits (fits : text.length ≤ n) : varchar n text = some text := if_pos fits

/-- What is stored fits. -/
lemma length_of_varchar (held : varchar n text = some column) : column.length ≤ n := by
  unfold varchar at held
  split_ifs at held with fits blank
  · exact Option.some.inj held ▸ fits
  · rw [← Option.some.inj held, String.length_ofList, List.length_take]
    exact min_le_left _ _

/-- A stored text is the one that was sent iff that one fits. -/
lemma varchar_eq_iff (held : varchar n text = some column) : column = text ↔ text.length ≤ n := by
  constructor
  · rintro rfl
    exact length_of_varchar held
  · intro fits
    exact (Option.some.inj ((varchar_of_fits fits).symm.trans held)).symm

/-- What a text is that is stored cut: the column's text and spaces. -/
lemma varchar_eq_some_iff_of_ne (ne : column ≠ text) : varchar n text = some column ↔
    column.length = n ∧ ∃ spaces, text = column ++ String.ofList (List.replicate spaces ' ') := by
  constructor
  · intro held
    have long : ¬text.length ≤ n := fun fits => ne ((varchar_eq_iff held).2 fits)
    rw [varchar, if_neg long, Option.ite_none_right_eq_some] at held
    obtain ⟨blank, cut⟩ := held
    obtain rfl := Option.some.inj cut
    have excess : text.toList.drop n = List.replicate (text.toList.drop n).length ' ' :=
      List.eq_replicate_iff.2 ⟨rfl, fun c mem => by simpa using List.all_eq_true.1 blank c mem⟩
    refine ⟨?_, (text.toList.drop n).length, ?_⟩
    · rw [String.length_ofList, List.length_take, String.length_toList]
      exact min_eq_left (le_of_not_ge long)
    · rw [← excess, ← String.ofList_append, List.take_append_drop, String.ofList_toList]
  · rintro ⟨rfl, spaces, rfl⟩
    have some_ : 0 < spaces := by
      refine Nat.pos_of_ne_zero fun none => ne ?_
      simp [none]
    have long : ¬(column ++ String.ofList (List.replicate spaces ' ')).length ≤ column.length := by
      rw [String.length_append, String.length_ofList, List.length_replicate]
      omega
    have split : (column ++ String.ofList (List.replicate spaces ' ')).toList =
        column.toList ++ List.replicate spaces ' ' := by simp
    rw [varchar, if_neg long, split, ← String.length_toList, List.drop_left, List.take_left,
      String.ofList_toList, if_pos (by simp)]

end Varchar

/-- One transaction as posted by the payment gateway (`api/schemas.py`, `GatewayWebhookIn`). -/
structure GatewayWebhookIn where
  txnId : String
  amount : Money
  currency : String
  occurredAt : AwareDatetime
  gatewayRef : String
  txnId_length : HasLength 128 txnId
  amount_nonzero : amount.minor ≠ 0
  currency_iso : IsCurrency currency
  gatewayRef_length : HasLength 128 gatewayRef
deriving DecidableEq, Repr

/-- One line from the merchant's ledger (`api/schemas.py`, `LedgerEntryIn`). -/
structure LedgerEntryIn where
  entryId : String
  txnId : String
  amount : Money
  currency : String
  occurredAt : AwareDatetime
  idempotencyKey : String
  entryId_length : HasLength 128 entryId
  txnId_length : HasLength 128 txnId
  amount_nonzero : amount.minor ≠ 0
  currency_iso : IsCurrency currency
  idempotencyKey_length : HasLength 255 idempotencyKey
deriving DecidableEq, Repr

/-- What `raw_payload` holds. -/
inductive RawPayload where
  | body (json : String)
  | modelDump (entry : LedgerEntryIn)
deriving DecidableEq, Repr

/-- A row of `gateway_transactions` or `ledger_entries`. -/
structure RawRow where
  id : ℕ
  tenantId : ℕ
  txnId : String
  amount : Money
  currency : String
  occurredAt : Datetime
  /-- `gateway_ref` on the gateway side, `entry_id` on the ledger side. -/
  ref : String
  rawPayload : RawPayload
  idempotencyKey : String
  duplicateCount : ℕ := 0
  receivedAt : Datetime
  reconciledAt : Option Datetime := none
deriving DecidableEq, Repr

/-- A row still waiting for its counterparty. -/
def RawRow.pending (row : RawRow) : Bool := row.reconciledAt.isNone

/-- A row up to its `duplicate_count`. -/
def RawRow.eraseCount (row : RawRow) : RawRow := { row with duplicateCount := 0 }

namespace RawRow
variable {a b : RawRow}

/-- Rows that agree up to their count agree on every other column. -/
lemma of_eraseCount {β : Type*} (g : RawRow → β) (keep : ∀ r : RawRow, g r.eraseCount = g r)
    (h : a.eraseCount = b.eraseCount) : g a = g b := by
  rw [← keep a, h, keep b]

lemma id_of_eraseCount (h : a.eraseCount = b.eraseCount) : a.id = b.id :=
  of_eraseCount id (fun _ => rfl) h

lemma tenantId_of_eraseCount (h : a.eraseCount = b.eraseCount) : a.tenantId = b.tenantId :=
  of_eraseCount tenantId (fun _ => rfl) h

lemma pending_of_eraseCount (h : a.eraseCount = b.eraseCount) : a.pending = b.pending :=
  of_eraseCount pending (fun _ => rfl) h

end RawRow

/-- The wire format between ingestion and the matcher (`queue/messages.py`, `IngestMessage`). -/
structure IngestMessage where
  source : IngestSource
  rowId : ℕ
  txnId : String
  isDuplicate : Bool := false
  submissions : ℕ := 1
deriving DecidableEq, Repr

/-- A row of `outbox_events`. -/
structure OutboxEvent where
  id : ℕ
  source : IngestSource
  rowId : ℕ
  payload : IngestMessage
  createdAt : Datetime
  publishedAt : Option Datetime := none
  attempts : ℕ := 0
deriving DecidableEq, Repr

/-- A row of `reconciliation_results`. -/
structure ReconciliationResult where
  id : ℕ
  tenantId : ℕ
  gatewayTxnId : Option ℕ
  ledgerEntryId : Option ℕ
  status : ReconStatus
  matchLayer : MatchLayer
  resolvedAt : Datetime
  notes : Option String
  matchLatencyMs : Option ℤ
  sourceMessageId : Option String
deriving DecidableEq, Repr

/-- The raw row a result references on one side. -/
def ReconciliationResult.rawId (r : ReconciliationResult) : IngestSource → Option ℕ
  | .gateway => r.gatewayTxnId
  | .ledger => r.ledgerEntryId

/-- `status <> 'duplicate'`, the predicate of the two active unique indexes. -/
def ReconciliationResult.active (r : ReconciliationResult) : Bool := r.status != .duplicate

/-- A row of `exceptions`. -/
structure Exception_ where
  id : ℕ
  tenantId : ℕ
  reconciliationResultId : ℕ
  openedAt : Datetime
  closedAt : Option Datetime := none
  resolutionNotes : Option String := none
deriving DecidableEq, Repr

/-- A row of `accounts`. -/
structure Account where
  id : ℕ
  name : String
  kind : AccountKind
  createdAt : Datetime
  lastSeenAt : Datetime
deriving DecidableEq, Repr

/-- A row of `api_keys`. -/
structure ApiKey where
  id : ℕ
  accountId : ℕ
  keyHash : String
  displayPrefix : String
  label : String
  createdAt : Datetime
  revokedAt : Option Datetime := none
deriving DecidableEq, Repr

/-- The committed contents of the database. -/
structure Store where
  accounts : List Account := []
  apiKeys : List ApiKey := []
  gatewayTransactions : List RawRow := []
  ledgerEntries : List RawRow := []
  outboxEvents : List OutboxEvent := []
  reconciliationResults : List ReconciliationResult := []
  exceptions : List Exception_ := []

namespace Store

/-- The raw table of a side (`worker/persist.py`, `_MODEL`). -/
def raw (s : Store) : IngestSource → List RawRow
  | .gateway => s.gatewayTransactions
  | .ledger => s.ledgerEntries

/-- Replace the raw table of a side. -/
def setRaw (s : Store) (side : IngestSource) (rows : List RawRow) : Store :=
  match side with
  | .gateway => { s with gatewayTransactions := rows }
  | .ledger => { s with ledgerEntries := rows }

section Frame
variable (s : Store) (side other : IngestSource) (rows : List RawRow)

@[simp] lemma raw_setRaw : (s.setRaw side rows).raw side = rows := by
  cases side <;> rfl

lemma raw_setRaw_ne (ne : side ≠ other) : (s.setRaw side rows).raw other = s.raw other := by
  cases side <;> cases other <;> first | rfl | exact absurd rfl ne

@[simp] lemma raw_setRaw_other : (s.setRaw side rows).raw side.other = s.raw side.other :=
  raw_setRaw_ne s side _ rows (IngestSource.other_ne side).symm

@[simp] lemma accounts_setRaw : (s.setRaw side rows).accounts = s.accounts := by
  cases side <;> rfl

@[simp] lemma apiKeys_setRaw : (s.setRaw side rows).apiKeys = s.apiKeys := by
  cases side <;> rfl

@[simp] lemma outboxEvents_setRaw : (s.setRaw side rows).outboxEvents = s.outboxEvents := by
  cases side <;> rfl

@[simp] lemma results_setRaw :
    (s.setRaw side rows).reconciliationResults = s.reconciliationResults := by
  cases side <;> rfl

@[simp] lemma exceptions_setRaw : (s.setRaw side rows).exceptions = s.exceptions := by
  cases side <;> rfl

end Frame

/-- Whether an account exists. -/
def hasAccount (s : Store) (id : ℕ) : Bool := s.accounts.any (·.id == id)

/-- Whether a raw row exists. -/
def hasRaw (s : Store) (side : IngestSource) (id : ℕ) : Bool := (s.raw side).any (·.id == id)

lemma hasAccount_iff {s : Store} {id : ℕ} :
    s.hasAccount id = true ↔ ∃ a ∈ s.accounts, a.id = id := by
  simp [hasAccount]

lemma hasRaw_iff {s : Store} {side : IngestSource} {id : ℕ} :
    s.hasRaw side id = true ↔ ∃ row ∈ s.raw side, row.id = id := by
  simp [hasRaw]

end Store

end LedgerLoop
