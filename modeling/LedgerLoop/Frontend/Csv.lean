import LedgerLoop.Db.Models
import LedgerLoop.Frontend.Money
import LedgerLoop.Library.PyText

/-!
# Rows of a file

Port of `lib/csv.ts` after the tokeniser: `parseTimestamp`, `coerceRows` and `deriveKey`. What the
language leaves to the Unicode tables and to the engine, `toUpperCase` and `Date.parse`, is a `Runtime`.
-/

set_option autoImplicit false

namespace LedgerLoop.Frontend
open Library JsText

/-- The greatest time value of a `Date`, in milliseconds. -/
def maxTime : ℤ := 8640000000000000

/-- `toUpperCase`, and `Date.parse` with `none` for `NaN`. -/
structure Runtime where
  toUpperCase : JsText → JsText
  dateParse : JsText → Option ℤ
  dateParse_le : ∀ text time, dateParse text = some time → |time| ≤ maxTime

/-- A text matches a shape: `d` is a digit, `s` a sign, and everything else itself. -/
def shaped (shape : String) (text : JsText) : Bool :=
  text.length == shape.toList.length && (shape.toList.zip text).all fun (c, u) =>
    if c = 'd' then isDigit u else if c = 's' then isSign u else u == unit c

/-- The expression `iso` of `parseTimestamp`: the date, the time and the zone. -/
def matchIso (text : JsText) : Option (JsText × JsText × JsText) :=
  let rest := text.drop 11
  let afterMinutes := rest.drop 5
  let seconds := if shaped ":dd" (afterMinutes.take 3) then 3 else 0
  let afterSeconds := afterMinutes.drop seconds
  let decimals := (afterSeconds.drop 1).takeWhile isDigit
  let frac := if afterSeconds.head? = some (unit '.') ∧ decimals ≠ [] then 1 + decimals.length else 0
  let zone := afterSeconds.drop frac
  if shaped "dddd-dd-dd" (text.take 10) && (text[10]? == some (unit 'T') || text[10]? == some (unit ' ')) &&
      shaped "dd:dd" (rest.take 5) &&
      (zone == [] || zone == lit "Z" || shaped "sdd:dd" zone || shaped "sdddd" zone) then
    some (text.take 10, rest.take (5 + seconds + frac), zone)
  else none

/-- `parseTimestamp`. -/
def parseTimestamp (rt : Runtime) (raw : JsText) : Option ℤ :=
  let text := trim raw
  if text = [] then none
  else if shaped "dddddddddd" text then some (number text * 1000)
  else if shaped "ddddddddddddd" text then some (number text)
  else
    match matchIso text with
    | some (date, time, zone) =>
      rt.dateParse (date ++ lit "T" ++ time ++ if zone = [] then lit "Z" else zone)
    | none =>
      if shaped "dddd-dd-dd" text then rt.dateParse (text ++ lit "T00:00:00Z") else none

/-- `ParsedCsv`, as far as `coerceRows` reads it. -/
structure ParsedCsv where
  headers : List JsText
  rows : List (List JsText)
deriving DecidableEq, Repr

/-- `ColumnMap`. -/
structure ColumnMap where
  txnId : Option JsText
  amount : Option JsText
  currency : Option JsText
  timestamp : Option JsText
  idempotencyKey : Option JsText
deriving DecidableEq, Repr

/-- `CoerceOptions`. -/
structure CoerceOptions where
  side : IngestSource
  map : ColumnMap
  fallbackCurrency : JsText
  keyPrefix : JsText := []
deriving DecidableEq, Repr

/-- `SourceRow`. -/
structure SourceRow where
  side : IngestSource
  line : ℕ
  txnId : JsText
  amount : ℤ
  currency : JsText
  occurredAt : ℤ
  idempotencyKey : JsText
deriving DecidableEq, Repr

/-- `CoerceResult`. -/
structure CoerceResult where
  rows : List SourceRow := []
  rejects : List (ℕ × JsText) := []
  rejectedCount : ℕ := 0
deriving DecidableEq, Repr

/-- `MAX_REPORTED_REJECTS`. -/
def maxReportedRejects : ℕ := 50

def sideText : IngestSource → JsText
  | .gateway => lit "gateway"
  | .ledger => lit "ledger"

/-- What of a row follows the side in its derived key. -/
def keyBody (txnId : JsText) (amount occurredAt : ℤ) : JsText :=
  txnId ++ unit ':' :: (ofInt amount ++ unit ':' :: ofInt occurredAt)

/-- `deriveKey`. -/
def deriveKey (side : IngestSource) (txnId : JsText) (amount occurredAt : ℤ) (pre : JsText := []) :
    JsText :=
  let body := sideText side ++ unit ':' :: keyBody txnId amount occurredAt
  if pre = [] then body else pre ++ unit ':' :: body

/-- `index`; `none` is -1. -/
def ParsedCsv.index (parsed : ParsedCsv) (header : Option JsText) : Option ℕ :=
  header.bind fun h => parsed.headers.idxOf? h

/-- `cells[at] ?? ''`. -/
def cell (cells : List JsText) (at_ : Option ℕ) : JsText := (at_.bind (cells[·]?)).getD []

/-- `/^[A-Z]{3}$/`. -/
def isCurrencyCode (text : JsText) : Bool :=
  text.length == 3 && text.all fun u => unit 'A' ≤ u && u ≤ unit 'Z'

section Coercion
variable (rt : Runtime) (parsed : ParsedCsv) (options : CoerceOptions)

/-- The currency of a row. -/
def rowCurrency (cells : List JsText) : JsText :=
  match parsed.index options.map.currency with
  | none => options.fallbackCurrency
  | some i =>
    let named := rt.toUpperCase (trim (cell cells (some i)))
    if named = [] then options.fallbackCurrency else named

/-- The idempotency key of a row. -/
def rowKey (cells : List JsText) (amount occurredAt : ℤ) : JsText :=
  let mapped := trim (cell cells (parsed.index options.map.idempotencyKey))
  if mapped ≠ [] then mapped
  else
    deriveKey options.side (trim (cell cells (parsed.index options.map.txnId))) amount occurredAt
      options.keyPrefix

/-- One pass of the loop: the row, or the reason for its rejection. -/
def coerceRow (line : ℕ) (cells : List JsText) : Except JsText SourceRow :=
  let txnId := trim (cell cells (parsed.index options.map.txnId))
  let amountCell := cell cells (parsed.index options.map.amount)
  let timestampCell := cell cells (parsed.index options.map.timestamp)
  if txnId = [] then .error (lit "empty transaction ID")
  else
    match parseMinor amountCell with
    | none => .error (lit "amount \x22" ++ amountCell ++ lit "\x22 is not a number")
    | some amount =>
      if amount = 0 then .error (lit "amount is zero")
      else
        match parseTimestamp rt timestampCell with
        | none =>
          .error (lit "timestamp \x22" ++ timestampCell ++ lit "\x22 is not ISO 8601 or an epoch value")
        | some occurredAt =>
          let currency := rowCurrency rt parsed options cells
          if isCurrencyCode currency then
            .ok { side := options.side, line := line, txnId := txnId, amount := amount
                  currency := currency, occurredAt := occurredAt
                  idempotencyKey := rowKey parsed options cells amount occurredAt }
          else
            .error (lit "currency \x22" ++ currency ++ lit "\x22 is not a 3-letter ISO 4217 code")

/-- What a pass does to the result. -/
def CoerceResult.add (result : CoerceResult) (line : ℕ) : Except JsText SourceRow → CoerceResult
  | .ok row => { result with rows := result.rows ++ [row] }
  | .error reason =>
    { result with
      rejectedCount := result.rejectedCount + 1
      rejects := if result.rejects.length < maxReportedRejects then result.rejects ++ [(line, reason)]
        else result.rejects }

/-- `coerceRows`. -/
def coerceRows : CoerceResult :=
  parsed.rows.zipIdx.foldl
    (fun result (cells, i) => result.add (i + 2) (coerceRow rt parsed options (i + 2) cells)) {}

variable {rt parsed options} {result : CoerceResult} {row : SourceRow} {line : ℕ} {cells : List JsText}

/-- What is counted after a pass: the rows and the rejections. -/
lemma count_add (outcome : Except JsText SourceRow) :
    (result.add line outcome).rows.length + (result.add line outcome).rejectedCount =
      result.rows.length + result.rejectedCount + 1 := by
  cases outcome with
  | ok row => simp only [CoerceResult.add, List.length_append, List.length_singleton]; omega
  | error reason => rfl

/-- The rows after a pass. -/
lemma rows_add (outcome : Except JsText SourceRow) :
    (result.add line outcome).rows = result.rows ++ outcome.toOption.toList := by
  cases outcome with
  | ok row => rfl
  | error reason => exact (List.append_nil _).symm

/-- Every data row is a row of the result or counted as rejected. -/
lemma count_coerceRows : (coerceRows rt parsed options).rows.length +
    (coerceRows rt parsed options).rejectedCount = parsed.rows.length := by
  have along (items : List (List JsText × ℕ)) (result : CoerceResult)
      (step : List JsText × ℕ → Except JsText SourceRow) :
      let final := items.foldl (fun (result : CoerceResult) item =>
        result.add (item.2 + 2) (step item)) result
      final.rows.length + final.rejectedCount =
        result.rows.length + result.rejectedCount + items.length := by
    induction items generalizing result with
    | nil => rfl
    | cons item items ih =>
      rw [List.foldl_cons, List.length_cons]
      have := @count_add result (item.2 + 2) (step item)
      have := ih (result.add (item.2 + 2) (step item))
      dsimp only at this ⊢
      omega
  have all := along parsed.rows.zipIdx {} fun item => coerceRow rt parsed options (item.2 + 2) item.1
  exact all.trans (by simp)

/-- The rows of the result are those that pass, in order. -/
lemma rows_coerceRows : (coerceRows rt parsed options).rows = parsed.rows.zipIdx.filterMap fun item =>
    (coerceRow rt parsed options (item.2 + 2) item.1).toOption := by
  have along (items : List (List JsText × ℕ)) (result : CoerceResult)
      (step : List JsText × ℕ → Except JsText SourceRow) :
      (items.foldl (fun (result : CoerceResult) item =>
        result.add (item.2 + 2) (step item)) result).rows =
        result.rows ++ items.filterMap fun item => (step item).toOption := by
    induction items generalizing result with
    | nil => exact (List.append_nil _).symm
    | cons item items ih =>
      rw [List.foldl_cons, ih, rows_add, List.append_assoc, List.filterMap_cons]
      cases (step item).toOption <;> rfl
  exact along parsed.rows.zipIdx {} fun item => coerceRow rt parsed options (item.2 + 2) item.1

lemma mem_coerceRows : row ∈ (coerceRows rt parsed options).rows ↔
    ∃ i cells, parsed.rows[i]? = some cells ∧ coerceRow rt parsed options (i + 2) cells = .ok row := by
  rw [rows_coerceRows, List.mem_filterMap]
  constructor
  · rintro ⟨⟨cells, i⟩, mem, eq⟩
    refine ⟨i, cells, List.mem_zipIdx_iff_getElem?.1 mem, ?_⟩
    cases outcome : coerceRow rt parsed options (i + 2) cells with
    | ok row' =>
      rw [outcome] at eq
      rw [Option.some.inj eq]
    | error reason =>
      rw [outcome] at eq
      cases eq
  · rintro ⟨i, cells, here, eq⟩
    exact ⟨(cells, i), List.mem_zipIdx_iff_getElem?.2 here, by simp [eq, Except.toOption]⟩

/-- The cells of a row pass the checks of the loop, with this amount and this instant. -/
structure Kept (rt : Runtime) (parsed : ParsedCsv) (options : CoerceOptions) (cells : List JsText)
    (amount occurredAt : ℤ) : Prop where
  txnId : trim (cell cells (parsed.index options.map.txnId)) ≠ []
  money : parseMinor (cell cells (parsed.index options.map.amount)) = some amount
  nonzero : amount ≠ 0
  time : parseTimestamp rt (cell cells (parsed.index options.map.timestamp)) = some occurredAt
  currency : isCurrencyCode (rowCurrency rt parsed options cells) = true

/-- The row of cells that pass the checks. -/
lemma Kept.coerceRow {amount occurredAt : ℤ} (kept : Kept rt parsed options cells amount occurredAt) :
    coerceRow rt parsed options line cells = .ok
      { side := options.side, line := line
        txnId := trim (cell cells (parsed.index options.map.txnId)), amount := amount
        currency := rowCurrency rt parsed options cells, occurredAt := occurredAt
        idempotencyKey := rowKey parsed options cells amount occurredAt } := by
  simp [Frontend.coerceRow, kept.txnId, kept.money, kept.nonzero, kept.time, kept.currency]

/-- What a row that passes is made of. -/
lemma kept_of_coerceRow (ok : coerceRow rt parsed options line cells = .ok row) :
    Kept rt parsed options cells row.amount row.occurredAt ∧
      row = { side := options.side, line := line
              txnId := trim (cell cells (parsed.index options.map.txnId)), amount := row.amount
              currency := rowCurrency rt parsed options cells, occurredAt := row.occurredAt
              idempotencyKey := rowKey parsed options cells row.amount row.occurredAt } := by
  simp only [Frontend.coerceRow] at ok
  by_cases named : trim (cell cells (parsed.index options.map.txnId)) = []
  · rw [if_pos named] at ok
    cases ok
  rw [if_neg named] at ok
  split at ok
  · cases ok
  · rename_i amount parsedAmount
    by_cases zero : amount = 0
    · rw [if_pos zero] at ok
      cases ok
    rw [if_neg zero] at ok
    split at ok
    · cases ok
    · rename_i occurredAt parsedAt
      split_ifs at ok with code
      obtain rfl := Except.ok.inj ok
      exact ⟨⟨named, parsedAmount, zero, parsedAt, code⟩, rfl⟩

/-- A text of digits is as long as its shape. -/
lemma of_shaped_digits {text : JsText} {n : ℕ} (eq : shaped (String.ofList (List.replicate n 'd')) text = true) :
    text.length = n ∧ ∀ u ∈ text, isDigit u = true := by
  rw [shaped, String.toList_ofList, List.length_replicate, Bool.and_eq_true, beq_iff_eq,
    List.all_eq_true] at eq
  obtain ⟨length, all⟩ := eq
  refine ⟨length, fun u mem => ?_⟩
  obtain ⟨i, lt, rfl⟩ := List.getElem_of_mem mem
  have pair : ('d', text[i]) ∈ (List.replicate n 'd').zip text :=
    List.mem_iff_getElem.2 ⟨i, by simpa [length] using lt, by simp⟩
  simpa using all _ pair

/-- A time stamp that is accepted is a time value. -/
lemma abs_le_of_parseTimestamp {raw : JsText} {time : ℤ} (eq : parseTimestamp rt raw = some time) :
    |time| ≤ maxTime := by
  have digits {n : ℕ} (shape : shaped (String.ofList (List.replicate n 'd')) (trim raw) = true) :
      number (trim raw) < 10 ^ n := by
    obtain ⟨length, all⟩ := of_shaped_digits shape
    exact length ▸ number_lt all
  simp only [parseTimestamp] at eq
  split_ifs at eq with blank seconds millis day
  · have := digits (n := 10) seconds
    rw [← Option.some.inj eq, maxTime, abs_of_nonneg (by positivity)]
    omega
  · have := digits (n := 13) millis
    rw [← Option.some.inj eq, maxTime, abs_of_nonneg (by positivity)]
    omega
  · split at eq <;> exact rt.dateParse_le _ _ eq
  · split at eq
    · exact rt.dateParse_le _ _ eq
    · cases eq

/-- What `coerceRows` has checked of a row. -/
structure SourceRow.Coerced (row : SourceRow) : Prop where
  txnId : row.txnId ≠ []
  nonzero : row.amount ≠ 0
  safe : |row.amount| < 2 ^ 53
  currency : isCurrencyCode row.currency = true
  time : |row.occurredAt| ≤ maxTime
  key : row.idempotencyKey ≠ []

lemma coerced_of_mem (mem : row ∈ (coerceRows rt parsed options).rows) : row.Coerced := by
  obtain ⟨i, cells, _, ok⟩ := mem_coerceRows.1 mem
  obtain ⟨kept, eq⟩ := kept_of_coerceRow ok
  rw [eq]
  refine ⟨kept.txnId, kept.nonzero, abs_lt_of_parseMinor kept.money, kept.currency,
    abs_le_of_parseTimestamp kept.time, ?_⟩
  rw [rowKey, deriveKey]
  split_ifs with mapped blank
  · exact mapped
  · simp
  · simp

end Coercion

section Keys
variable {txnId txnId' : JsText} {amount amount' occurredAt occurredAt' : ℤ} {side side' : IngestSource}

/-- The colons of a derived key can be told from those of the transaction id. -/
lemma keyBody_eq_iff : keyBody txnId amount occurredAt = keyBody txnId' amount' occurredAt' ↔
    txnId = txnId' ∧ amount = amount' ∧ occurredAt = occurredAt' := by
  have none (i : ℤ) : unit ':' ∉ ofInt i := fun mem => by
    rcases of_mem_ofInt mem with eq | digit
    · revert eq
      decide
    · revert digit
      decide
  constructor
  · intro same
    unfold keyBody at same
    rw [← List.cons_append, ← List.append_assoc, ← List.cons_append, ← List.append_assoc] at same
    obtain ⟨front, back⟩ := PyText.append_sep_inj same (none _) (none _)
    obtain ⟨ids, amounts⟩ := PyText.append_sep_inj front (none _) (none _)
    exact ⟨ids, ofInt_injective amounts, ofInt_injective back⟩
  · rintro ⟨rfl, rfl, rfl⟩
    rfl

/-- How many units of the body of a derived key are sent. -/
def room (side : IngestSource) : ℕ := 255 - ((sideText side).length + 1)

lemma take_deriveKey : (deriveKey side txnId amount occurredAt).take 255 =
    sideText side ++ unit ':' :: (keyBody txnId amount occurredAt).take (room side) := by
  cases side <;> rfl

/-- The keys that are sent agree exactly if the sides do and what is sent of the bodies. -/
lemma take_deriveKey_eq_iff : (deriveKey side txnId amount occurredAt).take 255 =
      (deriveKey side' txnId' amount' occurredAt').take 255 ↔
    side = side' ∧ (keyBody txnId amount occurredAt).take (room side) =
      (keyBody txnId' amount' occurredAt').take (room side) := by
  rw [take_deriveKey, take_deriveKey]
  cases side <;> cases side'
  · simp
  · simp [sideText, lit, unit]
  · simp [sideText, lit, unit]
  · simp

end Keys

section Derived
variable {rt rt' : Runtime} {parsed parsed' : ParsedCsv} {options options' : CoerceOptions}
  {r r' : SourceRow}

/-- The row has the same content: transaction id, amount, currency and instant. -/
def SourceRow.SameContent (r r' : SourceRow) : Prop :=
  r.txnId = r'.txnId ∧ r.amount = r'.amount ∧ r.currency = r'.currency ∧ r.occurredAt = r'.occurredAt

/-- The key of a row of a file without a key column is derived. -/
lemma idempotencyKey_of_mem (noKey : parsed.index options.map.idempotencyKey = none)
    (blank : options.keyPrefix = []) (mem : r ∈ (coerceRows rt parsed options).rows) :
    r.idempotencyKey = deriveKey r.side r.txnId r.amount r.occurredAt := by
  obtain ⟨i, cells, _, ok⟩ := mem_coerceRows.1 mem
  obtain ⟨_, eq⟩ := kept_of_coerceRow ok
  have none_ : trim (cell cells none) = [] := rfl
  rw [eq, rowKey, noKey, none_, blank]
  rfl

/-- Derived keys identify rows exactly when rows that agree in side, transaction id, amount and instant
    agree in currency, and rows of one side do not differ only in what is cut off their keys. The keys are those
    after the cut; that `fetch` strips white space from the ends of a header value is left out. -/
theorem derived_keys_identify_iff (noKey : parsed.index options.map.idempotencyKey = none)
    (noKey' : parsed'.index options'.map.idempotencyKey = none) (blank : options.keyPrefix = [])
    (blank' : options'.keyPrefix = []) (mem : r ∈ (coerceRows rt parsed options).rows)
    (mem' : r' ∈ (coerceRows rt' parsed' options').rows) :
    (r.idempotencyKey.take 255 = r'.idempotencyKey.take 255 ↔ r.side = r'.side ∧ r.SameContent r') ↔
      (r.side = r'.side → r.txnId = r'.txnId → r.amount = r'.amount → r.occurredAt = r'.occurredAt →
        r.currency = r'.currency) ∧
      (r.side = r'.side →
        (keyBody r.txnId r.amount r.occurredAt).take (room r.side) =
          (keyBody r'.txnId r'.amount r'.occurredAt).take (room r.side) →
        keyBody r.txnId r.amount r.occurredAt = keyBody r'.txnId r'.amount r'.occurredAt) := by
  rw [idempotencyKey_of_mem noKey blank mem, idempotencyKey_of_mem noKey' blank' mem',
    take_deriveKey_eq_iff]
  constructor
  · intro identify
    refine ⟨fun side txnId amount time => ?_, fun side sent => ?_⟩
    · have same := keyBody_eq_iff.2 ⟨txnId, amount, time⟩
      exact (identify.1 ⟨side, by rw [same]⟩).2.2.2.1
    · obtain ⟨_, txnId, amount, _, time⟩ := identify.1 ⟨side, sent⟩
      exact keyBody_eq_iff.2 ⟨txnId, amount, time⟩
  · rintro ⟨currency, whole⟩
    constructor
    · rintro ⟨side, sent⟩
      obtain ⟨txnId, amount, time⟩ := keyBody_eq_iff.1 (whole side sent)
      exact ⟨side, txnId, amount, currency side txnId amount time, time⟩
    · rintro ⟨side, txnId, amount, _, time⟩
      exact ⟨side, by rw [keyBody_eq_iff.2 ⟨txnId, amount, time⟩]⟩

end Derived

/-! One payment in two currencies, and another payment. -/

namespace TwoCurrencies

/-- Upper case of ASCII letters; no text is a date. -/
def runtime : Runtime where
  toUpperCase text := text.map fun u => if unit 'a' ≤ u ∧ u ≤ unit 'z' then u - 32 else u
  dateParse _ := none
  dateParse_le := nofun

def file : ParsedCsv where
  headers := [lit "txn_id", lit "amount", lit "currency", lit "timestamp"]
  rows := [[lit "t-1", lit "10.00", lit "USD", lit "1700000000"],
    [lit "t-1", lit "10.00", lit "EUR", lit "1700000000"],
    [lit "t-2", lit "10.00", lit "EUR", lit "1700000000"]]

def mapping : CoerceOptions where
  side := .gateway
  map := ⟨some (lit "txn_id"), some (lit "amount"), some (lit "currency"), some (lit "timestamp"), none⟩
  fallbackCurrency := lit "INR"

def row (line : ℕ) (txnId currency : String) : SourceRow where
  side := .gateway
  line := line
  txnId := lit txnId
  amount := 1000
  currency := lit currency
  occurredAt := 1700000000000
  idempotencyKey := deriveKey .gateway (lit txnId) 1000 1700000000000

lemma rows : (coerceRows runtime file mapping).rows =
    [row 2 "t-1" "USD", row 3 "t-1" "EUR", row 4 "t-2" "EUR"] := by
  decide +kernel

end TwoCurrencies

open TwoCurrencies in
theorem derived_keys_sample :
    (row 2 "t-1" "USD").idempotencyKey.take 255 ≠ (row 4 "t-2" "EUR").idempotencyKey.take 255 := by
  intro same
  have noKey : file.index mapping.map.idempotencyKey = none := rfl
  have mem : row 2 "t-1" "USD" ∈ (coerceRows runtime file mapping).rows := by simp [TwoCurrencies.rows]
  have mem' : row 4 "t-2" "EUR" ∈ (coerceRows runtime file mapping).rows := by simp [TwoCurrencies.rows]
  have identify := (derived_keys_identify_iff noKey noKey rfl rfl mem mem').2 (by decide)
  exact absurd (identify.1 same).2.1 (by decide)

open TwoCurrencies in
/-- A payment in another currency is collapsed into the first. -/
theorem currencies_collapse : ∃ r ∈ (coerceRows runtime file mapping).rows,
    ∃ r' ∈ (coerceRows runtime file mapping).rows,
      file.index mapping.map.idempotencyKey = none ∧ mapping.keyPrefix = [] ∧
      r.idempotencyKey.take 255 = r'.idempotencyKey.take 255 ∧ ¬(r.side = r'.side ∧ r.SameContent r') := by
  refine ⟨row 2 "t-1" "USD", by simp [TwoCurrencies.rows], row 3 "t-1" "EUR",
    by simp [TwoCurrencies.rows], rfl, rfl, rfl, ?_⟩
  rintro ⟨_, _, _, currency, _⟩
  revert currency
  decide

end LedgerLoop.Frontend
