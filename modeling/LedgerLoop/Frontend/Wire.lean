import LedgerLoop.Frontend.Csv
import LedgerLoop.Library.Calendar
import LedgerLoop.Library.DecimalText
import LedgerLoop.Library.Traverse

/-!
# Rows on the wire

Port of `toLedgerEntry` and `toGatewayWebhook` in `api/ingest.ts`, and of what the API does with a row
before a handler sees it: the request models of `api/schemas.py` and `get_idempotency_key` in
`api/deps.py`.

What belongs to neither side is a `Server`: how `pydantic` reads a date text, of which the ISO 8601 texts
of a `Date` are read as the instants they denote, if a `datetime` can hold them; and which field values
the HTTP server lets through to the application.
-/

set_option autoImplicit false

namespace LedgerLoop.Frontend
open Library JsText Calendar

/-- The milliseconds from 0001-01-01 to the epoch. -/
def epoch : ℤ := 62135596800000

/-- A number in at least `width` digits. -/
def pad (width n : ℕ) : JsText := (ofNat n).leftpad width (unit '0')

/-- The text of a reading: four digits of the year, or a sign and six. -/
def isoText (c : Civil) : JsText :=
  (if 0 ≤ c.year ∧ c.year ≤ 9999 then pad 4 c.year.natAbs
    else (if c.year < 0 then unit '-' else unit '+') :: pad 6 c.year.natAbs) ++
  unit '-' :: (pad 2 c.month ++ unit '-' :: (pad 2 c.day ++
    unit 'T' :: (pad 2 c.hour ++ unit ':' :: (pad 2 c.minute ++ unit ':' :: (pad 2 c.second ++
      unit '.' :: (pad 3 c.milli ++ [unit 'Z']))))))

/-- `new Date(time).toISOString()`; `none` is a `RangeError`. -/
def toISOString (time : ℤ) : Option JsText :=
  if |time| ≤ maxTime then some (isoText (Civil.ofMs (time + epoch))) else none

/-- `GatewayWebhookIn` of `api/types.ts`. -/
structure GatewayPayload where
  txnId : JsText
  amount : JsText
  currency : JsText
  occurredAt : JsText
  gatewayRef : JsText
deriving DecidableEq, Repr

/-- `LedgerEntryIn` of `api/types.ts`. -/
structure LedgerPayload where
  entryId : JsText
  txnId : JsText
  amount : JsText
  currency : JsText
  occurredAt : JsText
  idempotencyKey : JsText
deriving DecidableEq, Repr

/-- `toGatewayWebhook`. -/
def toGatewayWebhook (row : SourceRow) : Option GatewayPayload :=
  (toISOString row.occurredAt).map fun occurredAt =>
    { txnId := row.txnId, amount := toDecimalString row.amount, currency := row.currency
      occurredAt := occurredAt, gatewayRef := row.idempotencyKey.take 128 }

/-- `toLedgerEntry`. -/
def toLedgerEntry (row : SourceRow) : Option LedgerPayload :=
  (toISOString row.occurredAt).map fun occurredAt =>
    { entryId := row.idempotencyKey.take 128, txnId := row.txnId, amount := toDecimalString row.amount
      currency := row.currency, occurredAt := occurredAt, idempotencyKey := row.idempotencyKey.take 255 }

/-- A UTC reading as a `datetime`, if there is one. -/
def aware (c : Civil) : Option AwareDatetime :=
  (Datetime.ofUs (c.toMs * 1000)).toOption.map AwareDatetime.utc

/-- How date texts are read and which header values arrive. -/
structure Server where
  datetime : List Char → Option AwareDatetime
  field : List Char → Bool
  datetime_iso : ∀ c : Civil, c.Valid → datetime ((isoText c).map toChar) = aware c

/-- A text of 1 to `n` characters; a lone surrogate is refused. -/
def shortText (n : ℕ) (text : JsText) : Option { s : String // HasLength n s } :=
  (decode text).bind fun cs => if h : HasLength n (String.ofList cs) then some ⟨_, h⟩ else none

/-- `CurrencyField`. -/
def currencyField (text : JsText) : Option { s : String // IsCurrency s } :=
  (decode text).bind fun cs => if h : IsCurrency (String.ofList cs) then some ⟨_, h⟩ else none

/-- `MoneyField` and `_non_zero`. -/
def moneyField (text : JsText) : Option { m : Money // m.minor ≠ 0 } :=
  (((decode text).bind Decimal.ofText).bind Money.ofDecimal).bind fun m =>
    if h : m.minor ≠ 0 then some ⟨m, h⟩ else none

/-- `AwareDatetime`. -/
def Server.instant (server : Server) (text : JsText) : Option AwareDatetime :=
  (decode text).bind server.datetime

/-- The request model of the gateway endpoint. -/
def GatewayPayload.validate (server : Server) (p : GatewayPayload) : Option GatewayWebhookIn := do
  let txnId ← shortText 128 p.txnId
  let amount ← moneyField p.amount
  let currency ← currencyField p.currency
  let occurredAt ← server.instant p.occurredAt
  let gatewayRef ← shortText 128 p.gatewayRef
  some ⟨txnId.1, amount.1, currency.1, occurredAt, gatewayRef.1, txnId.2, amount.2, currency.2,
    gatewayRef.2⟩

/-- The request model of a ledger line. -/
def LedgerPayload.validate (server : Server) (p : LedgerPayload) : Option LedgerEntryIn := do
  let entryId ← shortText 128 p.entryId
  let txnId ← shortText 128 p.txnId
  let amount ← moneyField p.amount
  let currency ← currencyField p.currency
  let occurredAt ← server.instant p.occurredAt
  let idempotencyKey ← shortText 255 p.idempotencyKey
  some ⟨entryId.1, txnId.1, amount.1, currency.1, occurredAt, idempotencyKey.1, entryId.2, txnId.2,
    amount.2, currency.2, idempotencyKey.2⟩

/-- `LedgerSyncIn`: a batch of 1 to 1000 lines. -/
def ledgerSyncIn (server : Server) (entries : List LedgerPayload) : Option (List LedgerEntryIn) :=
  if 1 ≤ entries.length ∧ entries.length ≤ 1000 then entries.mapM (·.validate server) else none

/-- White space `fetch` strips from a header value. -/
def isHttpSpace (u : UInt16) : Bool := u == 9 || u == 10 || u == 13 || u == 32

/-- A header value as it is sent. -/
def httpTrim (value : JsText) : JsText :=
  ((value.dropWhile isHttpSpace).reverse.dropWhile isHttpSpace).reverse

/-- The header value `fetch` sends; `none` is a `TypeError`. -/
def fetchHeader (value : JsText) : Option JsText :=
  let sent := httpTrim value
  if value.all (· ≤ 255) && sent.all (fun u => u != 0 && u != 10 && u != 13) then some sent else none

/-- `get_idempotency_key`; `none` is a 400. -/
def getIdempotencyKey (value : List Char) : Option (List Char) :=
  if value = [] ∨ PyText.strip PyText.isSpace value = [] then none
  else if 255 < value.length then none
  else some value

/-- The idempotency key of a request of the gateway endpoint. -/
def headerKey (server : Server) (value : JsText) : Option (List Char) :=
  (fetchHeader value).bind fun sent =>
    if server.field (sent.map toChar) then getIdempotencyKey (sent.map toChar) else none

/-- The API takes a row: the request model of its side, and on the gateway side the key. -/
def Server.accepts (server : Server) (row : SourceRow) : Bool :=
  match row.side with
  | .gateway => ((toGatewayWebhook row).bind (·.validate server)).isSome &&
      (headerKey server (row.idempotencyKey.take 255)).isSome
  | .ledger => ((toLedgerEntry row).bind (·.validate server)).isSome

/-! ## What a row must be like -/

/-- A key arrives: Latin-1, no line breaks, not blank for Python, and let through. -/
structure Sendable (server : Server) (key : JsText) : Prop where
  latin : ∀ u ∈ key, u ≤ 255
  line : ∀ u ∈ httpTrim key, u ≠ 0 ∧ u ≠ 10 ∧ u ≠ 13
  visible : ∃ u ∈ httpTrim key, PyText.isSpace (toChar u) = false
  field : server.field ((httpTrim key).map toChar) = true

/-- What the API asks of a row beyond what `coerceRows` has checked. -/
structure Fits (server : Server) (side : IngestSource) (txnId key : JsText) (occurredAt : ℤ) : Prop where
  txnId : ∃ cs, decode txnId = some cs ∧ cs.length ≤ 128
  time : -epoch ≤ occurredAt ∧ occurredAt < 253402300800000
  ref : (decode (key.take 128)).isSome
  ledgerKey : side = .ledger → (decode (key.take 255)).isSome
  header : side = .gateway → Sendable server (key.take 255)

section Fields
variable {server : Server} {text : JsText} {n : ℕ} {c : Civil} {time v : ℤ}

/-- A text is short enough as its characters are. -/
lemma shortText_isSome (nonempty : text ≠ []) :
    (shortText n text).isSome = true ↔ ∃ cs, decode text = some cs ∧ cs.length ≤ n := by
  unfold shortText
  cases eq : decode text with
  | none => simp
  | some cs =>
    have pos : 1 ≤ cs.length := List.length_pos_iff.2 fun none_ => nonempty ((length_of_decode eq).2 none_)
    have length : HasLength n (String.ofList cs) ↔ cs.length ≤ n := by
      rw [HasLength, String.length_ofList]
      exact and_iff_right pos
    by_cases le : cs.length ≤ n <;> simp [length, le]

/-- A text that is cut is short enough if no surrogate stands alone in it. -/
lemma shortText_take_isSome (pos : 0 < n) (nonempty : text ≠ []) :
    (shortText n (text.take n)).isSome = true ↔ (decode (text.take n)).isSome = true := by
  have cut : text.take n ≠ [] := fun none_ => nonempty (by simpa [pos.ne'] using none_)
  rw [shortText_isSome cut, Option.isSome_iff_exists]
  refine exists_congr fun cs => and_iff_left_of_imp fun eq => ?_
  exact ((length_of_decode eq).1.trans (List.length_take_le n text))

/-- A currency code is read. -/
lemma currencyField_isSome (code : isCurrencyCode text = true) : (currencyField text).isSome = true := by
  simp only [isCurrencyCode, Bool.and_eq_true, beq_iff_eq, List.all_eq_true, decide_eq_true_eq] at code
  obtain ⟨three, letters⟩ := code
  have range {u : UInt16} (mem : u ∈ text) : 65 ≤ u.toNat ∧ u.toNat ≤ 90 := by
    have := letters u mem
    rw [UInt16.le_iff_toNat_le, UInt16.le_iff_toNat_le] at this
    exact this
  have ascii : ∀ u ∈ text, u.toNat < 128 := fun u mem => by
    have := range mem
    omega
  have iso : IsCurrency (String.ofList (text.map toChar)) := by
    refine ⟨by simpa using three, fun c mem => ?_⟩
    rw [String.toList_ofList] at mem
    obtain ⟨u, memU, rfl⟩ := List.mem_map.1 mem
    obtain ⟨lo, hi⟩ := range memU
    have eq : u.toNat.toUInt16 = u := by simp
    rw [← eq]
    interval_cases u.toNat <;> decide
  rw [currencyField, decode_ascii ascii, Option.bind_some, dif_pos iso]
  rfl

/-- The character of a digit. -/
lemma toChar_of_isDigit {u : UInt16} (digit : isDigit u = true) :
    (toChar u).isDigit = true ∧ PyInt.decimal (toChar u) = some (digitValue u) ∧ u.toNat < 128 := by
  obtain ⟨lo, hi⟩ := toNat_of_isDigit digit
  have eq : u.toNat.toUInt16 = u := by simp
  rw [← eq]
  interval_cases u.toNat <;> decide

lemma value_toChar (digits : ∀ u ∈ text, isDigit u = true) : Decimal.value (text.map toChar) = number text := by
  have fold (k : ℕ) : (text.map toChar).foldl (fun n c => 10 * n + (PyInt.decimal c).getD 0) k =
      text.foldl (fun n u => 10 * n + digitValue u) k := by
    induction text generalizing k with
    | nil => rfl
    | cons u text ih =>
      rw [List.map_cons, List.foldl_cons, List.foldl_cons, (toChar_of_isDigit (digits u (by simp))).2.1,
        ih fun u mem => digits u (by simp [mem])]
      rfl
  exact fold 0

/-- Units of rendered numbers. -/
lemma ascii_of_mem_pad {u : UInt16} {width : ℕ} (mem : u ∈ pad width n) : isDigit u = true := by
  rcases List.mem_append.1 mem with zero | digit
  · exact List.eq_of_mem_replicate zero ▸ by decide
  · exact isDigit_of_mem_ofNat digit

/-- An amount is read as it is written. -/
lemma moneyField_toDecimalString (nonzero : v ≠ 0) (safe : |v| < 2 ^ 53) :
    ∃ m, moneyField (toDecimalString v) = some m ∧ m.1.minor = v := by
  obtain ⟨digits, some_, two, denotes⟩ := splitDigits_spec v
  generalize eq : splitDigits v 2 = parts at *
  obtain ⟨whole, frac⟩ := parts
  have text : toDecimalString v = (if v < 0 then lit "-" else []) ++ whole ++ unit '.' :: frac := by
    rw [toDecimalString, eq]
  have ascii : ∀ u ∈ toDecimalString v, u.toNat < 128 := by
    rw [text]
    intro u mem
    simp only [List.mem_append, List.mem_cons] at mem
    rcases mem with (sign | mem) | rfl | mem
    · split_ifs at sign
      · exact List.mem_singleton.1 sign ▸ by decide
      · cases sign
    · exact (toChar_of_isDigit (digits u (List.mem_append_left _ mem))).2.2
    · decide
    · exact (toChar_of_isDigit (digits u (List.mem_append_right _ mem))).2.2
  have chars : (toDecimalString v).map toChar =
      (if decide (v < 0) = true then ['-'] else []) ++ whole.map toChar ++ '.' :: frac.map toChar := by
    rw [text, List.map_append, List.map_append, List.map_cons]
    congr 2
    by_cases neg : v < 0
    · rw [if_pos neg, if_pos (decide_eq_true neg)]
      rfl
    · rw [if_neg neg, if_neg (by simpa using neg)]
      rfl
  have read := @Decimal.ofText_plain (whole.map toChar) (frac.map toChar) (decide (v < 0))
    (by
      rw [← List.map_append]
      intro c mem
      obtain ⟨u, memU, rfl⟩ := List.mem_map.1 mem
      exact (toChar_of_isDigit (digits u memU)).1)
    (by simpa using some_)
  have sum : number whole * 10 ^ 2 + number frac = v.natAbs := denotes
  rw [← chars, ← List.map_append, value_toChar digits, number_append, List.length_map, two, sum] at read
  have coeff : (if decide (v < 0) = true then -(v.natAbs : ℤ) else v.natAbs) = v := by
    by_cases neg : v < 0
    · rw [if_pos (decide_eq_true neg)]
      omega
    · rw [if_neg (by simpa using neg)]
      omega
  rw [coeff] at read
  have exact : (⟨v, -(2 : ℕ)⟩ : Decimal).toRat * 100 = v := by
    norm_num [Decimal.toRat]
    ring
  have fits : |v| < 10 ^ 18 := safe.trans (by norm_num)
  refine ⟨⟨⟨v, fits⟩, nonzero⟩, ?_, rfl⟩
  rw [moneyField, decode_ascii ascii, Option.bind_some, read, Option.bind_some, Money.ofDecimal]
  simp only [exact, Rat.den_intCast, Rat.num_intCast, fits, and_self, dite_true, Option.bind_some, nonzero,
    ne_eq, not_false_eq_true]

/-- A date text consists of digits and separators. -/
lemma ascii_isoText : ∀ u ∈ isoText c, u.toNat < 128 := by
  intro u mem
  have digits {width k : ℕ} (mem : u ∈ pad width k) : u.toNat < 128 :=
    (toChar_of_isDigit (ascii_of_mem_pad mem)).2.2
  simp only [isoText, List.mem_append, List.mem_cons, List.not_mem_nil, or_false] at mem
  rcases mem with year | rfl | mem | rfl | mem | rfl | mem | rfl | mem | rfl | mem | rfl | mem | rfl
  · split_ifs at year
    · exact digits year
    all_goals
      rcases List.mem_cons.1 year with rfl | year
      · decide
      · exact digits year
  all_goals first | decide | exact digits mem

/-- The text of an instant is read as that instant. -/
lemma instant_toISOString (eq : toISOString time = some text) : server.instant text =
    (Datetime.ofUs ((time + epoch) * 1000)).toOption.map AwareDatetime.utc := by
  unfold toISOString at eq
  split_ifs at eq
  obtain rfl := Option.some.inj eq
  rw [Server.instant, decode_ascii ascii_isoText, Option.bind_some,
    server.datetime_iso _ (Civil.valid_ofMs _), aware, Civil.toMs_ofMs]

lemma instant_isSome (eq : toISOString time = some text) : (server.instant text).isSome = true ↔
    -epoch ≤ time ∧ time < 253402300800000 := by
  rw [instant_toISOString eq, Option.isSome_map]
  have ok := @Datetime.ofUs_isOk ((time + epoch) * 1000)
  have range : (0 ≤ (time + epoch) * 1000 ∧ (time + epoch) * 1000 < Datetime.horizon) ↔
      -epoch ≤ time ∧ time < 253402300800000 := by
    unfold epoch Datetime.horizon
    omega
  rw [← range, ← ok]
  cases Datetime.ofUs ((time + epoch) * 1000) <;> simp [Except.toOption]

end Fields

section Rows
variable {server : Server} {row : SourceRow} {value : JsText}

/-- The key arrives exactly if it can be sent. -/
lemma headerKey_isSome (short : value.length ≤ 255) :
    (headerKey server value).isSome = true ↔ Sendable server value := by
  have stripped : PyText.strip PyText.isSpace ((httpTrim value).map toChar) = [] ↔
      ∀ u ∈ httpTrim value, PyText.isSpace (toChar u) = true := by
    constructor
    · intro none_ u mem
      by_contra kept
      have := PyInt.mem_strip (List.mem_map_of_mem (f := toChar) mem) (Bool.not_eq_true _ ▸ kept)
      rw [none_] at this
      cases this
    · intro all
      have gone : ((httpTrim value).map toChar).dropWhile PyText.isSpace = [] :=
        List.dropWhile_eq_nil_iff.2 fun c mem => by
          obtain ⟨u, memU, rfl⟩ := List.mem_map.1 mem
          exact all u memU
      rw [PyText.strip, gone]
      rfl
  have length : ((httpTrim value).map toChar).length ≤ 255 := by
    rw [List.length_map, httpTrim, List.length_reverse]
    refine ((List.dropWhile_sublist _).length_le.trans ?_).trans short
    rw [List.length_reverse]
    exact (List.dropWhile_sublist _).length_le
  have visible : (getIdempotencyKey ((httpTrim value).map toChar)).isSome = true ↔
      ∃ u ∈ httpTrim value, PyText.isSpace (toChar u) = false := by
    have some_ : (∃ u ∈ httpTrim value, PyText.isSpace (toChar u) = false) ↔
        ¬∀ u ∈ httpTrim value, PyText.isSpace (toChar u) = true := by
      push Not
      simp
    rw [getIdempotencyKey, some_, ← stripped, if_neg (not_lt.2 length)]
    by_cases blank : PyText.strip PyText.isSpace ((httpTrim value).map toChar) = []
    · simp [blank]
    · have nonempty : (httpTrim value).map toChar ≠ [] := fun none_ => blank (by rw [none_]; rfl)
      simp only [blank, nonempty, or_self, if_false, Option.isSome_some, not_false_eq_true]
  constructor
  · intro arrives
    obtain ⟨key, eq⟩ := Option.isSome_iff_exists.1 arrives
    obtain ⟨sent, header, eq⟩ := Option.bind_eq_some_iff.1 eq
    simp only [fetchHeader] at header
    split_ifs at header with fits
    obtain rfl := Option.some.inj header
    split_ifs at eq with field
    simp only [Bool.and_eq_true, List.all_eq_true, decide_eq_true_eq, bne_iff_ne] at fits
    exact ⟨fits.1, fun u mem => by simpa [and_assoc] using fits.2 u mem,
      visible.1 (Option.isSome_iff_exists.2 ⟨key, eq⟩), field⟩
  · rintro ⟨latin, line, some_, field⟩
    have header : fetchHeader value = some (httpTrim value) := by
      rw [fetchHeader, if_pos]
      simp only [Bool.and_eq_true, List.all_eq_true, decide_eq_true_eq, bne_iff_ne]
      exact ⟨latin, fun u mem => by simpa [and_assoc] using line u mem⟩
    rw [headerKey, header, Option.bind_some, if_pos field]
    exact visible.2 some_

lemma GatewayPayload.validate_isSome {p : GatewayPayload} : (p.validate server).isSome = true ↔
    (shortText 128 p.txnId).isSome = true ∧ (moneyField p.amount).isSome = true ∧
      (currencyField p.currency).isSome = true ∧ (server.instant p.occurredAt).isSome = true ∧
      (shortText 128 p.gatewayRef).isSome = true := by
  unfold GatewayPayload.validate
  cases shortText 128 p.txnId <;> cases moneyField p.amount <;> cases currencyField p.currency <;>
    cases server.instant p.occurredAt <;> cases shortText 128 p.gatewayRef <;> simp

lemma LedgerPayload.validate_isSome {p : LedgerPayload} : (p.validate server).isSome = true ↔
    (shortText 128 p.entryId).isSome = true ∧ (shortText 128 p.txnId).isSome = true ∧
      (moneyField p.amount).isSome = true ∧ (currencyField p.currency).isSome = true ∧
      (server.instant p.occurredAt).isSome = true ∧ (shortText 255 p.idempotencyKey).isSome = true := by
  unfold LedgerPayload.validate
  cases shortText 128 p.entryId <;> cases shortText 128 p.txnId <;> cases moneyField p.amount <;>
    cases currencyField p.currency <;> cases server.instant p.occurredAt <;>
    cases shortText 255 p.idempotencyKey <;> simp

/-- The API takes a row that `coerceRows` has checked exactly if it fits. -/
lemma SourceRow.Coerced.accepts_iff (coerced : row.Coerced) : server.accepts row = true ↔
    Fits server row.side row.txnId row.idempotencyKey row.occurredAt := by
  obtain ⟨text, time⟩ : ∃ text, toISOString row.occurredAt = some text := ⟨_, if_pos coerced.time⟩
  have money : (moneyField (toDecimalString row.amount)).isSome = true := by
    obtain ⟨m, eq, _⟩ := moneyField_toDecimalString coerced.nonzero coerced.safe
    exact Option.isSome_iff_exists.2 ⟨m, eq⟩
  have ids := shortText_isSome (n := 128) coerced.txnId
  have refs := shortText_take_isSome (n := 128) (by norm_num) coerced.key
  have keys := shortText_take_isSome (n := 255) (by norm_num) coerced.key
  have currency := currencyField_isSome coerced.currency
  have instant := @instant_isSome server _ _ time
  have header := @headerKey_isSome server _ (List.length_take_le 255 row.idempotencyKey)
  cases side : row.side with
  | gateway =>
    simp only [Server.accepts, side, toGatewayWebhook, time, Option.map_some, Option.bind_some,
      Bool.and_eq_true, GatewayPayload.validate_isSome, ids, money, currency, instant, refs, header]
    constructor
    · rintro ⟨⟨txnId, _, _, range, ref⟩, sendable⟩
      exact ⟨txnId, range, ref, nofun, fun _ => sendable⟩
    · rintro ⟨txnId, range, ref, _, sendable⟩
      exact ⟨⟨txnId, trivial, trivial, range, ref⟩, sendable rfl⟩
  | ledger =>
    simp only [Server.accepts, side, toLedgerEntry, time, Option.map_some, Option.bind_some,
      LedgerPayload.validate_isSome, ids, money, currency, instant, refs, keys]
    constructor
    · rintro ⟨ref, txnId, _, _, range, key⟩
      exact ⟨txnId, range, ref, fun _ => key, nofun⟩
    · rintro ⟨txnId, range, ref, key, _⟩
      exact ⟨ref, txnId, trivial, trivial, range, key rfl⟩

/-- The API takes a batch of ledger rows. -/
def Server.acceptsBatch (server : Server) (batch : List SourceRow) : Bool :=
  ((batch.mapM toLedgerEntry).bind (ledgerSyncIn server)).isSome

/-- A batch of the right size is taken exactly if its rows are. -/
lemma acceptsBatch_iff {batch : List SourceRow} (ledger : ∀ row ∈ batch, row.side = .ledger)
    (nonempty : batch ≠ []) (small : batch.length ≤ 1000) :
    server.acceptsBatch batch = true ↔ ∀ row ∈ batch, server.accepts row = true := by
  have each (row : SourceRow) (mem : row ∈ batch) : server.accepts row =
      ((toLedgerEntry row).bind (·.validate server)).isSome := by
    simp only [Server.accepts, ledger row mem]
  have sized : (batch.mapM toLedgerEntry).bind (ledgerSyncIn server) =
      (batch.mapM toLedgerEntry).bind (·.mapM (·.validate server)) := by
    cases eq : batch.mapM toLedgerEntry with
    | none => rfl
    | some payloads =>
      have pos : 1 ≤ batch.length := List.length_pos_iff.2 nonempty
      rw [Option.bind_some, Option.bind_some, ledgerSyncIn, length_of_mapM eq, if_pos ⟨pos, small⟩]
  rw [Server.acceptsBatch, sized, mapM_bind_mapM, mapM_isSome]
  exact forall₂_congr fun row mem => by rw [each row mem]

/-- Every row that survives the coercion is one the API takes, alone and in any batch, exactly if the cells
    of each row that passes the checks fit: and the other data rows are counted. -/
theorem coerced_accepted_iff (rt : Runtime) (parsed : ParsedCsv) (options : CoerceOptions) :
    ((∀ row ∈ (coerceRows rt parsed options).rows, server.accepts row = true) ∧
      (options.side = .ledger → ∀ batch, (∀ row ∈ batch, row ∈ (coerceRows rt parsed options).rows) →
        batch ≠ [] → batch.length ≤ 1000 → server.acceptsBatch batch = true) ∧
      (coerceRows rt parsed options).rows.length + (coerceRows rt parsed options).rejectedCount =
        parsed.rows.length) ↔
    ∀ cells ∈ parsed.rows, ∀ amount occurredAt, Kept rt parsed options cells amount occurredAt →
      Fits server options.side (trim (cell cells (parsed.index options.map.txnId)))
        (rowKey parsed options cells amount occurredAt) occurredAt := by
  constructor
  · rintro ⟨accepted, _, _⟩ cells mem amount occurredAt kept
    obtain ⟨i, lt, rfl⟩ := List.getElem_of_mem mem
    have listed := mem_coerceRows.2 ⟨i, _, List.getElem?_eq_getElem lt, kept.coerceRow⟩
    exact (coerced_of_mem listed).accepts_iff.1 (accepted _ listed)
  · intro fits
    have accepted : ∀ row ∈ (coerceRows rt parsed options).rows, server.accepts row = true := by
      intro row mem
      obtain ⟨i, cells, here, ok⟩ := mem_coerceRows.1 mem
      obtain ⟨kept, eq⟩ := kept_of_coerceRow ok
      refine (coerced_of_mem mem).accepts_iff.2 ?_
      rw [eq]
      exact fits cells (List.mem_of_getElem? here) _ _ kept
    refine ⟨accepted, fun ledger batch sub nonempty small => ?_, count_coerceRows⟩
    refine (acceptsBatch_iff (fun row mem => ?_) nonempty small).2 fun row mem => accepted row (sub row mem)
    obtain ⟨i, cells, _, ok⟩ := mem_coerceRows.1 (sub row mem)
    rw [(kept_of_coerceRow ok).2, ledger]

end Rows

/-! ## A server -/

/-- The next field of a date text, and what follows its separator. -/
def dateField (width : ℕ) (s : List Char) : ℕ × List Char :=
  (Decimal.value (s.take width), s.drop (width + 1))

/-- A reading of a text with four digits of the year. -/
def readIso (s : List Char) : Option AwareDatetime :=
  if s.length = 24 then
    let (year, s) := dateField 4 s
    let (month, s) := dateField 2 s
    let (day, s) := dateField 2 s
    let (hour, s) := dateField 2 s
    let (minute, s) := dateField 2 s
    let (second, s) := dateField 2 s
    aware ⟨year, month, day, hour, minute, second, (dateField 3 s).1⟩
  else none

section Reading
variable {c : Civil} {width n : ℕ}

lemma length_pad (pos : 0 < width) (small : n < 10 ^ width) : (pad width n).length = width := by
  rw [pad, List.length_leftpad]
  exact max_eq_left (length_ofNat_le small pos)

lemma dateField_pad (pos : 0 < width) (small : n < 10 ^ width) (sep : Char) (rest : List Char) :
    dateField width ((pad width n).map toChar ++ sep :: rest) = (n, rest) := by
  have length : ((pad width n).map toChar).length = width := by rw [List.length_map, length_pad pos small]
  have denotes : number (pad width n) = n := by
    rw [pad, List.leftpad, number_append, number_replicate, number_ofNat, zero_mul, zero_add]
  have after : ((pad width n).map toChar ++ sep :: rest).drop (width + 1) = rest := by
    rw [← List.drop_drop, List.drop_left' length]
    rfl
  rw [dateField, List.take_left' length, value_toChar fun u mem => ascii_of_mem_pad mem, denotes, after]

/-- A month has at most 31 days. -/
lemma day_le (valid : c.Valid) : c.day ≤ 31 := by
  have month : monthStart (leap c.year) (c.month + 1) ≤ monthStart (leap c.year) c.month + 31 := by
    have pos := valid.month_pos
    have le := valid.month_le
    generalize c.month = m at *
    cases leap c.year <;> interval_cases m <;> decide
  have := valid.day_le
  omega

/-- The text of a reading is read back. -/
lemma readIso_isoText (valid : c.Valid) : readIso ((isoText c).map toChar) = aware c := by
  have month : c.month < 10 ^ 2 := by have := valid.month_le; omega
  have day : c.day < 10 ^ 2 := by have := day_le valid; omega
  have hour : c.hour < 10 ^ 2 := by have := valid.hour; omega
  have minute : c.minute < 10 ^ 2 := by have := valid.minute; omega
  have second : c.second < 10 ^ 2 := by have := valid.second; omega
  have milli : c.milli < 10 ^ 3 := by have := valid.milli; omega
  have two {n : ℕ} (small : n < 10 ^ 2) := @length_pad 2 n (by norm_num) small
  have read {n : ℕ} (small : n < 10 ^ 2) := @dateField_pad 2 n (by norm_num) small
  by_cases year : 0 ≤ c.year ∧ c.year ≤ 9999
  · have small : c.year.natAbs < 10 ^ 4 := by omega
    have length : ((isoText c).map toChar).length = 24 := by
      rw [isoText, if_pos year]
      simp only [List.length_map, List.length_append, List.length_cons, List.length_nil, two month, two day,
        two hour, two minute, two second, @length_pad 3 _ (by norm_num) milli,
        @length_pad 4 _ (by norm_num) small]
    rw [readIso, if_pos length, isoText, if_pos year]
    simp only [List.map_append, List.map_cons, @dateField_pad 4 _ (by norm_num) small, read month, read day,
      read hour, read minute, read second, List.map_nil, @dateField_pad 3 _ (by norm_num) milli]
    rw [Int.natAbs_of_nonneg year.1]
  · have six : 6 ≤ (pad 6 c.year.natAbs).length := by
      rw [pad, List.length_leftpad]
      exact le_max_left ..
    have long : ((isoText c).map toChar).length ≠ 24 := by
      rw [isoText, if_neg year]
      simp only [List.length_map, List.length_append, List.length_cons, List.length_nil, two month, two day,
        two hour, two minute, two second, @length_pad 3 _ (by norm_num) milli]
      omega
    have out : ¬(0 ≤ c.toMs * 1000 ∧ c.toMs * 1000 < Datetime.horizon) := by
      rintro ⟨lo, hi⟩
      unfold Datetime.horizon at hi
      have := Civil.year_mem valid (by omega) (by omega)
      omega
    rw [readIso, if_neg long, aware, Datetime.ofUs, dif_neg out]
    rfl

end Reading

/-- Reads the texts of dates and lets every header value through. -/
def plainServer : Server where
  datetime := readIso
  field _ := true
  datetime_iso _ valid := readIso_isoText valid

/-! An exporter that writes long transaction ids. -/

namespace LongIds

/-- A transaction id of 129 characters. -/
def longId : JsText := List.replicate 129 (unit 'x')

def file : ParsedCsv where
  headers := TwoCurrencies.file.headers
  rows := [[longId, lit "12.50", lit "INR", lit "1700000001"]]

lemma kept : Kept TwoCurrencies.runtime file TwoCurrencies.mapping
    [longId, lit "12.50", lit "INR", lit "1700000001"] 1250 1700000001000 where
  txnId := by decide
  money := by decide +kernel
  nonzero := by norm_num
  time := by decide +kernel
  currency := by decide +kernel

end LongIds

/-- A transaction id that is too long for the API survives the coercion. -/
theorem long_id_refused : ¬∀ row ∈
    (coerceRows TwoCurrencies.runtime LongIds.file TwoCurrencies.mapping).rows, plainServer.accepts row = true := by
  intro accepted
  have listed := mem_coerceRows.2 ⟨0, _, rfl, LongIds.kept.coerceRow⟩
  obtain ⟨cs, eq, le⟩ := ((coerced_of_mem listed).accepts_iff.1 (accepted _ listed)).txnId
  have same : trim (cell [LongIds.longId, lit "12.50", lit "INR", lit "1700000001"]
      (LongIds.file.index TwoCurrencies.mapping.map.txnId)) = LongIds.longId := by decide
  have ascii : decode LongIds.longId = some (LongIds.longId.map toChar) :=
    decode_ascii fun u mem => List.eq_of_mem_replicate mem ▸ by decide
  simp only [same, ascii] at eq
  rw [← Option.some.inj eq, List.length_map, LongIds.longId, List.length_replicate] at le
  omega

end LedgerLoop.Frontend
