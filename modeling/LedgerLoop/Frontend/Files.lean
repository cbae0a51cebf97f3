import LedgerLoop.Frontend.Generate
import LedgerLoop.Frontend.Mapping
import LedgerLoop.Library.Delimited

/-!
# Files out and in

Port of `toCsv` in `lib/generate.ts` and of `parseCsv` in `lib/csv.ts`. The tokeniser is PapaParse's: a
`CsvRuntime` says what it makes of records of plain fields, what `Date.parse` makes of the texts of a `Date`, and
what case mapping makes of ASCII texts that have the case already.

A file of rows that is exported and imported again gives the rows back (`exported_rows_return`), but for those
whose year does not have four digits.
-/

set_option autoImplicit false

namespace LedgerLoop.Frontend
open Library JsText Calendar

/-! ## Export -/

/-- `x.toFixed(2)` of a number below `10 ^ 21`: the nearest hundredths, the larger of two. -/
def toFixed (x : ℚ) : JsText :=
  let (whole, frac) := splitDigits ⌊|x| * 100 + 1 / 2⌋ 2
  (if x < 0 then lit "-" else []) ++ whole ++ unit '.' :: frac

/-- `idColumn` of `toCsv`. -/
def idColumn : IngestSource → JsText
  | .gateway => lit "idempotency_key"
  | .ledger => lit "entry_ref"

/-- `header` of `toCsv`. -/
def csvHeader (side : IngestSource) : JsText := lit "txn_id,amount,currency,timestamp," ++ idColumn side ++ [unit '\n']

/-- The line of a row; `none` is a `RangeError`. -/
def csvLine (row : SourceRow) : Option JsText :=
  (toISOString row.occurredAt).map fun instant =>
    row.txnId ++ unit ',' :: (toFixed (Binary64.nearest (row.amount / 100)) ++ unit ',' ::
      (row.currency ++ unit ',' :: (instant ++ unit ',' :: row.idempotencyKey)))

/-- `toCsv`. -/
def toCsv (rows : List SourceRow) (side : IngestSource) : Option JsText :=
  (rows.mapM csvLine).map fun lines => csvHeader side ++ [unit '\n'].intercalate lines ++ [unit '\n']

/-! ## Import -/

/-- Visible ASCII other than the quote and the delimiters that PapaParse tries. -/
def isPlain (u : UInt16) : Bool :=
  32 < u && u < 127 && u != unit '\x22' && u != unit ',' && u != unit ';' && u != unit '|'

/-- Records of plain fields. -/
def PlainRecords (width : ℕ) (records : List (List JsText)) : Prop :=
  ∀ r ∈ records, r.length = width ∧ ∀ f ∈ r, f ≠ [] ∧ ∀ u ∈ f, isPlain u = true

/-- What an import takes from its environment: `toLowerCase`, and the `data` and the `meta.delimiter` of
    `Papa.parse` with the options of `parseCsv`. -/
structure CsvRuntime extends Runtime where
  toLowerCase : JsText → JsText
  papaParse : JsText → List (List JsText) × JsText
  toUpperCase_code : ∀ text, isCurrencyCode text = true → toUpperCase text = text
  toLowerCase_name : ∀ text, (∀ u ∈ text, isNameUnit u = true) → toLowerCase text = text
  dateParse_iso : ∀ c : Civil, c.Valid → 0 ≤ c.year → c.year ≤ 9999 → dateParse (isoText c) = some (c.toMs - epoch)
  papaParse_plain : ∀ width records blanks, 2 ≤ width → records ≠ [] → PlainRecords width records →
    papaParse (Delimited.text (unit ',') (unit '\n') records ++ List.replicate blanks (unit '\n')) =
      (records, lit ",")

/-- `ParsedCsv`. -/
structure CsvFile extends ParsedCsv where
  delimiter : JsText
  raggedRows : ℕ
deriving DecidableEq, Repr

/-- The header of a column. -/
def headerOf (cell : JsText) (index : ℕ) : JsText :=
  if trim cell = [] then lit "column_" ++ ofNat (index + 1) else trim cell

/-- `parseCsv`. -/
def parseCsv (rt : CsvRuntime) (input : JsText) : CsvFile :=
  let (records, delimiter) := rt.papaParse input
  let headers := (records.headD []).mapIdx fun index cell => headerOf cell index
  { headers := headers
    rows := records.tail.map fun row => (row.take headers.length).rightpad headers.length []
    delimiter := if delimiter = [] then lit "," else delimiter
    raggedRows := records.tail.countP fun row => row.length != headers.length }

/-! ## What is written -/

section Writing
variable {v : ℤ} {u : UInt16} {text field : JsText} {c : Civil} {row : SourceRow} {side : IngestSource}
  {rows : List SourceRow}

/-- An amount below `100 * 2 ^ 46` is written in full, although it is divided in doubles. -/
lemma toFixed_nearest (small : |v| < 100 * 2 ^ 46) :
    toFixed (Binary64.nearest ((v : ℚ) / 100)) = toDecimalString v := by
  have abs_ : |Binary64.nearest ((v : ℚ) / 100)| = Binary64.nearest ((v.natAbs : ℚ) / 100) := by
    rw [Binary64.nearest_abs, abs_div, abs_of_pos (by norm_num : (0 : ℚ) < 100), ← Int.cast_abs, ← Int.natCast_natAbs,
      Int.cast_natCast]
  have nonneg : (0 : ℚ) ≤ (v.natAbs : ℚ) / 100 := by positivity
  have lt : (v.natAbs : ℚ) / 100 < (2 : ℚ) ^ (46 : ℤ) := by
    have bound : v.natAbs < 100 * 2 ^ 46 := by
      rw [Int.abs_eq_natAbs] at small
      exact_mod_cast small
    have this : (v.natAbs : ℚ) < (100 * 2 ^ 46 : ℕ) := by exact_mod_cast bound
    rw [div_lt_iff₀ (by norm_num)]
    push_cast at this
    norm_num at this ⊢
    linarith
  have error := abs_le.1 (Binary64.abs_nearest_sub_le_of_lt nonneg lt)
  -- half a unit in the last place is less than half a hundredth
  have hundredths : ⌊Binary64.nearest ((v.natAbs : ℚ) / 100) * 100 + 1 / 2⌋ = (v.natAbs : ℤ) := by
    have scale : (2 : ℚ) ^ (46 - 53 : ℤ) / 2 * 100 < 1 / 2 := by norm_num
    rw [Int.floor_eq_iff, Int.cast_natCast]
    constructor <;> linarith [error.1, error.2]
  -- the sign is written by the double, and rounding keeps it
  have sign : Binary64.nearest ((v : ℚ) / 100) < 0 ↔ v < 0 := by
    constructor
    · intro negative
      by_contra positive
      have : (0 : ℚ) ≤ (v : ℚ) / 100 := div_nonneg (by exact_mod_cast not_lt.1 positive) (by norm_num)
      exact absurd (Binary64.nearest_nonneg this) (not_le.2 negative)
    · intro negative
      have pos : (0 : ℚ) < ((-v : ℤ) : ℚ) / 100 := div_pos (by exact_mod_cast neg_pos.2 negative) (by norm_num)
      have near : 0 < Binary64.nearest (((-v : ℤ) : ℚ) / 100) := by
        rw [Binary64.nearest, if_pos pos]
        exact Binary64.nearestPos_pos pos
      rw [Int.cast_neg, neg_div, Binary64.nearest_neg] at near
      linarith
  have digits : splitDigits (v.natAbs : ℤ) 2 = splitDigits v 2 := rfl
  rw [toFixed, abs_, hundredths, digits, toDecimalString]
  simp only [sign]

/-- From there on doubles are too coarse for hundredths: `70368744177664.01` is written `70368744177664.02`. -/
theorem toFixed_coarse : toFixed (Binary64.nearest (((100 * 2 ^ 46 + 1 : ℤ) : ℚ) / 100)) ≠
    toDecimalString (100 * 2 ^ 46 + 1) := by
  decide +kernel

/-- The fields of a row, as they are written. -/
def csvRecord (row : SourceRow) : List JsText :=
  [row.txnId, toFixed (Binary64.nearest (row.amount / 100)), row.currency,
    isoText (Civil.ofMs (row.occurredAt + epoch)), row.idempotencyKey]

/-- The fields of the first line. -/
def headerRecord (side : IngestSource) : List JsText :=
  [lit "txn_id", lit "amount", lit "currency", lit "timestamp", idColumn side]

lemma csvLine_eq_some (line : csvLine row = some text) : text = Delimited.line (unit ',') (csvRecord row) := by
  obtain ⟨instant, eq, rfl⟩ := Option.map_eq_some_iff.1 line
  unfold toISOString at eq
  split_ifs at eq
  rw [← Option.some.inj eq]
  simp [Delimited.line, csvRecord, List.intercalate]

/-- The text of a file is that of its records. -/
lemma toCsv_eq_some (csv : toCsv rows side = some text) : ∃ blanks,
    text = Delimited.text (unit ',') (unit '\n') (headerRecord side :: rows.map csvRecord) ++
      List.replicate blanks (unit '\n') := by
  obtain ⟨lines, eq, rfl⟩ := Option.map_eq_some_iff.1 csv
  have header : csvHeader side = Delimited.line (unit ',') (headerRecord side) ++ [unit '\n'] := by
    cases side <;> decide
  have each : lines = rows.map fun row => Delimited.line (unit ',') (csvRecord row) := by
    clear csv
    induction rows generalizing lines with
    | nil =>
      rw [List.mapM_nil] at eq
      exact (Option.some.inj eq).symm
    | cons row rows ih =>
      rw [List.mapM_cons] at eq
      obtain ⟨first, line, rest⟩ := Option.bind_eq_some_iff.1 eq
      obtain ⟨others, eqs, same⟩ := Option.bind_eq_some_iff.1 rest
      rw [← Option.some.inj same, ih others eqs, csvLine_eq_some line]
      rfl
  rw [header, each, Delimited.text, List.flatMap_cons]
  cases rows with
  | nil => exact ⟨1, rfl⟩
  | cons row rows =>
    refine ⟨0, ?_⟩
    have ended := @Delimited.intercalate_ends _ (unit '\n')
      ((row :: rows).map fun row => Delimited.line (unit ',') (csvRecord row)) (List.cons_ne_nil _ _)
    rw [List.append_assoc, ended, List.replicate_zero, List.append_nil, List.flatMap_map, List.flatMap_map]

end Writing

/-! ## What is read -/

/-- A row whose fields can be told apart in a file. -/
structure SourceRow.Exportable (side : IngestSource) (row : SourceRow) : Prop where
  side : row.side = side
  txnId : row.txnId ≠ [] ∧ ∀ u ∈ row.txnId, isPlain u = true
  nonzero : row.amount ≠ 0
  small : |row.amount| < 100 * 2 ^ 46
  currency : isCurrencyCode row.currency = true
  key : row.idempotencyKey ≠ [] ∧ ∀ u ∈ row.idempotencyKey, isPlain u = true

section Plain
variable {u : UInt16} {text field : JsText} {c : Civil} {row : SourceRow} {side : IngestSource}
  {rows : List SourceRow} {v : ℤ}

lemma toNat_of_isPlain (plain : isPlain u = true) : 32 < u.toNat ∧ u.toNat < 127 := by
  simp only [isPlain, Bool.and_eq_true, decide_eq_true_eq] at plain
  exact ⟨UInt16.lt_iff_toNat_lt.1 plain.1.1.1.1.1, UInt16.lt_iff_toNat_lt.1 plain.1.1.1.1.2⟩

/-- Plain units are not white space. -/
lemma not_isSpace_of_isPlain (plain : isPlain u = true) : isSpace u = false := by
  obtain ⟨lo, hi⟩ := toNat_of_isPlain plain
  have eq : u.toNat.toUInt16 = u := by simp
  rw [← eq]
  interval_cases u.toNat <;> decide

lemma isPlain_of_isDigit (digit : isDigit u = true) : isPlain u = true := by
  obtain ⟨lo, hi⟩ := toNat_of_isDigit digit
  have eq : u.toNat.toUInt16 = u := by simp
  rw [← eq]
  interval_cases u.toNat <;> decide

lemma isPlain_of_code (code : isCurrencyCode text = true) : text ≠ [] ∧ ∀ u ∈ text, isPlain u = true := by
  simp only [isCurrencyCode, Bool.and_eq_true, beq_iff_eq, List.all_eq_true, decide_eq_true_eq] at code
  obtain ⟨three, letters⟩ := code
  constructor
  · rintro rfl
    cases three
  · intro u mem
    obtain ⟨lo, hi⟩ := letters u mem
    have lo' : 65 ≤ u.toNat := UInt16.le_iff_toNat_le.1 lo
    have hi' : u.toNat ≤ 90 := UInt16.le_iff_toNat_le.1 hi
    have eq : u.toNat.toUInt16 = u := by simp
    rw [← eq]
    interval_cases u.toNat <;> decide

/-- The text of an amount is plain. -/
lemma isPlain_toDecimalString : toDecimalString v ≠ [] ∧ ∀ u ∈ toDecimalString v, isPlain u = true := by
  obtain ⟨digits, some_, _, _⟩ := splitDigits_spec v
  rw [toDecimalString]
  generalize splitDigits v 2 = parts at *
  constructor
  · simp
  · intro u mem
    rcases List.mem_append.1 mem with front | tail
    · rcases List.mem_append.1 front with sign | whole
      · split_ifs at sign
        · exact List.mem_singleton.1 sign ▸ by decide
        · cases sign
      · exact isPlain_of_isDigit (digits u (List.mem_append_left _ whole))
    · rcases List.mem_cons.1 tail with rfl | frac
      · decide
      · exact isPlain_of_isDigit (digits u (List.mem_append_right _ frac))

/-- The text of a reading is plain. -/
lemma isPlain_isoText : isoText c ≠ [] ∧ ∀ u ∈ isoText c, isPlain u = true := by
  constructor
  · simp [isoText]
  · intro u mem
    have digits {width k : ℕ} (mem : u ∈ pad width k) : isPlain u = true := isPlain_of_isDigit (ascii_of_mem_pad mem)
    simp only [isoText, List.mem_append, List.mem_cons, List.not_mem_nil, or_false] at mem
    rcases mem with year | rfl | mem | rfl | mem | rfl | mem | rfl | mem | rfl | mem | rfl | mem | rfl
    · split_ifs at year
      · exact digits year
      all_goals
        rcases List.mem_cons.1 year with rfl | year
        · decide
        · exact digits year
    all_goals first | decide | exact digits mem

/-- An exported row is a record of plain fields. -/
lemma SourceRow.Exportable.plain (exportable : row.Exportable side) :
    (csvRecord row).length = 5 ∧ ∀ f ∈ csvRecord row, f ≠ [] ∧ ∀ u ∈ f, isPlain u = true := by
  refine ⟨rfl, fun f mem => ?_⟩
  rw [csvRecord, toFixed_nearest exportable.small] at mem
  simp only [List.mem_cons, List.not_mem_nil, or_false] at mem
  rcases mem with rfl | rfl | rfl | rfl | rfl
  · exact exportable.txnId
  · exact isPlain_toDecimalString
  · exact isPlain_of_code exportable.currency
  · exact isPlain_isoText
  · exact exportable.key

lemma plain_headerRecord : (headerRecord side).length = 5 ∧
    ∀ f ∈ headerRecord side, f ≠ [] ∧ ∀ u ∈ f, isPlain u = true := by
  have plain : (headerRecord side).all (fun f => f.all isPlain) = true := by cases side <;> decide
  have visible : ∀ f ∈ headerRecord side, f ≠ [] := by cases side <;> decide
  refine ⟨by cases side <;> rfl, fun f mem => ⟨visible f mem, ?_⟩⟩
  exact List.all_eq_true.1 (List.all_eq_true.1 plain f mem)

lemma trim_plain (plain : ∀ u ∈ field, isPlain u = true) : trim field = field :=
  trim_eq_self fun u mem => not_isSpace_of_isPlain (plain u mem)

/-- The file that is read back. -/
lemma parseCsv_toCsv {rt : CsvRuntime} (exportable : ∀ row ∈ rows, row.Exportable side)
    (csv : toCsv rows side = some text) : parseCsv rt text =
      { headers := headerRecord side, rows := rows.map csvRecord, delimiter := lit ",", raggedRows := 0 } := by
  obtain ⟨blanks, rfl⟩ := toCsv_eq_some csv
  have plain : PlainRecords 5 (headerRecord side :: rows.map csvRecord) := by
    intro r mem
    rcases List.mem_cons.1 mem with rfl | mem
    · exact plain_headerRecord
    · obtain ⟨row, memRow, rfl⟩ := List.mem_map.1 mem
      exact (exportable row memRow).plain
  have headers : (headerRecord side).mapIdx (fun index cell => headerOf cell index) = headerRecord side := by
    cases side <;> decide
  -- no record is cut or filled up
  have padded (r : List JsText) (mem : r ∈ rows.map csvRecord) : (r.take 5).rightpad 5 [] = r := by
    have five := (plain r (List.mem_cons_of_mem _ mem)).1
    rw [List.take_of_length_le five.le, List.rightpad, five, Nat.sub_self, List.replicate_zero, List.append_nil]
  have ragged : (rows.map csvRecord).countP (fun r => r.length != 5) = 0 := by
    apply List.countP_eq_zero.2
    intro r mem
    have five := (plain r (List.mem_cons_of_mem _ mem)).1
    simp [five]
  rw [parseCsv, rt.papaParse_plain 5 _ blanks (by norm_num) (List.cons_ne_nil _ _) plain]
  simp only [List.headD_cons, List.tail_cons, headers, plain_headerRecord.1]
  rw [ragged, List.map_congr_left padded, List.map_id']
  rfl

end Plain

section Columns
variable {normalised normalised' : JsText → JsText} {headers : List JsText} {g : Guess} {side : IngestSource}
  {text : JsText}

/-- The guess looks at what the headers are normalised to. -/
lemma guess_congr (same : ∀ h ∈ headers, normalised h = normalised' h) :
    guess normalised headers = guess normalised' headers := by
  have find (g : Guess) (hits : JsText → JsText → Bool) (field : FieldName) :
      g.find normalised headers hits field = g.find normalised' headers hits field := by
    unfold Guess.find
    congr 1
    funext synonym
    apply List.find?_congr
    intro header mem
    rw [same header mem]
  have exact_ : Guess.exact normalised headers = Guess.exact normalised' headers := by
    funext g field
    rw [Guess.exact, Guess.exact, find]
  have partly : Guess.partly normalised headers = Guess.partly normalised' headers := by
    funext g field
    rw [Guess.partly, Guess.partly, find]
  rw [guess, guess, exact_, partly]

/-- Nothing is replaced in a name. -/
lemma underscores_name (name : ∀ u ∈ text, isNameUnit u = true) : underscores false text = text := by
  induction text with
  | nil => rfl
  | cons u text ih =>
    have kept : (isSpace u || u == unit '-') = false := by
      have own := name u List.mem_cons_self
      simp only [isNameUnit, Bool.or_eq_true, Bool.and_eq_true, decide_eq_true_eq, beq_iff_eq] at own
      have range : 48 ≤ u.toNat ∧ u.toNat < 127 := by
        rcases own with (⟨lo, hi⟩ | digit) | rfl
        · have lo' : 97 ≤ u.toNat := UInt16.le_iff_toNat_le.1 lo
          have hi' : u.toNat ≤ 122 := UInt16.le_iff_toNat_le.1 hi
          omega
        · have := toNat_of_isDigit digit
          omega
        · decide
      obtain ⟨lo, hi⟩ := range
      have eq : u.toNat.toUInt16 = u := by simp
      rw [← eq]
      interval_cases u.toNat <;> decide
    rw [underscores, kept, ih fun v mem => name v (List.mem_cons_of_mem _ mem)]
    rfl

/-- The fields of a file are found by their headers. -/
def fileMap (side : IngestSource) : ColumnMap :=
  ⟨some (lit "txn_id"), some (lit "amount"), some (lit "currency"), some (lit "timestamp"), some (idColumn side)⟩

lemma guessMapping_headerRecord {rt : CsvRuntime} :
    guessMapping rt.toLowerCase (headerRecord side) = fileMap side := by
  have named : (headerRecord side).all (fun h => h.all isNameUnit) = true := by cases side <;> decide
  have names : ∀ h ∈ headerRecord side, ∀ u ∈ h, isNameUnit u = true :=
    fun h mem => List.all_eq_true.1 (List.all_eq_true.1 named h mem)
  -- the headers are normal already, so the guess is that of the literal names
  have same : ∀ h ∈ headerRecord side, normalise rt.toLowerCase h = id h := by
    intro h mem
    rw [normalise, rt.toLowerCase_name h (names h mem), underscores_name (names h mem)]
    exact List.filter_eq_self.2 (names h mem)
  rw [guessMapping, guess_congr same]
  cases side <;> decide +kernel

end Columns

section Instants
variable {c : Civil} {rt : Runtime} {text : JsText} {shape : List Char} {u : UInt16} {n : ℕ}

/-- The year has four digits. -/
def SourceRow.datable (row : SourceRow) : Bool :=
  0 ≤ (Civil.ofMs (row.occurredAt + epoch)).year && (Civil.ofMs (row.occurredAt + epoch)).year ≤ 9999

/-- Numbers in two digits. -/
lemma exists_pad_two (small : n < 10 ^ 2) : ∃ a b, pad 2 n = [a, b] ∧ isDigit a = true ∧ isDigit b = true := by
  obtain ⟨a, b, eq⟩ := List.length_eq_two.1 (@length_pad 2 n (by norm_num) small)
  have digits : ∀ u ∈ pad 2 n, isDigit u = true := fun u mem => ascii_of_mem_pad mem
  rw [eq] at digits
  exact ⟨a, b, eq, digits a (by simp), digits b (by simp)⟩

lemma exists_pad_three (small : n < 10 ^ 3) :
    ∃ a b d, pad 3 n = [a, b, d] ∧ isDigit a = true ∧ isDigit b = true ∧ isDigit d = true := by
  obtain ⟨a, b, d, eq⟩ := List.length_eq_three.1 (@length_pad 3 n (by norm_num) small)
  have digits : ∀ u ∈ pad 3 n, isDigit u = true := fun u mem => ascii_of_mem_pad mem
  rw [eq] at digits
  exact ⟨a, b, d, eq, digits a (by simp), digits b (by simp), digits d (by simp)⟩

lemma exists_pad_four (small : n < 10 ^ 4) : ∃ a b d e, pad 4 n = [a, b, d, e] ∧
    isDigit a = true ∧ isDigit b = true ∧ isDigit d = true ∧ isDigit e = true := by
  have digits : ∀ u ∈ pad 4 n, isDigit u = true := fun u mem => ascii_of_mem_pad mem
  have four := @length_pad 4 n (by norm_num) small
  generalize pad 4 n = text at digits four
  obtain _ | ⟨a, _ | ⟨b, _ | ⟨d, _ | ⟨e, _ | ⟨f, rest⟩⟩⟩⟩⟩ := text
  all_goals simp at four
  exact ⟨a, b, d, e, rfl, digits a (by simp), digits b (by simp), digits d (by simp), digits e (by simp)⟩

/-- The expression takes the text of an instant apart and leaves its parts as they are. -/
lemma parseTimestamp_isoText (valid : c.Valid) (year : 0 ≤ c.year ∧ c.year ≤ 9999) :
    parseTimestamp rt (isoText c) = rt.dateParse (isoText c) := by
  obtain ⟨y1, y2, y3, y4, yearEq, d1, d2, d3, d4⟩ := @exists_pad_four c.year.natAbs (by omega)
  obtain ⟨m1, m2, monthEq, d5, d6⟩ := @exists_pad_two c.month (by have := valid.month_le; omega)
  obtain ⟨a1, a2, dayEq, d7, d8⟩ := @exists_pad_two c.day (by have := day_le valid; omega)
  obtain ⟨h1, h2, hourEq, d9, d10⟩ := @exists_pad_two c.hour (by have := valid.hour; omega)
  obtain ⟨i1, i2, minuteEq, d11, d12⟩ := @exists_pad_two c.minute (by have := valid.minute; omega)
  obtain ⟨s1, s2, secondEq, d13, d14⟩ := @exists_pad_two c.second (by have := valid.second; omega)
  obtain ⟨t1, t2, t3, milliEq, d15, d16, d17⟩ := @exists_pad_three c.milli (by have := valid.milli; omega)
  have text : isoText c = [y1, y2, y3, y4, unit '-', m1, m2, unit '-', a1, a2, unit 'T', h1, h2, unit ':', i1, i2,
      unit ':', s1, s2, unit '.', t1, t2, t3, unit 'Z'] := by
    rw [isoText, if_pos year, yearEq, monthEq, dayEq, hourEq, minuteEq, secondEq, milliEq]
    rfl
  have zone : isDigit (unit 'Z') = false := by decide
  rw [parseTimestamp, trim_plain isPlain_isoText.2, if_neg isPlain_isoText.1, text]
  simp [shaped, matchIso, lit, d1, d2, d3, d4, d5, d6, d7, d8, d9, d10, d11, d12, d13, d14, d15, d16, d17, zone]

/-- A shape that starts with a digit is not that of a text that starts otherwise. -/
lemma shaped_cons (other : isDigit u = false) (shape : List Char) (text : JsText) :
    shaped (String.ofList ('d' :: shape)) (u :: text) = false := by
  simp [shaped, other]

/-- The text of an instant whose year has more digits, or a sign, is not accepted. -/
lemma parseTimestamp_signed (year : ¬(0 ≤ c.year ∧ c.year ≤ 9999)) : parseTimestamp rt (isoText c) = none := by
  obtain ⟨u, rest, text, other⟩ : ∃ u rest, isoText c = u :: rest ∧ isDigit u = false := by
    rw [isoText, if_neg year]
    refine ⟨_, _, rfl, ?_⟩
    by_cases negative : c.year < 0
    · rw [if_pos negative]
      decide
    · rw [if_neg negative]
      decide
  rw [parseTimestamp, trim_plain isPlain_isoText.2, if_neg isPlain_isoText.1, text]
  have noDate : matchIso (u :: rest) = none := by
    have date : shaped "dddd-dd-dd" ((u :: rest).take 10) = false := shaped_cons other _ _
    simp only [matchIso, date, Bool.false_and, Bool.false_eq_true, if_false]
  have seconds : shaped "dddddddddd" (u :: rest) = false := shaped_cons other _ _
  have millis : shaped "ddddddddddddd" (u :: rest) = false := shaped_cons other _ _
  have day : shaped "dddd-dd-dd" (u :: rest) = false := shaped_cons other _ _
  simp [noDate, seconds, millis, day]

end Instants

section Return
variable {rt : CsvRuntime} {row : SourceRow} {rows : List SourceRow} {side : IngestSource} {text : JsText}
  {parsed : ParsedCsv} {options : CoerceOptions} {line : ℕ}

/-- The columns are where the headers say. -/
structure Laid (side : IngestSource) (parsed : ParsedCsv) (options : CoerceOptions) : Prop where
  headers : parsed.headers = headerRecord side
  map : options.map = fileMap side
  side : options.side = side

/-- The columns of a file. -/
lemma index_fileMap (laid : Laid side parsed options) :
    parsed.index options.map.txnId = some 0 ∧ parsed.index options.map.amount = some 1 ∧
      parsed.index options.map.currency = some 2 ∧ parsed.index options.map.timestamp = some 3 ∧
      parsed.index options.map.idempotencyKey = some 4 := by
  simp only [ParsedCsv.index, laid.headers, laid.map]
  cases side <;> decide

/-- The cells of an exported row are those of the row, if its instant is read. -/
lemma coerceRow_csvRecord (exportable : row.Exportable side) (laid : Laid side parsed options) :
    coerceRow rt.toRuntime parsed options line (csvRecord row) =
      if row.datable then .ok { row with line := line }
      else .error (lit "timestamp \x22" ++ isoText (Civil.ofMs (row.occurredAt + epoch)) ++
        lit "\x22 is not ISO 8601 or an epoch value") := by
  obtain ⟨atTxnId, atAmount, atCurrency, atTimestamp, atKey⟩ := index_fileMap laid
  have money : parseMinor (toFixed (Binary64.nearest (row.amount / 100))) = some row.amount := by
    rw [toFixed_nearest exportable.small]
    have valid := Numeral.valid_ofMinor row.amount
    have exact_ : (Numeral.ofMinor row.amount).value * 100 = row.amount := by
      rw [Numeral.value_ofMinor]
      ring
    have read := valid.parseMinor_text (by
      rw [exact_, ← Int.cast_abs]
      exact_mod_cast exportable.small.trans (by norm_num))
    have text : (Numeral.ofMinor row.amount).text = toDecimalString row.amount := by
      simp [Numeral.text, Numeral.ofMinor, Numeral.tail, toDecimalString]
    rw [text, Numeral.minor, exact_] at read
    rw [read, Binary64.truncate]
    split_ifs <;> simp
  have currency : rowCurrency rt.toRuntime parsed options (csvRecord row) = row.currency := by
    have code := isPlain_of_code exportable.currency
    rw [rowCurrency, atCurrency]
    show (if rt.toUpperCase (trim row.currency) = [] then _ else rt.toUpperCase (trim row.currency)) = _
    rw [trim_plain code.2, rt.toUpperCase_code _ exportable.currency, if_neg code.1]
  have key : rowKey parsed options (csvRecord row) row.amount row.occurredAt = row.idempotencyKey := by
    rw [rowKey, atKey]
    show (if trim row.idempotencyKey ≠ [] then trim row.idempotencyKey else _) = _
    rw [trim_plain exportable.key.2, if_pos exportable.key.1]
  have txnId : trim (cell (csvRecord row) (some 0)) = row.txnId := trim_plain exportable.txnId.2
  by_cases year : 0 ≤ (Civil.ofMs (row.occurredAt + epoch)).year ∧ (Civil.ofMs (row.occurredAt + epoch)).year ≤ 9999
  · have datable : row.datable = true := by simpa [SourceRow.datable] using year
    have time : parseTimestamp rt.toRuntime (isoText (Civil.ofMs (row.occurredAt + epoch))) = some row.occurredAt := by
      rw [parseTimestamp_isoText (Civil.valid_ofMs _) year, rt.dateParse_iso _ (Civil.valid_ofMs _) year.1 year.2,
        Civil.toMs_ofMs, add_sub_cancel_right]
    have kept : Kept rt.toRuntime parsed options (csvRecord row) row.amount row.occurredAt := by
      refine ⟨?_, ?_, exportable.nonzero, ?_, ?_⟩
      · rw [atTxnId, txnId]
        exact exportable.txnId.1
      · rw [atAmount]
        exact money
      · rw [atTimestamp]
        exact time
      · rw [currency]
        exact exportable.currency
    rw [kept.coerceRow, if_pos datable, atTxnId, txnId, currency, key, laid.side, ← exportable.side]
  · have datable : row.datable = false := by
      rw [SourceRow.datable, ← Bool.decide_and]
      exact decide_eq_false year
    have unread : parseTimestamp rt.toRuntime (isoText (Civil.ofMs (row.occurredAt + epoch))) = none :=
      parseTimestamp_signed year
    have amountCell : cell (csvRecord row) (some 1) = toFixed (Binary64.nearest (row.amount / 100)) := rfl
    have timeCell : cell (csvRecord row) (some 3) = isoText (Civil.ofMs (row.occurredAt + epoch)) := rfl
    simp only [coerceRow, atTxnId, atAmount, atTimestamp, txnId, amountCell, timeCell, money, unread, datable,
      if_neg exportable.txnId.1, if_neg exportable.nonzero, Bool.false_eq_true, if_false]

/-- What comes back of the row at an index of a file: it has a line of its own. -/
def returned (p : SourceRow × ℕ) : Option SourceRow := if p.1.datable then some { p.1 with line := p.2 + 2 } else none

/-- The rows of a file that is read back. -/
lemma rows_csvRecord (exportable : ∀ row ∈ rows, row.Exportable side) (laid : Laid side parsed options)
    (data : parsed.rows = rows.map csvRecord) : (coerceRows rt.toRuntime parsed options).rows =
      rows.zipIdx.filterMap returned := by
  rw [rows_coerceRows, data, List.zipIdx_map, List.filterMap_map]
  apply List.filterMap_congr
  intro p mem
  obtain ⟨row, i⟩ := p
  have memRow : row ∈ rows := List.mem_of_getElem? (List.mem_zipIdx_iff_getElem?.1 mem)
  show (coerceRow rt.toRuntime parsed options (i + 2) (csvRecord row)).toOption = _
  rw [coerceRow_csvRecord (exportable row memRow) laid, returned]
  cases row.datable <;> rfl

/-- The rows that are read back and those that are not are the rows. -/
lemma length_returned : (rows.zipIdx.filterMap returned).length + rows.countP (!·.datable) = rows.length := by
  have count (n : ℕ) : ((rows.zipIdx n).filterMap returned).length + rows.countP (!·.datable) = rows.length := by
    induction rows generalizing n with
    | nil => rfl
    | cons row rows ih =>
      have rest := ih (n + 1)
      rw [List.zipIdx_cons, List.countP_cons, List.length_cons]
      cases datable : row.datable with
      | true =>
        have back : returned (row, n) = some { row with line := n + 2 } := if_pos datable
        rw [List.filterMap_cons_some back, List.length_cons, Bool.not_true, if_neg Bool.false_ne_true]
        omega
      | false =>
        have lost : returned (row, n) = none := if_neg (by simp [datable])
        rw [List.filterMap_cons_none lost, Bool.not_false, if_pos rfl]
        omega
  exact count 0

/-- The columns of a file that is read back are where they were written. -/
lemma laid_parseCsv (exportable : ∀ row ∈ rows, row.Exportable side) (csv : toCsv rows side = some text)
    (guessed : options.map = guessMapping rt.toLowerCase (parseCsv rt text).headers) (own : options.side = side) :
    Laid side (parseCsv rt text).toParsedCsv options ∧ (parseCsv rt text).toParsedCsv.rows = rows.map csvRecord ∧
      (parseCsv rt text).raggedRows = 0 := by
  have file := @parseCsv_toCsv text side rows rt exportable csv
  rw [file] at guessed ⊢
  exact ⟨⟨rfl, guessed.trans guessMapping_headerRecord, own⟩, rfl, rfl⟩

/-- A file of rows that is exported and imported again, with the columns as they are guessed, needs no other mapping
    and gives back the rows whose year has four digits, each at its line of the file; the others are counted as
    rejected. -/
theorem exported_rows_return (exportable : ∀ row ∈ rows, row.Exportable side) (csv : toCsv rows side = some text)
    (guessed : options.map = guessMapping rt.toLowerCase (parseCsv rt text).headers) (own : options.side = side) :
    validationErrors options.map = [] ∧ (parseCsv rt text).raggedRows = 0 ∧
      (coerceRows rt.toRuntime (parseCsv rt text).toParsedCsv options).rows = rows.zipIdx.filterMap returned ∧
      (coerceRows rt.toRuntime (parseCsv rt text).toParsedCsv options).rejectedCount = rows.countP (!·.datable) := by
  obtain ⟨laid, data, ragged⟩ := laid_parseCsv exportable csv guessed own
  have back := @rows_csvRecord rt rows side _ _ exportable laid data
  refine ⟨?_, ragged, back, ?_⟩
  · rw [laid.map]
    cases side <;> decide
  · have all := @count_coerceRows rt.toRuntime (parseCsv rt text).toParsedCsv options
    have parts := @length_returned rows
    rw [back, data, List.length_map] at all
    omega

end Return

/-! ## The files of a run -/

section Runs
variable {host : Host} {cfg : GeneratorConfig} {rt : CsvRuntime} {side : IngestSource} {text runId : JsText}
  {u : UInt16}
  {i line : ℕ} {d : Draw}

lemma isPlain_toUpperCase (plain : ∀ u ∈ text, isPlain u = true) : ∀ u ∈ toUpperCase text, isPlain u = true := by
  intro v mem
  obtain ⟨u, memU, rfl⟩ := List.mem_map.1 mem
  obtain ⟨lo, hi⟩ := toNat_of_isPlain (plain u memU)
  have own := plain u memU
  have eq : u.toNat.toUInt16 = u := by simp
  rw [← eq] at own ⊢
  revert own
  interval_cases u.toNat <;> decide

lemma isPlain_runIdOf (plain : ∀ n, ∀ u ∈ host.radix36 n, isPlain u = true) :
    ∀ u ∈ runIdOf host cfg, isPlain u = true := by
  have code (n : ℚ) : ∀ u ∈ shortCode host n, isPlain u = true := by
    intro u mem
    exact isPlain_toUpperCase (plain n) u (List.mem_of_mem_drop mem)
  intro u mem
  rcases List.mem_append.1 mem with mem | mem
  · exact code _ u mem
  · exact code _ u mem

lemma isPlain_txnIdOf (plain : ∀ u ∈ runId, isPlain u = true) : ∀ u ∈ txnIdOf runId i, isPlain u = true := by
  intro u mem
  rcases List.mem_append.1 mem with front | tail
  · rcases List.mem_append.1 front with own | own
    · have tag : ∀ u ∈ lit "TXN-", isPlain u = true := List.all_eq_true.1 (by decide)
      exact tag u own
    · exact plain u own
  · rcases List.mem_cons.1 tail with rfl | digits
    · decide
    · exact isPlain_of_isDigit (ascii_of_mem_pad digits)

/-- A tagged key of a run is plain. -/
lemma isPlain_key {tag : JsText} (plain : ∀ u ∈ runId, isPlain u = true) (tagged : ∀ u ∈ tag, isPlain u = true) :
    ∀ u ∈ tag ++ runId ++ unit '-' :: txnIdOf runId i, isPlain u = true := by
  intro u mem
  rcases List.mem_append.1 mem with front | tail
  · rcases List.mem_append.1 front with own | own
    · exact tagged u own
    · exact plain u own
  · rcases List.mem_cons.1 tail with rfl | own
    · decide
    · exact isPlain_txnIdOf plain u own

/-- A drifted amount is far below the amounts that are not written in full. -/
lemma driftedAmount_lt {amount : ℤ} {size sign : ℚ} (nonneg : 0 ≤ size) (lt : size < 1) (lo : 5000 ≤ amount)
    (hi : amount ≤ 5000000) : driftedAmount amount size sign < 100 * 2 ^ 46 := by
  have unit_ : |if sign < 1 / 2 then (1 : ℚ) else -1| = 1 := by split_ifs <;> norm_num
  obtain ⟨above, below⟩ := drift_bounds nonneg lt unit_
  have loQ : (5000 : ℚ) ≤ amount := by exact_mod_cast lo
  have hiQ : (amount : ℚ) ≤ 5000000 := by exact_mod_cast hi
  rw [driftedAmount]
  generalize Binary64.nearest (1 + _) = factor at above below ⊢
  obtain ⟨_, high⟩ := @nearest_within (amount * factor) (by nlinarith)
  have most : (Binary64.nearest (amount * factor) : ℚ) ≤ (25000000 : ℤ) := by
    push_cast
    nlinarith
  have rounded := (round_bounds (Int.floor_le _) most).2
  by_cases same : round (Binary64.nearest (amount * factor)) = amount
  · rw [if_pos same, plus_eq (by omega) (by omega)]
    omega
  · rw [if_neg same]
    omega

/-- Every amount of a draw is written in full. -/
lemma drawTxn_written {a : UInt32} : |(drawTxn host cfg i a).1.txn.amount| < 100 * 2 ^ 46 ∧
    |(drawTxn host cfg i a).1.txn.ledgerAmount| < 100 * 2 ^ 46 := by
  have small := @drawTxn_small a host cfg i
  have amount := small.amount
  rw [abs_of_nonneg (by omega), abs_of_nonneg small.ledgerAmount.1.le]
  refine ⟨by omega, ?_⟩
  rw [drawTxn] at amount ⊢
  dsimp only at amount ⊢
  split_ifs
  · obtain ⟨nonneg, lt⟩ := @nextRandom_bounds
      (nextRandom (nextRandom (nextRandom (nextRandom (nextRandom a).2).2).2).2).2
    exact driftedAmount_lt nonneg lt amount.1 amount.2
  · omega

lemma exportable_gatewayRowOf (plain : ∀ u ∈ runId, isPlain u = true) (code : isCurrencyCode cfg.currency = true)
    (small : d.Small) (written : |d.txn.amount| < 100 * 2 ^ 46) :
    (gatewayRowOf cfg runId i line d).Exportable .gateway where
  side := rfl
  txnId := ⟨by simp [gatewayRowOf, txnIdOf], isPlain_txnIdOf plain⟩
  nonzero := by
    have := small.amount
    show d.txn.amount ≠ 0
    omega
  small := written
  currency := code
  key := ⟨by simp [gatewayRowOf], isPlain_key plain (List.all_eq_true.1 (by decide))⟩

lemma exportable_ledgerRowOf (plain : ∀ u ∈ runId, isPlain u = true) (code : isCurrencyCode cfg.currency = true)
    (small : d.Small) (written : |d.txn.ledgerAmount| < 100 * 2 ^ 46) :
    (ledgerRowOf cfg runId i line d).Exportable .ledger where
  side := rfl
  txnId := ⟨by simp [ledgerRowOf, txnIdOf], isPlain_txnIdOf plain⟩
  nonzero := small.ledgerAmount.1.ne'
  small := written
  currency := code
  key := ⟨by simp [ledgerRowOf], isPlain_key plain (List.all_eq_true.1 (by decide))⟩

/-- The rows of a run can be exported. -/
lemma exportable_generate (plain : ∀ n, ∀ u ∈ host.radix36 n, isPlain u = true)
    (code : isCurrencyCode cfg.currency = true) :
    (∀ row ∈ (generate host cfg).gateway, row.Exportable .gateway) ∧
      ∀ row ∈ (generate host cfg).ledger, row.Exportable .ledger := by
  have run : ∀ u ∈ runIdOf host cfg, isPlain u = true := isPlain_runIdOf plain
  -- induction on the turns: each appends rows that can be exported to those that are there
  have loop (n : ℕ) (a : UInt32) :
      let vars := (List.range n).foldl (turn host cfg backendRules (runIdOf host cfg)) { random := a }
      (∀ row ∈ vars.gateway, row.Exportable .gateway) ∧ ∀ row ∈ vars.ledger, row.Exportable .ledger := by
    induction n with
    | zero =>
      constructor
      · intro row mem
        cases mem
      · intro row mem
        cases mem
    | succ n ih =>
      rw [List.range_succ, List.foldl_append]
      generalize (List.range n).foldl (turn host cfg backendRules (runIdOf host cfg)) { random := a } = vars at ih ⊢
      obtain ⟨gateway, ledger⟩ := ih
      have small := @drawTxn_small vars.random host cfg n
      have written := @drawTxn_written host cfg n vars.random
      constructor
      · intro row mem
        rcases List.mem_append.1 mem with old | new
        · exact gateway row old
        · rcases List.mem_cons.1 new with rfl | retry
          · exact exportable_gatewayRowOf run code small written.1
          · -- a duplicate is the row again
            split_ifs at retry
            · rw [List.mem_singleton.1 retry]
              exact exportable_gatewayRowOf run code small written.1
            · cases retry
      · intro row mem
        have shape : (turn host cfg backendRules (runIdOf host cfg) vars n).ledger =
            if (drawTxn host cfg n vars.random).1.txn.dropped then vars.ledger
            else vars.ledger ++ [ledgerRowOf cfg (runIdOf host cfg) n
              (vars.line + 1 + if (drawTxn host cfg n vars.random).1.duplicate then 1 else 0)
              (drawTxn host cfg n vars.random).1] := rfl
        change row ∈ (turn host cfg backendRules (runIdOf host cfg) vars n).ledger at mem
        rw [shape] at mem
        by_cases dropped : (drawTxn host cfg n vars.random).1.txn.dropped = true
        · rw [if_pos dropped] at mem
          exact ledger row mem
        · rw [if_neg dropped] at mem
          rcases List.mem_append.1 mem with old | new
          · exact ledger row old
          · rw [List.mem_singleton.1 new]
            exact exportable_ledgerRowOf run code small written.2
  exact loop ⌈cfg.count⌉₊ (toUint32 cfg.seed)

/-- What comes back of rows, up to the lines. -/
lemma unlined_returned {rows : List SourceRow} :
    (rows.zipIdx.filterMap returned).map SourceRow.unlined = (rows.filter (·.datable)).map SourceRow.unlined := by
  have from_ (n : ℕ) : ((rows.zipIdx n).filterMap returned).map SourceRow.unlined =
      (rows.filter (·.datable)).map SourceRow.unlined := by
    induction rows generalizing n with
    | nil => rfl
    | cons row rows ih =>
      rw [List.zipIdx_cons]
      cases datable : row.datable with
      | true =>
        have back : returned (row, n) = some { row with line := n + 2 } := if_pos datable
        rw [List.filterMap_cons_some back, List.filter_cons_of_pos datable, List.map_cons, List.map_cons, ih]
        rfl
      | false =>
        have lost : returned (row, n) = none := if_neg (by simp [datable])
        rw [List.filterMap_cons_none lost, List.filter_cons_of_neg (by simp [datable]), ih]
  exact from_ 0

/-- The rows of a side of a run. -/
def GeneratedRun.rows (run : GeneratedRun) : IngestSource → List SourceRow
  | .gateway => run.gateway
  | .ledger => run.ledger

/-- A run that leaves the browser and is uploaded again is the run, up to the lines. -/
theorem generated_run_returns {options : CoerceOptions} (plain : ∀ n, ∀ u ∈ host.radix36 n, isPlain u = true)
    (code : isCurrencyCode cfg.currency = true) (csv : toCsv ((generate host cfg).rows side) side = some text)
    (guessed : options.map = guessMapping rt.toLowerCase (parseCsv rt text).headers) (own : options.side = side) :
    (coerceRows rt.toRuntime (parseCsv rt text).toParsedCsv options).rows.map SourceRow.unlined =
      (((generate host cfg).rows side).filter (·.datable)).map SourceRow.unlined := by
  have exportable : ∀ row ∈ (generate host cfg).rows side, row.Exportable side := by
    cases side with
    | gateway => exact (exportable_generate plain code).1
    | ledger => exact (exportable_generate plain code).2
  obtain ⟨laid, data, _⟩ := laid_parseCsv exportable csv guessed own
  rw [rows_csvRecord exportable laid data, unlined_returned]

end Runs

/-! A browser for ASCII files, and two rows, one of them beyond the year 9999. -/

namespace TwoRows

/-- The date texts of four digits of the year. -/
def dateParse : JsText → Option ℤ
  | [y1, y2, y3, y4, _, m1, m2, _, d1, d2, _, h1, h2, _, i1, i2, _, s1, s2, _, t1, t2, t3, _] =>
    let c : Civil := ⟨number [y1, y2, y3, y4], number [m1, m2], number [d1, d2], number [h1, h2], number [i1, i2],
      number [s1, s2], number [t1, t2, t3]⟩
    if |c.toMs - epoch| ≤ maxTime then some (c.toMs - epoch) else none
  | _ => none

lemma dateParse_le {text : JsText} {time : ℤ} (eq : dateParse text = some time) : |time| ≤ maxTime := by
  unfold dateParse at eq
  split at eq
  · dsimp only at eq
    split_ifs at eq with le
    exact Option.some.inj eq ▸ le
  · cases eq

lemma number_pad {width n : ℕ} : number (pad width n) = n := by
  rw [pad, List.leftpad, number_append, number_replicate, number_ofNat, zero_mul, zero_add]

/-- A reading of a year with four digits is within the range of a `Date`. -/
lemma abs_toMs_le {c : Civil} (valid : c.Valid) (lo : 0 ≤ c.year) (hi : c.year ≤ 9999) :
    |c.toMs - epoch| ≤ maxTime := by
  have start := monthStart_nonneg (leap c.year) valid.month_pos valid.month_le
  have stop := valid.day_le.trans (monthStart_le (leap c.year) valid.month_le)
  have day := valid.day_pos
  have clock : ((c.hour * 60 + c.minute) * 60 + c.second) * 1000 + c.milli < 86400000 := by
    have := valid.hour
    have := valid.minute
    have := valid.second
    have := valid.milli
    omega
  have most : monthStart (leap c.year) c.month + c.day ≤ 366 := by
    split_ifs at stop <;> omega
  rw [Civil.toMs, Civil.toDay, yearStart, epoch, maxTime, abs_le]
  constructor <;> omega

lemma dateParse_isoText {c : Civil} (valid : c.Valid) (lo : 0 ≤ c.year) (hi : c.year ≤ 9999) :
    dateParse (isoText c) = some (c.toMs - epoch) := by
  obtain ⟨y1, y2, y3, y4, yearEq, _⟩ := @exists_pad_four c.year.natAbs (by omega)
  obtain ⟨m1, m2, monthEq, _⟩ := @exists_pad_two c.month (by have := valid.month_le; omega)
  obtain ⟨d1, d2, dayEq, _⟩ := @exists_pad_two c.day (by have := day_le valid; omega)
  obtain ⟨h1, h2, hourEq, _⟩ := @exists_pad_two c.hour (by have := valid.hour; omega)
  obtain ⟨i1, i2, minuteEq, _⟩ := @exists_pad_two c.minute (by have := valid.minute; omega)
  obtain ⟨s1, s2, secondEq, _⟩ := @exists_pad_two c.second (by have := valid.second; omega)
  obtain ⟨t1, t2, t3, milliEq, _⟩ := @exists_pad_three c.milli (by have := valid.milli; omega)
  have reading : (⟨number [y1, y2, y3, y4], number [m1, m2], number [d1, d2], number [h1, h2], number [i1, i2],
      number [s1, s2], number [t1, t2, t3]⟩ : Civil) = c := by
    rw [← yearEq, ← monthEq, ← dayEq, ← hourEq, ← minuteEq, ← secondEq, ← milliEq]
    simp only [number_pad, Int.natAbs_of_nonneg lo]
  rw [isoText, if_pos ⟨lo, hi⟩, yearEq, monthEq, dayEq, hourEq, minuteEq, secondEq, milliEq]
  show (if |Civil.toMs _ - epoch| ≤ maxTime then some (Civil.toMs _ - epoch) else none) = _
  rw [reading, if_pos (abs_toMs_le valid lo hi)]

/-- Fields as they stand between the commas. -/
def papaParse (text : JsText) : List (List JsText) × JsText :=
  (Delimited.records (unit ',') (unit '\n') isSpace text, lit ",")

lemma papaParse_plain {width : ℕ} {records : List (List JsText)} (blanks : ℕ) (wide : 2 ≤ width)
    (plain : PlainRecords width records) :
    papaParse (Delimited.text (unit ',') (unit '\n') records ++ List.replicate blanks (unit '\n')) =
      (records, lit ",") := by
  have apart : unit '\n' ≠ unit ',' := by decide
  have comma : isPlain (unit ',') = false := by decide
  have feed : isPlain (unit '\n') = false := by decide
  have absent {c : UInt16} (special : isPlain c = false) (r : List JsText) (mem : r ∈ records) (f : JsText)
      (memF : f ∈ r) : c ∉ f := by
    intro here
    rw [((plain r mem).2 f memF).2 c here] at special
    cases special
  have some_ (r : List JsText) (mem : r ∈ records) : r ≠ [] := by
    rintro rfl
    have := (plain [] mem).1
    simp at this
    omega
  have visible (r : List JsText) (mem : r ∈ records) : Delimited.blank isSpace r = false := by
    obtain ⟨f, memF⟩ := List.exists_mem_of_ne_nil r (some_ r mem)
    obtain ⟨nonempty, units⟩ := (plain r mem).2 f memF
    obtain ⟨u, memU⟩ := List.exists_mem_of_ne_nil f nonempty
    apply List.all_eq_false.2
    exact ⟨u, List.mem_flatten.2 ⟨f, memF, memU⟩, by rw [not_isSpace_of_isPlain (units u memU)]; decide⟩
  rw [papaParse, Delimited.records_text apart some_ (absent comma) (absent feed) visible]

lemma toUpperCase_code {text : JsText} (code : isCurrencyCode text = true) : toUpperCase text = text := by
  have upper : ∀ u ∈ text, (if unit 'a' ≤ u && u ≤ unit 'z' then u - 32 else u) = u := by
    intro u mem
    simp only [isCurrencyCode, Bool.and_eq_true, List.all_eq_true, decide_eq_true_eq] at code
    obtain ⟨_, hi⟩ := code.2 u mem
    have hi' : u.toNat ≤ 90 := UInt16.le_iff_toNat_le.1 hi
    have small : ¬(unit 'a' ≤ u) := by
      rw [UInt16.le_iff_toNat_le]
      show ¬(97 ≤ u.toNat)
      omega
    simp [small]
  exact (List.map_congr_left upper).trans (List.map_id' text)

def runtime : CsvRuntime where
  toUpperCase := toUpperCase
  dateParse := dateParse
  dateParse_le _ _ eq := dateParse_le eq
  toLowerCase text := text
  papaParse := papaParse
  toUpperCase_code _ code := toUpperCase_code code
  toLowerCase_name _ _ := rfl
  dateParse_iso _ valid lo hi := dateParse_isoText valid lo hi
  papaParse_plain _ _ blanks wide _ plain := papaParse_plain blanks wide plain

/-- A row at 2024-01-01T00:00:00Z. -/
def row : SourceRow where
  side := .ledger
  line := 2
  txnId := lit "TXN-1"
  amount := -1905
  currency := lit "EUR"
  occurredAt := 1704067200000
  idempotencyKey := lit "ldg-1"

/-- A row at the start of the year 10000. -/
def lateRow : SourceRow := { row with occurredAt := 253402300800000, idempotencyKey := lit "ldg-2" }

def file : JsText :=
  lit ("txn_id,amount,currency,timestamp,entry_ref\nTXN-1,-19.05,EUR,2024-01-01T00:00:00.000Z,ldg-1\n" ++
    "TXN-1,-19.05,EUR,+010000-01-01T00:00:00.000Z,ldg-2\n")

def options : CoerceOptions where
  side := .ledger
  map := guessMapping runtime.toLowerCase (parseCsv runtime file).headers
  fallbackCurrency := lit "INR"

end TwoRows

open TwoRows in
theorem exported_rows_return_sample : toCsv [row, lateRow] .ledger = some file ∧
    (coerceRows runtime.toRuntime (parseCsv runtime file).toParsedCsv options).rows = [row] ∧
    (coerceRows runtime.toRuntime (parseCsv runtime file).toParsedCsv options).rejectedCount = 1 := by
  have csv : toCsv [row, lateRow] .ledger = some file := by decide +kernel
  have exportable : ∀ r ∈ [row, lateRow], r.Exportable .ledger := by
    intro r mem
    have fields : r.side = .ledger ∧ r.txnId = lit "TXN-1" ∧ r.amount = -1905 ∧ r.currency = lit "EUR" ∧
        (r.idempotencyKey = lit "ldg-1" ∨ r.idempotencyKey = lit "ldg-2") := by
      rcases List.mem_cons.1 mem with rfl | mem
      · exact ⟨rfl, rfl, rfl, rfl, .inl rfl⟩
      · rw [List.mem_singleton.1 mem]
        exact ⟨rfl, rfl, rfl, rfl, .inr rfl⟩
    obtain ⟨side, txnId, amount, currency, key⟩ := fields
    refine ⟨side, ?_, ?_, ?_, ?_, ?_⟩
    · rw [txnId]
      exact ⟨by decide, List.all_eq_true.1 (by decide)⟩
    · rw [amount]
      decide
    · rw [amount]
      decide
    · rw [currency]
      decide
    · rcases key with key | key
      · rw [key]
        exact ⟨by decide, List.all_eq_true.1 (by decide)⟩
      · rw [key]
        exact ⟨by decide, List.all_eq_true.1 (by decide)⟩
  have guessed : options.map = guessMapping runtime.toLowerCase (parseCsv runtime file).headers := by rw [options]
  obtain ⟨_, _, back, rejected⟩ := exported_rows_return exportable csv guessed (by rw [options])
  refine ⟨csv, back.trans ?_, rejected.trans ?_⟩
  · decide +kernel
  · decide +kernel

end LedgerLoop.Frontend
