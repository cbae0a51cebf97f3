import LedgerLoop.Frontend.Csv

/-!
# Columns of a file

Port of the rest of `lib/csv.ts` after the tokeniser: `normalise`, `guessMapping` and `validationErrors`.
`toLowerCase` is left to the Unicode tables.

The guess is an assignment of headers to fields (`guessMapping_assigns`): each header goes to at most one field, an
exact spelling goes to its field whatever stands elsewhere, and a field is left unmapped only if every header that
would do for it has gone to another.
-/

set_option autoImplicit false

namespace LedgerLoop.Frontend
open Library JsText

/-- `FieldName`. -/
inductive FieldName where
  | txnId
  | amount
  | currency
  | timestamp
  | idempotencyKey
deriving DecidableEq, Repr

namespace FieldName

/-- `REQUIRED_FIELDS`. -/
def required : List FieldName := [txnId, amount, currency, timestamp, idempotencyKey]

/-- `HARD_REQUIRED`. -/
def hardRequired : List FieldName := [txnId, amount, timestamp]

/-- `SYNONYMS`. -/
def synonyms : FieldName → List JsText
  | txnId =>
    [lit "txn_id", lit "txnid", lit "transaction_id", lit "transactionid", lit "payment_id", lit "reference", lit "ref",
      lit "order_id", lit "id"]
  | amount =>
    [lit "amount", lit "amount_minor", lit "value", lit "gross_amount", lit "net_amount", lit "total", lit "sum"]
  | currency => [lit "currency", lit "currency_code", lit "ccy", lit "iso_currency"]
  | timestamp =>
    [lit "timestamp", lit "occurred_at", lit "created_at", lit "captured_at", lit "settled_at", lit "booked_at",
      lit "transaction_date", lit "value_date", lit "posted_at", lit "datetime", lit "date", lit "time"]
  | idempotencyKey =>
    [lit "idempotency_key", lit "idempotencykey", lit "entry_ref", lit "entry_id", lit "dedupe_key", lit "request_id"]

/-- `labels` of `validationErrors`. -/
def label : FieldName → JsText
  | txnId => lit "transaction ID"
  | amount => lit "amount"
  | currency => lit "currency"
  | timestamp => lit "timestamp"
  | idempotencyKey => lit "idempotency key"

end FieldName

/-- `map[field]`. -/
def ColumnMap.get (map : ColumnMap) : FieldName → Option JsText
  | .txnId => map.txnId
  | .amount => map.amount
  | .currency => map.currency
  | .timestamp => map.timestamp
  | .idempotencyKey => map.idempotencyKey

/-- `map[field] = header`. -/
def ColumnMap.set (map : ColumnMap) (header : JsText) : FieldName → ColumnMap
  | .txnId => { map with txnId := some header }
  | .amount => { map with amount := some header }
  | .currency => { map with currency := some header }
  | .timestamp => { map with timestamp := some header }
  | .idempotencyKey => { map with idempotencyKey := some header }

/-- `EMPTY_MAP`. -/
def emptyMap : ColumnMap := ⟨none, none, none, none, none⟩

/-- `.replace(/[\s-]+/g, '_')`; `inside` tells whether the unit before is replaced. -/
def underscores (inside : Bool) : JsText → JsText
  | [] => []
  | u :: rest =>
    if isSpace u || u == unit '-' then
      if inside then underscores true rest else unit '_' :: underscores true rest
    else u :: underscores false rest

/-- `[a-z0-9_]`. -/
def isNameUnit (u : UInt16) : Bool := (unit 'a' ≤ u && u ≤ unit 'z') || isDigit u || u == unit '_'

/-- `normalise`. -/
def normalise (toLowerCase : JsText → JsText) (header : JsText) : JsText :=
  (underscores false (toLowerCase header)).filter isNameUnit

/-- The variables of `guessMapping`. -/
structure Guess where
  map : ColumnMap := emptyMap
  taken : List JsText := []
deriving DecidableEq, Repr

section Passes
variable (normalised : JsText → JsText) (headers : List JsText)

/-- The synonyms of a field in turn: the first header that hits one and is not taken. -/
def Guess.find (g : Guess) (hits : JsText → JsText → Bool) (field : FieldName) : Option JsText :=
  field.synonyms.findSome? fun synonym =>
    headers.find? fun header => hits (normalised header) synonym && !g.taken.contains header

/-- The field takes the header that is found. -/
def Guess.assign (g : Guess) (field : FieldName) : Option JsText → Guess
  | none => g
  | some header => { map := g.map.set header field, taken := header :: g.taken }

/-- `header === synonym`. -/
def equals (header synonym : JsText) : Bool := header == synonym

/-- `header.includes(synonym)`. -/
def includes (header synonym : JsText) : Bool := decide (synonym <:+: header)

/-- A turn of the first pass. -/
def Guess.exact (g : Guess) (field : FieldName) : Guess :=
  g.assign field (g.find normalised headers equals field)

/-- A turn of the second pass. -/
def Guess.partly (g : Guess) (field : FieldName) : Guess :=
  if g.map.get field ≠ none then g else g.assign field (g.find normalised headers includes field)

/-- `guessMapping`, of headers and what they are normalised to. -/
def guess : Guess :=
  FieldName.required.foldl (Guess.partly normalised headers)
    (FieldName.required.foldl (Guess.exact normalised headers) {})

end Passes

/-- `guessMapping`. -/
def guessMapping (toLowerCase : JsText → JsText) (headers : List JsText) : ColumnMap :=
  (guess (normalise toLowerCase) headers).map

/-- `validationErrors`. -/
def validationErrors (map : ColumnMap) : List JsText :=
  (FieldName.hardRequired.filter fun field => map.get field == none).map fun field =>
    lit "Map the " ++ field.label ++ lit " column to continue"

example : guessMapping id [lit "date", lit "gateway ref", lit "ref", lit "amount in inr"] =
    { txnId := some (lit "ref"), amount := some (lit "amount in inr"), currency := none
      timestamp := some (lit "date"), idempotencyKey := none } := by decide +kernel

/-! ## What is assigned -/

section Assignment
variable {normalised : JsText → JsText} {headers : List JsText} {g : Guess} {hits : JsText → JsText → Bool}
  {field f f' : FieldName} {h : JsText} {done fields : List FieldName} {map : ColumnMap}

/-- The first header with the most specific spelling of a field. -/
def spelled (normalised : JsText → JsText) (headers : List JsText) (field : FieldName) : Option JsText :=
  field.synonyms.findSome? fun synonym => headers.find? fun header => equals (normalised header) synonym

/-- A spelling belongs to one field. -/
lemma FieldName.eq_of_synonym {s : JsText} (mem : s ∈ f.synonyms) (mem' : s ∈ f'.synonyms) : f = f' := by
  have apart : ∀ f f' : FieldName, f ≠ f' → ∀ s ∈ f.synonyms, s ∉ f'.synonyms := by
    intro f f' ne
    cases f <;> cases f' <;> first | exact absurd rfl ne | decide
  by_contra ne
  exact apart f f' ne s mem mem'

lemma FieldName.mem_required (field : FieldName) : field ∈ required := by cases field <;> decide

@[simp] lemma ColumnMap.get_set : (map.set h field).get f = if f = field then some h else map.get f := by
  cases field <;> cases f <;> rfl

/-- What is found is a free header that hits a synonym. -/
lemma Guess.find_eq_some (found : g.find normalised headers hits field = some h) :
    h ∈ headers ∧ (∃ s ∈ field.synonyms, hits (normalised h) s = true) ∧ h ∉ g.taken := by
  obtain ⟨s, memS, found⟩ := List.exists_of_findSome?_eq_some found
  have passes := List.find?_some found
  rw [Bool.and_eq_true, Bool.not_eq_true', List.contains_eq_mem, decide_eq_false_iff_not] at passes
  exact ⟨List.mem_of_find?_eq_some found, ⟨s, memS, passes.1⟩, passes.2⟩

/-- If nothing is found, every header that hits is taken. -/
lemma Guess.find_eq_none (nothing : g.find normalised headers hits field = none) (mem : h ∈ headers) {s : JsText}
    (memS : s ∈ field.synonyms) (hit : hits (normalised h) s = true) : h ∈ g.taken := by
  have failed := List.find?_eq_none.1 (List.findSome?_eq_none_iff.1 nothing s memS) h mem
  by_contra free
  apply failed
  rw [hit, Bool.true_and, Bool.not_eq_true', List.contains_eq_mem]
  exact decide_eq_false free

/-- The search of one synonym when the headers that hit it are free. -/
lemma Guess.find?_free {s : JsText} (free : ∀ h ∈ g.taken, hits (normalised h) s = false) :
    (headers.find? fun header => hits (normalised header) s && !g.taken.contains header) =
      headers.find? fun header => hits (normalised header) s := by
  apply List.find?_congr
  intro header _
  cases hit : hits (normalised header) s with
  | false => rfl
  | true =>
    have open_ : header ∉ g.taken := fun taken => by
      rw [free header taken] at hit
      cases hit
    rw [Bool.true_and, Bool.not_eq_true', List.contains_eq_mem]
    exact decide_eq_false open_

/-- A turn of a field that is not mapped. -/
lemma Guess.get_assign (unset : g.map.get field = none) (found : Option JsText) :
    (g.assign field found).map.get f = if f = field then found else g.map.get f := by
  cases found with
  | none =>
    show g.map.get f = _
    by_cases own : f = field
    · rw [if_pos own, own, unset]
    · rw [if_neg own]
  | some header => exact ColumnMap.get_set

/-- The headers that are taken are those that are mapped. -/
def Guess.Kept (g : Guess) : Prop := ∀ h, h ∈ g.taken ↔ ∃ f, g.map.get f = some h

lemma Guess.Kept.assign (kept : g.Kept) (unset : g.map.get field = none) (found : Option JsText) :
    (g.assign field found).Kept := by
  cases found with
  | none => exact kept
  | some header =>
    intro h
    show h ∈ header :: g.taken ↔ ∃ f, (g.map.set header field).get f = some h
    rw [List.mem_cons, kept]
    constructor
    · rintro (rfl | ⟨f, holds⟩)
      · exact ⟨field, by rw [ColumnMap.get_set, if_pos rfl]⟩
      · have other : f ≠ field := fun same => by
          rw [same, unset] at holds
          cases holds
        exact ⟨f, by rw [ColumnMap.get_set, if_neg other, holds]⟩
    · rintro ⟨f, holds⟩
      rw [ColumnMap.get_set] at holds
      by_cases own : f = field
      · rw [if_pos own] at holds
        exact .inl (Option.some.inj holds).symm
      · rw [if_neg own] at holds
        exact .inr ⟨f, holds⟩

/-- The invariant of the first pass: the fields that have had their turn hold their spellings. -/
structure Exacts (normalised : JsText → JsText) (headers : List JsText) (done : List FieldName) (g : Guess) :
    Prop where
  map : ∀ f, g.map.get f = if f ∈ done then spelled normalised headers f else none
  kept : g.Kept

/-- A spelling that is found is one of the field's. -/
lemma of_spelled (eq : spelled normalised headers f = some h) : h ∈ headers ∧ normalised h ∈ f.synonyms := by
  obtain ⟨s, memS, found⟩ := List.exists_of_findSome?_eq_some eq
  have hit : equals (normalised h) s = true := by simpa using List.find?_some found
  exact ⟨List.mem_of_find?_eq_some found, beq_iff_eq.1 hit ▸ memS⟩

/-- What is found in the first pass does not depend on the other fields: what they have taken is spelled
    differently. -/
lemma Exacts.find_eq (inv : Exacts normalised headers done g) (fresh : field ∉ done) :
    g.find normalised headers equals field = spelled normalised headers field := by
  have free : ∀ s ∈ field.synonyms, ∀ h ∈ g.taken, equals (normalised h) s = false := by
    intro s memS h taken
    obtain ⟨f, eq⟩ := (inv.kept h).1 taken
    rw [inv.map] at eq
    by_cases turn : f ∈ done
    · rw [if_pos turn] at eq
      apply beq_false_of_ne
      intro same
      have own := (of_spelled eq).2
      rw [same] at own
      exact fresh (FieldName.eq_of_synonym own memS ▸ turn)
    · rw [if_neg turn] at eq
      cases eq
  unfold Guess.find spelled
  revert free
  induction field.synonyms with
  | nil => intro; rfl
  | cons s synonyms ih =>
    intro free
    rw [List.findSome?_cons, List.findSome?_cons, Guess.find?_free (free s List.mem_cons_self),
      ih fun s' mem => free s' (List.mem_cons_of_mem _ mem)]

/-- A turn of the first pass. -/
lemma Exacts.step (inv : Exacts normalised headers done g) (fresh : field ∉ done) :
    Exacts normalised headers (field :: done) (g.exact normalised headers field) := by
  have unset : g.map.get field = none := by rw [inv.map, if_neg fresh]
  refine ⟨fun f => ?_, inv.kept.assign unset _⟩
  rw [Guess.exact, Guess.get_assign unset, inv.find_eq fresh, inv.map]
  by_cases own : f = field
  · rw [if_pos own, own, if_pos List.mem_cons_self]
  · simp [own]

/-- The first pass. -/
lemma Exacts.foldl (inv : Exacts normalised headers done g) (nodup : (fields ++ done).Nodup) :
    Exacts normalised headers (fields.reverse ++ done) (fields.foldl (Guess.exact normalised headers) g) := by
  induction fields generalizing done g with
  | nil => exact inv
  | cons field fields ih =>
    obtain ⟨fresh, rest⟩ := List.nodup_cons.1 nodup
    rw [List.foldl_cons, List.reverse_cons, List.append_assoc]
    apply ih (inv.step fun mem => fresh (List.mem_append_right _ mem))
    exact (List.perm_middle.nodup_iff).2 (List.nodup_cons.2 ⟨fresh, rest⟩)

/-- The invariant of the second pass: what the first pass has mapped stays, no header has two fields, and the
    fields that have had their turn lack a header only if there is none left for them. -/
structure Filled (normalised : JsText → JsText) (headers : List JsText) (first : ColumnMap) (done : List FieldName)
    (g : Guess) : Prop where
  kept : g.Kept
  stays : ∀ f h, first.get f = some h → g.map.get f = some h
  hits : ∀ f h, g.map.get f = some h → h ∈ headers ∧ ∃ s ∈ f.synonyms, s <:+: normalised h
  alone : ∀ f f' h, g.map.get f = some h → g.map.get f' = some h → f = f'
  full : ∀ f ∈ done, g.map.get f = none → ∀ h ∈ headers, ∀ s ∈ f.synonyms, s <:+: normalised h → h ∈ g.taken

/-- A turn of the second pass. -/
lemma Filled.step {first : ColumnMap} (inv : Filled normalised headers first done g) :
    Filled normalised headers first (field :: done) (g.partly normalised headers field) := by
  unfold Guess.partly
  by_cases unset : g.map.get field = none
  · rw [if_neg (not_not_intro unset)]
    cases eq : g.find normalised headers includes field with
    | none =>
      refine ⟨inv.kept, inv.stays, inv.hits, inv.alone, ?_⟩
      intro f mem free h memH s memS part
      rcases List.mem_cons.1 mem with rfl | mem
      · exact Guess.find_eq_none eq memH memS (decide_eq_true part)
      · exact inv.full f mem free h memH s memS part
    | some header =>
      obtain ⟨memH, ⟨s, memS, part⟩, free⟩ := Guess.find_eq_some eq
      have own (f : FieldName) : (g.assign field (some header)).map.get f =
          if f = field then some header else g.map.get f := Guess.get_assign unset _
      have other {f : FieldName} (holds : g.map.get f = some header) : False :=
        free ((inv.kept header).2 ⟨f, holds⟩)
      refine ⟨inv.kept.assign unset _, ?_, ?_, ?_, ?_⟩
      · intro f h before
        have now := inv.stays f h before
        rw [own, if_neg fun same => ?_, now]
        rw [same, unset] at now
        cases now
      · intro f h holds
        rw [own] at holds
        by_cases turn : f = field
        · rw [if_pos turn] at holds
          rw [← Option.some.inj holds, turn]
          exact ⟨memH, s, memS, of_decide_eq_true part⟩
        · rw [if_neg turn] at holds
          exact inv.hits f h holds
      · intro f f' h holds holds'
        rw [own] at holds holds'
        by_cases turn : f = field
        · by_cases turn' : f' = field
          · rw [turn, turn']
          · rw [if_pos turn] at holds
            rw [if_neg turn', ← Option.some.inj holds] at holds'
            exact (other holds').elim
        · by_cases turn' : f' = field
          · rw [if_pos turn'] at holds'
            rw [if_neg turn, ← Option.some.inj holds'] at holds
            exact (other holds).elim
          · rw [if_neg turn] at holds
            rw [if_neg turn'] at holds'
            exact inv.alone f f' h holds holds'
      · intro f mem free' h memH' s' memS' part'
        rw [own] at free'
        by_cases turn : f = field
        · rw [if_pos turn] at free'
          cases free'
        · rw [if_neg turn] at free'
          rcases List.mem_cons.1 mem with same | mem
          · exact absurd same turn
          · exact List.mem_cons_of_mem _ (inv.full f mem free' h memH' s' memS' part')
  · rw [if_pos unset]
    refine ⟨inv.kept, inv.stays, inv.hits, inv.alone, ?_⟩
    intro f mem free
    rcases List.mem_cons.1 mem with rfl | mem
    · exact absurd free unset
    · exact inv.full f mem free

/-- The second pass. -/
lemma Filled.foldl {first : ColumnMap} (inv : Filled normalised headers first done g) :
    Filled normalised headers first (fields.reverse ++ done) (fields.foldl (Guess.partly normalised headers) g) := by
  induction fields generalizing done g with
  | nil => exact inv
  | cons field fields ih =>
    rw [List.foldl_cons, List.reverse_cons, List.append_assoc]
    exact ih inv.step

/-- Exact spellings are an assignment. -/
lemma Exacts.filled (inv : Exacts normalised headers done g) : Filled normalised headers g.map [] g := by
  have spells {f : FieldName} {h : JsText} (holds : g.map.get f = some h) :
      spelled normalised headers f = some h := by
    rw [inv.map] at holds
    by_cases turn : f ∈ done
    · rwa [if_pos turn] at holds
    · rw [if_neg turn] at holds
      cases holds
  refine ⟨inv.kept, fun _ _ holds => holds, ?_, ?_, ?_⟩
  · intro f h holds
    obtain ⟨mem, own⟩ := of_spelled (spells holds)
    exact ⟨mem, _, own, List.infix_refl _⟩
  · intro f f' h holds holds'
    exact FieldName.eq_of_synonym (of_spelled (spells holds)).2 (of_spelled (spells holds')).2
  · intro f mem
    cases mem

/-- The two passes, one after the other. -/
lemma filled_guess : ∃ first, (∀ f, first.get f = spelled normalised headers f) ∧
    Filled normalised headers first FieldName.required.reverse (guess normalised headers) := by
  have start : Exacts normalised headers [] {} := by
    refine ⟨fun f => ?_, fun h => ?_⟩
    · cases f <;> rfl
    · constructor
      · intro mem
        cases mem
      · rintro ⟨f, holds⟩
        cases f <;> cases holds
  have distinct : (FieldName.required ++ []).Nodup := by decide
  have exact_ := start.foldl distinct
  refine ⟨(FieldName.required.foldl (Guess.exact normalised headers) {}).map, fun f => ?_, ?_⟩
  · rw [exact_.map, if_pos]
    exact List.mem_append_left _ (List.mem_reverse.2 f.mem_required)
  · have both := @Filled.foldl _ _ _ _ FieldName.required _ exact_.filled
    rw [List.append_nil] at both
    exact both

end Assignment

/-- The guess is an assignment: what is mapped is a header of the file in which a synonym of the field stands, no
    header is mapped twice, a spelling of a field goes to it, and a field is left unmapped only if each header in
    which one of its synonyms stands is mapped to another. -/
theorem guessMapping_assigns (toLowerCase : JsText → JsText) (headers : List JsText) :
    (∀ f h, (guessMapping toLowerCase headers).get f = some h →
      h ∈ headers ∧ ∃ s ∈ f.synonyms, s <:+: normalise toLowerCase h) ∧
    (∀ f f' h, (guessMapping toLowerCase headers).get f = some h →
      (guessMapping toLowerCase headers).get f' = some h → f = f') ∧
    (∀ f h, spelled (normalise toLowerCase) headers f = some h →
      (guessMapping toLowerCase headers).get f = some h) ∧
    ∀ f, (guessMapping toLowerCase headers).get f = none →
      ∀ h ∈ headers, ∀ s ∈ f.synonyms, s <:+: normalise toLowerCase h →
        ∃ f', f' ≠ f ∧ (guessMapping toLowerCase headers).get f' = some h := by
  obtain ⟨first, spellings, filled⟩ := @filled_guess (normalise toLowerCase) headers
  refine ⟨filled.hits, filled.alone, ?_, ?_⟩
  · intro f h eq
    exact filled.stays f h ((spellings f).trans eq)
  · intro f unset h memH s memS part
    have taken := filled.full f (List.mem_reverse.2 f.mem_required) unset h memH s memS part
    obtain ⟨f', holds⟩ := (filled.kept h).1 taken
    refine ⟨f', fun same => ?_, holds⟩
    have both := unset.symm.trans (same ▸ holds)
    cases both

end LedgerLoop.Frontend
