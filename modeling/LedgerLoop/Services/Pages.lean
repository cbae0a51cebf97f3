import LedgerLoop.Library.Keyset
import LedgerLoop.Library.PyInt
import LedgerLoop.Services.Queries
import Mathlib.Logic.Relation

/-!
# Page walks

A client that follows `next_cursor` through `list_transactions` or `list_exceptions` while results and
exceptions are written and exceptions are closed. Both listings are keyset pages (`Library.Keyset`): a
walk returns every row that matches when the page that covers its id is served, none twice, and ends.

A cursor is the text of an id, which `_parse_cursor` reads back.
-/

set_option autoImplicit false

namespace LedgerLoop.Queries
open LedgerLoop.Library

/-- `_parse_cursor`. -/
def parseCursor : Option String → Except PyError (Option ℤ)
  | none => .ok none
  | some cursor => match PyInt.int cursor.toList with
    | some n => .ok (some n)
    | none => .error (.httpException 400 "invalid cursor")

/-- `str(next_cursor)`. -/
def cursorText (id : ℕ) : String := String.ofList (PyInt.str id)

/-- The two listings, each with its `status` filter. -/
inductive Listing where
  | transactions (status : Option ReconStatus)
  | exceptions (status : Option ExceptionFilter)
deriving DecidableEq, Repr

namespace Listing

/-- The ids of the rows that are there, of all tenants. -/
def table (s : Store) : Listing → List ℕ
  | .transactions _ => s.reconciliationResults.map (·.id)
  | .exceptions _ => s.exceptions.map (·.id)

/-- The ids of the tenant's rows that match the filter: results of the status, or exceptions that are open,
    or that are closed. -/
def matching (s : Store) (tenantId : ℕ) : Listing → List ℕ
  | .transactions status =>
    (s.reconciliationResults.filter fun r =>
      r.tenantId = tenantId ∧ ∀ wanted ∈ status, r.status = wanted).map (·.id)
  | .exceptions status =>
    (s.exceptions.filter fun e =>
      e.tenantId = tenantId ∧ ∀ wanted ∈ status, e.closedAt = none ↔ wanted = .open).map (·.id)

/-- A request of one page: the ids of its items and its `next_cursor`. -/
def request (s : Store) (tenantId limit : ℕ) (cursor : Option String) (l : Listing) :
    Except PyError (List ℕ × Option String) := do
  let cursor ← parseCursor cursor
  match l with
  | .transactions status =>
    let page := listTransactions s tenantId status limit cursor
    return (page.items.map (·.id), page.nextCursor.map cursorText)
  | .exceptions status =>
    let page := listExceptions s tenantId status limit cursor
    return (page.items.map (·.id), page.nextCursor.map cursorText)

end Listing

/-- The primary keys of the two tables are unique `bigint`s, and an exception has its result. -/
structure Keyed (s : Store) : Prop where
  resultIds : (s.reconciliationResults.map (·.id)).Nodup
  exceptionIds : (s.exceptions.map (·.id)).Nodup
  bigint (l : Listing) : ∀ i ∈ l.table s, i < 2 ^ 63
  references : ∀ e ∈ s.exceptions, ∃ r ∈ s.reconciliationResults, r.id = e.reconciliationResultId

/-- A result or an exception is written, with an id above all, or an exception is closed. -/
inductive Write : Store → Store → Prop where
  | result {s : Store} {r : ReconciliationResult} :
    (∀ i ∈ s.reconciliationResults.map (·.id), i < r.id) → r.id < 2 ^ 63 →
    Write s { s with reconciliationResults := s.reconciliationResults ++ [r] }
  | exception {s : Store} {e : Exception_} :
    (∀ i ∈ s.exceptions.map (·.id), i < e.id) → e.id < 2 ^ 63 →
    (∃ r ∈ s.reconciliationResults, r.id = e.reconciliationResultId) →
    Write s { s with exceptions := s.exceptions ++ [e] }
  | close {s s' : Store} {tenantId exceptionId notes now closed} :
    closeException s tenantId exceptionId notes now = .ok (s', closed) → Write s s'

/-- What is written between two requests. -/
abbrev Writes : Store → Store → Prop := Relation.ReflTransGen Write

/-- A request of a walk and its answer. -/
structure Request where
  store : Store
  cursor : Option String
  ids : List ℕ
  next : Option String

/-- The id a cursor denotes. -/
def cursorId (cursor : Option String) : Option ℕ :=
  cursor.bind fun text => (PyInt.int text.toList).map Int.toNat

namespace Request

/-- The answer is the listing's. -/
def Answered (l : Listing) (tenantId limit : ℕ) (q : Request) : Prop :=
  l.request q.store tenantId limit q.cursor = .ok (q.ids, q.next)

/-- The ids a request asks for. -/
def Asks (q : Request) (i : ℕ) : Prop := Keyset.Below (cursorId q.cursor) i

/-- The ids between the cursor of a request and the next. -/
def Covers (q : Request) (i : ℕ) : Prop := q.Asks i ∧ ∀ n, cursorId q.next = some n → n ≤ i

/-- The request as a keyset page. -/
def served (l : Listing) (tenantId : ℕ) (q : Request) : Keyset.Served where
  table := l.table q.store
  matching := l.matching q.store tenantId
  cursor := cursorId q.cursor
  ids := q.ids
  next := cursorId q.next

end Request

/-- The requests of a walk from the store `start`, the latest first. -/
inductive PageWalk (l : Listing) (tenantId limit : ℕ) (start : Store) : List Request → Prop where
  | first {q : Request} : q.store = start → q.cursor = none → q.Answered l tenantId limit →
    PageWalk l tenantId limit start [q]
  | next {q r : Request} {qs c} : PageWalk l tenantId limit start (r :: qs) → r.next = some c →
    Writes r.store q.store → q.cursor = some c → q.Answered l tenantId limit →
    PageWalk l tenantId limit start (q :: r :: qs)

section Writes
variable {s s' : Store} {l : Listing} {tenantId : ℕ}

lemma grows_concat {α : Type} {id : α → ℕ} {rows : List α} {row : α}
    (above : ∀ i ∈ rows.map id, i < id row) :
    Keyset.Grows (rows.map id) ((rows ++ [row]).map id) := by
  rw [List.map_append]
  refine ⟨fun i mem => List.mem_append_left _ mem, fun i mem => ?_⟩
  rcases List.mem_append.1 mem with old | new
  · exact .inl old
  · obtain rfl := List.mem_singleton.1 new
    exact .inr above

/-- A closing keeps the ids. -/
lemma ids_close {tenantId exceptionId : ℕ} {now : Datetime} {notes : String} {rows : List Exception_} :
    (updateWhere (isOpen tenantId exceptionId) (close now notes) rows).map (·.id) = rows.map (·.id) :=
  map_updateWhere _ fun _ => rfl

/-- Whatever is written, the tables grow at the top. -/
lemma Write.grows (write : Write s s') : Keyset.Grows (l.table s) (l.table s') := by
  cases write with
  | result above => cases l with
    | transactions => exact grows_concat above
    | exceptions => exact .refl _
  | exception above => cases l with
    | transactions => exact .refl _
    | exceptions => exact grows_concat above
  | close ok =>
    obtain ⟨rfl, _⟩ := closeException_ok ok
    cases l with
    | transactions => exact .refl _
    | exceptions =>
      rw [Listing.table, Listing.table, ids_close]
      exact .refl _

lemma Write.keyed (keyed : Keyed s) (write : Write s s') : Keyed s' := by
  cases write with
  | @result r above big =>
    refine ⟨nodup_map_concat keyed.resultIds fun r' mem =>
      (above _ (List.mem_map_of_mem mem)).ne, keyed.exceptionIds, fun l i mem => ?_, fun e mem => ?_⟩
    · cases l with
      | transactions status =>
        rw [Listing.table, List.map_append, List.mem_append] at mem
        rcases mem with old | new
        · exact keyed.bigint (.transactions status) i old
        · obtain rfl := List.mem_singleton.1 new
          exact big
      | exceptions status => exact keyed.bigint (.exceptions status) i mem
    · obtain ⟨r', mem', eq⟩ := keyed.references e mem
      exact ⟨r', List.mem_append_left _ mem', eq⟩
  | @exception e above big refers =>
    refine ⟨keyed.resultIds, nodup_map_concat keyed.exceptionIds fun e' mem =>
      (above _ (List.mem_map_of_mem mem)).ne, fun l i mem => ?_, fun e' mem => ?_⟩
    · cases l with
      | transactions status => exact keyed.bigint (.transactions status) i mem
      | exceptions status =>
        rw [Listing.table, List.map_append, List.mem_append] at mem
        rcases mem with old | new
        · exact keyed.bigint (.exceptions status) i old
        · obtain rfl := List.mem_singleton.1 new
          exact big
    · rcases List.mem_append.1 mem with old | new
      · exact keyed.references e' old
      · obtain rfl := List.mem_singleton.1 new
        exact refers
  | @close _ tenantId exceptionId notes now _ ok =>
    obtain ⟨rfl, _⟩ := closeException_ok ok
    have ids := @ids_close tenantId exceptionId now notes s.exceptions
    refine ⟨keyed.resultIds, ids ▸ keyed.exceptionIds, fun l i mem => ?_, fun e mem => ?_⟩
    · cases l with
      | transactions status => exact keyed.bigint (.transactions status) i mem
      | exceptions status =>
        rw [Listing.table, ids] at mem
        exact keyed.bigint (.exceptions status) i mem
    · rcases mem_updateWhere.1 mem with ⟨e0, mem0, _, rfl⟩ | ⟨mem0, _⟩
      · exact keyed.references e0 mem0
      · exact keyed.references e mem0

lemma Keyed.writes (keyed : Keyed s) (writes : Writes s s') :
    Keyed s' ∧ Keyset.Grows (l.table s) (l.table s') := by
  induction writes with
  | refl => exact ⟨keyed, .refl _⟩
  | tail _ write ih => exact ⟨write.keyed ih.1, ih.2.trans write.grows⟩

/-- Matching rows are rows. -/
lemma Listing.mem_table {i : ℕ} (mem : i ∈ l.matching s tenantId) : i ∈ l.table s := by
  cases l with
  | transactions => exact (List.filter_sublist.map _).subset mem
  | exceptions => exact (List.filter_sublist.map _).subset mem

lemma Keyed.nodup_matching (keyed : Keyed s) : (l.matching s tenantId).Nodup := by
  cases l with
  | transactions => exact (List.filter_sublist.map _).nodup keyed.resultIds
  | exceptions => exact (List.filter_sublist.map _).nodup keyed.exceptionIds

end Writes

section Cursors
variable {n : ℕ}

lemma int_cursorText (big : n < 2 ^ 63) : PyInt.int (cursorText n).toList = some (n : ℤ) := by
  rw [cursorText, String.toList_ofList]
  refine PyInt.int_str ?_
  rw [Int.natAbs_natCast]
  refine big.trans ((by norm_num : 2 ^ 63 < 10 ^ 19).trans_le ?_)
  exact Nat.pow_le_pow_right (by norm_num) (by decide)

/-- The text of an id is read back. -/
lemma parseCursor_cursorText (big : n < 2 ^ 63) : parseCursor (some (cursorText n)) = .ok (some n) := by
  rw [parseCursor, int_cursorText big]

lemma cursorId_cursorText (big : n < 2 ^ 63) : cursorId (some (cursorText n)) = some n := by
  rw [cursorId, Option.bind_some, int_cursorText big]
  rfl

end Cursors

lemma admits_iff {filter : Option ExceptionFilter} {e : Exception_} :
    ExceptionFilter.admits filter e = true ↔ ∀ wanted ∈ filter, e.closedAt = none ↔ wanted = .open := by
  rcases filter with _ | _ | _ <;> cases closed : e.closedAt <;> simp [ExceptionFilter.admits, closed]

/-- The rows of `fetch_results_page` are those that match. -/
lemma matching_transactions {s : Store} {tenantId : ℕ} {status : Option ReconStatus} :
    (Listing.transactions status).matching s tenantId = (s.reconciliationResults.filter fun r =>
      r.tenantId == tenantId && status.all (r.status == ·)).map (·.id) := by
  rw [Listing.matching]
  congr 2
  funext r
  cases status <;> simp [Bool.beq_eq_decide_eq]

/-- The rows of `fetch_exceptions_page` are those that match. -/
lemma matching_exceptions {s : Store} {tenantId : ℕ} {status : Option ExceptionFilter} :
    (Listing.exceptions status).matching s tenantId = (s.exceptions.filter fun e =>
      e.tenantId == tenantId && ExceptionFilter.admits status e).map (·.id) := by
  rw [Listing.matching]
  congr 2
  funext e
  rw [Bool.eq_iff_iff, decide_eq_true_eq, Bool.and_eq_true, admits_iff, beq_iff_eq]

section Pages
variable {s : Store} {l : Listing} {tenantId limit : ℕ} {cursor : Option ℕ} {table : List ℕ}

/-- A page of distinct rows. -/
lemma isPage_keysetPage {α : Type} {id : α → ℕ} {rows : List α} (pos : 1 ≤ limit)
    (nodup : (rows.map id).Nodup) :
    Keyset.Served.IsPage limit
      { table := table, matching := rows.map id, cursor := cursor
        ids := (keysetPage id rows limit (cursor.map Nat.cast)).1.map id
        next := (keysetPage id rows limit (cursor.map Nat.cast)).2 } := by
  obtain ⟨sorted, eq⟩ : ∃ sorted, sorted = (rows.filter fun r =>
      (cursor.map Nat.cast).all fun c : ℤ => (id r : ℤ) < c).mergeSort fun a b => id b ≤ id a := ⟨_, rfl⟩
  have perm : sorted.Perm (rows.filter fun r =>
      (cursor.map Nat.cast).all fun c : ℤ => (id r : ℤ) < c) := eq ▸ List.mergeSort_perm _ _
  have desc : (sorted.map id).Pairwise (· > ·) := by
    have le : (sorted.map id).Pairwise (· ≥ ·) := by
      rw [List.pairwise_map]
      have sorts := @List.pairwise_mergeSort α (fun a b => decide (id b ≤ id a))
        (fun a b c ab bc => by simp only [decide_eq_true_eq] at *; omega)
        (fun a b => by simp only [Bool.or_eq_true, decide_eq_true_eq]; omega)
        (rows.filter fun r => (cursor.map Nat.cast).all fun c : ℤ => (id r : ℤ) < c)
      exact eq ▸ sorts.imp fun h => by simpa using h
    have distinct : (sorted.map id).Nodup :=
      (perm.map id).nodup_iff.2 ((List.filter_sublist.map id).nodup nodup)
    exact (le.and distinct).imp fun h => lt_of_le_of_ne h.1 h.2.symm
  have mem (i : ℕ) : i ∈ sorted.map id ↔ i ∈ rows.map id ∧ Keyset.Below cursor i := by
    rw [(perm.map id).mem_iff]
    cases cursor with
    | none => simp [Keyset.Below]
    | some _ =>
      simp [Keyset.Below]
      grind
  have page := @Keyset.isPage_take limit table (rows.map id) (sorted.map id) cursor pos desc mem
  simp only [keysetPage, ← eq]
  by_cases more : limit < sorted.length
  · have inside : limit - 1 < sorted.length := by omega
    simpa [more, List.map_take, List.take_take, inside, show limit - 1 < limit + 1 by omega] using page
  · have all : sorted.take (limit + 1) = sorted := List.take_of_length_le (by omega)
    have all' : (sorted.map id).take limit = sorted.map id :=
      List.take_of_length_le (by simpa using more)
    simpa [more, all, all'] using page

/-- An exception comes with its result. -/
lemma Keyed.exists_withResult (keyed : Keyed s) {e : Exception_} (mem : e ∈ s.exceptions) :
    ∃ r, withResult s e = some (e, r) := by
  obtain ⟨r, memR, refers⟩ := keyed.references e mem
  obtain ⟨r', found⟩ := Option.isSome_iff_exists.1
    (List.find?_isSome.2 ⟨r, memR, by simpa using refers⟩ : (s.reconciliationResults.find?
      (·.id == e.reconciliationResultId)).isSome)
  exact ⟨r', by rw [withResult, found, Option.map_some]⟩

lemma Keyed.ids_withResult (keyed : Keyed s) {rows : List Exception_} (sub : ∀ e ∈ rows, e ∈ s.exceptions) :
    (rows.filterMap (withResult s)).map (·.1.id) = rows.map (·.id) := by
  induction rows with
  | nil => rfl
  | cons e rows ih =>
    obtain ⟨own, rest⟩ := List.forall_mem_cons.1 sub
    obtain ⟨r, joined⟩ := keyed.exists_withResult own
    rw [List.filterMap_cons_some joined, List.map_cons, List.map_cons, ih rest]

/-- A request is answered with a page, and its `next_cursor` is the text of an id. -/
lemma Listing.exists_page (l : Listing) (tenantId : ℕ) (pos : 1 ≤ limit) (keyed : Keyed s) (cursor : Option ℕ)
    (big : ∀ c, cursor = some c → c < 2 ^ 63) :
    ∃ ids next, l.request s tenantId limit (cursor.map cursorText) = .ok (ids, next.map cursorText) ∧
      Keyset.Served.IsPage limit
        { table := l.table s, matching := l.matching s tenantId, cursor := cursor, ids := ids
          next := next } := by
  have parsed : parseCursor (cursor.map cursorText) = .ok (cursor.map Nat.cast) := by
    cases cursor with
    | none => rfl
    | some c => exact parseCursor_cursorText (big c rfl)
  cases l with
  | transactions status =>
    have page := @isPage_keysetPage limit cursor (s.reconciliationResults.map (·.id)) ReconciliationResult
      (·.id) (s.reconciliationResults.filter fun r =>
        r.tenantId == tenantId && status.all (r.status == ·)) pos
      (matching_transactions ▸ @Keyed.nodup_matching s (.transactions status) tenantId keyed)
    rw [matching_transactions]
    refine ⟨_, _, ?_, page⟩
    simp only [Listing.request, parsed, listTransactions, fetchResultsPage, bind, Except.bind,
      List.map_map]
    rfl
  | exceptions status =>
    have ids := @Keyed.ids_withResult s keyed (s.exceptions.filter fun e =>
      e.tenantId == tenantId && ExceptionFilter.admits status e) fun e mem => List.mem_of_mem_filter mem
    have page := @isPage_keysetPage limit cursor (s.exceptions.map (·.id)) _ (·.1.id)
      ((s.exceptions.filter fun e => e.tenantId == tenantId && ExceptionFilter.admits status e).filterMap
        (withResult s)) pos
      (ids ▸ matching_exceptions ▸ @Keyed.nodup_matching s (.exceptions status) tenantId keyed)
    rw [ids] at page
    rw [matching_exceptions]
    refine ⟨_, _, ?_, page⟩
    simp only [Listing.request, parsed, listExceptions, fetchExceptionsPage, bind, Except.bind,
      List.map_map]
    rfl

end Pages

section Walks
variable {l : Listing} {tenantId limit : ℕ} {start : Store} {q r : Request} {qs : List Request}

/-- An answered request of a cursor that is the text of an id, or none, is a page. -/
lemma Request.Answered.isPage (pos : 1 ≤ limit) (keyed : Keyed q.store)
    (answered : q.Answered l tenantId limit) {c : Option ℕ} (text : q.cursor = c.map cursorText)
    (big : ∀ n, c = some n → n < 2 ^ 63) :
    (q.served l tenantId).IsPage limit ∧
      (q.served l tenantId).cursor = c ∧
      ∃ next, q.next = next.map cursorText ∧ (q.served l tenantId).next = next ∧
        ∀ n, next = some n → n < 2 ^ 63 := by
  obtain ⟨ids, next, eq, page⟩ := l.exists_page tenantId pos keyed c big
  rw [Answered, text, eq] at answered
  obtain ⟨same, sameNext⟩ := Prod.mk.inj (Except.ok.inj answered)
  have bigNext : ∀ n, next = some n → n < 2 ^ 63 := fun n next => by
    have mem := (page.last n next).1
    exact keyed.bigint l n (Listing.mem_table (page.sound n mem).1)
  have read {c : Option ℕ} (big : ∀ n, c = some n → n < 2 ^ 63) : cursorId (c.map cursorText) = c := by
    cases c with
    | none => rfl
    | some n => exact cursorId_cursorText (big n rfl)
  have readCursor : cursorId q.cursor = c := by rw [text, read big]
  have readNext : cursorId q.next = next := by rw [← sameNext, read bigNext]
  refine ⟨?_, readCursor, next, sameNext.symm, readNext, bigNext⟩
  rwa [served, readCursor, readNext, ← same]

/-- A walk is a walk of keyset pages. -/
lemma PageWalk.served (pos : 1 ≤ limit) (keyed : Keyed start)
    (walk : PageWalk l tenantId limit start (q :: qs)) :
    Keyset.Walk limit (l.table start) ((q :: qs).map (·.served l tenantId)) ∧ Keyed q.store ∧
      (∃ next, q.next = next.map cursorText ∧ (q.served l tenantId).next = next ∧
        ∀ n, next = some n → n < 2 ^ 63) ∧
      ∀ r ∈ q :: qs, r.next = none ↔ (r.served l tenantId).next = none := by
  have ends {q : Request} (h : ∃ next, q.next = next.map cursorText ∧
      (q.served l tenantId).next = next ∧ ∀ n, next = some n → n < 2 ^ 63) :
      q.next = none ↔ (q.served l tenantId).next = none := by
    obtain ⟨next, text, served, _⟩ := h
    rw [text, served, Option.map_eq_none_iff]
  generalize eq : q :: qs = all at walk
  induction walk generalizing q qs with
  | @first q' from_ cursor answered =>
    obtain ⟨rfl, rfl⟩ := List.cons.inj eq
    have keyedQ : Keyed q.store := from_ ▸ keyed
    obtain ⟨page, none_, next⟩ := answered.isPage pos keyedQ (c := none) cursor (by simp)
    exact ⟨.first (by rw [← from_]; rfl) none_ page, keyedQ, next, by simpa using ends next⟩
  | @next q' r rs c walk next writes cursor answered ih =>
    obtain ⟨rfl, rfl⟩ := List.cons.inj eq
    obtain ⟨walked, keyedR, ⟨next', text, served, big⟩, all⟩ := ih rfl
    obtain ⟨keyedQ, grows⟩ := @Keyed.writes r.store q.store l keyedR writes
    rw [next] at text
    cases next' with
    | none => cases text
    | some n =>
      obtain rfl := Option.some.inj text
      obtain ⟨page, some_, nextQ⟩ := answered.isPage pos keyedQ (c := some n) cursor big
      exact ⟨.next walked served grows some_ page, keyedQ, nextQ,
        List.forall_mem_cons.2 ⟨ends nextQ, all⟩⟩

/-- A first request is answered. However results and exceptions are written and exceptions are closed between
    the requests, a client that follows `next_cursor` gets ids in descending order, and no more pages than
    the rows of the start can fill and one; it can go on while there is a cursor, and there is one exactly
    when a matching row with a smaller id remains; once there is none, every row that matched at the start
    was covered by a page, which returned it if it still matched there. -/
theorem page_walk (pos : 1 ≤ limit) (keyed : Keyed start) :
    (∃ answer, l.request start tenantId limit none = .ok answer) ∧
    ∀ q qs, PageWalk l tenantId limit start (q :: qs) →
      ((q :: qs).reverse.flatMap (·.ids)).Pairwise (· > ·) ∧
      qs.length * limit ≤ (l.table start).length ∧
      (∀ c, q.next = some c → ∀ s, Writes q.store s →
        ∃ answer, l.request s tenantId limit (some c) = .ok answer) ∧
      (∀ r ∈ q :: qs, r.next = none ↔
        ¬∃ i ∈ l.matching r.store tenantId, r.Asks i ∧ ∀ j ∈ r.ids, i < j) ∧
      (q.next = none → ∀ i ∈ l.matching start tenantId,
        (∃ r ∈ q :: qs, r.Covers i) ∧
          ∀ r ∈ q :: qs, r.Covers i → i ∈ l.matching r.store tenantId → i ∈ r.ids) := by
  refine ⟨?_, fun q qs walk => ?_⟩
  · obtain ⟨ids, next, answer, _⟩ := l.exists_page tenantId pos keyed none (by simp)
    exact ⟨_, answer⟩
  obtain ⟨walked, keyedQ, ⟨next, text, served, big⟩, ends⟩ := walk.served pos keyed
  have pages : ∀ r ∈ q :: qs, (r.served l tenantId).IsPage limit := fun r mem =>
    walked.isPage _ (List.mem_map_of_mem mem)
  have flat : ((q :: qs).map (·.served l tenantId)).reverse.flatMap (·.ids) =
      (q :: qs).reverse.flatMap (·.ids) := by
    rw [← List.map_reverse, List.flatMap_map]
    rfl
  refine ⟨flat ▸ walked.descending, ?_, ?_, fun r mem => ?_, fun none_ i mem => ⟨?_, ?_⟩⟩
  · have there : ∀ p ∈ (q :: qs).map (·.served l tenantId), ∀ i ∈ p.matching, i ∈ p.table := by
      intro p mem i memI
      obtain ⟨r, _, rfl⟩ := List.mem_map.1 mem
      exact Listing.mem_table memI
    simpa using Keyset.Walk.length_le walked there
  · intro c some_ s writes
    obtain ⟨keyedS, _⟩ := @Keyed.writes q.store s l keyedQ writes
    obtain ⟨ids, next', answer, _⟩ := l.exists_page tenantId pos keyedS next big
    rw [← text, some_] at answer
    exact ⟨_, answer⟩
  · rw [ends r mem]
    exact (pages r mem).next_eq_none_iff
  · have passed : ∀ n, (q.served l tenantId).next = some n → n ≤ i := fun n some_ => by
      rw [(ends q List.mem_cons_self).1 none_] at some_
      cases some_
    obtain ⟨p, memP, covers⟩ := Keyset.Walk.exists_covers walked passed
    rw [← List.map_cons] at memP
    obtain ⟨r, memR, rfl⟩ := List.mem_map.1 memP
    exact ⟨r, memR, covers⟩
  · exact fun r memR covers matches_ => (pages r memR).mem_of_covers covers matches_

end Walks

/-! The results of two rows without partners, and their exceptions, are read with a page limit of one. In
between the pages a third result comes in and the first exception shown is closed. -/

namespace Sample

/-- A payment of tenant 7. -/
def payment (id : ℕ) : RawRow where
  id := id
  tenantId := 7
  txnId := "t-" ++ toString id
  amount := ⟨731, by decide⟩
  currency := "USD"
  occurredAt := .newYear 0
  ref := "ref"
  rawPayload := .body "null"
  idempotencyKey := "key-" ++ toString id
  receivedAt := .newYear 0
  reconciledAt := some (.newYear 0)

def result (id : ℕ) : ReconciliationResult where
  id := id
  tenantId := 7
  gatewayTxnId := some id
  ledgerEntryId := none
  status := .unmatchedGatewayOnly
  matchLayer := .unmatchedSweep
  resolvedAt := .newYear 0
  notes := none
  matchLatencyMs := none
  sourceMessageId := none

def exception_ (id : ℕ) : Exception_ where
  id := id
  tenantId := 7
  reconciliationResultId := id
  openedAt := .newYear 0

def start : Store where
  gatewayTransactions := [payment 1, payment 2, payment 3]
  reconciliationResults := [result 2, result 1]
  exceptions := [exception_ 2, exception_ 1]

def later : Store where
  gatewayTransactions := [payment 1, payment 2, payment 3]
  reconciliationResults := [result 2, result 1, result 3]
  exceptions := [close (.newYear 1) "refunded" (exception_ 2), exception_ 1]

lemma keyed : Keyed start where
  resultIds := by decide
  exceptionIds := by decide
  bigint l := by cases l <;> simp [Listing.table, start, result, exception_]
  references := by decide

lemma writes : Writes start later :=
  .tail (.single (@Write.result start (result 3) (by decide) (by decide)))
    (@Write.close _ _ 7 2 "refunded" (.newYear 1) _ rfl)

lemma first_page : (Listing.transactions none).request start 7 1 none = .ok ([2], some (cursorText 2)) := by
  have sorted : [result 2, result 1].mergeSort (fun a b => decide (b.id ≤ a.id)) =
      [result 2, result 1] := List.mergeSort_of_pairwise (by decide)
  have page : fetchResultsPage start 7 none 1 none = ([result 2], some 2) := by
    have below : (start.reconciliationResults.filter fun r => r.tenantId == 7 &&
        (none : Option ReconStatus).all (r.status == ·)).filter
          (fun r => (none : Option ℤ).all fun c => (r.id : ℤ) < c) = [result 2, result 1] := by decide
    rw [fetchResultsPage, keysetPage, below, sorted]
    rfl
  simp only [Listing.request, parseCursor, listTransactions, page, bind, Except.bind]
  rfl

lemma second_page :
    (Listing.transactions none).request later 7 1 (some (cursorText 2)) = .ok ([1], none) := by
  simp [Listing.request, parseCursor_cursorText (n := 2) (by norm_num), listTransactions, fetchResultsPage,
    keysetPage, later, bind, Except.bind, pure, Except.pure, resultOut, result]

lemma first_exceptions :
    (Listing.exceptions (some .open)).request start 7 1 none = .ok ([2], some (cursorText 2)) := by
  have sorted : [(exception_ 2, result 2), (exception_ 1, result 1)].mergeSort
      (fun a b => decide (b.1.id ≤ a.1.id)) = [(exception_ 2, result 2), (exception_ 1, result 1)] :=
    List.mergeSort_of_pairwise (by decide)
  have page : fetchExceptionsPage start 7 (some .open) 1 none = ([(exception_ 2, result 2)], some 2) := by
    have below : ((start.exceptions.filter fun e => e.tenantId == 7 &&
        ExceptionFilter.admits (some .open) e).filterMap (withResult start)).filter
          (fun r => (none : Option ℤ).all fun c => (r.1.id : ℤ) < c) =
        [(exception_ 2, result 2), (exception_ 1, result 1)] := by decide
    rw [fetchExceptionsPage, keysetPage, below, sorted]
    rfl
  simp only [Listing.request, parseCursor, listExceptions, page, bind, Except.bind]
  rfl

lemma second_exceptions :
    (Listing.exceptions (some .open)).request later 7 1 (some (cursorText 2)) = .ok ([1], none) := by
  simp [Listing.request, parseCursor_cursorText (n := 2) (by norm_num), listExceptions, fetchExceptionsPage,
    keysetPage, later, bind, Except.bind, pure, Except.pure, exceptionOut, result, exception_, close,
    ExceptionFilter.admits, withResult]

/-- Two requests of one item each that cover what matches at the start. -/
def Walks (l : Listing) : Prop :=
  ∃ q r : Request, PageWalk l 7 1 start [q, r] ∧ r.ids = [2] ∧ q.ids = [1] ∧ q.next = none ∧
    ∀ i ∈ l.matching start 7, ∃ p ∈ [q, r], p.Covers i

end Sample

theorem page_walk_sample : Sample.Walks (.transactions none) ∧ Sample.Walks (.exceptions (some .open)) := by
  have walks {l : Listing} (first : l.request Sample.start 7 1 none = .ok ([2], some (cursorText 2)))
      (second : l.request Sample.later 7 1 (some (cursorText 2)) = .ok ([1], none)) : Sample.Walks l := by
    let r : Request := ⟨Sample.start, none, [2], some (cursorText 2)⟩
    let q : Request := ⟨Sample.later, some (cursorText 2), [1], none⟩
    have walk : PageWalk l 7 1 Sample.start [q, r] :=
      .next (.first rfl rfl first) rfl Sample.writes rfl second
    obtain ⟨_, _, _, _, complete⟩ := (page_walk (le_refl 1) Sample.keyed).2 q [r] walk
    exact ⟨q, r, walk, rfl, rfl, rfl, fun i mem => (complete rfl i mem).1⟩
  exact ⟨walks Sample.first_page Sample.second_page, walks Sample.first_exceptions Sample.second_exceptions⟩

end LedgerLoop.Queries
