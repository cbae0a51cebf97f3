import LedgerLoop.Frontend.Csv
import LedgerLoop.Frontend.Upload

/-!
# The account of an upload

Port of `ingestRows` in `api/ingest.ts` with its counters and progress reports. A step is what the page
does when a call settles, up to the next `await`: a runner counts, reports, takes the next index and
posts. Calls settle in any order and with any outcome; an acknowledgement of a batch accounts for each of
its entries. The clock readings of the summary are left out.
-/

set_option autoImplicit false

namespace LedgerLoop.Frontend
open Library

/-- A row whose instant is one that a `Date` can hold, as `SourceRow` promises. -/
structure UploadRow extends SourceRow where
  instant : |occurredAt| ≤ maxTime
deriving DecidableEq, Repr

/-- The rows of a file keep the promise. -/
lemma exists_uploadRow {rt : Runtime} {parsed : ParsedCsv} {options : CoerceOptions} {row : SourceRow}
    (mem : row ∈ (coerceRows rt parsed options).rows) : ∃ row' : UploadRow, row'.toSourceRow = row :=
  ⟨⟨row, (coerced_of_mem mem).time⟩, rfl⟩

/-- `IngestProgress`. -/
structure IngestProgress where
  phase : IngestSource
  completed : ℕ
  total : ℕ
  accepted : ℕ
  duplicates : ℕ
  failed : ℕ
deriving DecidableEq, Repr

/-- The rows of one side, its `SideSummary`, and `ledgerDone` or `gatewayDone`. -/
structure SideState where
  rows : List UploadRow
  accepted : ℕ := 0
  duplicates : ℕ := 0
  failed : ℕ := 0
  done : ℕ := 0
deriving DecidableEq, Repr

/-- A runner of the gateway pool. -/
inductive Runner where
  | posting (row : UploadRow)
  | returned
  | threw
deriving DecidableEq, Repr

/-- The variables of `ingestRows`, what it has posted, and what it has reported. -/
structure Ingest where
  ledger : SideState
  gateway : SideState
  concurrency : ℕ
  batches : List (List UploadRow)
  aborted : Bool := false
  sending : Option (List UploadRow) := none
  threw : Bool := false
  pooled : Bool := false
  next : ℕ := 0
  runners : List Runner := []
  errors : List String := []
  ledgerPosts : List (List UploadRow) := []
  gatewayPosts : List UploadRow := []
  reports : List IngestProgress := []
deriving DecidableEq, Repr

/-- `MAX_REPORTED_ERRORS`. -/
def maxReportedErrors : ℕ := 10

/-- How calls settle; `abort` is the caller's signal. -/
inductive Settlement where
  | abort
  | ledgerAck (accepted duplicates : ℕ)
  | ledgerError (message : String)
  | ledgerAborted
  | gatewayAck (i : ℕ) (duplicate : Bool)
  | gatewayError (i : ℕ) (message : String)
  | gatewayAborted (i : ℕ)
deriving DecidableEq, Repr

/-- What a settled call adds to the counters. -/
def SideState.settle (side : SideState) (accepted duplicates failed size : ℕ) : SideState :=
  { side with
    accepted := side.accepted + accepted
    duplicates := side.duplicates + duplicates
    failed := side.failed + failed
    done := side.done + size }

/-- What `report` hands to `onProgress`. -/
def SideState.progress (side : SideState) (phase : IngestSource) : IngestProgress :=
  ⟨phase, side.done, side.rows.length, side.accepted, side.duplicates, side.failed⟩

namespace Ingest

def reportLedger (s : Ingest) : Ingest := { s with reports := s.reports ++ [s.ledger.progress .ledger] }

def reportGateway (s : Ingest) : Ingest :=
  { s with reports := s.reports ++ [s.gateway.progress .gateway] }

/-- `note`. -/
def note (s : Ingest) (message : String) : Ingest :=
  if maxReportedErrors ≤ s.errors.length ∨ message ∈ s.errors then s
  else { s with errors := s.errors ++ [message] }

/-- The head of a runner's loop: the next index, and the row or the end of the runner. -/
def takeRow (s : Ingest) : Ingest × Runner :=
  match s.gateway.rows[s.next]? with
  | none => ({ s with next := s.next + 1 }, .returned)
  | some row =>
    if s.aborted then ({ s with next := s.next + 1 }, .threw)
    else ({ s with next := s.next + 1, gatewayPosts := s.gatewayPosts ++ [row] }, .posting row)

/-- A runner is started. -/
def startRunner (s : Ingest) : Ingest :=
  { s.takeRow.1 with runners := s.runners ++ [s.takeRow.2] }

/-- The start of the pool. -/
def startPool (s : Ingest) : Ingest :=
  Nat.iterate startRunner (min s.concurrency (max s.gateway.rows.length 1))
    { s with pooled := true }.reportGateway

/-- The head of the ledger loop. -/
def nextBatch (s : Ingest) : Ingest :=
  match s.batches with
  | [] => s.startPool
  | batch :: rest =>
    if s.aborted then { s with threw := true }
    else { s with batches := rest, sending := some batch, ledgerPosts := s.ledgerPosts ++ [batch] }

/-- A batch has settled. -/
def settleLedger (s : Ingest) (batch : List UploadRow) (accepted duplicates failed : ℕ) : Ingest :=
  { s with
    sending := none
    ledger := s.ledger.settle accepted duplicates failed batch.length }.reportLedger.nextBatch

/-- A row is counted; every 25th and the last one are reported. -/
def countGateway (s : Ingest) (accepted duplicates failed : ℕ) : Ingest :=
  let s := { s with gateway := s.gateway.settle accepted duplicates failed 1 }
  if s.gateway.done % 25 = 0 ∨ s.gateway.done = s.gateway.rows.length then s.reportGateway else s

/-- A row has settled. -/
def settleGateway (s : Ingest) (i accepted duplicates failed : ℕ) : Ingest :=
  let s := s.countGateway accepted duplicates failed
  { s.takeRow.1 with runners := s.runners.set i s.takeRow.2 }

/-- The row a runner waits for. -/
def posting (s : Ingest) (i : ℕ) : Option UploadRow :=
  match s.runners[i]? with
  | some (.posting row) => some row
  | _ => none

/-- One step of the upload. -/
def step (s : Ingest) : Settlement → Option Ingest
  | .abort => some { s with aborted := true }
  | .ledgerAck accepted duplicates =>
    s.sending.bind fun batch =>
      if accepted + duplicates = batch.length then some (s.settleLedger batch accepted duplicates 0)
      else none
  | .ledgerError message =>
    s.sending.map fun batch => (s.note message).settleLedger batch 0 0 batch.length
  | .ledgerAborted => s.sending.map fun _ => { s with sending := none, threw := true }
  | .gatewayAck i duplicate =>
    (s.posting i).map fun _ => s.settleGateway i (if duplicate then 0 else 1) (if duplicate then 1 else 0) 0
  | .gatewayError i message => (s.posting i).map fun _ => (s.note message).settleGateway i 0 0 1
  | .gatewayAborted i => (s.posting i).map fun _ => { s with runners := s.runners.set i .threw }

/-- `ingestRows` has resolved: every runner has returned. -/
def Resolved (s : Ingest) : Prop := s.pooled = true ∧ ∀ r ∈ s.runners, r = .returned

end Ingest

/-- The start of `ingestRows`, up to the first `await`. -/
def startIngest (gateway ledger : List UploadRow) (concurrency : ℕ) : Ingest :=
  { ledger := { rows := ledger }, gateway := { rows := gateway }, concurrency := concurrency
    batches := chunk ledger ledgerBatchMax : Ingest }.reportLedger.nextBatch

/-- The last report of a phase. -/
def lastReport (phase : IngestSource) (reports : List IngestProgress) : Option IngestProgress :=
  (reports.filter (·.phase = phase)).getLast?

/-- Every row that is done has one outcome. -/
def SideState.Balanced (side : SideState) : Prop :=
  side.accepted + side.duplicates + side.failed = side.done

/-- A report counts each completed row once. -/
def IngestProgress.Balanced (r : IngestProgress) : Prop :=
  r.completed = r.accepted + r.duplicates + r.failed

def Runner.isPosting : Runner → Bool
  | .posting _ => true
  | _ => false

/-- The pool, seen from the runners `rs`: while none has thrown, the rows before the next index are
    posted, and each is done or waited for; a runner returns only when no row is left. -/
structure Pool (s : Ingest) (rs : List Runner) : Prop where
  posted : .threw ∉ rs → s.gatewayPosts = s.gateway.rows.take s.next
  counted : .threw ∉ rs → s.gateway.done + rs.countP Runner.isPosting = s.gatewayPosts.length
  exhausted : .returned ∈ rs → s.gateway.rows.length ≤ s.next

/-- The counters and reports between two calls. -/
structure Books (gateway ledger : List UploadRow) (s : Ingest) : Prop where
  ledgerRows : s.ledger.rows = ledger
  gatewayRows : s.gateway.rows = gateway
  ledgerSum : s.ledger.Balanced
  gatewaySum : s.gateway.Balanced
  reported : ∀ r ∈ s.reports, r.Balanced
  batched : s.ledgerPosts ++ s.batches = chunk ledger ledgerBatchMax
  sent : s.threw = false → s.ledger.done + s.sending.elim 0 List.length = s.ledgerPosts.flatten.length
  stopped : s.threw = true → s.sending = none
  ledgerShown : lastReport .ledger s.reports = some (s.ledger.progress .ledger)
  handedOver : s.pooled = true → s.threw = false ∧ s.batches = [] ∧ s.sending = none
  gatewayShown : s.pooled = true → s.gateway.done = gateway.length →
    lastReport .gateway s.reports = some (s.gateway.progress .gateway)

/-- The invariant of an upload. -/
def Accounted (gateway ledger : List UploadRow) (s : Ingest) : Prop :=
  Books gateway ledger s ∧ Pool s s.runners

/-- The pool has a runner. -/
def Manned (s : Ingest) : Prop := 1 ≤ s.concurrency ∧ (s.pooled = true → s.runners ≠ [])

section Account
variable {s t : Ingest} {gateway ledger : List UploadRow} {rs rs' : List Runner} {phase : IngestSource}
  {reports : List IngestProgress} {r : IngestProgress} {side : SideState}
  {batch : List UploadRow} {accepted duplicates failed size i : ℕ} {message : String}

lemma lastReport_snoc :
    lastReport phase (reports ++ [r]) = if r.phase = phase then some r else lastReport phase reports := by
  rw [lastReport, List.filter_append]
  split_ifs with same
  · simp [same]
  · simp [same, lastReport]

lemma SideState.Balanced.settle (balanced : side.Balanced) (all : accepted + duplicates + failed = size) :
    (side.settle accepted duplicates failed size).Balanced := by
  unfold SideState.Balanced SideState.settle at *
  dsimp only
  omega

lemma SideState.Balanced.progress (balanced : side.Balanced) : (side.progress phase).Balanced :=
  balanced.symm

/-- Which runner stands where does not matter. -/
lemma Pool.perm (pool : Pool s rs) (same : rs.Perm rs') : Pool s rs' where
  posted none_ := pool.posted (mt same.mem_iff.1 none_)
  counted none_ := same.countP_eq _ ▸ pool.counted (mt same.mem_iff.1 none_)
  exhausted some_ := pool.exhausted (same.mem_iff.2 some_)

/-- A runner takes the next index. -/
lemma Pool.takeRow (pool : Pool s rs) : Pool s.takeRow.1 (s.takeRow.2 :: rs) := by
  unfold Ingest.takeRow
  cases taken : s.gateway.rows[s.next]? with
  | none =>
    have exhausted : s.gateway.rows.length ≤ s.next := List.getElem?_eq_none_iff.1 taken
    constructor
    · intro none_
      rw [pool.posted (fun mem => none_ (List.mem_cons_of_mem _ mem)),
        List.take_of_length_le exhausted, List.take_of_length_le (Nat.le_succ_of_le exhausted)]
    · intro none_
      simpa [Runner.isPosting] using pool.counted fun mem => none_ (List.mem_cons_of_mem _ mem)
    · exact fun _ => Nat.le_succ_of_le exhausted
  | some row =>
    dsimp only
    split_ifs with aborted
    · constructor
      · exact fun none_ => absurd List.mem_cons_self none_
      · exact fun none_ => absurd List.mem_cons_self none_
      · intro some_
        exact Nat.le_succ_of_le (pool.exhausted (by simpa using some_))
    · constructor
      · intro none_
        rw [pool.posted fun mem => none_ (List.mem_cons_of_mem _ mem), List.take_add_one, taken]
        rfl
      · intro none_
        have before := pool.counted fun mem => none_ (List.mem_cons_of_mem _ mem)
        rw [List.countP_cons_of_pos rfl, List.length_append, List.length_singleton]
        dsimp only
        omega
      · intro some_
        exact Nat.le_succ_of_le (pool.exhausted (by simpa using some_))

/-- Nothing moves but the index and the posts. -/
lemma takeRow_eq (s : Ingest) :
    ∃ posts, s.takeRow.1 = { s with next := s.next + 1, gatewayPosts := posts } := by
  unfold Ingest.takeRow
  split
  · exact ⟨_, rfl⟩
  · split_ifs <;> exact ⟨_, rfl⟩

lemma Books.takeRow (books : Books gateway ledger s) :
    Books gateway ledger { s.takeRow.1 with runners := rs } := by
  obtain ⟨posts, eq⟩ := takeRow_eq s
  rw [eq]
  exact { books with }

lemma Accounted.startRunner (acc : Accounted gateway ledger s) : Accounted gateway ledger s.startRunner := by
  obtain ⟨posted, counted, exhausted⟩ := acc.2.takeRow.perm (List.perm_append_singleton _ _).symm
  exact ⟨acc.1.takeRow, posted, counted, exhausted⟩

/-- The first report of the pool. -/
lemma Books.openPool (books : Books gateway ledger s) (going : s.threw = false) (last : s.batches = [])
    (idle : s.sending = none) : Books gateway ledger ({ s with pooled := true } : Ingest).reportGateway :=
  { books with
    reported := by
      intro r mem
      rcases List.mem_append.1 mem with mem | mem
      · exact books.reported r mem
      · exact List.mem_singleton.1 mem ▸ books.gatewaySum.progress
    ledgerShown := lastReport_snoc.trans books.ledgerShown
    handedOver := fun _ => ⟨going, last, idle⟩
    gatewayShown := fun _ _ => lastReport_snoc }

lemma Accounted.startPool (acc : Accounted gateway ledger s) (going : s.threw = false)
    (last : s.batches = []) (idle : s.sending = none) : Accounted gateway ledger s.startPool := by
  obtain ⟨books, posted, counted, exhausted⟩ := acc
  exact Function.Iterate.rec (Accounted gateway ledger)
    ⟨books.openPool going last idle, posted, counted, exhausted⟩ (fun _ => .startRunner) _

lemma Accounted.nextBatch (acc : Accounted gateway ledger s) (going : s.threw = false)
    (closed : s.pooled = false) (idle : s.sending = none) : Accounted gateway ledger s.nextBatch := by
  unfold Ingest.nextBatch
  split
  · rename_i last
    exact acc.startPool going last idle
  · rename_i batch rest batches
    obtain ⟨books, posted, counted, exhausted⟩ := acc
    split_ifs
    · exact ⟨{ books with
        sent := nofun
        stopped := fun _ => idle
        handedOver := fun opened => absurd (closed.symm.trans opened) nofun }, posted, counted, exhausted⟩
    · refine ⟨{ books with
        batched := ?_
        sent := fun _ => ?_
        stopped := fun threw => absurd (going.symm.trans threw) nofun
        handedOver := fun opened => absurd (closed.symm.trans opened) nofun }, posted, counted, exhausted⟩
      · rw [← books.batched, batches, List.append_assoc, List.singleton_append]
      · have before := books.sent going
        rw [idle] at before
        simpa using before

/-- A batch settles. -/
lemma Accounted.settleLedger (acc : Accounted gateway ledger s) (sending : s.sending = some batch)
    (all : accepted + duplicates + failed = batch.length) :
    Accounted gateway ledger (s.settleLedger batch accepted duplicates failed) := by
  obtain ⟨books, posted, counted, exhausted⟩ := acc
  have going : s.threw = false := by
    by_contra threw
    cases sending.symm.trans (books.stopped (Bool.not_eq_false _ ▸ threw))
  have closed : s.pooled = false := by
    by_contra opened
    cases sending.symm.trans (books.handedOver (Bool.not_eq_false _ ▸ opened)).2.2
  refine Accounted.nextBatch ⟨{ books with
    ledgerSum := books.ledgerSum.settle all
    reported := ?_
    sent := fun _ => ?_
    stopped := fun _ => rfl
    ledgerShown := lastReport_snoc
    handedOver := fun opened => absurd (closed.symm.trans opened) nofun
    gatewayShown := fun opened => absurd (closed.symm.trans opened) nofun }, posted, counted, exhausted⟩
    going closed rfl
  · intro r mem
    rcases List.mem_append.1 mem with mem | mem
    · exact books.reported r mem
    · exact List.mem_singleton.1 mem ▸ (books.ledgerSum.settle all).progress
  · have before := books.sent going
    rw [sending] at before
    exact before

/-- A runner that waits for a row, among the others. -/
lemma posting_perm {row : UploadRow} (waits : s.posting i = some row) :
    i < s.runners.length ∧ s.runners.Perm (.posting row :: s.runners.eraseIdx i) := by
  unfold Ingest.posting at waits
  split at waits
  · rename_i row' here
    obtain rfl := Option.some.inj waits
    obtain ⟨inside, at_⟩ := List.getElem?_eq_some_iff.1 here
    exact ⟨inside, at_ ▸ (List.getElem_cons_eraseIdx_perm inside).symm⟩
  · cases waits

/-- The row of a runner is done. -/
lemma Pool.countGateway {row : UploadRow} (pool : Pool s (.posting row :: rs)) :
    Pool (s.countGateway accepted duplicates failed) rs := by
  have settled : Pool { s with gateway := s.gateway.settle accepted duplicates failed 1 } rs := by
    constructor
    · exact fun none_ => pool.posted (by simpa using none_)
    · intro none_
      have before := pool.counted (by simpa using none_)
      rw [List.countP_cons_of_pos rfl] at before
      rw [← before, SideState.settle]
      dsimp only
      omega
    · exact fun some_ => pool.exhausted (List.mem_cons_of_mem _ some_)
  unfold Ingest.countGateway
  dsimp only
  split_ifs
  · exact ⟨settled.posted, settled.counted, settled.exhausted⟩
  · exact settled

/-- The last row is reported, whatever else is. -/
lemma Books.countGateway (books : Books gateway ledger s) (all : accepted + duplicates + failed = 1) :
    Books gateway ledger (s.countGateway accepted duplicates failed) := by
  have balanced := books.gatewaySum.settle all
  unfold Ingest.countGateway
  dsimp only
  split_ifs with shown
  · exact { books with
      gatewaySum := balanced
      reported := by
        intro r mem
        rcases List.mem_append.1 mem with mem | mem
        · exact books.reported r mem
        · exact List.mem_singleton.1 mem ▸ balanced.progress
      ledgerShown := lastReport_snoc.trans books.ledgerShown
      gatewayShown := fun _ _ => lastReport_snoc }
  · refine { books with
      gatewaySum := balanced
      gatewayShown := fun _ last => absurd (.inr ?_) shown }
    rw [last, ← books.gatewayRows]
    rfl

/-- Nothing moves but the counters and the reports. -/
lemma countGateway_eq (s : Ingest) (accepted duplicates failed : ℕ) :
    ∃ reports, s.countGateway accepted duplicates failed =
      { s with gateway := s.gateway.settle accepted duplicates failed 1, reports := reports } := by
  unfold Ingest.countGateway
  dsimp only
  split_ifs <;> exact ⟨_, rfl⟩

@[simp] lemma runners_countGateway : (s.countGateway accepted duplicates failed).runners = s.runners := by
  obtain ⟨reports, eq⟩ := countGateway_eq s accepted duplicates failed
  rw [eq]

/-- A row settles, and its runner takes the next index. -/
lemma Accounted.settleGateway {row : UploadRow} (acc : Accounted gateway ledger s)
    (waits : s.posting i = some row) (all : accepted + duplicates + failed = 1) :
    Accounted gateway ledger (s.settleGateway i accepted duplicates failed) := by
  obtain ⟨inside, among⟩ := posting_perm waits
  have counted : Pool (s.countGateway accepted duplicates failed) (s.runners.eraseIdx i) :=
    (acc.2.perm among).countGateway
  have next := counted.takeRow.perm (List.set_perm_cons_eraseIdx inside _).symm
  simp only [Ingest.settleGateway, runners_countGateway]
  exact ⟨(acc.1.countGateway all).takeRow, next.posted, next.counted, next.exhausted⟩

/-- A runner rejects. -/
lemma Accounted.rejected {row : UploadRow} (acc : Accounted gateway ledger s)
    (waits : s.posting i = some row) :
    Accounted gateway ledger { s with runners := s.runners.set i .threw } := by
  obtain ⟨inside, among⟩ := posting_perm waits
  have now : (s.runners.set i .threw).Perm (.threw :: s.runners.eraseIdx i) :=
    List.set_perm_cons_eraseIdx inside _
  have thrown : Runner.threw ∈ s.runners.set i .threw := now.mem_iff.2 List.mem_cons_self
  refine ⟨{ acc.1 with }, fun none_ => absurd thrown none_, fun none_ => absurd thrown none_, fun some_ => ?_⟩
  have other : Runner.returned ∈ s.runners.eraseIdx i := by simpa using now.mem_iff.1 some_
  exact acc.2.exhausted (among.mem_iff.2 (List.mem_cons_of_mem _ other))

lemma Accounted.note (acc : Accounted gateway ledger s) : Accounted gateway ledger (s.note message) := by
  unfold Ingest.note
  split_ifs
  · exact acc
  · exact ⟨{ acc.1 with }, acc.2.posted, acc.2.counted, acc.2.exhausted⟩

@[simp] lemma sending_note : (s.note message).sending = s.sending := by
  unfold Ingest.note
  split_ifs <;> rfl

@[simp] lemma posting_note : (s.note message).posting i = s.posting i := by
  unfold Ingest.note
  split_ifs <;> rfl

/-- However a call settles, the upload accounts for it. -/
lemma Accounted.step {e : Settlement} (acc : Accounted gateway ledger s) (st : s.step e = some t) :
    Accounted gateway ledger t := by
  cases e with
  | abort =>
    obtain rfl := Option.some.inj st
    exact ⟨{ acc.1 with }, acc.2.posted, acc.2.counted, acc.2.exhausted⟩
  | ledgerAck accepted duplicates =>
    obtain ⟨batch, sending, st⟩ := Option.bind_eq_some_iff.1 st
    split_ifs at st with all
    obtain rfl := Option.some.inj st
    exact acc.settleLedger sending all
  | ledgerError message =>
    obtain ⟨batch, sending, rfl⟩ := Option.map_eq_some_iff.1 st
    exact acc.note.settleLedger (sending_note.trans sending) (Nat.zero_add _)
  | ledgerAborted =>
    obtain ⟨batch, sending, rfl⟩ := Option.map_eq_some_iff.1 st
    refine ⟨{ acc.1 with
      sent := nofun
      stopped := fun _ => rfl
      handedOver := fun opened => ?_ }, acc.2.posted, acc.2.counted, acc.2.exhausted⟩
    cases sending.symm.trans (acc.1.handedOver opened).2.2
  | gatewayAck i duplicate =>
    obtain ⟨row, waits, rfl⟩ := Option.map_eq_some_iff.1 st
    exact acc.settleGateway waits (by cases duplicate <;> rfl)
  | gatewayError i message =>
    obtain ⟨row, waits, rfl⟩ := Option.map_eq_some_iff.1 st
    exact acc.note.settleGateway (posting_note.trans waits) rfl
  | gatewayAborted i =>
    obtain ⟨row, waits, rfl⟩ := Option.map_eq_some_iff.1 st
    exact acc.rejected waits

lemma startIngest_accounted {concurrency : ℕ} :
    Accounted gateway ledger (startIngest gateway ledger concurrency) := by
  refine Accounted.nextBatch ⟨?_, ?_⟩ rfl rfl rfl
  · exact {
      ledgerRows := rfl
      gatewayRows := rfl
      ledgerSum := rfl
      gatewaySum := rfl
      reported := fun r mem => List.mem_singleton.1 mem ▸ rfl
      batched := rfl
      sent := fun _ => rfl
      stopped := nofun
      ledgerShown := rfl
      handedOver := nofun
      gatewayShown := nofun }
  · exact ⟨fun _ => rfl, fun _ => rfl, nofun⟩

lemma Manned.startRunner (some_ : 1 ≤ s.concurrency) : Manned s.startRunner := by
  obtain ⟨posts, eq⟩ := takeRow_eq s
  rw [Ingest.startRunner, eq]
  exact ⟨some_, fun _ => List.concat_ne_nil _ _⟩

lemma Manned.nextBatch (manned : Manned s) : Manned s.nextBatch := by
  unfold Ingest.nextBatch
  split
  · obtain ⟨n, count⟩ : ∃ n, min s.concurrency (max s.gateway.rows.length 1) = n + 1 :=
      Nat.exists_eq_add_of_le' (le_min manned.1 (le_max_right _ _))
    rw [Ingest.startPool, count, Function.iterate_succ_apply']
    refine Manned.startRunner ?_
    refine Function.Iterate.rec (fun t : Ingest => 1 ≤ t.concurrency) ?_
      (fun _ kept => (Manned.startRunner kept).1) n
    exact manned.1
  · split_ifs <;> exact manned

lemma Manned.note (manned : Manned s) : Manned (s.note message) := by
  unfold Ingest.note
  split_ifs <;> exact manned

lemma Manned.set {runner : Runner} (manned : Manned s) :
    Manned { s with runners := s.runners.set i runner } := by
  refine ⟨manned.1, fun opened => List.ne_nil_of_length_pos ?_⟩
  rw [List.length_set]
  exact List.length_pos_of_ne_nil (manned.2 opened)

lemma Manned.settleGateway (manned : Manned s) : Manned (s.settleGateway i accepted duplicates failed) := by
  obtain ⟨reports, count⟩ := countGateway_eq s accepted duplicates failed
  obtain ⟨posts, take⟩ := takeRow_eq (s.countGateway accepted duplicates failed)
  rw [Ingest.settleGateway, take, count]
  exact manned.set

lemma Manned.step {e : Settlement} (manned : Manned s) (st : s.step e = some t) : Manned t := by
  cases e with
  | abort =>
    obtain rfl := Option.some.inj st
    exact manned
  | ledgerAck accepted duplicates =>
    obtain ⟨batch, sending, st⟩ := Option.bind_eq_some_iff.1 st
    split_ifs at st with all
    obtain rfl := Option.some.inj st
    exact Manned.nextBatch manned
  | ledgerError message =>
    obtain ⟨batch, sending, rfl⟩ := Option.map_eq_some_iff.1 st
    exact Manned.nextBatch manned.note
  | ledgerAborted =>
    obtain ⟨batch, sending, rfl⟩ := Option.map_eq_some_iff.1 st
    exact manned
  | gatewayAck i duplicate =>
    obtain ⟨row, waits, rfl⟩ := Option.map_eq_some_iff.1 st
    exact manned.settleGateway
  | gatewayError i message =>
    obtain ⟨row, waits, rfl⟩ := Option.map_eq_some_iff.1 st
    exact manned.note.settleGateway
  | gatewayAborted i =>
    obtain ⟨row, waits, rfl⟩ := Option.map_eq_some_iff.1 st
    exact manned.set

end Account

section Runs
variable {gateway ledger : List UploadRow} {concurrency : ℕ} {u : Ingest} {tr : List (Ingest × Settlement)}

/-- A step of the upload. -/
def Settles (s : Ingest) (e : Settlement) (t : Ingest) : Prop := s.step e = some t

lemma accounted (run : Run Settles (startIngest gateway ledger concurrency) tr u) :
    Accounted gateway ledger u :=
  run.invariant startIngest_accounted fun acc st => acc.step st

lemma manned (some_ : 1 ≤ concurrency) (run : Run Settles (startIngest gateway ledger concurrency) tr u) :
    Manned u :=
  run.invariant (Manned.nextBatch ⟨some_, nofun⟩) fun manned st => manned.step st

/-- When every runner has returned, no row is left and none is waited for. -/
lemma Pool.finished {s : Ingest} (pool : Pool s s.runners) (some_ : s.runners ≠ [])
    (returned : ∀ r ∈ s.runners, r = .returned) :
    s.gatewayPosts = s.gateway.rows ∧ s.gateway.done = s.gateway.rows.length := by
  have calm : .threw ∉ s.runners := fun mem => nomatch returned _ mem
  obtain ⟨r, mem⟩ := List.exists_mem_of_ne_nil _ some_
  have posted := pool.posted calm
  rw [List.take_of_length_le (pool.exhausted (returned r mem ▸ mem))] at posted
  have idle : s.runners.countP Runner.isPosting = 0 :=
    List.countP_eq_zero.2 fun r mem => by rw [returned r mem]; exact nofun
  have counted := pool.counted calm
  rw [idle, posted] at counted
  exact ⟨posted, counted⟩

/-- However many runners there are, and in whatever order and however calls settle: an upload that resolves
    has posted each gateway row once and each ledger row in one batch, its counters account for every row,
    each report for the rows completed, and the last report of a phase for all of them. -/
theorem upload_accounted (some_ : 1 ≤ concurrency)
    (run : Run Settles (startIngest gateway ledger concurrency) tr u) (resolved : u.Resolved) :
    u.gatewayPosts = gateway ∧
      u.ledgerPosts.flatten = ledger ∧ (∀ batch ∈ u.ledgerPosts, batch.length ≤ ledgerBatchMax) ∧
      u.gateway.accepted + u.gateway.duplicates + u.gateway.failed = gateway.length ∧
      u.ledger.accepted + u.ledger.duplicates + u.ledger.failed = ledger.length ∧
      (∀ r ∈ u.reports, r.completed = r.accepted + r.duplicates + r.failed) ∧
      (∃ r, lastReport .ledger u.reports = some r ∧ r.completed = ledger.length ∧ r.total = ledger.length) ∧
      ∃ r, lastReport .gateway u.reports = some r ∧ r.completed = gateway.length ∧
        r.total = gateway.length := by
  obtain ⟨books, pool⟩ := accounted run
  obtain ⟨opened, returned⟩ := resolved
  obtain ⟨going, last, idle⟩ := books.handedOver opened
  obtain ⟨posted, gatewayDone⟩ := pool.finished ((manned some_ run).2 opened) returned
  rw [books.gatewayRows] at posted gatewayDone
  have batches : u.ledgerPosts = chunk ledger ledgerBatchMax := by
    rw [← books.batched, last, List.append_nil]
  have sent : u.ledgerPosts.flatten = ledger := by
    rw [batches]
    exact flatten_chunk (by decide)
  have ledgerDone : u.ledger.done = ledger.length := by
    rw [← sent, ← books.sent going, idle]
    rfl
  refine ⟨posted, sent, ?_, books.gatewaySum.trans gatewayDone, books.ledgerSum.trans ledgerDone,
    books.reported, ⟨_, books.ledgerShown, ledgerDone, ?_⟩,
    _, books.gatewayShown opened gatewayDone, gatewayDone, ?_⟩
  · intro batch mem
    exact length_of_mem_chunk (batches ▸ mem)
  · rw [SideState.progress, books.ledgerRows]
  · rw [SideState.progress, books.gatewayRows]

end Runs

/-! Two gateway rows and a ledger row. A runner for each gateway row; the second is answered first. -/

namespace Upload

def row (side : IngestSource) (line : ℕ) : UploadRow where
  side := side
  line := line
  txnId := JsText.lit "T"
  amount := 100
  currency := JsText.lit "EUR"
  occurredAt := 0
  idempotencyKey := JsText.lit "T"
  instant := abs_zero.trans_le (by norm_num [maxTime])

def start : Ingest := startIngest [row .gateway 1, row .gateway 2] [row .ledger 3] 2

def settled : List Settlement :=
  [.ledgerError "503: busy", .gatewayAck 1 true, .gatewayAck 0 false]

end Upload

theorem upload_accounted_sample :
    ∃ tr u, Run Settles Upload.start tr u ∧
      u.gatewayPosts = [Upload.row .gateway 1, Upload.row .gateway 2] ∧
      u.gateway.duplicates = 1 ∧ u.ledger.failed = 1 := by
  have runs : (replay Ingest.step Upload.start Upload.settled).map
      (fun p => (p.2.pooled, p.2.runners, p.2.gateway.duplicates, p.2.ledger.failed)) =
      some (true, [.returned, .returned], 1, 1) := by decide
  obtain ⟨⟨tr, u⟩, eq, facts⟩ := Option.map_eq_some_iff.1 runs
  obtain ⟨opened, facts⟩ := Prod.mk.inj facts
  obtain ⟨returned, facts⟩ := Prod.mk.inj facts
  obtain ⟨duplicates, failed⟩ := Prod.mk.inj facts
  have run : Run Settles Upload.start tr u := .of_replay id eq
  have returned : u.runners = [.returned, .returned] := returned
  have resolved : u.Resolved := ⟨opened, by simp [returned]⟩
  exact ⟨tr, u, run, (upload_accounted (by decide) run resolved).1, duplicates, failed⟩

end LedgerLoop.Frontend
