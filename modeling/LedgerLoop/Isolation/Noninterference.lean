import LedgerLoop.Isolation.Ingestion
import LedgerLoop.Isolation.Matching
import LedgerLoop.Isolation.Reading

/-!
# Noninterference

A run of several tenants' commands, seen by one of them, is the run of its own commands: it ends with
the same rows and got the same answers, up to a renaming of row ids that keeps their order
(`noninterference`).

The renaming numbers what the tenant draws from each sequence. `Follows` relates the shared database to
the tenant's own one throughout; each of the tenant's commands is matched by one that differs in the ids
it mentions only (`SameCommand`), each command of another tenant is matched by none.
-/

set_option autoImplicit false

namespace LedgerLoop
open LedgerLoop.Library

namespace Isolation
open Persist

/-- What a tenant has stored. -/
structure Holdings where
  rows : IngestSource → List RawRow
  results : List ReconciliationResult
  exceptions : List Exception_

def Holdings.of (A : ℕ) (s : Store) : Holdings where
  rows side := (s.raw side).filter (ownRow A)
  results := s.reconciliationResults.filter (ownResult A)
  exceptions := s.exceptions.filter (ownException A)

def Holdings.rename (ρ : Renaming) (h : Holdings) : Holdings where
  rows side := (h.rows side).map (RawRow.rename ρ side)
  results := h.results.map (ReconciliationResult.rename ρ)
  exceptions := h.exceptions.map (Exception_.rename ρ)

def Reply.rename (ρ : Renaming) : Reply → Reply
  | .ingested side outcomes => .ingested side (outcomes.map (IngestOutcome.rename ρ side))
  | .processed outcome => .processed (outcome.rename ρ)
  | .swept result => .swept (result.rename ρ)
  | .resolved answer => .resolved (answer.rename ρ)
  | .stats out => .stats out
  | .transactions page => .transactions (page.rename (ReconciliationResultOut.rename ρ) ρ.result)
  | .exceptions page => .exceptions (page.rename (ExceptionOut.rename ρ) ρ.exception)

/-- The second command is the first with the ids the tenant knows its rows by when it is alone. -/
inductive SameCommand (ρ : Renaming) (s' : Store) : Command → Command → Prop where
  | ingest {call now} : SameCommand ρ s' (.ingest call now) (.ingest call now)
  | process {message messageId readings} :
    SameCommand ρ s' (.process (message.rename ρ) messageId readings)
      (.process message messageId readings)
  | sweepRow {candidate waitedAt readings} :
    SameCommand ρ s' (.sweepRow (candidate.rename ρ) waitedAt readings)
      (.sweepRow candidate waitedAt readings)
  | resolve {tenantId id id' notes now} :
    SameException ρ s' id id' →
    SameCommand ρ s' (.resolve tenantId id notes now) (.resolve tenantId id' notes now)
  | stats {tenantId window now} :
    SameCommand ρ s' (.stats tenantId window now) (.stats tenantId window now)
  | transactions {tenantId status limit cursor cursor'} :
    SameCursor ρ.result cursor cursor' →
    SameCommand ρ s' (.transactions tenantId status limit cursor)
      (.transactions tenantId status limit cursor')
  | exceptions {tenantId filter limit cursor cursor'} :
    SameCursor ρ.exception cursor cursor' →
    SameCommand ρ s' (.exceptions tenantId filter limit cursor)
      (.exceptions tenantId filter limit cursor')

/-- The same command with the same answer, up to the renaming. -/
def SameEvent (ρ : Renaming) (p p' : Db × Command × Reply) : Prop :=
  SameCommand ρ p'.1.store p.2.1 p'.2.1 ∧ p.2.2 = p'.2.2.rename ρ

/-- The shared database and the tenant's own: its rows, and what it has drawn from each sequence. -/
structure Follows (ρ : Renaming) (A : ℕ) (db db' : Db) : Prop where
  alone : Alone ρ A db.store db'.store
  row : ∀ side, Cut (ρ.row side) (db.nextRow side) (db'.nextRow side)
  result : Cut ρ.result db.nextResult db'.nextResult
  exception : Cut ρ.exception db.nextException db'.nextException

/-- Every value drawn between two states meets `D`. -/
structure Drawing (D : Set ℕ → ℕ → Prop) (ρ : Renaming) (db v : Db) : Prop where
  row : ∀ side x, db.nextRow side ≤ x → x < v.nextRow side → D (Set.range (ρ.row side)) x
  result : ∀ x, db.nextResult ≤ x → x < v.nextResult → D (Set.range ρ.result) x
  exception : ∀ x, db.nextException ≤ x → x < v.nextException → D (Set.range ρ.exception) x

lemma Drawing.mono {D D' : Set ℕ → ℕ → Prop} {ρ : Renaming} {db v : Db} (drawn : Drawing D ρ db v)
    (le : ∀ range x, D range x → D' range x) : Drawing D' ρ db v :=
  ⟨fun side x ge lt => le _ _ (drawn.row side x ge lt),
    fun x ge lt => le _ _ (drawn.result x ge lt), fun x ge lt => le _ _ (drawn.exception x ge lt)⟩

/-- What an event draws is in the range of the renaming iff the event is the tenant's. -/
def Owned (ρ : Renaming) (A : ℕ) (config : MatchConfig) (p : Db × Command × Reply) : Prop :=
  ∀ v, Step config p.1 p.2 v →
    Drawing (fun range x => x ∈ range ↔ isOf A p = true) ρ p.1 v

section Steps
variable {ρ : Renaming} {A : ℕ} {config : MatchConfig} {db db' v : Db} {command : Command}
  {reply : Reply} {readings : Readings} {store store' : Store} {inserts : Bool}

/-- What a matching transaction of the tenant draws. -/
lemma Follows.agree (follows : Follows ρ A db db')
    (drawn : Drawing (fun range x => x ∈ range) ρ db (db.decided true store)) :
    Agree ρ (db.draws readings) (db'.draws readings) where
  resultId := by
    refine (follows.result.apply_eq ρ.result_mono ?_).symm
    exact drawn.result _ le_rfl (by simp [Db.decided])
  now := rfl
  markedAt := rfl

/-- The id of the exception it opens. -/
lemma Follows.opened (follows : Follows ρ A db db')
    (drawn : Drawing (fun range x => x ∈ range) ρ db (db.decided inserts store))
    (grown : db.store.exceptions.length < store.exceptions.length) :
    (db.draws readings).exceptionId = ρ.exception (db'.draws readings).exceptionId := by
  refine (follows.exception.apply_eq ρ.exception_mono ?_).symm
  refine drawn.exception _ le_rfl ?_
  simp only [Db.decided]
  omega

/-- A matching transaction of the tenant commits on both databases. -/
lemma Follows.decided (follows : Follows ρ A db db')
    (drawn : Drawing (fun range x => x ∈ range) ρ db (db.decided inserts store))
    (alike : Alike ρ A db.store db'.store store store') :
    Follows ρ A (db.decided inserts store) (db'.decided inserts store') where
  alone := alike.alone
  row := follows.row
  result := by
    refine follows.result.own ρ.result_mono fun i below => drawn.result _ (by omega) ?_
    simp only [Db.decided]
    omega
  exception := by
    simp only [Db.decided, ← alike.opened]
    refine follows.exception.own ρ.exception_mono fun i below => drawn.exception _ (by omega) ?_
    simp only [Db.decided]
    omega

/-- A matching transaction of another tenant commits. -/
lemma Follows.decided_foreign (follows : Follows ρ A db db')
    (drawn : Drawing (fun range x => x ∉ range) ρ db (db.decided inserts store))
    (alone : Alone ρ A store db'.store) : Follows ρ A (db.decided inserts store) db' where
  alone := alone
  row := follows.row
  result := by
    refine follows.result.skip fun i below => drawn.result _ (by omega) ?_
    simp only [Db.decided]
    omega
  exception := by
    refine follows.exception.skip fun i below => drawn.exception _ (by omega) ?_
    simp only [Db.decided]
    omega

/-- A command of the tenant happens on both databases. -/
lemma Follows.own (follows : Follows ρ A db db') (mine : command.tenant db.store = some A)
    (drawn : Drawing (fun range x => x ∈ range) ρ db v) (st : Step config db (command, reply) v) :
    ∃ command' reply' v', Step config db' (command', reply') v' ∧
      SameCommand ρ db'.store command command' ∧ reply = reply'.rename ρ ∧ Follows ρ A v v' := by
  cases command with
  | ingest call now =>
    obtain ⟨result, ok, eq⟩ := toOption_map_eq_some.1 st
    obtain ⟨rfl, rfl⟩ := Prod.mk.inj eq
    have fresh : ∀ i < call.tuples, db.nextRow call.side + i ∈ Set.range (ρ.row call.side) :=
      fun i below => drawn.row _ _ (by omega) (by simp [Db.ingested, below])
    have ids : ∀ i < call.tuples, (db.ingestDraws call.side now).rowId i =
        ρ.row call.side ((db'.ingestDraws call.side now).rowId i) := fun i below =>
      ((follows.row call.side).apply_add (ρ.row_mono _) fresh below).symm
    have clock : (db.ingestDraws call.side now).now = (db'.ingestDraws call.side now).now := rfl
    obtain ⟨store', outcomes', ok', same, alone⟩ :=
      follows.alone.ingest (Option.some.inj mine) clock ids ok
    refine ⟨.ingest call now, .ingested call.side outcomes', db'.ingested call.side call.tuples store',
      toOption_map_eq_some.2 ⟨_, ok', rfl⟩, .ingest, by rw [same]; rfl, alone, fun side => ?_,
      follows.result, follows.exception⟩
    simp only [Db.ingested]
    by_cases eq : side = call.side
    · subst eq
      simpa using (follows.row _).own (ρ.row_mono _) fresh
    · simpa [eq] using follows.row side
  | process message messageId readings =>
    obtain ⟨result, ok, eq⟩ := toOption_map_eq_some.1 st
    obtain ⟨rfl, rfl⟩ := Prod.mk.inj eq
    obtain ⟨f, loaded, tenant⟩ := Option.map_eq_some_iff.1 mine
    obtain ⟨row, mem, idEq, rfl⟩ := loadFacts_eq_some loaded
    obtain ⟨row', mem', sameRow⟩ := follows.alone.exists_facts mem tenant
    have ids : message.rowId = ρ.row message.source row'.id :=
      idEq.symm.trans (congrArg TxnFacts.rowId sameRow)
    obtain ⟨message', rfl⟩ : ∃ message' : IngestMessage, message = message'.rename ρ :=
      ⟨{ message with rowId := row'.id }, by rw [IngestMessage.rename, ← ids]⟩
    obtain ⟨store', outcome', ok', same, alike⟩ := follows.alone.process
      (fun taken => follows.agree (by simpa only [taken] using drawn)) (follows.opened drawn) ok
    have taken : outcome'.decision.isSome = result.2.decision.isSome := by
      rw [same]
      cases h : outcome'.decision <;> simp [ProcessOutcome.rename, h]
    refine ⟨.process message' messageId readings, .processed outcome',
      db'.decided outcome'.decision.isSome store', toOption_map_eq_some.2 ⟨_, ok', rfl⟩, .process,
      by rw [same]; rfl, ?_⟩
    rw [taken]
    exact follows.decided drawn alike
  | sweepRow candidate waitedAt readings =>
    simp only [Step, exec] at st
    split_ifs at st with scanned
    obtain ⟨result, ok, eq⟩ := toOption_map_eq_some.1 st
    obtain ⟨rfl, rfl⟩ := Prod.mk.inj eq
    obtain ⟨row, mem, rowEq⟩ := scanned
    have tenant : row.tenantId = A := by
      have own := Option.some.inj mine
      rwa [← rowEq] at own
    obtain ⟨row', mem', sameRow⟩ := follows.alone.exists_facts mem tenant
    rw [← rowEq, sameRow] at ok ⊢
    obtain ⟨store', res', ok', same, alike⟩ := follows.alone.sweepRow
      (follows.alone.tenant_of_row mem') (follows.agree drawn) (follows.opened drawn) ok
    refine ⟨.sweepRow (facts row' candidate.side) waitedAt readings, .swept res',
      db'.decided true store', ?_, .sweepRow, by rw [same]; rfl, follows.decided drawn alike⟩
    have stored : Scanned db'.store (facts row' candidate.side) := ⟨row', mem', rfl⟩
    simp only [Step, exec, if_pos stored]
    exact toOption_map_eq_some.2 ⟨_, ok', rfl⟩
  | resolve tenantId id notes now =>
    obtain ⟨result, ok, eq⟩ := toOption_map_eq_some.1 st
    obtain ⟨rfl, rfl⟩ := Prod.mk.inj eq
    obtain rfl : tenantId = A := Option.some.inj mine
    obtain ⟨id', named⟩ := exists_sameException ρ db'.store id
    obtain ⟨store', answer', ok', same, alone⟩ := follows.alone.resolveException named ok
    exact ⟨.resolve tenantId id' notes now, .resolved answer', { db' with store := store' },
      toOption_map_eq_some.2 ⟨_, ok', rfl⟩, .resolve named, by rw [same]; rfl, alone, follows.row,
      follows.result, follows.exception⟩
  | stats tenantId window now =>
    obtain ⟨rfl, rfl⟩ := Prod.mk.inj (Option.some.inj st)
    obtain rfl : tenantId = A := Option.some.inj mine
    refine ⟨.stats tenantId window now, .stats (Queries.getStats db'.store tenantId window now), db',
      rfl, .stats, ?_, follows⟩
    rw [follows.alone.getStats]
    rfl
  | transactions tenantId status limit cursor =>
    obtain ⟨rfl, rfl⟩ := Prod.mk.inj (Option.some.inj st)
    obtain rfl : tenantId = A := Option.some.inj mine
    obtain ⟨cursor', same⟩ := exists_sameCursor ρ.result_mono cursor
    refine ⟨.transactions tenantId status limit cursor',
      .transactions (Queries.listTransactions db'.store tenantId status limit cursor'), db', rfl,
      .transactions same, ?_, follows⟩
    rw [follows.alone.listTransactions same]
    rfl
  | exceptions tenantId filter limit cursor =>
    obtain ⟨rfl, rfl⟩ := Prod.mk.inj (Option.some.inj st)
    obtain rfl : tenantId = A := Option.some.inj mine
    obtain ⟨cursor', same⟩ := exists_sameCursor ρ.exception_mono cursor
    refine ⟨.exceptions tenantId filter limit cursor',
      .exceptions (Queries.listExceptions db'.store tenantId filter limit cursor'), db', rfl,
      .exceptions same, ?_, follows⟩
    rw [follows.alone.listExceptions same]
    rfl

/-- A command of another tenant leaves the tenant's own database where it is. -/
lemma Follows.foreign (follows : Follows ρ A db db') (other : command.tenant db.store ≠ some A)
    (drawn : Drawing (fun range x => x ∉ range) ρ db v) (st : Step config db (command, reply) v) :
    Follows ρ A v db' := by
  cases command with
  | ingest call now =>
    obtain ⟨result, ok, eq⟩ := toOption_map_eq_some.1 st
    obtain ⟨rfl, rfl⟩ := Prod.mk.inj eq
    have fresh : ∀ i < call.tuples, db.nextRow call.side + i ∉ Set.range (ρ.row call.side) :=
      fun i below => drawn.row _ _ (by omega) (by simp [Db.ingested, below])
    refine ⟨follows.alone.ingest_foreign (fun eq => other (congrArg some eq)) fresh ok, fun side => ?_,
      follows.result, follows.exception⟩
    simp only [Db.ingested]
    by_cases eq : side = call.side
    · subst eq
      simpa using (follows.row _).skip fresh
    · simpa [eq] using follows.row side
  | process message messageId readings =>
    obtain ⟨result, ok, eq⟩ := toOption_map_eq_some.1 st
    obtain ⟨rfl, rfl⟩ := Prod.mk.inj eq
    refine follows.decided_foreign drawn (follows.alone.process_foreign ?_ ?_ ok)
    · intro f loaded own
      exact other (Option.map_eq_some_iff.2 ⟨f, loaded, own⟩)
    · intro taken
      exact drawn.result db.nextResult le_rfl (by simp [Db.decided, taken])
  | sweepRow candidate waitedAt readings =>
    simp only [Step, exec] at st
    split_ifs at st with scanned
    obtain ⟨result, ok, eq⟩ := toOption_map_eq_some.1 st
    obtain ⟨rfl, rfl⟩ := Prod.mk.inj eq
    refine follows.decided_foreign drawn (follows.alone.sweepRow_foreign
      (fun eq => other (congrArg some eq)) ?_ scanned ok)
    exact drawn.result db.nextResult le_rfl (by simp [Db.decided])
  | resolve tenantId id notes now =>
    obtain ⟨result, ok, eq⟩ := toOption_map_eq_some.1 st
    obtain ⟨rfl, rfl⟩ := Prod.mk.inj eq
    exact ⟨follows.alone.resolveException_foreign (fun eq => other (congrArg some eq)) ok,
      follows.row, follows.result, follows.exception⟩
  | stats | transactions | exceptions =>
    obtain ⟨rfl, rfl⟩ := Prod.mk.inj (Option.some.inj st)
    exact follows

end Steps

/-- At the end, what the tenant has stored is what it has stored alone. -/
lemma Alone.holdings {ρ : Renaming} {A : ℕ} {s s' : Store} (alone : Alone ρ A s s') :
    Holdings.of A s = (Holdings.of A s').rename ρ := by
  have rows (side : IngestSource) : (s'.raw side).filter (ownRow A) = s'.raw side :=
    List.filter_eq_self.2 fun r mem => ((alone.rows side).mem mem).2
  have results : s'.reconciliationResults.filter (ownResult A) = s'.reconciliationResults :=
    List.filter_eq_self.2 fun r mem => (alone.results.mem mem).2
  have exceptions : s'.exceptions.filter (ownException A) = s'.exceptions :=
    List.filter_eq_self.2 fun e mem => (alone.exceptions.mem mem).2
  simp only [Holdings.of, Holdings.rename, rows, results, exceptions]
  congr 1
  · exact funext alone.rows
  · exact alone.results
  · exact alone.exceptions

/-- Whatever other tenants do in between, a tenant ends with the rows, results and exceptions, and gets
    the answers, of the run of its own commands, up to a renaming of row ids that keeps their order. -/
theorem noninterference {config : MatchConfig} {accounts : List Account}
    {tr : List (Db × Command × Reply)} {u : Db} (A : ℕ)
    (run : Run (Step config) (Db.initial accounts) tr u) :
    ∃ (ρ : Renaming) (tr' : List (Db × Command × Reply)) (u' : Db),
      Run (Step config) (Db.initial accounts) tr' u' ∧
      List.Forall₂ (SameEvent ρ) (tr.filter (isOf A)) tr' ∧
      Holdings.of A u.store = (Holdings.of A u'.store).rename ρ := by
  have number (c : Db → ℕ) (grows : ∀ {t e v}, Step config t e v → c t ≤ c v) :=
    exists_numbering run (fun p => isOf A p = true) grows Step.det
  choose row rows using fun side => number (·.nextRow side) fun st => st.grows.1 side
  obtain ⟨result, results⟩ := number (·.nextResult) fun st => st.grows.2.1
  obtain ⟨exception, exceptions⟩ := number (·.nextException) fun st => st.grows.2.2
  let ρ : Renaming := ⟨row, result, exception, fun side => (rows side).mono, results.mono,
    exceptions.mono⟩
  have owned : ∀ p ∈ tr, Owned ρ A config p := fun p mem v st =>
    ⟨fun side => ((rows side).during _ _ _ mem st).2, (results.during _ _ _ mem st).2,
      (exceptions.during _ _ _ mem st).2⟩
  have init : Follows ρ A (Db.initial accounts) (Db.initial accounts) :=
    ⟨.initial, fun side => (rows side).start, results.start, exceptions.start⟩
  have matched {t : Db} {e : Command × Reply} {v t' : Db} (follows : Follows ρ A t t')
      (owned : Owned ρ A config (t, e)) (own : isOf A (t, e) = true) (st : Step config t e v) :
      ∃ e' v', Step config t' e' v' ∧ SameEvent ρ (t, e) (t', e') ∧ Follows ρ A v v' := by
    have drawn : Drawing (fun range x => x ∈ range) ρ t v :=
      (owned v st).mono fun range x drawn => drawn.2 own
    obtain ⟨command', reply', v', st', sameCommand, sameReply, follows'⟩ :=
      follows.own (by simpa [isOf] using own) drawn st
    exact ⟨(command', reply'), v', st', ⟨sameCommand, sameReply⟩, follows'⟩
  have kept {t : Db} {e : Command × Reply} {v t' : Db} (follows : Follows ρ A t t')
      (owned : Owned ρ A config (t, e)) (other : isOf A (t, e) = false) (st : Step config t e v) :
      Follows ρ A v t' := by
    have drawn : Drawing (fun range x => x ∉ range) ρ t v :=
      (owned v st).mono fun range x drawn own => by simp [drawn.1 own] at other
    exact follows.foreign (by simpa [isOf] using other) drawn st
  obtain ⟨tr', u', run', same, follows⟩ := run.purge init owned matched kept
  exact ⟨ρ, tr', u', run', same, follows.alone.holdings⟩

/-! Two tenants with the same keys, transaction ids, amounts and instants: a payment that is matched, and one that
is given up by the sweeper. Both resolve the exception this opens. -/

namespace TwoTenants

def accounts : List Account :=
  [Ingest.Sample.account, { Ingest.Sample.account with id := 2, name := "globex" }]

def readings : Readings where
  now := .newYear 6
  txNow := .newYear 6
  markedAt _ := .newYear 6

def message (rowId : ℕ) : IngestMessage where
  source := .gateway
  rowId := rowId
  txnId := "txn-1"

def lost : GatewayWebhookIn := { Ingest.Sample.payload with txnId := "txn-lost", txnId_length := by decide }

/-- What a scan reads of the payment nobody books, in the `rowId`th row. -/
def candidate (tenantId rowId : ℕ) : TxnFacts :=
  facts (Ingest.gatewayRow tenantId lost "key-2" "{}" (.newYear 0) (Ingest.Sample.drawsAfter (rowId - 1))) .gateway

def commands : List Command :=
  [.ingest (.gateway 2 Ingest.Sample.payload "key-1" "{}") (.newYear 5),
   .ingest (.gateway 1 Ingest.Sample.payload "key-1" "{}") (.newYear 5),
   .ingest (.ledger 2 [Ingest.Sample.entry]) (.newYear 5),
   .ingest (.ledger 1 [Ingest.Sample.entry]) (.newYear 5),
   .ingest (.gateway 2 lost "key-2" "{}") (.newYear 5),
   .ingest (.gateway 1 lost "key-2" "{}") (.newYear 5),
   .process (message 1) none readings,
   .process (message 2) none readings,
   .sweepRow (candidate 2 3) (.newYear 6) readings,
   .sweepRow (candidate 1 4) (.newYear 6) readings,
   .resolve 1 2 "refunded" (.newYear 7),
   .resolve 2 1 "booked by hand" (.newYear 7),
   .stats 1 .hour (.newYear 7),
   .transactions 1 none 10 (some 3)]

end TwoTenants

/-- Tenant 1 draws second ids throughout, and sees what it would see with first ids. -/
theorem noninterference_two_tenants :
    ∃ tr u, execute .shipped (Db.initial TwoTenants.accounts) TwoTenants.commands = some (tr, u) ∧
      (u.store.reconciliationResults.map fun r => (r.id, r.tenantId, r.gatewayTxnId)) =
        [(1, 2, some 1), (2, 1, some 2), (3, 2, some 3), (4, 1, some 4)] ∧
      (u.store.exceptions.map fun e => (e.id, e.tenantId, e.closedAt, e.resolutionNotes)) =
        [(1, 2, some (.newYear 7), some "booked by hand"), (2, 1, some (.newYear 7), some "refunded")] ∧
      ∃ (ρ : Renaming) (tr' : List (Db × Command × Reply)) (u' : Db),
        Run (Step .shipped) (Db.initial TwoTenants.accounts) tr' u' ∧
        List.Forall₂ (SameEvent ρ) (tr.filter (isOf 1)) tr' ∧
        Holdings.of 1 u.store = (Holdings.of 1 u'.store).rename ρ := by
  have ran : ((execute .shipped (Db.initial TwoTenants.accounts) TwoTenants.commands).map fun result =>
      result.2.store.reconciliationResults.map fun r => (r.id, r.tenantId, r.gatewayTxnId)) =
      some [(1, 2, some 1), (2, 1, some 2), (3, 2, some 3), (4, 1, some 4)] := by decide +kernel
  have closed : ((execute .shipped (Db.initial TwoTenants.accounts) TwoTenants.commands).map fun result =>
      result.2.store.exceptions.map fun e => (e.id, e.tenantId, e.closedAt, e.resolutionNotes)) =
      some [(1, 2, some (.newYear 7), some "booked by hand"), (2, 1, some (.newYear 7), some "refunded")] := by
    decide +kernel
  obtain ⟨result, executed, results⟩ := Option.map_eq_some_iff.1 ran
  rw [executed] at closed
  exact ⟨result.1, result.2, executed, results, Option.some.inj closed, noninterference 1 (run_of_execute executed)⟩

end Isolation
end LedgerLoop
