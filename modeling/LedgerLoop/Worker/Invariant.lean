import LedgerLoop.Worker.Consistency

/-!
# The invariant of the interleaved system

Workers decide on rows they read earlier. What keeps `Consistent` through their inserts is that a row
never changes the facts matching reads and an id is never handed out twice: a worker's facts stay true
of the row for as long as it exists (`Sys.Knows`), and if it no longer exists the foreign key fails.
-/

set_option autoImplicit false

namespace LedgerLoop
open LedgerLoop.Library

namespace System
open Persist

/-- Facts read at some time: the id was handed out, and the row, while it exists, still has them. -/
def Sys.Knows (s : Sys) (f : TxnFacts) : Prop :=
  f.rowId ∈ s.drawn f.side ∧ ∀ row ∈ s.store.raw f.side, row.id = f.rowId → facts row f.side = f

/-- The decisions the program takes about a candidate, with the partner it has read. -/
inductive Decided (config : MatchConfig) (known : TxnFacts → Prop) (candidate : TxnFacts) :
    Decision → Prop where
  | duplicate (n : ℕ) : Decided config known candidate (Core.decideDuplicate candidate n)
  | pair {partner status layer} :
    known partner →
    Core.classifyPair candidate partner config = some (status, layer) →
    Decided config known candidate (Core.pairDecision candidate partner status layer config)
  | unmatched (waited : Timedelta) :
    Decided config known candidate (Core.decideUnmatched candidate waited)

/-- The rest of a sweep's batch is known. -/
def Job.Sound (known : TxnFacts → Prop) : Job → Prop
  | .message .. => True
  | .sweep rest => ∀ f ∈ rest, known f

/-- Everything a worker holds is known, and its decision is one the program takes. -/
def Activity.Sound (config : MatchConfig) (known : TxnFacts → Prop) : Activity → Prop
  | .idle | .returned .. => True
  | .reading job candidate => known candidate ∧ job.Sound known
  | .writing job candidate decision _ =>
    known candidate ∧ Decided config known candidate decision ∧ job.Sound known
  | .sweeping batch => ∀ f ∈ batch, known f

/-- The invariant of the system. -/
structure Sys.Inv (config : MatchConfig) (s : Sys) : Prop where
  consistent : Consistent s.store
  drawn : ∀ side, ∀ row ∈ s.store.raw side, row.id ∈ s.drawn side
  workers : ∀ w, (s.workers w).Sound config s.Knows

section Monotone
variable {config : MatchConfig} {known known' : TxnFacts → Prop} (le : ∀ f, known f → known' f)
include le

lemma Decided.mono {candidate d} (h : Decided config known candidate d) :
    Decided config known' candidate d := by
  cases h with
  | duplicate n => exact .duplicate n
  | pair kn verdict => exact .pair (le _ kn) verdict
  | unmatched waited => exact .unmatched waited

lemma Job.Sound.mono {job : Job} (h : job.Sound known) : job.Sound known' := by
  cases job with
  | message => trivial
  | sweep rest => exact fun f mem => le f (h f mem)

lemma Activity.Sound.mono {a : Activity} (h : a.Sound config known) : a.Sound config known' := by
  cases a with
  | idle | returned => trivial
  | reading job candidate => exact ⟨le _ h.1, h.2.mono le⟩
  | writing job candidate decision sides => exact ⟨le _ h.1, h.2.1.mono le, h.2.2.mono le⟩
  | sweeping batch => exact fun f mem => le f (h f mem)

end Monotone

/-- How the system grows: ids stay handed out, and a row with an id handed out earlier was there
    earlier, with the same facts, and pending if it still is. -/
structure Sys.Extends (s u : Sys) : Prop where
  drawn : ∀ side, ∀ id ∈ s.drawn side, id ∈ u.drawn side
  kept : ∀ side, ∀ row ∈ u.store.raw side, row.id ∈ s.drawn side →
    ∃ r0 ∈ s.store.raw side, facts r0 side = facts row side ∧
      (row.pending = true → r0.pending = true)

lemma Sys.Extends.refl (s : Sys) : s.Extends s where
  drawn _ _ mem := mem
  kept _ row mem _ := ⟨row, mem, rfl, id⟩

/-- A step that leaves the raw tables and the sequences alone. -/
lemma Sys.Extends.of_raw {s u : Sys} (drawn : u.drawn = s.drawn)
    (raw : ∀ side, u.store.raw side = s.store.raw side) : s.Extends u where
  drawn side id mem := by rwa [drawn]
  kept side row mem _ := ⟨row, raw side ▸ mem, rfl, id⟩

/-- Equal facts are facts of one row id. -/
lemma id_of_facts {side : IngestSource} {a b : RawRow} (h : facts a side = facts b side) :
    a.id = b.id := by
  have := congrArg TxnFacts.rowId h
  exact this

lemma Sys.Extends.trans {s t u : Sys} (st : s.Extends t) (tu : t.Extends u) : s.Extends u where
  drawn side id mem := tu.drawn side id (st.drawn side id mem)
  kept side row mem drawn := by
    obtain ⟨r1, mem1, same1, pending1⟩ := tu.kept side row mem (st.drawn side _ drawn)
    obtain ⟨r0, mem0, same0, pending0⟩ := st.kept side r1 mem1 (id_of_facts same1 ▸ drawn)
    exact ⟨r0, mem0, same0.trans same1, pending0 ∘ pending1⟩

/-- Facts stay known. -/
lemma Sys.Knows.mono {s u : Sys} (ext : s.Extends u) {f : TxnFacts} (kn : s.Knows f) :
    u.Knows f := by
  refine ⟨ext.drawn _ _ kn.1, fun row mem idEq => ?_⟩
  obtain ⟨r0, mem0, same, _⟩ := ext.kept f.side row mem (idEq ▸ kn.1)
  rw [← same]
  exact kn.2 r0 mem0 ((id_of_facts same).trans idEq)

/-- The facts of a stored row are known. -/
lemma Sys.Inv.knows {config : MatchConfig} {s : Sys} (inv : s.Inv config) {side row}
    (mem : row ∈ s.store.raw side) : s.Knows (facts row side) := by
  refine ⟨inv.drawn side row mem, fun row' mem' idEq => ?_⟩
  obtain rfl := eq_of_key (inv.consistent.rawIds side) mem' mem idEq
  rfl

/-- No row with this id is pending. -/
def Sys.Taken (s : Sys) (side : IngestSource) (rowId : ℕ) : Prop :=
  ∀ row ∈ s.store.raw side, row.id = rowId → row.pending = false

instance (s : Sys) (side : IngestSource) (rowId : ℕ) : Decidable (s.Taken side rowId) :=
  inferInstanceAs (Decidable (∀ row ∈ _, _))

/-- A row once taken stays taken. -/
lemma Sys.Taken.mono {s u : Sys} {side rowId} (ext : s.Extends u) (drawn : rowId ∈ s.drawn side)
    (taken : s.Taken side rowId) : u.Taken side rowId := by
  rintro row mem rfl
  obtain ⟨r0, mem0, same, pending⟩ := ext.kept side row mem drawn
  by_contra open_
  simp [taken r0 mem0 (id_of_facts same)] at pending
  exact open_ pending

/-- An active result takes its raw rows. -/
lemma Sys.Inv.taken {config : MatchConfig} {s : Sys} (inv : s.Inv config) {r side rowId}
    (mem : r ∈ s.store.reconciliationResults) (active : r.active = true)
    (ref : r.rawId side = some rowId) : s.Taken side rowId := by
  rintro row memRow rfl
  exact (inv.consistent.marked side row memRow).2 ⟨r, mem, active, ref⟩

section Steps
variable {config : MatchConfig} {s u : Sys} {e : Event}

/-- What a committed decision did to the store: nothing, because an index held its row, or its
    writes. -/
lemma persist_ok {store store' : Store} {candidate decision sides messageId now draws res}
    (ok : MatcherWorker.persist store candidate decision sides messageId now draws =
      .ok (store', res)) :
    ∃ r : ReconciliationResult,
      r = resultRow decision candidate.tenantId
        (some (computeLatencyMs decision sides now)) messageId draws ∧
      ((conflicts store r = true ∧ store' = store) ∨
        (conflicts store r = false ∧
          (∀ side id, r.rawId side = some id → ∃ row ∈ store.raw side, row.id = id) ∧
          store' = (settle store decision r draws).1)) := by
  refine ⟨_, rfl, ?_⟩
  rcases applyDecision_ok ok with ⟨held, same, _⟩ | ⟨free, keys, _, settled, _⟩
  · exact .inl ⟨held, same⟩
  · exact .inr ⟨free, (foreignKeyError_eq_none.1 keys).2, settled⟩

/-- A result that a transaction writes is its decision's, and was free. -/
lemma written_of_persist {r : ReconciliationResult} {store store' : Store}
    {candidate decision sides messageId now draws res}
    (ok : MatcherWorker.persist store candidate decision sides messageId now draws =
      .ok (store', res))
    (written : r ∈ store'.reconciliationResults) (new : r ∉ store.reconciliationResults) :
    conflicts store r = false ∧ r.tenantId = candidate.tenantId ∧ r.status = decision.status ∧
      r.matchLayer = decision.layer ∧ ∀ side, r.rawId side = decision.rowId side := by
  obtain ⟨r', eq, ⟨_, rfl⟩ | ⟨free, _, rfl⟩⟩ := persist_ok ok
  · exact absurd written new
  rw [settle_results] at written
  obtain rfl : r = r' := by simpa [new] using written
  refine ⟨free, ?_⟩
  subst eq
  exact ⟨rfl, rfl, rfl, fun side => by cases side <;> rfl⟩

/-- Every step extends the system. -/
lemma Step.extends (st : Step config s e u) : s.Extends u := by
  cases st with
  | openAccount => exact .of_raw rfl fun side => by cases side <;> rfl
  | ingest fresh ok =>
    rename_i call draws store outcomes
    have eff := Ingest.run_effect ok
    refine ⟨fun side id mem => ?_, fun side row mem drawn => ?_⟩
    · by_cases eq : side = call.side
      · subst eq
        simp [Sys.draw, Sys.commit, mem]
      · simpa [Sys.draw, Sys.commit, Function.update_of_ne eq] using mem
    · rcases eff.of_mem mem with ⟨r0, mem0, erased⟩ | ⟨rfl, new, _⟩
      · exact ⟨r0, mem0, RawRow.of_eraseCount (fun r => facts r side) (fun _ => rfl) erased,
          fun pending => (RawRow.pending_of_eraseCount erased).trans pending⟩
      · exact absurd drawn (fresh.2 _ new)
  | load | find | ack | scan | beginRow | abandon => exact .of_raw rfl fun _ => rfl
  | apply writing fresh ok =>
    refine ⟨fun _ _ mem => mem, fun side row mem _ => ?_⟩
    obtain ⟨r, _, ⟨_, rfl⟩ | ⟨_, _, rfl⟩⟩ := persist_ok ok
    · exact ⟨row, mem, rfl, id⟩
    · obtain ⟨r0, mem0, eq, done⟩ := Consistent.of_mem_settle mem
      refine ⟨r0, mem0, by rw [eq]; rfl, fun pending => ?_⟩
      by_contra settled
      have := done.2 (.inl (by simpa using settled))
      simp [pending] at this
  | deleteAccount =>
    rename_i accountId
    refine ⟨fun _ _ mem => mem, fun side row mem _ => ⟨row, ?_, rfl, id⟩⟩
    have mem' : row ∈ (Sweeper.deleteAccount s.store accountId).raw side := mem
    rw [Sweeper.raw_deleteAccount] at mem'
    exact (mem_deleteWhere.1 mem').1
  | closeException ok =>
    simp only [Queries.closeException] at ok
    split_ifs at ok
    obtain ⟨rfl, _⟩ := Prod.mk.inj (Except.ok.inj ok)
    exact .of_raw rfl fun side => by cases side <;> rfl

/-- A row a decision references is the candidate or a known partner of the same tenant. -/
lemma Decided.covers {known : TxnFacts → Prop} {candidate d side id}
    (dec : Decided config known candidate d) (kn : known candidate) (ref : d.rowId side = some id) :
    ∃ f, known f ∧ f.side = side ∧ f.rowId = id ∧ f.tenantId = candidate.tenantId := by
  cases dec with
  | duplicate n =>
    refine ⟨candidate, kn, ?_⟩
    cases side <;> cases h : candidate.side <;>
      simp_all [Core.decideDuplicate, Decision.rowId]
  | unmatched waited =>
    refine ⟨candidate, kn, ?_⟩
    cases side <;> cases h : candidate.side <;>
      simp_all [Core.decideUnmatched, Decision.rowId]
  | @pair partner status layer kn' verdict =>
    have agree := Core.classifyPair_agree verdict
    obtain ⟨own, opposite⟩ := @Core.pairDecision_rowId candidate config partner status layer
    by_cases eq : side = candidate.side
    · subst eq
      exact ⟨candidate, kn, rfl, Option.some.inj (own.symm.trans ref), rfl⟩
    · obtain rfl : side = candidate.side.other := IngestSource.eq_other_of_ne (Ne.symm eq)
      exact ⟨partner, kn', agree.side, Option.some.inj (opposite.symm.trans ref),
        agree.tenantId.symm⟩

/-- Every decision covers its candidate. -/
lemma Decided.own {known : TxnFacts → Prop} {candidate d}
    (dec : Decided config known candidate d) : d.rowId candidate.side = some candidate.rowId := by
  cases dec with
  | duplicate n => cases h : candidate.side <;> simp [Core.decideDuplicate, Decision.rowId, h]
  | unmatched waited => cases h : candidate.side <;> simp [Core.decideUnmatched, Decision.rowId, h]
  | @pair partner status layer _ _ =>
    exact (@Core.pairDecision_rowId candidate config partner status layer).1

/-- The two rows of a decision have one transaction id and one currency. -/
lemma Decided.agree {known : TxnFacts → Prop} {candidate d g l}
    (dec : Decided config known candidate d) (kn : known candidate)
    (refG : d.gatewayRowId = some g) (refL : d.ledgerRowId = some l) :
    ∃ fg fl, known fg ∧ known fl ∧ fg.side = .gateway ∧ fl.side = .ledger ∧ fg.rowId = g ∧
      fl.rowId = l ∧ fg.txnId = fl.txnId ∧ fg.currency = fl.currency := by
  cases dec with
  | duplicate n => cases h : candidate.side <;> simp_all [Core.decideDuplicate]
  | unmatched waited => cases h : candidate.side <;> simp_all [Core.decideUnmatched]
  | @pair partner status layer kn' verdict =>
    have agree := Core.classifyPair_agree verdict
    have idG := Option.some.inj refG
    have idL := Option.some.inj refL
    cases h : candidate.side with
    | gateway =>
      simp only [Core.gatewayAndLedger, h, if_true] at idG idL
      exact ⟨candidate, partner, kn, kn', h, by rw [agree.side, h]; rfl, idG, idL, agree.txnId,
        agree.currency⟩
    | ledger =>
      simp only [Core.gatewayAndLedger, h, reduceCtorEq, if_false] at idG idL
      exact ⟨partner, candidate, kn', kn, by rw [agree.side, h]; rfl, h, idG, idL,
        agree.txnId.symm, agree.currency.symm⟩

/-- Committing a decision keeps the store consistent, however stale the reads it rests on. -/
lemma Sys.Inv.persist {candidate decision sides messageId now draws store res}
    (inv : s.Inv config) (kn : s.Knows candidate)
    (dec : Decided config s.Knows candidate decision)
    (fresh : ∀ r ∈ s.store.reconciliationResults, r.id ≠ draws.resultId)
    (ok : MatcherWorker.persist s.store candidate decision sides messageId now draws =
      .ok (store, res)) : Consistent store := by
  obtain ⟨r, eq, ⟨_, rfl⟩ | ⟨free, exist, rfl⟩⟩ := persist_ok ok
  · exact inv.consistent
  have rawId (side : IngestSource) : r.rawId side = decision.rowId side := by
    subst eq
    cases side <;> rfl
  refine inv.consistent.settle rawId (by rw [eq]; rfl) (by rw [eq]; exact fresh) free ?_ ?_
  · intro side id ref
    obtain ⟨row, mem, idEq⟩ := exist side id ref
    obtain ⟨f, knF, rfl, rfl, tenant⟩ := dec.covers kn (rawId side ▸ ref)
    refine ⟨row, mem, idEq, ?_⟩
    have : row.tenantId = f.tenantId := congrArg TxnFacts.tenantId (knF.2 row mem idEq)
    rw [this, tenant, eq]
    rfl
  · intro g memG l memL refG refL
    have refG' : decision.gatewayRowId = some g.id := (rawId .gateway).symm.trans refG
    have refL' : decision.ledgerRowId = some l.id := (rawId .ledger).symm.trans refL
    obtain ⟨fg, fl, knG, knL, sideG, sideL, idG, idL, txn, currency⟩ := dec.agree kn refG' refL'
    have factsG : facts g .gateway = fg := sideG ▸ knG.2 g (sideG ▸ memG) idG.symm
    have factsL : facts l .ledger = fl := sideL ▸ knL.2 l (sideL ▸ memL) idL.symm
    subst factsG
    subst factsL
    exact ⟨txn, currency⟩

/-- What a worker holds after `load_facts` is known. -/
lemma Sys.Inv.afterLoad (inv : s.Inv config) {message : IngestMessage} {messageId} :
    (afterLoad message messageId
      (loadFacts s.store message.source message.rowId)).Sound config s.Knows := by
  cases eq : loadFacts s.store message.source message.rowId with
  | none => trivial
  | some candidate =>
    obtain ⟨row, mem, _, rfl⟩ := loadFacts_eq_some eq
    simp only [System.afterLoad]
    split_ifs
    · exact ⟨inv.knows mem, .duplicate _, trivial⟩
    · exact ⟨inv.knows mem, trivial⟩

/-- What a worker holds after its counterparty query is known, and its decision is one the program
    takes. -/
lemma Sys.Inv.afterFind (inv : s.Inv config) {job candidate found counterparties now}
    (kn : s.Knows candidate) (jobKn : job.Sound s.Knows)
    (query : findCounterparties s.store candidate config = .ok found)
    (order : counterparties.Perm found) :
    (afterFind job candidate counterparties config now).Sound config s.Knows := by
  have knows_counterparty : ∀ f ∈ counterparties, s.Knows f := by
    intro f mem
    obtain ⟨row, memRow, _, _, _, _, rfl⟩ := (mem_findCounterparties query).1 (order.subset mem)
    exact inv.knows memRow
  have decided {d : Decision} (eq : Core.decide candidate counterparties config = some d) :
      Decided config s.Knows candidate d := by
    obtain ⟨best, mem, status, layer, verdict, rfl, _⟩ := Core.decide_spec eq
    exact .pair (knows_counterparty best mem) verdict
  cases job with
  | message message messageId =>
    simp only [System.afterFind]
    split
    · trivial
    · exact ⟨kn, decided ‹_›, jobKn⟩
  | sweep rest =>
    refine ⟨kn, ?_, jobKn⟩
    simp only [Sweeper.decideRow]
    split
    · exact decided ‹_›
    · exact .unmatched _

/-- Changing what one worker holds keeps the invariant if what it now holds is sound. -/
lemma Sys.Inv.setWorker (inv : s.Inv config) {w : ℕ} {a : Activity}
    (sound : a.Sound config s.Knows) : (s.setWorker w a).Inv config where
  consistent := inv.consistent
  drawn := inv.drawn
  workers w' := by
    change (Function.update s.workers w a w').Sound config s.Knows
    by_cases eq : w' = w
    · subst eq
      simpa using sound
    · simpa [Function.update_of_ne eq] using inv.workers w'

/-- Every step keeps the invariant. -/
theorem Step.inv (inv : s.Inv config) (st : Step config s e u) : u.Inv config := by
  have ext := st.extends
  have workers_mono : ∀ w, (s.workers w).Sound config u.Knows := fun w =>
    (inv.workers w).mono fun f => Sys.Knows.mono ext
  cases st with
  | openAccount =>
    refine ⟨inv.consistent.congr (fun side => by cases side <;> rfl) rfl rfl, ?_, workers_mono⟩
    rintro (_ | _) row mem
    · exact inv.drawn .gateway row mem
    · exact inv.drawn .ledger row mem
  | ingest fresh ok =>
    rename_i call draws store outcomes
    have eff := Ingest.run_effect ok
    refine ⟨?_, ?_, workers_mono⟩
    · exact inv.consistent.ingest eff fresh.1 fun row mem new =>
        fresh.2 _ new (inv.drawn _ row mem)
    · intro side row mem
      rcases eff.of_mem mem with ⟨r0, mem0, erased⟩ | ⟨rfl, new, _⟩
      · exact ext.drawn _ _ (RawRow.id_of_eraseCount erased ▸ inv.drawn side r0 mem0)
      · simp [Sys.draw, new]
  | load idle => exact inv.setWorker inv.afterLoad
  | find reading query order =>
    rename_i w _ _ _ _ _
    have sound := inv.workers w
    rw [reading] at sound
    exact inv.setWorker (inv.afterFind sound.1 sound.2 query order)
  | apply writing fresh ok =>
    rename_i w job candidate decision sides now draws store res
    have sound := inv.workers w
    rw [writing] at sound
    obtain ⟨kn, dec, jobKn⟩ := sound
    have committed : (s.commit store).Inv config := by
      refine ⟨inv.persist kn dec fresh.1 ok, fun side row mem => ?_, workers_mono⟩
      obtain ⟨r0, mem0, same⟩ : ∃ r0 ∈ s.store.raw side, r0.id = row.id := by
        obtain ⟨_, _, ⟨_, rfl⟩ | ⟨_, _, rfl⟩⟩ := persist_ok ok
        · exact ⟨row, mem, rfl⟩
        · obtain ⟨r0, mem0, eq, _⟩ := Consistent.of_mem_settle mem
          exact ⟨r0, mem0, by rw [eq]⟩
      exact same ▸ inv.drawn side r0 mem0
    refine committed.setWorker ?_
    cases job with
    | message => trivial
    | sweep rest => exact fun f mem => Sys.Knows.mono ext (jobKn f mem)
  | ack | abandon => exact inv.setWorker trivial
  | scan idle stale =>
    refine inv.setWorker fun f mem => ?_
    obtain ⟨row, memRow, _, eq⟩ := stale f mem
    exact eq ▸ inv.knows memRow
  | beginRow sweeping =>
    rename_i w _ _
    have sound := inv.workers w
    rw [sweeping] at sound
    exact inv.setWorker ⟨sound _ List.mem_cons_self, fun f mem => sound f (List.mem_cons_of_mem _ mem)⟩
  | deleteAccount =>
    refine ⟨inv.consistent.deleteAccount _, fun side row mem => ?_, workers_mono⟩
    have mem' := mem
    simp only [Sys.commit] at mem'
    rw [Sweeper.raw_deleteAccount] at mem'
    exact inv.drawn side row (mem_deleteWhere.1 mem').1
  | closeException ok =>
    refine ⟨inv.consistent.closeException ok, fun side row mem => ?_, workers_mono⟩
    simp only [Queries.closeException] at ok
    split_ifs at ok
    obtain ⟨rfl, _⟩ := Prod.mk.inj (Except.ok.inj ok)
    cases side
    · exact inv.drawn .gateway row mem
    · exact inv.drawn .ledger row mem

end Steps

/-- The invariant holds where runs start. -/
lemma Sys.Inv.initial (config : MatchConfig) : Sys.initial.Inv config where
  consistent := .empty
  drawn := by rintro (_ | _) row ⟨⟩
  workers _ := trivial

/-- The invariant holds in every reachable state. -/
theorem Sys.Inv.reached {config : MatchConfig} {tr u}
    (run : Run (Step config) Sys.initial tr u) : u.Inv config :=
  run.invariant (.initial config) fun inv st => st.inv inv

/-- The references to a raw row among the results of one kind. -/
def referencesTo (s : Store) (active : Bool) (side : IngestSource) (rowId : ℕ) : ℕ :=
  s.reconciliationResults.countP fun r => r.active == active && r.rawId side == some rowId

/-- What the tables promise their readers. -/
structure StoreInvariant (s : Store) : Prop where
  /-- A raw row has at most one non-duplicate result and at most one duplicate result. -/
  atMostOne : ∀ side, ∀ row ∈ s.raw side,
    referencesTo s true side row.id ≤ 1 ∧ referencesTo s false side row.id ≤ 1
  /-- It has `reconciled_at` set iff it has exactly one non-duplicate result. -/
  reconciled : ∀ side, ∀ row ∈ s.raw side,
    row.reconciledAt.isSome = true ↔ referencesTo s true side row.id = 1
  /-- A result references rows of its own tenant. -/
  tenant : ∀ r ∈ s.reconciliationResults, ∀ side id, r.rawId side = some id →
    ∃ row ∈ s.raw side, row.id = id ∧ row.tenantId = r.tenantId
  /-- The two rows of a result have one tenant, transaction id and currency. -/
  pair : ∀ r ∈ s.reconciliationResults, ∀ g ∈ s.raw .gateway, ∀ l ∈ s.raw .ledger,
    r.gatewayTxnId = some g.id → r.ledgerEntryId = some l.id →
      g.tenantId = l.tenantId ∧ g.txnId = l.txnId ∧ g.currency = l.currency
  /-- A result has one exception if its status is `AMOUNT_DRIFT` or `UNMATCHED_*`, and none otherwise. -/
  exception : ∀ r ∈ s.reconciliationResults,
    s.exceptions.countP (fun e => e.reconciliationResultId == r.id) =
      if r.status = .amountDrift ∨ r.status = .unmatchedGatewayOnly ∨ r.status = .unmatchedLedgerOnly
      then 1 else 0
  /-- An exception has the tenant of its result. -/
  exceptionTenant : ∀ r ∈ s.reconciliationResults, ∀ e ∈ s.exceptions,
    e.reconciliationResultId = r.id → e.tenantId = r.tenantId

section Counting
variable {s : Store} {active : Bool} {side : IngestSource} {rowId : ℕ}

/-- Two results of one kind on one row are the same. -/
lemma same_result (c : Consistent s) :
    ∀ r ∈ s.reconciliationResults, ∀ r' ∈ s.reconciliationResults,
      (r.active == active && r.rawId side == some rowId) = true →
      (r'.active == active && r'.rawId side == some rowId) = true → r = r' := by
  intro r mem r' mem' h h'
  simp only [Bool.and_eq_true, beq_iff_eq] at h h'
  exact c.unique active side r mem r' mem' h.1 h'.1 rowId h.2 h'.2

lemma referencesTo_le_one (c : Consistent s) : referencesTo s active side rowId ≤ 1 :=
  countP_le_one c.resultIds.of_map (same_result c)

lemma referencesTo_eq_one_iff (c : Consistent s) :
    referencesTo s active side rowId = 1 ↔
      ∃ r ∈ s.reconciliationResults, r.active = active ∧ r.rawId side = some rowId := by
  rw [referencesTo, countP_eq_one_iff c.resultIds.of_map (same_result c)]
  simp

end Counting

/-- A consistent store keeps its promises. -/
lemma StoreInvariant.of_consistent {s : Store} (c : Consistent s) : StoreInvariant s where
  atMostOne _ _ _ := ⟨referencesTo_le_one c, referencesTo_le_one c⟩
  reconciled side row mem := by
    have marked := c.marked side row mem
    rw [referencesTo_eq_one_iff c, ← marked]
    cases eq : row.reconciledAt <;> simp [RawRow.pending, eq]
  tenant := c.references
  pair := by
    intro r memR g memG l memL refG refL
    obtain ⟨g', memG', idG, tenantG⟩ := c.references r memR .gateway g.id refG
    obtain ⟨l', memL', idL, tenantL⟩ := c.references r memR .ledger l.id refL
    obtain rfl := eq_of_key (c.rawIds .gateway) memG' memG idG
    obtain rfl := eq_of_key (c.rawIds .ledger) memL' memL idL
    exact ⟨tenantG.trans tenantL.symm, c.pair r memR g' memG l' memL refG refL⟩
  exception := by
    intro r memR
    have unique : ∀ e ∈ s.exceptions, ∀ e' ∈ s.exceptions,
        (e.reconciliationResultId == r.id) = true → (e'.reconciliationResultId == r.id) = true →
          e = e' := by
      intro e mem e' mem' ref ref'
      exact eq_of_key c.exceptionResults mem mem' ((beq_iff_eq.1 ref).trans (beq_iff_eq.1 ref').symm)
    simp only [← ReconStatus.opensException_iff]
    split_ifs with opens
    · rw [countP_eq_one_iff c.exceptionResults.of_map unique]
      simpa using (c.opened r memR).1 opens
    · refine countP_eq_zero_of fun e mem => ?_
      by_contra ref
      exact opens ((c.opened r memR).2 ⟨e, mem, by simpa using ref⟩)
  exceptionTenant := by
    intro r memR e memE ref
    obtain ⟨r', memR', idEq, tenant⟩ := c.exceptionOf e memE
    obtain rfl := eq_of_key c.resultIds memR' memR (idEq.trans ref)
    exact tenant.symm

/-- The store invariant holds in every state any interleaving reaches. -/
theorem store_invariant {config : MatchConfig} {tr u}
    (run : Run (Step config) Sys.initial tr u) : StoreInvariant u.store :=
  .of_consistent (Sys.Inv.reached run).consistent

/-! A gateway row and its ledger row, matched by the gateway's message while a second worker has read
the same pair for the ledger's message, and loses. -/

namespace Sample

/-- The row of a call that draws `n + 1`. -/
def gatewayRow (n : ℕ) (key : String) : RawRow :=
  Ingest.gatewayRow 1 Ingest.Sample.payload key "null" (.newYear 0) (Ingest.Sample.drawsAfter n)

def ledgerRow (n : ℕ) (entry : LedgerEntryIn) : RawRow :=
  Ingest.ledgerRow 1 entry (.newYear 0) 0 (Ingest.Sample.drawsAfter n)

def messageOf (side : IngestSource) (row : RawRow) : IngestMessage :=
  Ingest.message side (Ingest.firstReceipt row)

/-- Identity values `n` and clocks at the arrival of the rows. -/
def drawsAt (n : ℕ) : Draws where
  resultId := n
  exceptionId := n
  now := .newYear 5
  markedAt _ := .newYear 5

def events : List Event :=
  [.openAccount Ingest.Sample.account,
    .ingest (.gateway 1 Ingest.Sample.payload "key-1" "null") Ingest.Sample.draws,
    .ingest (.ledger 1 [Ingest.Sample.entry]) Ingest.Sample.draws,
    .load 0 (messageOf .gateway (gatewayRow 0 "key-1")) none,
    .load 1 (messageOf .ledger (ledgerRow 0 Ingest.Sample.entry)) none,
    .find 0 [facts (ledgerRow 0 Ingest.Sample.entry) .ledger] (.newYear 5),
    .find 1 [facts (gatewayRow 0 "key-1") .gateway] (.newYear 5),
    .apply 0 (.newYear 5) (drawsAt 1),
    .apply 1 (.newYear 5) (drawsAt 2),
    .ack 0, .ack 1]

end Sample

theorem store_invariant_sample :
    ∃ tr u, replay (step .shipped) Sys.initial Sample.events = some (tr, u) ∧
      u.store.reconciliationResults.map (fun r => (r.gatewayTxnId, r.ledgerEntryId)) =
        [(some 1, some 1)] ∧
      StoreInvariant u.store := by
  have runs : ((replay (step .shipped) Sys.initial Sample.events).map fun p =>
      p.2.store.reconciliationResults.map fun r => (r.gatewayTxnId, r.ledgerEntryId)) =
        some [(some 1, some 1)] := by decide +kernel
  obtain ⟨⟨tr, u⟩, eq, results⟩ := Option.map_eq_some_iff.1 runs
  exact ⟨tr, u, eq, results, store_invariant (.of_replay step_iff.1 eq)⟩

end System
end LedgerLoop
